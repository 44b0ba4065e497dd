import RayScene.Text.DecimalDigit
import RayScene.Text.Quoted

/-!
# Command line arguments

The command takes a scene file and, if an image is wanted, a file for it. Options may stand between
the operands, up to the first `--`. The operands are what stands together first; everything that is
neither an operand nor the option for help is left over.
-/

namespace RayScene.CommandLine

inductive Argument where
  | operand (text : String)
  /-- the first `--` -/
  | separator
  | help
  /-- the option for help with a value, which it does not take -/
  | helpWith (value : String)
  | unknown (text : String)
deriving DecidableEq

namespace Argument

def isDigits (cs : List Char) : Bool := cs.all fun c => (Text.digitValue? c).isSome

/-- Whether a text is a negative decimal number, maybe with a line feed after it. -/
def isNegativeNumber (cs : List Char) : Bool :=
  match cs with
  | '-' :: rest =>
    let rest := if rest.getLast? = some '\n' then rest.dropLast else rest
    match rest.dropWhile (· ≠ '.') with
    | [] => !rest.isEmpty && isDigits rest
    | _ :: fraction =>
      isDigits (rest.takeWhile (· ≠ '.')) && !fraction.isEmpty && isDigits fraction
  | _ => false

/-- What follows the short option for help: the same option again, a value, which starts with an
equals sign or a dash, or anything else, which does not matter. -/
def ofShort : List Char → Argument
  | 'h' :: '=' :: value => helpWith (String.ofList value)
  | 'h' :: rest => ofShort rest
  | '-' :: rest => helpWith (String.ofList ('-' :: rest))
  | _ => help

/-- The value after an equals sign, if there is one, and what stands before it. -/
def splitValue (cs : List Char) : List Char × Option (List Char) :=
  match cs.dropWhile (· ≠ '=') with
  | [] => (cs, none)
  | _ :: value => (cs.takeWhile (· ≠ '='), some value)

/-- Reads an argument that starts with a dash as the option for help, which may be cut short if it
is written with two dashes. -/
def help? (cs : List Char) : Option Argument :=
  match cs with
  | '-' :: '-' :: _ =>
    let (name, value) := splitValue cs
    if name.isPrefixOf "--help".toList then
      some (match value with
        | none => help
        | some v => helpWith (String.ofList v))
    else none
  | '-' :: 'h' :: rest => some (ofShort ('h' :: rest))
  | _ => none

/-- Reads an argument before the separator. Numbers and texts with spaces are no options. -/
def ofText (s : String) : Argument :=
  match s.toList with
  | ['-', '-'] => separator
  | '-' :: c :: rest =>
    let cs := '-' :: c :: rest
    match help? cs with
    | some a => a
    | none => if isNegativeNumber cs || cs.contains ' ' then operand s else unknown s
  | _ => operand s

/-- Reads all arguments. After the separator all are operands. -/
def ofTexts : List String → List Argument
  | [] => []
  | s :: rest =>
    match ofText s with
    | separator => separator :: rest.map operand
    | a => a :: ofTexts rest

/-- The argument as it was given, as far as it can be left over. -/
def text? : Argument → Option String
  | operand s | unknown s => some s
  | separator => some "--"
  | help | helpWith _ => none

end Argument

inductive UsageError where
  | valueForHelp (value : String)
  | noScene
  | leftOver (texts : List String)
deriving DecidableEq

inductive Command where
  | help
  | convert (scene : String) (output : Option String)
deriving DecidableEq

/-- The operands, and the arguments that are left over. -/
structure Operands where
  scene : String
  output : Option String
  rest : List Argument
deriving DecidableEq

namespace Operands

/-- The second operand. The separator may stand once, before or after it; a second separator stands
for no operand at all. -/
def takeOutput (scene : String) : (separated : Bool) → List Argument → Operands
  | separated, .operand s :: rest =>
    let output := if s = "--" then none else some s
    match rest with
    | .separator :: rest' =>
      if separated then ⟨scene, output, rest⟩ else ⟨scene, output, rest'⟩
    | _ => ⟨scene, output, rest⟩
  | _, rest => ⟨scene, none, rest⟩

/-- The operands where the first one may stand. -/
def take? : List Argument → Option Operands
  | .operand s :: .separator :: rest => some (takeOutput s true rest)
  | .operand s :: rest => some (takeOutput s false rest)
  | .separator :: .operand s :: rest => some (takeOutput s true rest)
  | _ => none

/-- Finds the operands; what stands before them is left over too. -/
def find? : List Argument → Option Operands
  | [] => none
  | a :: rest =>
    match take? (a :: rest) with
    | some found => some found
    | none => (find? rest).map fun found => { found with rest := a :: found.rest }

end Operands

namespace Command

/-- The first option for help, which goes before all else. -/
def help? : List Argument → Option (Except UsageError Command)
  | [] => none
  | .help :: _ => some (.ok help)
  | .helpWith value :: _ => some (.error (.valueForHelp value))
  | _ :: rest => help? rest

def ofArguments (texts : List String) : Except UsageError Command :=
  let arguments := Argument.ofTexts texts
  match help? arguments with
  | some result => result
  | none =>
    match Operands.find? arguments with
    | none => .error .noScene
    | some found =>
      match found.rest.filterMap Argument.text? with
      | [] => .ok (convert found.scene found.output)
      | texts => .error (.leftOver texts)

end Command

def usage : String := "usage: minrt-convert [-h] scene [output]\n"

def helpText : String :=
  usage ++ "\nCompile a scene JSON file for min-rt\n\npositional arguments:\n" ++
  "  scene       Scene JSON file\n  output      Render the scene to this PNG file\n\n" ++
  "options:\n  -h, --help  show this help message and exit\n"

def UsageError.message : UsageError → String
  | valueForHelp value =>
    "argument -h/--help: ignored explicit argument " ++ Text.quoted value
  | noScene => "the following arguments are required: scene"
  | leftOver texts => "unrecognized arguments: " ++ String.intercalate " " texts

def UsageError.text (e : UsageError) : String :=
  usage ++ "minrt-convert: error: " ++ e.message ++ "\n"

end RayScene.CommandLine
