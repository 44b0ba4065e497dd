import RayScene.CommandLine.Arguments
import RayScene.Scene.Source
import RayScene.Studio.Pipeline

/-!
# The convert command

Prints the renderer input for a scene file and, if asked to, renders it to a file. Nothing is
printed before the scene has compiled, and what is printed is complete before rendering starts.
-/

namespace RayScene.CommandLine

structure Finished where
  /-- the exit status, or the failure that the command does not handle -/
  exit : Except Failure Nat
  output : String
  errors : String

namespace Convert

inductive Cause where
  | file (e : SystemError)
  | studio (f : Failure)
deriving DecidableEq

/-- A text with every line ended by a line feed alone. -/
def lineFeeds : List Char → List Char
  | '\r' :: '\n' :: rest => '\n' :: lineFeeds rest
  | '\r' :: rest => '\n' :: lineFeeds rest
  | c :: rest => c :: lineFeeds rest
  | [] => []

/-- Reads a scene file as text in UTF-8, which is what the locale of the command has to say: it is
the locale that decides how the text is decoded, and no other encoding is described here. A file
that cannot be read to its end is left out too. -/
def readScene (edition : Edition) (files : Files) (path : Path) : Except Cause Scene := do
  let content ← (files.read path).mapError fun
    | .system e => .file e
    | .nullCharacter => .studio .nullCharacter
  let text ← (Utf8.decode content).mapError fun m => .studio (.malformedText m)
  (Scene.ofText edition (String.ofList (lineFeeds text.toList))).mapError fun vs =>
    .studio (.fault (.schema .text vs))

def logLine (time message : String) : String :=
  time ++ " | ERROR | minrt_server.services.render_service | " ++ message ++ "\n"

def logText (time : String) : Fault → String
  | .render fault => logLine time fault.logMessage
  | _ => ""

def errorText (message : String) : String := "error: " ++ message ++ "\n"

/-- The end of a conversion that printed `output` and then failed. -/
def failed (time output : String) : Cause → Finished
  | .file e => ⟨.ok 1, output, errorText e.message⟩
  | .studio (.fault f) => ⟨.ok 1, output, logText time f ++ errorText f.message⟩
  | .studio f => ⟨.error f, output, ""⟩

/-- The end of a conversion that printed `output` and rendered, as far as that was wanted. -/
def rendered (time output : String) : Except Failure Unit → Finished
  | .ok () => ⟨.ok 0, output, ""⟩
  | .error f => failed time output (.studio f)

/-- Renders a scene to a file, if there is one. -/
def render (s : Scene) : Option String → Studio Unit
  | none => return
  | some place => do
    let _ ← Studio.renderTo s (some (Path.ofText place).text)

def run (time scene : String) (output : Option String) (w : World) : Finished × World :=
  match readScene w.edition w.files (Path.ofText scene) with
  | .error cause => (failed time "" cause, w)
  | .ok s =>
    match s.compileText w.trig with
    | .error e => (failed time "" (.studio (Failure.ofCompile e)), w)
    | .ok text =>
      let (result, w') := Studio.runIn w (render s output)
      (rendered time text result, w')

end Convert

/-- Runs the command; `time` is what its log shows as the time. -/
def run (time : String) (arguments : List String) (w : World) : Finished × World :=
  match Command.ofArguments arguments with
  | .ok .help => (⟨.ok 0, helpText, ""⟩, w)
  | .ok (.convert scene output) => Convert.run time scene output w
  | .error e => (⟨.ok 2, "", e.text⟩, w)

end RayScene.CommandLine
