import RayScene.Json.Syntax
import RayScene.Text.Quoted

/-!
# Violations of the scene schema

A violation is a place in the input and the rule that fails there. Some rules are worded one way
when the input was JSON text and another way when it was a value already.
-/

namespace RayScene

inductive Origin where
  | value
  | text
deriving DecidableEq

inductive Kind where
  | scene
  | vec3
  | angles
  | color
  | light
  | sceneObject
  | renderArguments
  | nameArguments
deriving DecidableEq

def Kind.name : Kind → String
  | scene => "Scene"
  | vec3 => "Vec3D"
  | angles => "Angle3D"
  | color => "ColorRGB"
  | light => "Light"
  | sceneObject => "SceneObject"
  | renderArguments => "RenderArgs"
  | nameArguments => "NameArgs"

inductive Segment where
  | key (name : LooseText)
  | index (i : Nat)
deriving DecidableEq

def Segment.text : Segment → String
  | key name => name.shown
  | index i => toString i

/-- What the input has to keep to. -/
inductive Rule where
  | required
  | noExtra
  | object (kind : Kind)
  | list
  | string
  /-- the text may not hold surrogates -/
  | unicode
  | nonEmpty
  | number
  | finite
  /-- an integer has to be within the floats -/
  | floatRange
  | atLeast (bound : Int)
  | atMost (bound : Int)
  | oneOf (names : List String)
  | minItems (least actual : Nat)
  | maxItems (most actual : Nat)
  | uniqueNames (repeated : String)
  | json (error : Json.SyntaxError)
  | artifactName
  | promptOrTheme
deriving DecidableEq

/-- A rule that fails, and where. -/
structure Violation where
  path : List Segment
  rule : Rule
deriving DecidableEq

/-- A list of choices in words: `'a', 'b' or 'c'`. -/
def choiceText : List String → String
  | [] => ""
  | [a] => Text.quoted a
  | [a, b] => Text.quoted a ++ " or " ++ Text.quoted b
  | a :: rest => Text.quoted a ++ ", " ++ choiceText rest

def itemCount (n : Nat) : String := if n = 1 then "1 item" else toString n ++ " items"

def Rule.text (origin : Origin) : Rule → String
  | required => "Field required"
  | noExtra => "Extra inputs are not permitted"
  | object kind =>
    match origin with
    | .value => "Input should be a valid dictionary or instance of " ++ kind.name
    | .text => "Input should be an object"
  | list =>
    match origin with
    | .value => "Input should be a valid list"
    | .text => "Input should be a valid array"
  | string => "Input should be a valid string"
  | unicode => "Input should be a valid string, unable to parse raw data as a unicode string"
  | nonEmpty => "String should have at least 1 character"
  | number => "Input should be a valid number"
  | finite => "Input should be a finite number"
  | floatRange =>
    match origin with
    | .value => "Input should be a valid number"
    | .text => "Input should be a finite number"
  | atLeast bound => "Input should be greater than or equal to " ++ toString bound
  | atMost bound => "Input should be less than or equal to " ++ toString bound
  | oneOf names => "Input should be " ++ choiceText names
  | minItems least actual =>
    "List should have at least " ++ itemCount least ++ " after validation, not " ++ toString actual
  | maxItems most actual =>
    "List should have at most " ++ itemCount most ++ " after validation, not " ++ toString actual
  | uniqueNames repeated => "Value error, duplicate object name " ++ Text.quoted repeated
  | json error => "Invalid JSON: " ++ error.message
  | artifactName => "must match [A-Za-z0-9_.-]+ and not start with '.'"
  | promptOrTheme => "a prompt or a theme is required"

/-- The written place of a violation; the input itself is the root. -/
def Violation.field (v : Violation) : String :=
  let path := String.intercalate "." (v.path.map Segment.text)
  if path.isEmpty then "<root>" else path

def violationText (pairs : List (String × String)) : String :=
  String.intercalate "; " (pairs.map fun (field, constraint) => field ++ ": " ++ constraint)

end RayScene
