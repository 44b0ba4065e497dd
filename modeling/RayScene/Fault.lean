import RayScene.Files.Error
import RayScene.Scene.Check
import RayScene.Scene.Wire
import RayScene.Text.Utf8

/-!
# Faults

A fault is something that a user of the studio can mend or has to know: it has a status and a text.
Everything else that may go wrong is a `Failure` of another kind and has no status.
-/

namespace RayScene

inductive Stage where
  | renderer
  | converter
deriving DecidableEq

def Stage.name : Stage → String
  | renderer => "MinRT"
  | converter => "Magick"

inductive RenderFault where
  | notStarted (stage : Stage) (error : SystemError)
  | timedOut (stage : Stage) (timeout : Int)
  | failed (stage : Stage) (status : Int) (errors : String)
  | notWritten (path : String) (error : SystemError)
  | notStored (name : String) (error : SystemError)
deriving DecidableEq

namespace RenderFault

def message : RenderFault → String
  | notStarted stage error => stage.name ++ " could not be started: " ++ error.message
  | timedOut stage timeout => stage.name ++ " timed out after " ++ toString timeout ++ "s"
  | failed stage status errors =>
    stage.name ++ " failed (exit " ++ toString status ++ "): " ++ errors
  | notWritten path error => "could not write " ++ path ++ ": " ++ error.message
  | notStored name error => "could not store scene " ++ Text.quoted name ++ ": " ++ error.message

def logMessage : RenderFault → String
  | timedOut stage timeout => stage.name ++ " TIMEOUT (" ++ toString timeout ++ "s)"
  | notWritten path error => "Could not write " ++ path ++ ": " ++ error.message
  | notStored name error => "Could not store scene " ++ Text.quoted name ++ ": " ++ error.message
  | fault => fault.message

end RenderFault

/-- The two files of a stored scene. -/
inductive Artifact where
  | source
  | image
deriving DecidableEq

def Artifact.noun : Artifact → String
  | source => "scene"
  | image => "image"

inductive Fault where
  | schema (origin : Origin) (violations : List Violation)
  | precondition (p : Precondition)
  | unresolved (u : Net.Unresolved)
  | render (fault : RenderFault)
  | missing (artifact : Artifact) (name : String)
deriving DecidableEq

/-! ### Reports -/

/-- The classes of reports; each but the first is a special case of the first. -/
inductive ReportClass where
  | general
  | schema
  | precondition
  | reference
  | render
  | missing
deriving DecidableEq

namespace ReportClass

def name : ReportClass → String
  | general => "SceneStudioError"
  | schema => "SchemaViolation"
  | precondition => "InvalidSceneError"
  | reference => "UnresolvedReferenceError"
  | render => "RenderError"
  | missing => "ArtifactNotFoundError"

def status : ReportClass → Int
  | general => 500
  | schema | precondition | reference => 422
  | render => 502
  | missing => 404

/-- The text where none is given. -/
def defaultText : ReportClass → String
  | general => "An unexpected error occurred"
  | schema => "Scene schema violation"
  | precondition => "Invalid scene"
  | reference => "Unresolved object reference"
  | render => "Rendering failed"
  | missing => "Artifact not found"

/-- The class and the classes that it is a special case of. -/
def lineage : ReportClass → List ReportClass
  | general => [general]
  | c => [c, general]

end ReportClass

/-- A text for users with a status. -/
structure Report where
  reportClass : ReportClass
  /-- what the report says -/
  text : String
  /-- what is shown to users -/
  userText : String
  status : Int
deriving DecidableEq

namespace Report

/-- A report with its text and status as far as they are given. An empty text says the default, but
is shown as it is. -/
def make (c : ReportClass) (text : Option String) (status : Option Int) : Report where
  reportClass := c
  text := match text with
    | some s => if s.isEmpty then c.defaultText else s
    | none => c.defaultText
  userText := text.getD c.defaultText
  status := status.getD c.status

/-- The report of violations; without any it says the default. -/
def ofViolations (pairs : List (String × String)) : Report :=
  let text := violationText pairs
  make .schema (some (if text.isEmpty then ReportClass.schema.defaultText else text)) none

def ofUnresolved (net : Int) (name : LooseText) : Report :=
  make .reference
    (some ("AND-net " ++ toString net ++ " references unknown object: " ++ Text.quoted name)) none

end Report

namespace Fault

/-- Places and constraints of violations in words. -/
def violationPairs (origin : Origin) (violations : List Violation) : List (String × String) :=
  violations.map fun v => (v.field, v.rule.text origin)

def report : Fault → Report
  | schema origin violations => .ofViolations (violationPairs origin violations)
  | precondition p => .make .precondition (some p.message) none
  | unresolved u => .ofUnresolved u.net u.name
  | render fault => .make .render (some fault.message) none
  | missing artifact name =>
    .make .missing (some ("No " ++ artifact.noun ++ " named " ++ Text.quoted name)) none

def message (f : Fault) : String := f.report.text

end Fault

inductive MessageDefect where
  | noRole
  | noContent
  /-- the content is neither text nor a list -/
  | content (kind : Json.Kind)
deriving DecidableEq

inductive Failure where
  | fault (f : Fault)
  | camera (f : Camera.Failure)
  | malformedText (m : Utf8.Malformed)
  | defective (defect : MessageDefect)
  /-- a path holds U+0000 -/
  | nullCharacter
  /-- a directory cannot be looked at -/
  | system (error : SystemError)
  /-- a scene cannot be stored, because its nets name surrogates -/
  | notStorable
  /-- a number of a scene has too many digits to be written -/
  | unwritable
  /-- renderer input that holds surrogates -/
  | unencodable (u : Utf8.Unencodable)
  /-- a run that cannot be waited for -/
  | unwaitable (timeout : Int)
  /-- there is no way to the model -/
  | noConnection
  /-- a block of a reply lacks a field -/
  | noField (name : String)
  /-- the text block with this number holds something else -/
  | noText (index : Nat) (kind : Json.Kind)
  /-- the model did not answer -/
  | model (text : String)
deriving DecidableEq

def MessageDefect.message : MessageDefect → String
  | noRole => "a message has no role"
  | noContent => "a message has no content"
  | content _ => "the content of a message is neither text nor a list"

def Failure.message : Failure → String
  | fault f => f.message
  | camera f => f.message
  | malformedText m => m.message
  | defective defect => defect.message
  | nullCharacter => nullCharacterText
  | system error => error.message
  | notStorable => "the nets of the scene name surrogates"
  | unwritable => Text.unwritableText
  | unencodable u => u.message
  | unwaitable timeout =>
    if Double.isFinite (Double.ofInt timeout) then "timeout is too large"
    else Camera.Failure.overflow.message
  | noConnection => "there is no way to the model"
  | noField name => "a block of a reply has no field " ++ Text.quoted name
  | noText index _ => "text block " ++ toString index ++ " of a reply holds no text"
  | model text => text

/-- A path that cannot be used; `toFault` says what the refusal of the system amounts to. -/
def Failure.ofAccess (toFault : SystemError → Failure) : AccessError → Failure
  | .system e => toFault e
  | .nullCharacter => nullCharacter

def Failure.ofCompile : CompileError → Failure
  | .precondition p => .fault (.precondition p)
  | .unresolved u => .fault (.unresolved u)
  | .camera f => .camera f
  | .unwritable => unwritable

end RayScene
