import RayScene.Collected
import RayScene.Files.Path
import RayScene.Json.Body
import RayScene.Scene.Violation
import RayScene.Text.Blank

/-!
# Bodies of requests

A body is read as JSON if its media type says so, else its text is the value. What is wrong with a
body is collected as complaints, each with its place, the demand that is not met, and the input
there.
-/

namespace RayScene.Http

structure Body where
  mediaType : String
  text : String

/-- What a body has to keep to. -/
inductive Demand where
  | present
  | json (reason : Json.BodyReason)
  | dictionary
  | model
  | string
  | list
  | integer
  | integerText
  | integerSize
  | wholeNumber
  | finite
  | atLeast (bound : Int)
  | atMost (bound : Int)
deriving DecidableEq

namespace Demand

def name : Demand → String
  | present => "missing"
  | json _ => "json_invalid"
  | dictionary => "dict_type"
  | model => "model_attributes_type"
  | string => "string_type"
  | list => "list_type"
  | integer => "int_type"
  | integerText => "int_parsing"
  | integerSize => "int_parsing_size"
  | wholeNumber => "int_from_float"
  | finite => "finite_number"
  | atLeast _ => "greater_than_equal"
  | atMost _ => "less_than_equal"

def text : Demand → String
  | present => "Field required"
  | json _ => "JSON decode error"
  | dictionary => "Input should be a valid dictionary"
  | model => "Input should be a valid dictionary or object to extract fields from"
  | string => "Input should be a valid string"
  | list => "Input should be a valid list"
  | integer => "Input should be a valid integer"
  | integerText => "Input should be a valid integer, unable to parse string as an integer"
  | integerSize => "Unable to parse input string as an integer, exceeded maximum size"
  | wholeNumber => "Input should be a valid integer, got a number with a fractional part"
  | finite => "Input should be a finite number"
  | atLeast bound => "Input should be greater than or equal to " ++ toString bound
  | atMost bound => "Input should be less than or equal to " ++ toString bound

def context : Demand → Fields
  | json reason => [("error", .str reason.text)]
  | atLeast bound => [("ge", .int bound)]
  | atMost bound => [("le", .int bound)]
  | _ => []

end Demand

/-- A demand that is not met, and where. -/
structure Complaint where
  place : List Segment
  demand : Demand
  input : Json

namespace Complaint

def segmentJson : Segment → Json
  | .key name => .str name
  | .index i => .int i

def toJson (c : Complaint) : Json :=
  let particulars : Fields := match c.demand.context with
    | [] => []
    | context => [("ctx", .obj context)]
  .obj (("type", .str c.demand.name) :: ("loc", .arr (.str "body" :: c.place.map segmentJson)) ::
    ("msg", .str c.demand.text) :: ("input", c.input) :: particulars)

end Complaint

/-- What was read of a body, or the complaints about it. -/
abbrev Intake (α : Type) := Collected Complaint α

namespace Intake

def complain {α : Type} (demand : Demand) (input : Json) : Intake α := .error [⟨[], demand, input⟩]

/-- Moves complaints into a part of the body. -/
def under {α : Type} (segment : Segment) (a : Intake α) : Intake α :=
  a.relabel fun c => { c with place := segment :: c.place }

/-- A field that must be there. If it is not, the whole object is the input of the complaint. -/
def required {α : Type} (fields : Fields) (key : LooseText) (read : Json → Intake α) : Intake α :=
  match Fields.get? fields key with
  | some v => (read v).under (.key key)
  | none => .error [⟨[.key key], .present, .obj fields⟩]

def withDefault {α : Type} (fields : Fields) (key : LooseText) (fallback : α)
    (read : Json → Intake α) : Intake α :=
  match Fields.get? fields key with
  | some v => (read v).under (.key key)
  | none => .ok fallback

def orNull {α : Type} (read : Json → Intake α) : Json → Intake (Option α)
  | .null => .ok none
  | v => (read v).map some

def string : Json → Intake LooseText
  | .str s => .ok s
  | v => complain .string v

def dictionary : Json → Intake Fields
  | .obj fields => .ok fields
  | v => complain .dictionary v

/-- The items of a list from index `i` on. -/
def items {α : Type} (read : Json → Intake α) (i : Nat) : List Json → Intake (List α)
  | [] => .ok []
  | v :: rest => Collected.app (((read v).under (.index i)).map List.cons) (items read (i + 1) rest)

def list {α : Type} (read : Json → Intake α) : Json → Intake (List α)
  | .arr vs => items read 0 vs
  | v => complain .list v

end Intake

namespace Body

/-- The main type and the subtype of a media type, in lower case and without parameters. -/
def mediaTypeParts (s : String) : List String :=
  let essence := Text.trim Text.isSpacing (s.toList.takeWhile (· ≠ ';'))
  (Path.split essence).map fun part => String.ofList (part.map Char.toLower)

/-- Whether a media type announces JSON. -/
def isJson (mediaType : String) : Bool :=
  match mediaTypeParts mediaType with
  | ["application", subtype] => subtype == "json" || "+json".toList.isSuffixOf subtype.toList
  | _ => false

/-- Why a body has no value. -/
inductive Unreadable where
  | invalid (complaint : Complaint)
  | unreadable

def value? (body : Option Body) : Except Unreadable (Option Json) :=
  match body with
  | none => .ok none
  | some b =>
    if b.text.isEmpty then .ok none
    else if isJson b.mediaType then
      match Json.parseBody (Utf8.encode b.text) with
      | .ok v => .ok (some v)
      | .error (.invalid reason offset) =>
        .error (.invalid ⟨[.index offset], .json reason, .obj []⟩)
      | .error .unreadable => .error .unreadable
    else .ok (some (.str b.text))

end Body

end RayScene.Http
