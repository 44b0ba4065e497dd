import RayScene.Collected
import RayScene.Scene.Basic
import RayScene.Scene.Violation

/-!
# Checks that collect violations

A check of a value gives what was read or all violations in it. Places are relative to the value:
`Checked.under` moves the violations of a part into the whole.
-/

namespace RayScene

abbrev Checked (α : Type) := Collected Violation α

namespace Checked

/-- A single violation of the value itself. -/
def fail {α : Type} (rule : Rule) : Checked α := .error [⟨[], rule⟩]

/-- Moves violations into a part of the value. -/
def under {α : Type} (segment : Segment) (a : Checked α) : Checked α :=
  a.relabel fun v => { v with path := segment :: v.path }

end Checked

namespace Check

def required {α : Type} (fields : Fields) (key : LooseText) (check : Json → Checked α) :
    Checked α :=
  match Fields.get? fields key with
  | some v => (check v).under (.key key)
  | none => .error [⟨[.key key], .required⟩]

/-- A field that may be absent or null. -/
def optional {α : Type} (fields : Fields) (key : LooseText) (check : Json → Checked α) :
    Checked (Option α) :=
  match Fields.get? fields key with
  | none | some .null => .ok none
  | some v => ((check v).under (.key key)).map some

/-- Where the unknown fields of an object are reported. -/
inductive Order where
  | unknownLast
  | unknownFirst
deriving DecidableEq

/-- The fields that are not among the known ones. -/
def extras (known : List String) (fields : Fields) : List Violation :=
  let names := known.map LooseText.proper
  ((Fields.keys fields).filter fun key => !names.contains key).map fun key => ⟨[.key key], .noExtra⟩

def object {α : Type} (kind : Kind) (check : Fields → Checked α) : Json → Checked α
  | .obj fields => check fields
  | _ => .fail (.object kind)

/-- An object with these keys and no others. Of an object with a key that holds a surrogate nothing
else is reported. -/
def closedObject {α : Type} (order : Order) (kind : Kind) (known : List String)
    (check : Fields → Checked α) : Json → Checked α :=
  object kind fun fields =>
    if (Fields.keys fields).all LooseText.isProper then
      (check fields).rejecting (order = .unknownFirst) (extras known fields)
    else .fail .unicode

/-- The items of a list from index `i` on. -/
def items {α : Type} (check : Json → Checked α) (i : Nat) : List Json → Checked (List α)
  | [] => .ok []
  | v :: rest =>
    Collected.app (((check v).under (.index i)).map List.cons) (items check (i + 1) rest)

def list {α : Type} (check : Json → Checked α) : Json → Checked (List α)
  | .arr vs => items check 0 vs
  | _ => .fail .list

/-- A list of bounded length. Of a list that is too long nothing else is reported. -/
def boundedList {α : Type} (least most : Nat) (check : Json → Checked α) : Json → Checked (List α)
  | .arr vs =>
    if most < vs.length then .fail (.maxItems most vs.length)
    else if vs.length < least then .fail (.minItems least vs.length)
    else items check 0 vs
  | _ => .fail .list

def string : Json → Checked LooseText
  | .str s => .ok s
  | _ => .fail .string

def properString (v : Json) : Checked String := do
  match (← string v).proper? with
  | some s => return s
  | none => .fail .unicode

/-- A string with at least one character, and without surrogates. -/
def nonEmptyString (v : Json) : Checked String := do
  let s ← properString v
  if s.isEmpty then .fail .nonEmpty else return s

/-- A finite number; integers become floats. -/
def number : Json → Checked Float
  | .int n =>
    let x := Double.ofInt n
    if Double.isFinite x then .ok x else .fail .floatRange
  | .float x => if Double.isFinite x then .ok x else .fail .finite
  | _ => .fail .number

/-- A number as part of a scene. -/
def anyNumber (v : Json) : Checked Number := (number v).map .float

def numberIn (least most : Int) (v : Json) : Checked Number := do
  let x ← number v
  if Double.compareInt x least == .lt then .fail (.atLeast least)
  else if Double.compareInt x most == .gt then .fail (.atMost most)
  else return .float x

def choice (α : Type) [Named α] : Json → Checked α
  | .str (.proper s) =>
    match Named.ofName? s with
    | some a => .ok a
    | none => .fail (.oneOf (Named.names α))
  | .str (.broken ..) => .fail .unicode
  | _ => .fail (.oneOf (Named.names α))

end Check

end RayScene
