import RayScene.Proofs.Json.Keys
import RayScene.Proofs.Scene.Language

/-!
# Places of a value where a rule fails

A schema is what a check asks of a value: of the value itself (`Schema.Breaks`), and of its parts. It
says where a value offends (`Schema.Offends`), whether or not a check reports that, and in which
order two places come (`Schema.Precedes`).
-/

namespace RayScene

inductive Schema where
  /-- a finite number, within bounds if there are any -/
  | number (range : Option (ℤ × ℤ))
  | string
  | name
  | oneOf (names : List String)
  | list (least : ℕ) (most : Option ℕ) (item : Schema)
  /-- items with different names -/
  | named (items : Schema)
  | object (kind : Kind) (required optional : List String) (field : String → Schema)

def Violation.under (g : Segment) (x : Violation) : Violation := { x with path := g :: x.path }

/-- The name that is repeated first: nothing is repeated before that. -/
def IsFirstRepeated (names : List String) (name : String) : Prop :=
  ∃ before after, names = before ++ name :: after ∧ before.Nodup ∧ name ∈ before

def Json.itemName? (v : Json) : Option String :=
  match v.get? "name" with
  | some (.str t) => t.proper?
  | _ => none

namespace Schema

inductive Breaks : Schema → Json → Rule → Prop
  | notNumber {range : Option (ℤ × ℤ)} {v : Json} : (∀ x, ¬ Form.AsFloat v x) →
      Breaks (number range) v .number
  | beyondFloats {range : Option (ℤ × ℤ)} {n : ℤ} :
      (∀ q, Double.value (Double.ofInt n) ≠ .finite q) → Breaks (number range) (.int n) .floatRange
  | notFinite {range : Option (ℤ × ℤ)} {x : Float} : (∀ q, Double.value x ≠ .finite q) →
      Breaks (number range) (.float x) .finite
  | tooSmall {least most : ℤ} {v : Json} {x : Float} {q : ℚ} : Form.AsFloat v x →
      Double.value x = .finite q → q < least →
      Breaks (number (some (least, most))) v (.atLeast least)
  | tooLarge {least most : ℤ} {v : Json} {x : Float} {q : ℚ} : Form.AsFloat v x →
      Double.value x = .finite q → least ≤ q → most < q →
      Breaks (number (some (least, most))) v (.atMost most)
  | notString {v : Json} : (∀ t, v ≠ .str t) → Breaks string v .string
  | notName {v : Json} : (∀ t, v ≠ .str t) → Breaks name v .string
  | brokenName {t : LooseText} : t.isProper = false → Breaks name (.str t) .unicode
  | emptyName : Breaks name (.str "") .nonEmpty
  | brokenChoice {names : List String} {t : LooseText} : t.isProper = false →
      Breaks (oneOf names) (.str t) .unicode
  | notChoice {names : List String} {v : Json} : (∀ t, v = .str t → ∃ s ∉ names, t = .proper s) →
      Breaks (oneOf names) v (.oneOf names)
  | notList {least : ℕ} {most : Option ℕ} {item : Schema} {v : Json} : (∀ vs, v ≠ .arr vs) →
      Breaks (list least most item) v .list
  | tooLong {least most : ℕ} {item : Schema} {vs : List Json} : most < vs.length →
      Breaks (list least (some most) item) (.arr vs) (.maxItems most vs.length)
  | tooShort {least : ℕ} {most : Option ℕ} {item : Schema} {vs : List Json} :
      (∀ m ∈ most, vs.length ≤ m) → vs.length < least →
      Breaks (list least most item) (.arr vs) (.minItems least vs.length)
  | notObject {kind : Kind} {required optional : List String} {field : String → Schema} {v : Json} :
      (∀ fields, v ≠ .obj fields) → Breaks (object kind required optional field) v (.object kind)
  | brokenKey {kind : Kind} {required optional : List String} {field : String → Schema}
      {fields : Fields} {key : LooseText} : key ∈ Fields.keys fields → key.isProper = false →
      Breaks (object kind required optional field) (.obj fields) .unicode

inductive Here (breaks : Rule → Prop) : Violation → Prop
  | intro {rule : Rule} : breaks rule → Here breaks ⟨[], rule⟩

inductive InItem (offends : Json → Violation → Prop) : Json → Violation → Prop
  | intro {vs : List Json} {i : ℕ} {v : Json} {x : Violation} : vs[i]? = some v → offends v x →
      InItem offends (.arr vs) (x.under (.index i))

inductive InField (required optional : List String) (offends : String → Json → Violation → Prop) :
    Json → Violation → Prop
  | missing {fields : Fields} {k : String} : k ∈ required → Fields.get? fields k = none →
      InField required optional offends (.obj fields) ⟨[.key k], .required⟩
  | unknown {fields : Fields} {key : LooseText} : key ∈ Fields.keys fields →
      (∀ k ∈ required ++ optional, key ≠ .proper k) →
      InField required optional offends (.obj fields) ⟨[.key key], .noExtra⟩
  | required {fields : Fields} {k : String} {v : Json} {x : Violation} : k ∈ required →
      Fields.get? fields k = some v → offends k v x →
      InField required optional offends (.obj fields) (x.under (.key k))
  | optional {fields : Fields} {k : String} {v : Json} {x : Violation} : k ∈ optional →
      Fields.get? fields k = some v → v ≠ .null → offends k v x →
      InField required optional offends (.obj fields) (x.under (.key k))

inductive Repeats : Json → Violation → Prop
  | intro {vs : List Json} {name : String} : IsFirstRepeated (vs.filterMap Json.itemName?) name →
      Repeats (.arr vs) ⟨[], .uniqueNames name⟩

/-- The rule fails at the place in the value. Names are compared only if nothing else is wrong. -/
def Offends : Schema → Json → Violation → Prop
  | list least most item, v, x =>
    Here ((list least most item).Breaks v) x ∨ InItem item.Offends v x
  | named items, v, x => items.Offends v x ∨ (∀ y, ¬ items.Offends v y) ∧ Repeats v x
  | object kind required optional field, v, x =>
    Here ((object kind required optional field).Breaks v) x ∨
      InField required optional (fun k => (field k).Offends) v x
  | s, v, x => Here (s.Breaks v) x

def unknownKeys (known : List String) (fields : Fields) : List LooseText :=
  (Fields.keys fields).filter fun key => !(known.map LooseText.proper).contains key

/-- The keys of an object in the order of reports: the declared ones, then the others as they come in
the input. -/
def keyOrder (known : List String) (fields : Fields) : List LooseText :=
  known.map LooseText.proper ++ unknownKeys known fields

/-- One place comes before another one, depth first. -/
inductive Precedes : Schema → Json → List Segment → List Segment → Prop
  | items {least : ℕ} {most : Option ℕ} {item : Schema} {vs : List Json} {i j : ℕ}
      {p p' : List Segment} : i < j →
      Precedes (list least most item) (.arr vs) (.index i :: p) (.index j :: p')
  | item {least : ℕ} {most : Option ℕ} {item : Schema} {vs : List Json} {i : ℕ} {v : Json}
      {p p' : List Segment} : vs[i]? = some v → Precedes item v p p' →
      Precedes (list least most item) (.arr vs) (.index i :: p) (.index i :: p')
  | named {items : Schema} {v : Json} {p p' : List Segment} : Precedes items v p p' →
      Precedes (named items) v p p'
  | fields {kind : Kind} {required optional : List String} {field : String → Schema}
      {fields : Fields} {key key' : LooseText} {p p' : List Segment} :
      [key, key'].Sublist (keyOrder (required ++ optional) fields) →
      Precedes (object kind required optional field) (.obj fields) (.key key :: p) (.key key' :: p')
  | field {kind : Kind} {required optional : List String} {field : String → Schema}
      {fields : Fields} {k : String} {v : Json} {p p' : List Segment} :
      Fields.get? fields k = some v → Precedes (field k) v p p' →
      Precedes (object kind required optional field) (.obj fields) (.key k :: p) (.key k :: p')

end Schema

/-- Inside the place of such a violation nothing is reported: in a list that is too long, and in an
object with a key that holds a surrogate. -/
def Violation.Masks (y x : Violation) : Prop :=
  ((∃ most actual, y.rule = .maxItems most actual) ∨ y.rule = .unicode) ∧
    ∃ g rest, x.path = y.path ++ g :: rest

def Vec3.schema : Schema := .object .vec3 ["x", "y", "z"] [] fun _ => .number none

def Angles.schema : Schema := .object .angles ["a", "b"] [] fun
  | "a" => .number (some (-90, 90))
  | _ => .number (some (-180, 180))

def Color.schema : Schema := .object .color ["r", "g", "b"] [] fun _ => .number (some (0, 255))

def Light.schema : Schema := .object .light ["angle", "intensity"] [] fun
  | "angle" => Angles.schema
  | _ => .number (some (0, 255))

def SceneObject.schema : Schema :=
  .object .sceneObject ["name", "shape", "param", "position", "direction", "color"]
    ["texture", "reflect_type", "rotation", "diffuse", "highlight"] fun
  | "name" => .name
  | "shape" => .oneOf ["Cube", "Plane", "Quad", "Cone"]
  | "direction" => .number none
  | "color" => Color.schema
  | "texture" => .oneOf ["Plain", "Checker", "Striped", "Circular", "Dots"]
  | "reflect_type" => .oneOf ["Matte", "Normal", "Mirror"]
  | "diffuse" => .number (some (0, 1))
  | "highlight" => .number (some (0, 255))
  | _ => Vec3.schema

def Scene.schema : Schema :=
  .object .scene ["camera_position", "camera_angle", "lights", "objects", "and_nets"] [] fun
  | "camera_position" => Vec3.schema
  | "camera_angle" => Angles.schema
  | "lights" => .list 1 (some 1) Light.schema
  | "objects" => .named (.list 0 (some 60) SceneObject.schema)
  | _ => .list 0 none (.list 0 none .string)

end RayScene
