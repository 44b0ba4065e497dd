import RayScene.Number.Basic
import RayScene.Text.Loose

/-!
# JSON values

Objects keep their fields in order. A key may be repeated where a text repeats it; the value is the
same each time then, the last one of the text. Keys and strings are loose text, as JSON can spell
surrogates.
-/

namespace RayScene

/-- A JSON value. Integers have any size, floats may be infinite or NaN. -/
inductive Json where
  | null
  | bool (b : Bool)
  | int (n : Int)
  | float (x : Float)
  | str (s : LooseText)
  | arr (items : List Json)
  | obj (fields : List (LooseText × Json))

abbrev Fields := List (LooseText × Json)

namespace Fields

def get? : Fields → LooseText → Option Json
  | [], _ => none
  | (k, v) :: rest, key => if k = key then some v else get? rest key

/-- Sets a key: in its place if it is there, else at the end. -/
def set : Fields → LooseText → Json → Fields
  | [], key, value => [(key, value)]
  | (k, v) :: rest, key, value =>
    if k = key then (k, value) :: rest else (k, v) :: set rest key value

/-- One more field: the key comes last, and has the value wherever it stands. -/
def put (fields : Fields) (key : LooseText) (value : Json) : Fields :=
  fields.map (fun (k, v) => if k = key then (k, value) else (k, v)) ++ [(key, value)]

def keys (fields : Fields) : List LooseText := fields.map Prod.fst

end Fields

namespace Json

inductive Kind where
  | null
  | bool
  | int
  | float
  | str
  | arr
  | obj
deriving DecidableEq

def kind : Json → Kind
  | null => .null
  | bool _ => .bool
  | int _ => .int
  | float _ => .float
  | str _ => .str
  | arr _ => .arr
  | obj _ => .obj

def get? : Json → LooseText → Option Json
  | obj fields, key => Fields.get? fields key
  | _, _ => none

def text (s : String) : Json := str (.proper s)

def isText (s : String) : Json → Bool
  | str t => t == s
  | _ => false

mutual

/-- The value with each key of an object once, in its first place. -/
def once : Json → Json
  | arr items => arr (itemsOnce items)
  | obj fields => obj (fieldsOnce fields)
  | v => v

def itemsOnce : List Json → List Json
  | [] => []
  | v :: rest => v.once :: itemsOnce rest

/-- The fields without those whose key stands further in front. -/
def fieldsOnce : Fields → Fields
  | [] => []
  | (k, v) :: rest => (k, v.once) :: (fieldsOnce rest).filter fun field => field.1 ≠ k

end

mutual

/-- No float in the value is infinite or NaN. -/
def isFinite : Json → Bool
  | float x => Double.isFinite x
  | arr items => itemsFinite items
  | obj fields => fieldsFinite fields
  | _ => true

def itemsFinite : List Json → Bool
  | [] => true
  | v :: rest => v.isFinite && itemsFinite rest

def fieldsFinite : Fields → Bool
  | [] => true
  | (_, v) :: rest => v.isFinite && fieldsFinite rest

end

mutual

/-- No string in the value, keys apart, holds a surrogate. -/
def hasProperStrings : Json → Bool
  | str s => s.isProper
  | arr items => itemsHaveProperStrings items
  | obj fields => fieldsHaveProperStrings fields
  | _ => true

def itemsHaveProperStrings : List Json → Bool
  | [] => true
  | v :: rest => v.hasProperStrings && itemsHaveProperStrings rest

def fieldsHaveProperStrings : Fields → Bool
  | [] => true
  | (_, v) :: rest => v.hasProperStrings && fieldsHaveProperStrings rest

end

mutual

/-- No key in the value holds a surrogate. -/
def hasProperKeys : Json → Bool
  | arr items => itemsHaveProperKeys items
  | obj fields => fieldsHaveProperKeys fields
  | _ => true

def itemsHaveProperKeys : List Json → Bool
  | [] => true
  | v :: rest => v.hasProperKeys && itemsHaveProperKeys rest

def fieldsHaveProperKeys : Fields → Bool
  | [] => true
  | (k, v) :: rest => k.isProper && v.hasProperKeys && fieldsHaveProperKeys rest

end

mutual

/-- How many values are inside each other, at most: a value without parts counts as one. -/
def height : Json → Nat
  | arr items => itemsHeight items + 1
  | obj fields => fieldsHeight fields + 1
  | _ => 1

def itemsHeight : List Json → Nat
  | [] => 0
  | v :: rest => max v.height (itemsHeight rest)

/-- The height of the highest value of a field. -/
def fieldsHeight : Fields → Nat
  | [] => 0
  | (_, v) :: rest => max v.height (fieldsHeight rest)

end

mutual

/-- The value with every key as it is shown where surrogates cannot be. -/
def withShownKeys : Json → Json
  | arr items => arr (itemsWithShownKeys items)
  | obj fields => obj (fieldsWithShownKeys fields)
  | v => v

def itemsWithShownKeys : List Json → List Json
  | [] => []
  | v :: rest => v.withShownKeys :: itemsWithShownKeys rest

def fieldsWithShownKeys : Fields → Fields
  | [] => []
  | (k, v) :: rest => (k.shown, v.withShownKeys) :: fieldsWithShownKeys rest

end

mutual

/-- The value with every infinite float and NaN replaced by null. -/
def finitePart : Json → Json
  | float x => if Double.isFinite x then float x else null
  | arr items => arr (itemsFinitePart items)
  | obj fields => obj (fieldsFinitePart fields)
  | v => v

def itemsFinitePart : List Json → List Json
  | [] => []
  | v :: rest => v.finitePart :: itemsFinitePart rest

def fieldsFinitePart : Fields → Fields
  | [] => []
  | (k, v) :: rest => (k, v.finitePart) :: fieldsFinitePart rest

end

end Json

end RayScene
