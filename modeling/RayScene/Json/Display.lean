import RayScene.Json.Basic
import RayScene.Text.Quoted

/-!
# Values in sentences

A value that is named in a sentence is shown with quoted strings inside lists and objects; a string
by itself is shown as it is.
-/

namespace RayScene.Json

mutual

def quoted : Json → String
  | null => "None"
  | bool b => if b then "True" else "False"
  | int n => toString n
  | float x => FloatStyle.plain.write x
  | str s => Text.quoted s
  | arr items => "[" ++ String.intercalate ", " (itemsQuoted items) ++ "]"
  | obj fields => "\x7b" ++ String.intercalate ", " (fieldsQuoted fields) ++ "\x7d"

def itemsQuoted : List Json → List String
  | [] => []
  | v :: rest => v.quoted :: itemsQuoted rest

def fieldsQuoted : Fields → List String
  | [] => []
  | (k, v) :: rest => (Text.quoted k ++ ": " ++ v.quoted) :: fieldsQuoted rest

end

def display : Json → LooseText
  | str s => s
  | v => v.quoted

end RayScene.Json
