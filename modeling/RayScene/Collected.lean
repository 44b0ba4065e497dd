/-!
# Results that collect errors

Parts of an input are read independently of each other. If all parts succeed there is a result, else
there are the errors of all parts, in order.
-/

namespace RayScene

/-- A result, or the errors that stand in its way. -/
abbrev Collected (ε α : Type) := Except (List ε) α

namespace Collected

def pure {ε α : Type} (a : α) : Collected ε α := .ok a

def errors {ε α : Type} : Collected ε α → List ε
  | .ok _ => []
  | .error es => es

/-- Applies one result to another, or joins their errors. -/
def app {ε α β : Type} (f : Collected ε (α → β)) (a : Collected ε α) : Collected ε β :=
  match f, a with
  | .ok f, .ok a => .ok (f a)
  | f, a => .error (f.errors ++ a.errors)

/-- A result with further errors: after its own, or before them. -/
def rejecting {ε α : Type} (before : Bool) (a : Collected ε α) (es : List ε) : Collected ε α :=
  match a, es with
  | .ok a, [] => .ok a
  | a, es => .error (if before then es ++ a.errors else a.errors ++ es)

def relabel {ε δ α : Type} (f : ε → δ) : Collected ε α → Collected δ α
  | .ok a => .ok a
  | .error es => .error (es.map f)

end Collected

end RayScene
