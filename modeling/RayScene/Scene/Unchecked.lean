import RayScene.Scene.Wire

/-!
# Scenes that were never checked

The nets of a scene that is put together without the check may list other values than texts. A list
or an object cannot be looked up among the names of the objects, which ends the compilation where
the lookup comes to it. Numbers, truth values and null, which no object is called, are left out.
-/

namespace RayScene

namespace Net

inductive Unhashable where
  | list
  | object
deriving DecidableEq

def Unhashable.message : Unhashable → String
  | list => "unhashable type: 'list'"
  | object => "unhashable type: 'dict'"

inductive Member where
  | name (s : LooseText)
  | unhashable (u : Unhashable)
deriving DecidableEq

/-- The names of a net up to the first member that cannot be looked up, and that member. -/
def namesUpTo : List Member → List LooseText × Option Unhashable
  | [] => ([], none)
  | .unhashable u :: _ => ([], some u)
  | .name s :: rest =>
    let (names, stop) := namesUpTo rest
    (s :: names, stop)

/-- The names of all nets up to there. -/
def netsUpTo : List (List Member) → List (List LooseText) × Option Unhashable
  | [] => ([], none)
  | net :: rest =>
    match namesUpTo net with
    | (names, some u) => ([names], some u)
    | (names, none) =>
      let (nets, stop) := netsUpTo rest
      (names :: nets, stop)

def resolveMembers (s : Scene) (nets : List (List Member)) :
    Except (Unresolved ⊕ Unhashable) (List (List Nat)) :=
  match resolve { s with nets := (netsUpTo nets).1 }, (netsUpTo nets).2 with
  | .error u, _ => .error (.inl u)
  | .ok _, some u => .error (.inr u)
  | .ok indices, none => .ok indices

end Net

/-- The renderer input for a scene with these nets in place of its own. -/
def Scene.compileMembers (trig : Trig) (s : Scene) (nets : List (List Net.Member)) :
    Except (CompileError ⊕ Net.Unhashable) String :=
  match s.brokenPrecondition?, Net.resolveMembers s nets with
  | none, .error (.inr u) => .error (.inr u)
  | _, _ => (compileText trig { s with nets := (Net.netsUpTo nets).1 }).mapError .inl

end RayScene
