import RayScene.Scene.Basic

/-!
# Nets

The author's nets list object names, the renderer's nets list object indices. The renderer draws
only what some net reaches, so each object outside all nets gets a net of its own.
-/

namespace RayScene.Net

structure Unresolved where
  net : Nat
  name : LooseText
deriving DecidableEq

/-- The last place of a name. -/
def lastIndex? (name : LooseText) : List String → Option Nat
  | [] => none
  | n :: rest =>
    match lastIndex? name rest with
    | some i => some (i + 1)
    | none => if name = n then some 0 else none

def resolveNet (names : List String) (net : Nat) : List LooseText → Except Unresolved (List Nat)
  | [] => .ok []
  | name :: rest =>
    match lastIndex? name names with
    | none => .error ⟨net, name⟩
    | some i => (resolveNet names net rest).map (i :: ·)

/-- The indices of the names of all nets, the first net having number `net`. -/
def resolveFrom (names : List String) (net : Nat) :
    List (List LooseText) → Except Unresolved (List (List Nat))
  | [] => .ok []
  | members :: rest => do
    let indices ← resolveNet names net members
    let others ← resolveFrom names (net + 1) rest
    return indices :: others

/-- The nets of a scene by index. Of objects with the same name the last one counts. -/
def resolve (s : Scene) : Except Unresolved (List (List Nat)) :=
  resolveFrom (s.objects.map SceneObject.name) 0 s.nets

/-- The objects from 0 to below `count` that are in none of the nets, ascending. -/
def uncovered (nets : List (List Int)) (count : Nat) : List Nat :=
  (List.range count).filter fun i => !nets.flatten.contains (Int.ofNat i)

/-- The nets, and after them a net of its own for each object that is in none of them. -/
def complete (nets : List (List Int)) (count : Nat) : List (List Int) :=
  nets ++ (uncovered nets count).map fun i => [Int.ofNat i]

end RayScene.Net
