import RayScene.Fault
import RayScene.Scene.Source

/-!
# Verdicts on scene texts

A text is valid if it is a scene that compiles. The verdict on any other text is the fault in it.
-/

namespace RayScene

/-- Whether a text is a scene: how many objects it has, or what is wrong. -/
inductive Verdict where
  | valid (objects : Nat)
  | invalid (fault : Fault)
deriving DecidableEq

namespace Verdict

def ofText (edition : Edition) (trig : Trig) (text : LooseText) : Except Failure Verdict :=
  match Scene.ofText edition text with
  | .error vs => .ok (.invalid (.schema .text vs))
  | .ok s =>
    match s.compileText trig with
    | .ok _ => .ok (.valid s.objects.length)
    | .error e =>
      match Failure.ofCompile e with
      | .fault f => .ok (.invalid f)
      | e => .error e

def toJson : Verdict → Json
  | valid objects =>
    .obj [("valid", .bool true), ("object_count", .int objects), ("error", .null)]
  | invalid fault =>
    .obj [("valid", .bool false), ("object_count", .null), ("error", .str fault.message)]

end Verdict

end RayScene
