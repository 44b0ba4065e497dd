import RayScene.Agent.Run
import RayScene.Proofs.Agent.Dialogue
import RayScene.Proofs.Studio.Connection

/-!
# The calls of a reply

The calls that the blocks of a reply ask for are made one after another, each in the world that the
one before it left (`callTools_ok`). They have nothing to do with the connection to the model.
-/

namespace RayScene

structure ToolCall where
  id : Json
  name : Json
  input : Json

def Block.call? : Block → Option ToolCall
  | toolUse id name input => some ⟨id, name, input⟩
  | _ => none

theorem Block.filterMap_callId? (blocks : List Block) :
    blocks.filterMap Block.callId? = (blocks.filterMap Block.call?).map ToolCall.id := by
  rw [List.map_filterMap]
  congr 1
  funext b
  cases b with
  | toolUse id name input => rfl
  | text t => rfl
  | other => rfl

def World.afterCalls (w : World) (calls : List ToolCall) : World :=
  calls.foldl (fun w call => (Studio.runIn w (Tool.callNamed call.name call.input)).2) w

theorem World.afterCalls_append (w : World) (calls more : List ToolCall) :
    w.afterCalls (calls ++ more) = (w.afterCalls calls).afterCalls more :=
  List.foldl_append

namespace Agent
open Studio Message

theorem unaware_call (input : Json) (t : Tool) : Unaware (t.call input) := by
  apply Unaware.handled
  · cases t with
    | render =>
      exact (Unaware.ofExcept _ _).bind fun args =>
        (unaware_renderAs args.scene args.name).bind fun _ => Unaware.pure _
    | readSource =>
      exact (Unaware.ofExcept _ _).bind fun name =>
        (unaware_storedSource name).bind fun _ => Unaware.pure _
    | readImage =>
      exact (Unaware.ofExcept _ _).bind fun name =>
        (unaware_storedContent name .image).bind fun _ => Unaware.pure _
  · intro e
    split
    · exact Unaware.pure _
    · exact Unaware.throw _

theorem unaware_callNamed (name input : Json) : Unaware (Tool.callNamed name input) := by
  unfold Tool.callNamed
  split
  · exact unaware_call input _
  · exact Unaware.pure _

theorem unaware_callTools : ∀ blocks, Unaware (callTools blocks)
  | [] => Unaware.pure _
  | .toolUse _ name input :: rest =>
    (unaware_callNamed name input).bind fun _ =>
      (unaware_callTools rest).bind fun _ => Unaware.pure _
  | .text _ :: rest => unaware_callTools rest
  | .other :: rest => unaware_callTools rest

theorem afterCalls_withClient (w : World) (client : Option ModelClient) (calls : List ToolCall) :
    (w.withClient client).afterCalls calls = (w.afterCalls calls).withClient client := by
  induction calls generalizing w with
  | nil => rfl
  | cons call rest ih =>
    show World.afterCalls (runIn (w.withClient client) _).2 rest = _
    rw [unaware_callNamed]
    exact ih _

/-! ### Calls one after another -/

/-- Calls with their results: each is made in the world that the one before it left. -/
inductive Executes : World → List (ToolCall × ToolResult) → World → Prop
  | nil (w : World) : Executes w [] w
  | cons {w w₁ w' : World} {call : ToolCall} {result : ToolResult}
      {rest : List (ToolCall × ToolResult)} :
      runIn w (Tool.callNamed call.name call.input) = (.ok result, w₁) → Executes w₁ rest w' →
      Executes w ((call, result) :: rest) w'

theorem Executes.world {w w' : World} {done : List (ToolCall × ToolResult)}
    (h : Executes w done w') : w' = w.afterCalls (done.map Prod.fst) := by
  induction h with
  | nil w => rfl
  | cons called _ ih =>
    rw [ih, List.map_cons]
    show _ = World.afterCalls (runIn _ _).2 _
    rw [called]

theorem Executes.client {w w' : World} {done : List (ToolCall × ToolResult)}
    (h : Executes w done w') : w'.client = w.client := by
  induction h with
  | nil w => rfl
  | cons called _ ih => exact ih.trans ((unaware_callNamed _ _).client called)

def renderedNames (done : List (ToolCall × ToolResult)) : List Json :=
  done.flatMap fun (call, result) =>
    if isRendering call.name result then (call.input.get? "name").toList else []

def resultBlocks (done : List (ToolCall × ToolResult)) : List Json :=
  done.map fun (call, result) => result.block call.id

theorem resultBlocks_eq {blocks : List Block} {done : List (ToolCall × ToolResult)}
    (calls : done.map Prod.fst = blocks.filterMap Block.call?) :
    resultBlocks done =
      List.zipWith ToolResult.block (blocks.filterMap Block.callId?) (done.map Prod.snd) := by
  rw [Block.filterMap_callId?, ← calls, List.map_map, List.zipWith_map, List.zipWith_self]
  rfl

theorem length_results {blocks : List Block} {done : List (ToolCall × ToolResult)}
    (calls : done.map Prod.fst = blocks.filterMap Block.call?) :
    (done.map Prod.snd).length = (blocks.filterMap Block.callId?).length := by
  rw [Block.filterMap_callId?, ← calls]
  simp only [List.length_map]

theorem callTools_ok {blocks : List Block} {names results : List Json} {w w' : World}
    (h : runIn w (callTools blocks) = (.ok (names, results), w')) :
    ∃ done, Executes w done w' ∧ done.map Prod.fst = blocks.filterMap Block.call? ∧
      names = renderedNames done ∧ results = resultBlocks done := by
  induction blocks generalizing w names results with
  | nil =>
    cases h
    exact ⟨[], .nil _, rfl, rfl, rfl⟩
  | cons b rest ih =>
    cases b with
    | text t => exact ih h
    | other => exact ih h
    | toolUse id name input =>
      unfold callTools at h
      rcases runIn_bind w (Tool.callNamed name input) _ with
        ⟨e, w₁, _, ended⟩ | ⟨result, w₁, called, went⟩
      · cases ended.symm.trans h
      rw [went] at h
      rcases runIn_bind w₁ (callTools rest) _ with
        ⟨e, w₂, _, ended⟩ | ⟨⟨ns, rs⟩, w₂, later, went₂⟩
      · cases ended.symm.trans h
      cases went₂.symm.trans h
      obtain ⟨done, executes, calls, rfl, rfl⟩ := ih later
      exact ⟨(⟨id, name, input⟩, result) :: done, .cons called executes,
        congrArg (ToolCall.mk id name input :: ·) calls, rfl, rfl⟩

end Agent
end RayScene
