import RayScene.Proofs.Agent.Calls
import RayScene.Proofs.Outcome

/-!
# Replies

What a reply says before its blocks are read: whether it asks to go on, the calls that it asks for,
its text. Where the blocks can be read, they say the same.
-/

namespace RayScene

namespace Reply

/-- The model stops for a call and there is one. -/
def goesOn : Reply → Bool
  | blocks fields stopReason => stopReason == some "tool_use" &&
      fields.any fun block => (Fields.get? block "type").any (Json.isText "tool_use")
  | refused _ => false

def parts : Reply → List Block
  | blocks fields _ => fields.filterMap fun block => (Block.ofFields block).toOption
  | refused _ => []

def calls (reply : Reply) : List ToolCall := reply.parts.filterMap Block.call?

/-- The texts among the blocks, one on each line. -/
def text (reply : Reply) : LooseText :=
  LooseText.intercalate "\n" ((reply.parts.filterMap Block.text?).filterMap fun
    | .str s => some s
    | _ => none)

/-- Why the model stopped; no reason is the empty one. -/
def reason : Reply → String
  | blocks _ stopReason => stopReason.getD ""
  | refused _ => ""

end Reply

theorem Json.isText_iff {s : String} {v : Json} :
    v.isText s = true ↔ v = .str (.proper s) := by
  cases v with
  | str t => exact beq_iff_eq.trans ⟨congrArg _, Json.str.inj⟩
  | _ => exact iff_of_false Bool.false_ne_true fun same => nomatch same

namespace Agent
open Studio Message

theorem isToolUse_ofFields {fields : Fields} {block : Block}
    (h : Block.ofFields fields = .ok block) :
    block.isToolUse = (Fields.get? fields "type").any (Json.isText "tool_use") := by
  obtain ⟨kind, given, h⟩ := Outcome.bind_ok h
  unfold Block.field at given
  split at given
  · rename_i v present
    cases given
    rw [present, Option.any_some]
    split at h
    · rename_i isText
      obtain ⟨t, _, h⟩ := Outcome.bind_ok h
      cases h
      rw [Json.isText_iff.mp isText]
      rfl
    split at h
    · rename_i isCall
      obtain ⟨id, _, h⟩ := Outcome.bind_ok h
      obtain ⟨name, _, h⟩ := Outcome.bind_ok h
      obtain ⟨input, _, h⟩ := Outcome.bind_ok h
      cases h
      exact isCall.symm
    · rename_i notCall
      cases h
      exact (eq_false_of_ne_true notCall).symm
  · cases given

theorem readBlocks_cons {f : Fields} {rest : List Fields} {blocks : List Block}
    (h : readBlocks (f :: rest) = .ok blocks) :
    ∃ b others, Block.ofFields f = .ok b ∧ readBlocks rest = .ok others ∧ blocks = b :: others := by
  unfold readBlocks at h
  rw [List.mapM_cons] at h
  obtain ⟨b, read, h⟩ := Outcome.bind_ok h
  obtain ⟨others, readRest, h⟩ := Outcome.bind_ok h
  cases h
  exact ⟨b, others, read, readRest, rfl⟩

theorem any_isToolUse_eq {fields : List Fields} {blocks : List Block}
    (h : readBlocks fields = .ok blocks) :
    blocks.any Block.isToolUse =
      fields.any fun f => (Fields.get? f "type").any (Json.isText "tool_use") := by
  induction fields generalizing blocks with
  | nil =>
    cases h
    rfl
  | cons f rest ih =>
    obtain ⟨b, others, read, readRest, rfl⟩ := readBlocks_cons h
    rw [List.any_cons, List.any_cons, isToolUse_ofFields read, ih readRest]

theorem parts_blocks {fields : List Fields} {blocks : List Block}
    (h : readBlocks fields = .ok blocks) (stop : Option String) :
    (Reply.blocks fields stop).parts = blocks := by
  show fields.filterMap _ = blocks
  induction fields generalizing blocks with
  | nil =>
    cases h
    rfl
  | cons f rest ih =>
    obtain ⟨b, others, read, readRest, rfl⟩ := readBlocks_cons h
    rw [List.filterMap_cons_some (b := b) (by rw [read]; rfl), ih readRest]

theorem text_blocks {fields : List Fields} {blocks : List Block} {text : LooseText}
    (h : readBlocks fields = .ok blocks) (joined : joinTexts blocks = .ok text)
    (stop : Option String) : text = (Reply.blocks fields stop).text := by
  unfold Reply.text
  rw [parts_blocks h]
  obtain ⟨strings, read, same⟩ := Outcome.bind_ok joined
  cases same
  clear joined
  congr 1
  generalize blocks.filterMap Block.text? = texts at read
  generalize 0 = start at read
  induction texts generalizing start strings with
  | nil =>
    cases read
    rfl
  | cons t rest ih =>
    rw [List.zipIdx_cons, List.mapM_cons] at read
    obtain ⟨s, first, read⟩ := Outcome.bind_ok read
    obtain ⟨others, later, read⟩ := Outcome.bind_ok read
    cases read
    cases t with
    | str s' =>
      cases first
      rw [ih others (start + 1) later]
      rfl
    | _ => cases first

end Agent
end RayScene
