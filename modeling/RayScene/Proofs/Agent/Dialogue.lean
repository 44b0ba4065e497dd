import Mathlib.Data.List.Chain
import RayScene.Agent.Tool

/-!
# Dialogues

In a dialogue user and assistant take turns, and the calls of an assistant are answered by the user
right away, each by a result with its id and in the same order. A prompt keeps a dialogue well
formed (`wellFormed_addUserText`), and so do a reply of the model and the results of its calls
(`wellFormed_turn`).
-/

namespace RayScene

def Block.callId? : Block → Option Json
  | toolUse id _ _ => some id
  | _ => none

namespace Message

def HasRole (m : Message) (role : String) : Prop := Fields.get? m "role" = some (.str role)

/-- The blocks of a message; a text has none. -/
def blocks (m : Message) : List Json :=
  match Fields.get? m "content" with
  | some (.arr items) => items
  | _ => []

/-- The values of a key in the blocks of a kind. -/
def marks (kind key : String) (blocks : List Json) : List (Option Json) :=
  (blocks.filter fun b => (b.get? "type").any (Json.isText kind)).map fun b => b.get? key

def calls (m : Message) : List (Option Json) := marks "tool_use" "id" m.blocks

def answers (m : Message) : List (Option Json) := marks "tool_result" "tool_use_id" m.blocks

/-- A message of the user, a text or a list of blocks, or one of the assistant. -/
def IsTurn (m : Message) : Prop :=
  (m.HasRole "user" ∧ ((∃ text, Fields.get? m "content" = some (.str text)) ∨
    ∃ items, Fields.get? m "content" = some (.arr items))) ∨ m.HasRole "assistant"

/-- The next message has the other role, and answers the calls if there are any. -/
structure Follows (m next : Message) : Prop where
  roles : (m.HasRole "user" ∧ next.HasRole "assistant") ∨
    (m.HasRole "assistant" ∧ next.HasRole "user")
  answered : m.HasRole "assistant" → m.calls ≠ [] → next.answers = m.calls

structure WellFormed (messages : List Message) : Prop where
  turns : ∀ m ∈ messages, m.IsTurn
  follows : messages.IsChain Follows
  answered : ∀ m ∈ messages.getLast?, m.HasRole "assistant" → m.calls = []

def EndsWithUser (messages : List Message) : Prop := ∃ m ∈ messages.getLast?, m.HasRole "user"

theorem get?_set_same (fields : Fields) (key : LooseText) (v : Json) :
    Fields.get? (Fields.set fields key v) key = some v := by
  induction fields with
  | nil => exact if_pos rfl
  | cons entry rest ih =>
    obtain ⟨k, old⟩ := entry
    by_cases same : k = key
    · rw [Fields.set, if_pos same, Fields.get?, if_pos same]
    · rw [Fields.set, if_neg same, Fields.get?, if_neg same, ih]

theorem get?_set_other (fields : Fields) {key other : LooseText} (different : key ≠ other)
    (v : Json) : Fields.get? (Fields.set fields key v) other = Fields.get? fields other := by
  induction fields with
  | nil => exact if_neg different
  | cons entry rest ih =>
    obtain ⟨k, old⟩ := entry
    by_cases same : k = key
    · have apart : k ≠ other := same ▸ different
      rw [Fields.set, if_pos same, Fields.get?, if_neg apart, Fields.get?, if_neg apart]
    · rw [Fields.set, if_neg same, Fields.get?, ih, Fields.get?]

theorem hasRole_unique {m : Message} {r r' : String} (h : m.HasRole r) (h' : m.HasRole r') :
    r = r' := by
  have same := h.symm.trans h'
  cases same
  rfl

theorem marks_append (kind key : String) (as bs : List Json) :
    marks kind key (as ++ bs) = marks kind key as ++ marks kind key bs := by
  rw [marks, List.filter_append, List.map_append]
  rfl

theorem marks_text {kind : String} (key : String) (different : kind ≠ "text") (text : LooseText) :
    marks kind key [blockOfText text] = [] := by
  have other : ((blockOfText text).get? "type").any (Json.isText kind) = false := by
    show (LooseText.proper "text" == LooseText.proper kind) = false
    exact beq_eq_false_iff_ne.mpr fun same => different (LooseText.proper.inj same).symm
  rw [marks, List.filter_cons_of_neg (by rw [other]; decide)]
  rfl

/-- The calls in the blocks of a reply that are kept are the calls of the reply. -/
theorem marks_kept (blocks : List Block) :
    marks "tool_use" "id" (blocks.filterMap Block.kept?) =
      (blocks.filterMap Block.callId?).map some := by
  induction blocks with
  | nil => rfl
  | cons b rest ih =>
    cases b with
    | text t => exact ih
    | toolUse id name input => exact congrArg (some id :: ·) ih
    | other => exact ih

theorem marks_results {ids : List Json} {results : List ToolResult}
    (each : results.length = ids.length) :
    marks "tool_result" "tool_use_id" (List.zipWith ToolResult.block ids results) =
      ids.map some := by
  induction ids generalizing results with
  | nil => rfl
  | cons id ids ih =>
    cases results with
    | nil => cases each
    | cons r results => exact congrArg (some id :: ·) (ih (Nat.succ.inj each))

/-! ### Turns of the user -/

theorem withText_ok {m : Message} (turn : m.IsTurn) (role : m.HasRole "user") (text : LooseText) :
    ∃ m', m.withText text = .ok m' ∧ m'.HasRole "user" ∧ m'.IsTurn ∧ m'.answers = m.answers := by
  have content : ∃ old, Fields.get? m "content" = some old ∧
      ∃ items, contentBlocks old = .ok items ∧
        marks "tool_result" "tool_use_id" items = m.answers := by
    rcases turn with ⟨_, ⟨t, given⟩ | ⟨items, given⟩⟩ | assistant
    · refine ⟨_, given, [blockOfText t], rfl, ?_⟩
      rw [marks_text _ (by decide), answers, blocks, given]
      rfl
    · refine ⟨_, given, items, rfl, ?_⟩
      rw [answers, blocks, given]
    · exact absurd (hasRole_unique role assistant) (by decide)
  obtain ⟨old, given, items, read, same⟩ := content
  have role' : HasRole (Fields.set m "content" (.arr (items ++ [blockOfText text]))) "user" :=
    (get?_set_other m (by decide) _).trans role
  refine ⟨Fields.set m "content" (.arr (items ++ [blockOfText text])), ?_, role', ?_, ?_⟩
  · rw [withText, given]
    dsimp only
    rw [read]
    rfl
  · exact .inl ⟨role', .inr ⟨_, get?_set_same m "content" _⟩⟩
  · rw [answers, blocks, get?_set_same, marks_append, marks_text _ (by decide), List.append_nil,
      same]

theorem hasRole_user (content : Json) : (Message.user content).HasRole "user" := rfl

theorem hasRole_assistant (items : List Json) : (Message.assistant items).HasRole "assistant" := rfl

theorem not_assistant {m : Message} (h : m.HasRole "user") : ¬ m.HasRole "assistant" :=
  fun h' => absurd (hasRole_unique h h') (by decide)

theorem endsWithUser_append (init : List Message) {last : Message} (h : last.HasRole "user") :
    EndsWithUser (init ++ [last]) :=
  ⟨last, List.getLast?_concat, h⟩

theorem last_of_endsWithUser {messages : List Message} (h : EndsWithUser messages) :
    ∃ init last, messages = init ++ [last] ∧ last.HasRole "user" := by
  obtain ⟨last, final, role⟩ := h
  obtain ⟨init, rfl⟩ := List.getLast?_eq_some_iff.mp final
  exact ⟨init, last, rfl, role⟩

theorem WellFormed.append {init more : List Message} {last next : Message}
    (h : WellFormed (init ++ [last])) (step : last.Follows next)
    (rest : WellFormed (next :: more)) : WellFormed (init ++ last :: next :: more) where
  turns m member := by
    rcases List.mem_append.mp member with before | after
    · exact h.turns m (List.mem_append_left _ before)
    · rcases List.mem_cons.mp after with rfl | new
      · exact h.turns m (List.mem_append_right _ (List.mem_singleton_self m))
      · exact rest.turns m new
  follows := List.isChain_append_cons_cons.mpr ⟨h.follows, step, rest.follows⟩
  answered m member := by
    rw [List.getLast?_append_of_ne_nil _ (List.cons_ne_nil _ _), List.getLast?_cons_cons] at member
    exact rest.answered m member

theorem wellFormed_user {m : Message} (role : m.HasRole "user") (turn : m.IsTurn) :
    WellFormed [m] where
  turns m' member := by
    rw [List.mem_singleton.mp member]
    exact turn
  follows := .singleton m
  answered m' member := by
    cases member
    exact fun wrong => absurd wrong (not_assistant role)

/-- The last message may be replaced by one of the same role with the same answers. -/
theorem WellFormed.replace_last {init : List Message} {last next : Message}
    (h : WellFormed (init ++ [last])) (role : last.HasRole "user") (role' : next.HasRole "user")
    (turn : next.IsTurn) (same : next.answers = last.answers) : WellFormed (init ++ [next]) where
  turns m member := by
    rcases List.mem_append.mp member with before | new
    · exact h.turns m (List.mem_append_left _ before)
    · rw [List.mem_singleton.mp new]
      exact turn
  follows := by
    rcases List.eq_nil_or_concat init with rfl | ⟨front, m, rfl⟩
    · exact .singleton next
    · have chain := h.follows
      rw [List.concat_eq_append, List.append_assoc] at chain ⊢
      obtain ⟨before, step, _⟩ := List.isChain_append_cons_cons.mp chain
      refine List.isChain_append_cons_cons.mpr ⟨before, ⟨?_, ?_⟩, .singleton next⟩
      · rcases step.roles with ⟨_, wrong⟩ | ⟨assistant, _⟩
        · exact absurd wrong (not_assistant role)
        · exact .inr ⟨assistant, role'⟩
      · intro assistant calls
        rw [same]
        exact step.answered assistant calls
  answered m member := by
    rw [List.getLast?_append] at member
    cases member
    exact fun wrong => absurd wrong (not_assistant role')

theorem addUserText_append (text : LooseText) (init : List Message) (last : Message) :
    addUserText text (init ++ [last]) = (addUserText text [last]).map (init ++ ·) := by
  induction init with
  | nil =>
    rw [List.nil_append]
    cases addUserText text [last] <;> rfl
  | cons m init ih =>
    have step : addUserText text (m :: (init ++ [last])) =
        (addUserText text (init ++ [last])).map (m :: ·) := by
      cases init <;> rfl
    rw [List.cons_append, step, ih]
    cases addUserText text [last] <;> rfl

theorem addUserText_user {last : Message} (role : last.HasRole "user") (text : LooseText) :
    addUserText text [last] = (last.withText text).map fun m => [m] := by
  unfold addUserText
  rw [show Fields.get? last "role" = some (.str "user") from role]
  exact if_pos (by decide)

theorem addUserText_assistant {last : Message} (role : last.HasRole "assistant")
    (text : LooseText) : addUserText text [last] = .ok [last, user (.str text)] := by
  unfold addUserText
  rw [show Fields.get? last "role" = some (.str "assistant") from role]
  exact if_neg (by decide)

/-- A prompt can be added to every dialogue. The result is a dialogue that ends with the user. -/
theorem wellFormed_addUserText {history : List Message} (h : WellFormed history)
    (prompt : LooseText) :
    ∃ messages, addUserText prompt history = .ok messages ∧ WellFormed messages ∧
      EndsWithUser messages := by
  have turn : (user (.str prompt)).IsTurn := .inl ⟨hasRole_user _, .inl ⟨prompt, rfl⟩⟩
  rcases List.eq_nil_or_concat history with rfl | ⟨init, last, rfl⟩
  · exact ⟨[user (.str prompt)], rfl, wellFormed_user (hasRole_user _) turn, _, rfl, hasRole_user _⟩
  rw [List.concat_eq_append] at h ⊢
  rw [addUserText_append]
  have lastTurn := h.turns last (List.mem_append_right _ (List.mem_singleton_self last))
  rcases lastTurn with ⟨role, content⟩ | role
  · obtain ⟨m, added, role', turn', same⟩ := withText_ok (.inl ⟨role, content⟩) role prompt
    refine ⟨init ++ [m], ?_, h.replace_last role role' turn' same, endsWithUser_append init role'⟩
    rw [addUserText_user role, added]
    rfl
  · refine ⟨init ++ [last, user (.str prompt)], ?_, ?_, ?_⟩
    · rw [addUserText_assistant role]
      rfl
    · refine h.append ⟨.inr ⟨role, hasRole_user _⟩, ?_⟩ (wellFormed_user (hasRole_user _) turn)
      intro assistant calls
      exact absurd (h.answered last (by rw [List.getLast?_append]; rfl) assistant) calls
    · rw [List.append_cons]
      exact endsWithUser_append _ (hasRole_user _)

/-! ### Turns of the model -/

def answered (messages : List Message) (blocks : List Block) (results : List ToolResult) :
    List Message :=
  messages ++ [assistant (blocks.filterMap Block.kept?),
    user (.arr (List.zipWith ToolResult.block (blocks.filterMap Block.callId?) results))]

/-- A reply and the results of its calls, one for each call, keep a dialogue that waits for the
assistant. -/
theorem wellFormed_answered {messages : List Message} (h : WellFormed messages)
    (waits : EndsWithUser messages) {blocks : List Block} {results : List ToolResult}
    (each : results.length = (blocks.filterMap Block.callId?).length) :
    WellFormed (answered messages blocks results) ∧
      EndsWithUser (answered messages blocks results) := by
  obtain ⟨init, last, rfl, role⟩ := last_of_endsWithUser waits
  have same : (user (.arr (List.zipWith ToolResult.block (blocks.filterMap Block.callId?)
      results))).answers = (assistant (blocks.filterMap Block.kept?)).calls := by
    show marks _ _ (List.zipWith _ _ _) = marks _ _ (blocks.filterMap Block.kept?)
    rw [marks_results each, marks_kept]
  have pair : WellFormed [assistant (blocks.filterMap Block.kept?),
      user (.arr (List.zipWith ToolResult.block (blocks.filterMap Block.callId?) results))] := by
    have turn : ∀ items, (user (.arr items)).IsTurn := fun items =>
      .inl ⟨hasRole_user _, .inr ⟨items, rfl⟩⟩
    refine ⟨?_, ?_, ?_⟩
    · intro m member
      rcases List.mem_cons.mp member with rfl | member
      · exact .inr (hasRole_assistant _)
      · rw [List.mem_singleton.mp member]
        exact turn _
    · exact List.isChain_pair.mpr ⟨.inr ⟨hasRole_assistant _, hasRole_user _⟩, fun _ _ => same⟩
    · intro m member
      cases member
      exact fun wrong => absurd wrong (not_assistant (hasRole_user _))
  constructor
  · rw [answered, List.append_assoc]
    exact h.append ⟨.inl ⟨role, hasRole_assistant _⟩,
      fun wrong => absurd wrong (not_assistant role)⟩ pair
  · rw [answered, List.append_cons]
    exact endsWithUser_append _ (hasRole_user _)

end Message

end RayScene
