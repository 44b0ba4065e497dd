import RayScene.Proofs.Agent.Dialogue
import RayScene.Proofs.Outcome

/-!
# Settled conversations

A conversation is settled if neighbouring roles differ and no call is left without its result.
Unlike a dialogue it may hold any other message. Text can be added to it and answers nothing
(`settled_addUserText_iff`); a reply keeps it settled if it has no calls (`settled_reply_iff`) or
the calls are answered (`settled_answered`).
-/

namespace RayScene

namespace Message

/-- The next message has another role, and each call of the assistant has its result there. -/
structure Passes (m next : Message) : Prop where
  roles : Fields.get? m "role" ≠ Fields.get? next "role"
  answered : m.HasRole "assistant" → ∀ id ∈ m.calls, next.HasRole "user" ∧ id ∈ next.answers

/-- Neighbours differ in their roles and no call is left without its result. -/
structure Settled (messages : List Message) : Prop where
  passes : messages.IsChain Passes
  last : ∀ m ∈ messages.getLast?, m.HasRole "assistant" → m.calls = []

def TakesText (messages : List Message) : Prop := ∃ m ∈ messages.getLast?, m.IsTurn

theorem settled_nil : Settled [] where
  passes := .nil
  last m member := by cases member

theorem takesText_append (init : List Message) {last : Message} (turn : last.IsTurn) :
    TakesText (init ++ [last]) :=
  ⟨last, List.getLast?_concat, turn⟩

theorem isTurn_assistant (items : List Json) : (assistant items).IsTurn :=
  .inr (hasRole_assistant items)

theorem isTurn_results (items : List Json) : (user (.arr items)).IsTurn :=
  .inl ⟨hasRole_user _, .inr ⟨items, rfl⟩⟩

theorem role_ne_of_hasRole {m next : Message} {r r' : String} (h : m.HasRole r)
    (h' : next.HasRole r') (different : r ≠ r') :
    Fields.get? m "role" ≠ Fields.get? next "role" := by
  intro same
  rw [h, h'] at same
  cases same
  exact different rfl

theorem passes_of_user {m next : Message} (role : m.HasRole "user")
    (next_role : next.HasRole "assistant") : m.Passes next where
  roles := role_ne_of_hasRole role next_role (by decide)
  answered assistant := absurd assistant (not_assistant role)

/-- A message may follow a settled conversation if the last one passes to it. -/
theorem Settled.append_one {init : List Message} {last next : Message}
    (h : Settled (init ++ [last])) (step : last.Passes next)
    (done : next.HasRole "assistant" → next.calls = []) : Settled (init ++ [last, next]) where
  passes := List.isChain_append_cons_cons.mpr ⟨h.passes, step, .singleton next⟩
  last m member := by
    rw [List.getLast?_append_of_ne_nil _ (List.cons_ne_nil _ _)] at member
    cases member
    exact done

/-- The end of a conversation may be replaced by a user's message with the same role and answers. -/
theorem Settled.replace_last {init : List Message} {last next : Message}
    (h : Settled (init ++ [last])) (role : last.HasRole "user") (role' : next.HasRole "user")
    (same : next.answers = last.answers) : Settled (init ++ [next]) where
  passes := by
    rcases List.eq_nil_or_concat init with rfl | ⟨front, m, rfl⟩
    · exact .singleton next
    · have chain := h.passes
      rw [List.concat_eq_append, List.append_assoc] at chain ⊢
      obtain ⟨before, step, _⟩ := List.isChain_append_cons_cons.mp chain
      refine List.isChain_append_cons_cons.mpr ⟨before, ⟨?_, ?_⟩, .singleton next⟩
      · rw [show Fields.get? next "role" = Fields.get? last "role" from role'.trans role.symm]
        exact step.roles
      · intro assistant id member
        exact ⟨role', same ▸ (step.answered assistant id member).2⟩
  last m member := by
    rw [List.getLast?_append] at member
    cases member
    exact fun wrong => absurd wrong (not_assistant role')

/-- Strings among the blocks of a message are no answers. -/
theorem marks_strings {kind key : String} (strings : List LooseText) :
    marks kind key (strings.map Json.str) = [] := by
  have unmarked : (strings.map Json.str).filter
      (fun b => (b.get? "type").any (Json.isText kind)) = [] := by
    rw [List.filter_eq_nil_iff]
    intro b member
    obtain ⟨s, _, rfl⟩ := List.mem_map.mp member
    exact Bool.false_ne_true
  rw [marks, unmarked]
  rfl

theorem answers_withText {m m' : Message} {text : LooseText} (h : m.withText text = .ok m') :
    m'.answers = m.answers ∧ Fields.get? m' "role" = Fields.get? m "role" ∧
      ∃ items, Fields.get? m' "content" = some (.arr items) := by
  unfold withText at h
  split at h
  · cases h
  rename_i content given
  obtain ⟨items, read, h⟩ := Outcome.bind_ok h
  cases h
  have added : marks "tool_result" "tool_use_id" (items ++ [blockOfText text]) =
      marks "tool_result" "tool_use_id" items := by
    rw [marks_append, marks_text _ (by decide), List.append_nil]
  have old : marks "tool_result" "tool_use_id" items = m.answers := by
    rw [answers, blocks, given]
    cases content with
    | str s =>
      cases read
      exact marks_text _ (by decide) s
    | arr given =>
      cases read
      rfl
    | obj fields =>
      cases read
      exact marks_strings _
    | null | bool b | int n | float x => cases read
  refine ⟨?_, get?_set_other m (by decide) _, _, get?_set_same m "content" _⟩
  rw [answers, blocks, get?_set_same]
  exact added.trans old

/-- Text is added to the last message if that is the user's, and after it otherwise. -/
theorem addUserText_cases {init next : List Message} {last : Message} {prompt : LooseText}
    (added : addUserText prompt (init ++ [last]) = .ok next) :
    (∃ m, last.HasRole "user" ∧ last.withText prompt = .ok m ∧ next = init ++ [m]) ∨
      (Fields.get? last "role" ≠ some (.str "user") ∧
        next = init ++ [last, user (.str prompt)]) := by
  rw [addUserText_append] at added
  obtain ⟨tail, final, rfl⟩ := Outcome.map_ok added
  unfold addUserText at final
  split at final
  · cases final
  rename_i role given
  split at final
  · rename_i isUser
    obtain ⟨m, withText, rfl⟩ := Outcome.map_ok final
    refine .inl ⟨m, ?_, withText, rfl⟩
    rw [HasRole, given]
    cases role with
    | str s => rw [show s = .proper "user" from beq_iff_eq.mp isUser]
    | _ => cases isUser
  · rename_i notUser
    cases final
    refine .inr ⟨fun same => notUser ?_, rfl⟩
    cases given.symm.trans same
    rfl

theorem settled_addUserText {history messages : List Message} {prompt : LooseText}
    (h : Settled history) (added : addUserText prompt history = .ok messages) :
    Settled messages ∧ EndsWithUser messages ∧ TakesText messages := by
  have turn : (user (.str prompt)).IsTurn := .inl ⟨hasRole_user _, .inl ⟨prompt, rfl⟩⟩
  rcases List.eq_nil_or_concat history with rfl | ⟨init, last, rfl⟩
  · cases added
    refine ⟨⟨.singleton _, ?_⟩, ⟨_, rfl, hasRole_user _⟩, _, rfl, turn⟩
    intro m member
    cases member
    exact fun wrong => absurd wrong (not_assistant (hasRole_user _))
  rw [List.concat_eq_append] at h added
  rcases addUserText_cases added with ⟨m, role, withText, rfl⟩ | ⟨notUser, rfl⟩
  · obtain ⟨same, sameRole, items, content⟩ := answers_withText withText
    have role' : m.HasRole "user" := sameRole.trans role
    exact ⟨h.replace_last role role' same, endsWithUser_append init role',
      takesText_append init (.inl ⟨role', .inr ⟨items, content⟩⟩)⟩
  · have passes : last.Passes (user (.str prompt)) := by
      refine ⟨notUser, fun assistant id member => ?_⟩
      rw [h.last last List.getLast?_concat assistant] at member
      cases member
    refine ⟨h.append_one passes fun wrong => absurd wrong (not_assistant (hasRole_user _)), ?_, ?_⟩
    · rw [List.append_cons]
      exact endsWithUser_append _ (hasRole_user _)
    · rw [List.append_cons]
      exact takesText_append _ turn

/-- What was not settled does not become so by adding text. -/
theorem settled_addUserText_iff {history messages : List Message} {prompt : LooseText}
    (added : addUserText prompt history = .ok messages) : Settled messages ↔ Settled history := by
  refine ⟨fun h => ?_, fun h => (settled_addUserText h added).1⟩
  rcases List.eq_nil_or_concat history with rfl | ⟨init, last, rfl⟩
  · exact settled_nil
  rw [List.concat_eq_append] at added ⊢
  rcases addUserText_cases added with ⟨m, role, withText, rfl⟩ | ⟨_, rfl⟩
  · obtain ⟨same, sameRole, _⟩ := answers_withText withText
    exact h.replace_last (sameRole.trans role) role same.symm
  · obtain ⟨before, step, _⟩ := List.isChain_append_cons_cons.mp h.passes
    refine ⟨before, fun m member assistant => ?_⟩
    rw [List.getLast?_concat] at member
    cases member
    have silent : (user (.str prompt)).answers = [] := rfl
    refine List.eq_nil_iff_forall_not_mem.mpr fun id call => ?_
    have answer := (step.answered assistant id call).2
    rw [silent] at answer
    cases answer

/-- A settled conversation that waits for the assistant stays settled with a reply that calls no
tool, and with no other one. -/
theorem settled_reply_iff {messages : List Message} (h : Settled messages)
    (waits : EndsWithUser messages) (items : List Json) :
    Settled (messages ++ [assistant items]) ↔ (assistant items).calls = [] := by
  obtain ⟨init, last, rfl, role⟩ := last_of_endsWithUser waits
  constructor
  · intro settled
    exact settled.last _ List.getLast?_concat (hasRole_assistant items)
  · intro noCalls
    rw [List.append_assoc]
    exact h.append_one (passes_of_user role (hasRole_assistant items)) fun _ => noCalls

theorem settled_answered {messages : List Message} (h : Settled messages)
    (waits : EndsWithUser messages) {blocks : List Block} {results : List ToolResult}
    (each : results.length = (blocks.filterMap Block.callId?).length) :
    Settled (answered messages blocks results) ∧
      EndsWithUser (answered messages blocks results) ∧
      TakesText (answered messages blocks results) := by
  obtain ⟨init, last, rfl, role⟩ := last_of_endsWithUser waits
  have same : (user (.arr (List.zipWith ToolResult.block (blocks.filterMap Block.callId?)
      results))).answers = (assistant (blocks.filterMap Block.kept?)).calls := by
    show marks _ _ (List.zipWith _ _ _) = marks _ _ (blocks.filterMap Block.kept?)
    rw [marks_results each, marks_kept]
  refine ⟨⟨?_, ?_⟩, ?_, ?_⟩
  · rw [answered, List.append_assoc]
    refine List.isChain_append_cons_cons.mpr ⟨h.passes, passes_of_user role (hasRole_assistant _),
      List.isChain_pair.mpr ⟨role_ne_of_hasRole (hasRole_assistant _) (hasRole_user _)
        (by decide), ?_⟩⟩
    intro _ id member
    exact ⟨hasRole_user _, same ▸ member⟩
  · intro m member
    rw [answered, List.getLast?_append_of_ne_nil _ (List.cons_ne_nil _ _)] at member
    cases member
    exact fun wrong => absurd wrong (not_assistant (hasRole_user _))
  · rw [answered, List.append_cons]
    exact endsWithUser_append _ (hasRole_user _)
  · rw [answered, List.append_cons]
    exact takesText_append _ (isTurn_results _)

end Message

end RayScene
