import RayScene.Proofs.Agent.Course
import RayScene.Proofs.Agent.Settled

/-!
# Conversations that can go on

From a settled history a run returns a settled conversation, unless its last reply holds a call and
does not stop for it (`run_settled_iff`).
-/

namespace RayScene

/-- The model stops for another reason although it calls a tool. -/
def Reply.LeavesCalls : Reply → Prop
  | blocks fields stopReason => stopReason ≠ some "tool_use" ∧
      ∃ block ∈ fields, (Fields.get? block "type").any (Json.isText "tool_use") = true
  | refused _ => False

namespace Agent
open Studio Message

theorem any_isToolUse {fields : List Fields} {blocks : List Block}
    (h : readBlocks fields = .ok blocks) :
    blocks.any Block.isToolUse = true ↔
      ∃ block ∈ fields, (Fields.get? block "type").any (Json.isText "tool_use") = true := by
  rw [any_isToolUse_eq h, List.any_eq_true]

theorem calls_eq_nil_iff (blocks : List Block) :
    (assistant (blocks.filterMap Block.kept?)).calls = [] ↔
      ¬ blocks.any Block.isToolUse = true := by
  rw [show (assistant (blocks.filterMap Block.kept?)).calls =
    marks "tool_use" "id" (blocks.filterMap Block.kept?) from rfl, marks_kept,
    List.map_eq_nil_iff, List.filterMap_eq_nil_iff, List.any_eq_true]
  constructor
  · rintro noCalls ⟨b, member, calls⟩
    cases b with
    | toolUse id name input => cases noCalls _ member
    | text t => cases calls
    | other => cases calls
  · intro noCalls b member
    cases b with
    | toolUse id name input => exact absurd ⟨_, member, rfl⟩ noCalls
    | text t => rfl
    | other => rfl

/-- A settled conversation that is gone on with is returned settled if and only if no reply to it
leaves its calls. -/
theorem converse_settled (session : Session) (remaining : Nat) :
    ∀ (w : World) (turns : Nat) (rendered : List Json) {messages : List Message} {r : AgentResult}
      {w' : World}, Settled messages → EndsWithUser messages → TakesText messages →
      runIn w (converse session turns rendered messages remaining) = (.ok r, w') →
      TakesText r.messages ∧ ∃ sent, w'.requests = w.requests ++ sent ∧
        (Settled r.messages ↔ ∀ reply ∈ w.replies.take sent.length, ¬ reply.LeavesCalls) := by
  induction remaining with
  | zero =>
    intro w turns rendered messages r w' settled _ takes h
    cases h
    exact ⟨takes, [], (List.append_nil _).symm,
      fun _ reply member => absurd member List.not_mem_nil, fun _ => settled⟩
  | succ remaining ih =>
    intro w turns rendered messages r w' settled waits takes h
    obtain ⟨fields, stop, blocks, w₁, replies, read, requests, _, step⟩ := converse_returns h
    rcases step with ⟨goesOn, done, w₂, executes, calls, later⟩ | ⟨ends, same, final⟩
    · -- The model stopped for its calls, so only the replies after this one count.
      have stops : stop = some "tool_use" := beq_iff_eq.mp (Bool.and_eq_true_iff.mp goesOn).1
      obtain ⟨settled', waits', takes'⟩ := settled_answered settled waits (length_results calls)
      obtain ⟨taken, sent, more, iff⟩ := ih w₂ (turns + 1) _ settled' waits' takes' later
      rw [World.requests_of_client executes.client] at more
      rw [World.replies_of_client executes.client] at iff
      refine ⟨taken, ⟨session.model, session.maxTokens, messages⟩ :: sent, ?_, ?_⟩
      · rw [more, requests, List.append_assoc, List.singleton_append]
      · rw [iff, replies, List.length_cons, List.take_succ_cons, List.forall_mem_cons]
        exact (and_iff_right fun leaves => leaves.1 stops).symm
    · subst same final
      refine ⟨takesText_append _ (isTurn_assistant _), _, requests, ?_⟩
      rw [settled_reply_iff settled waits, calls_eq_nil_iff, replies, List.length_singleton,
        List.take_succ_cons, List.take_zero, List.forall_mem_singleton]
      constructor
      · rintro noCalls ⟨_, calls⟩
        exact noCalls ((any_isToolUse read).mpr calls)
      · intro stays calls
        refine stays ⟨fun stops => ?_, (any_isToolUse read).mp calls⟩
        rw [any_isToolUse_eq read] at calls
        have goesOn : (Reply.blocks fields stop).goesOn = true :=
          Bool.and_eq_true_iff.mpr ⟨beq_iff_eq.mpr stops, calls⟩
        cases goesOn.symm.trans ends

theorem no_first {messages : List Message} :
    ∀ first ∈ ([] : List Request).head?, first.messages = messages := by
  intro first member
  cases member

theorem converse_adds (session : Session) (remaining : Nat) :
    ∀ (w : World) (turns : Nat) (rendered : List Json) (messages : List Message),
      ∃ sent, (runIn w (converse session turns rendered messages remaining)).2.requests =
        w.requests ++ sent := by
  induction remaining with
  | zero => exact fun w _ _ _ => ⟨[], (List.append_nil _).symm⟩
  | succ remaining ih =>
    intro w turns rendered messages
    rcases converse_cases session remaining turns rendered messages w with
      ⟨_, same⟩ | last | ⟨fields, stop, blocks, results, names, w', _, _, _, requests, went⟩
    · rw [same]
      exact ⟨[], (List.append_nil _).symm⟩
    · exact ⟨_, last⟩
    · obtain ⟨sent, more⟩ :=
        ih w' (turns + 1) (rendered ++ names) (answered messages blocks results)
      rw [went, more, requests, List.append_assoc]
      exact ⟨_, rfl⟩

theorem converse_first (session : Session) (remaining turns : Nat) (rendered : List Json)
    (messages : List Message) (w : World) :
    ∃ sent, (runIn w (converse session turns rendered messages remaining)).2.requests =
        w.requests ++ sent ∧ (∀ first ∈ sent.head?, first.messages = messages) ∧
      (0 < remaining → w.Reaches → sent ≠ []) := by
  cases remaining with
  | zero =>
    exact ⟨[], (List.append_nil _).symm, no_first,
      fun positive => absurd positive (Nat.lt_irrefl 0)⟩
  | succ remaining =>
    rcases converse_cases session remaining turns rendered messages w with
      ⟨unreached, same⟩ | last | ⟨fields, stop, blocks, results, names, w', _, _, _, requests, went⟩
    · rw [same]
      exact ⟨[], (List.append_nil _).symm, no_first,
        fun _ reaches => absurd reaches unreached⟩
    · refine ⟨_, last, ?_, fun _ _ => List.cons_ne_nil _ _⟩
      intro first member
      cases member
      rfl
    · obtain ⟨sent, more⟩ := converse_adds session remaining w' (turns + 1) (rendered ++ names)
        (answered messages blocks results)
      rw [went, more, requests, List.append_assoc]
      refine ⟨_, rfl, ?_, fun _ _ => List.cons_ne_nil _ _⟩
      intro first member
      cases member
      rfl

/-- A run goes on with the history and the prompt, if there is a way to the model. -/
theorem run_cases {prompt : LooseText} {history messages : List Message}
    (added : addUserText prompt history = .ok messages) (model : Option LooseText)
    (maxTurns : Option Int) (w : World) :
    (¬ w.Reaches ∧ runIn w (run prompt model maxTurns history) = (.error .noConnection, w)) ∨
      ∃ session w₁, w₁.requests = w.requests ∧ w₁.replies = w.replies ∧ w₁.Reaches ∧
        runIn w (run prompt model maxTurns history) =
          runIn w₁ (converse session 0 [] messages (turnCap w maxTurns)) := by
  unfold run
  rw [runIn_bind_ok (runIn_read w World.settings)]
  dsimp only
  rcases connect_cases w with ⟨absent, impossible, ended⟩ | ⟨client, connected, requests, replies⟩
  · rw [runIn_bind_error ended]
    exact .inl ⟨not_reaches absent impossible, rfl⟩
  · rw [runIn_bind_ok connected, runIn_bind_ok (runIn_ofExcept_ok added _)]
    exact .inr ⟨_, { w with client := some client }, requests, replies, .inl rfl, rfl⟩

theorem run_first {prompt : LooseText} {history messages : List Message}
    (added : addUserText prompt history = .ok messages) (model : Option LooseText)
    (maxTurns : Option Int) (w : World) :
    ∃ sent, (runIn w (run prompt model maxTurns history)).2.requests = w.requests ++ sent ∧
      (∀ first ∈ sent.head?, first.messages = messages) ∧
      (0 < turnCap w maxTurns → w.Reaches → sent ≠ []) := by
  rcases run_cases added model maxTurns w with
    ⟨unreached, ended⟩ | ⟨session, w₁, requests, _, reaches, went⟩
  · rw [ended]
    exact ⟨[], (List.append_nil _).symm, no_first,
      fun _ reaches => absurd reaches unreached⟩
  · obtain ⟨sent, more, starts, atLeast⟩ :=
      converse_first session (turnCap w maxTurns) 0 [] messages w₁
    exact ⟨sent, by rw [went, more, requests], starts, fun positive _ => atLeast positive reaches⟩

/-! ### The next run -/

theorem addUserText_ok {messages : List Message} (takes : TakesText messages)
    (prompt : LooseText) : ∃ next, addUserText prompt messages = .ok next := by
  obtain ⟨last, final, turn⟩ := takes
  obtain ⟨init, rfl⟩ := List.getLast?_eq_some_iff.mp final
  rw [addUserText_append]
  rcases turn with ⟨role, content⟩ | role
  · obtain ⟨m, added, _⟩ := withText_ok (.inl ⟨role, content⟩) role prompt
    rw [addUserText_user role, added]
    exact ⟨_, rfl⟩
  · rw [addUserText_assistant role]
    exact ⟨_, rfl⟩

/-- Whatever the model replies, a run that goes on with a settled history returns a conversation
to which text can be added. It is settled if and only if no reply of the run leaves its calls, and
so is the first request of whatever run goes on with it. -/
theorem run_settled_iff {history : List Message} (h : Settled history) {prompt : LooseText}
    {model : Option LooseText} {maxTurns : Option Int} {w w' : World} {r : AgentResult}
    (returned : runIn w (run prompt model maxTurns history) = (.ok r, w')) :
    ∃ sent, w'.requests = w.requests ++ sent ∧
      (Settled r.messages ↔ ∀ reply ∈ w.replies.take sent.length, ¬ reply.LeavesCalls) ∧
      ∀ (prompt : LooseText) (model : Option LooseText) (maxTurns : Option Int) (v : World),
        ∃ messages sent, addUserText prompt r.messages = .ok messages ∧
          (runIn v (run prompt model maxTurns r.messages)).2.requests = v.requests ++ sent ∧
          (∀ first ∈ sent.head?, first.messages = messages) ∧
          (0 < turnCap v maxTurns → v.Reaches → sent ≠ []) ∧
          (Settled messages ↔ Settled r.messages) := by
  have start : ∃ messages, addUserText prompt history = .ok messages := by
    cases added : addUserText prompt history with
    | ok messages => exact ⟨messages, rfl⟩
    | error defect =>
      unfold run at returned
      rw [runIn_bind_ok (runIn_read w World.settings)] at returned
      dsimp only at returned
      rcases connect_cases w with ⟨_, _, ended⟩ | ⟨client, connected, _⟩
      · rw [runIn_bind_error ended] at returned
        cases returned
      · rw [runIn_bind_ok connected, runIn_bind_error (runIn_ofExcept_error added _)] at returned
        cases returned
  obtain ⟨messages, added⟩ := start
  rcases run_cases added model maxTurns w with
    ⟨_, ended⟩ | ⟨session, w₁, requests, replies, _, went⟩
  · rw [ended] at returned
    cases returned
  rw [went] at returned
  obtain ⟨settled, waits, takes⟩ := settled_addUserText h added
  obtain ⟨taken, sent, more, iff⟩ := converse_settled session _ w₁ 0 [] settled waits takes returned
  rw [requests] at more
  rw [replies] at iff
  refine ⟨sent, more, iff, fun prompt model maxTurns v => ?_⟩
  obtain ⟨next, added⟩ := addUserText_ok taken prompt
  obtain ⟨sent, more, starts, atLeast⟩ := run_first added model maxTurns v
  exact ⟨next, sent, added, more, starts, atLeast, settled_addUserText_iff added⟩

/-- A dialogue that waits for the model is gone on with, over a call and its result. -/
theorem run_settled_pending :
    Settled pendingDialogue ∧ ∃ r w',
      runIn (replyingWorld callThenAnswer) (run "Go on" none none pendingDialogue) = (.ok r, w') ∧
      Settled r.messages := by
  have start : Settled [user (.str "A ball")] := by
    refine ⟨.singleton _, fun m member => ?_⟩
    cases member
    exact fun wrong => absurd wrong (not_assistant (hasRole_user _))
  have pending : Settled pendingDialogue := (settled_answered start ⟨_, rfl, hasRole_user _⟩ rfl).1
  have returned : ∃ r w', runIn (replyingWorld callThenAnswer)
      (run "Go on" none none pendingDialogue) = (.ok r, w') := ⟨_, _, rfl⟩
  obtain ⟨r, w', returned⟩ := returned
  obtain ⟨sent, _, iff, _⟩ := run_settled_iff pending returned
  refine ⟨pending, r, w', returned, iff.mpr fun reply member => ?_⟩
  -- The first reply stops for its call, and the second one has none.
  have given := List.mem_of_mem_take member
  rcases List.mem_cons.mp given with rfl | given
  · exact fun leaves => leaves.1 rfl
  · rw [List.mem_singleton.mp given]
    rintro ⟨_, block, isBlock, calls⟩
    rw [List.mem_singleton.mp isBlock] at calls
    exact absurd calls (by decide)

def cutOff : List Reply :=
  [.blocks [[("type", .str "text"), ("text", .str "Rendering.")],
    [("type", .str "tool_use"), ("id", .str "t1"), ("name", .str "read_image"), ("input", .null)]]
    (some "max_tokens")]

/-- The call in a reply that is cut off is kept, and no result follows it. -/
theorem run_cutOff_not_settled :
    ∃ r w', runIn (replyingWorld cutOff) (run "A ball" none none []) = (.ok r, w') ∧
      ¬ Settled r.messages := by
  refine ⟨_, _, rfl, ?_⟩
  intro settled
  exact absurd (settled.last _ rfl rfl) (by decide)

end Agent
end RayScene
