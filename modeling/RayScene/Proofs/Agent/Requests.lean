import RayScene.Proofs.Agent.Turns

/-!
# The requests of the agent

Every request carries a dialogue that ends with the user, and each one is the one before it followed
by the reply to that and the results of the calls in the reply (`run_requests`).
-/

namespace RayScene

namespace Agent
open Studio Message

/-- A request goes on from another one: with the reply to it and the results of the calls in the
reply. -/
def Continues (reply : Option Reply) (r next : Request) : Prop :=
  ∃ fields stop blocks results, reply = some (.blocks fields stop) ∧
    readBlocks fields = .ok blocks ∧ results.length = (blocks.filterMap Block.callId?).length ∧
    next.messages = answered r.messages blocks results

/-- The requests that are sent in a row from these messages on, while these are the replies. -/
structure Exchange (replies : List Reply) (messages : List Message) (sent : List Request) :
    Prop where
  starts : ∀ r ∈ sent.head?, r.messages = messages
  wellFormed : ∀ r ∈ sent, WellFormed r.messages ∧ EndsWithUser r.messages
  continues : ∀ k r next, sent[k]? = some r → sent[k + 1]? = some next →
    Continues replies[k]? r next

theorem exchange_nil (replies : List Reply) (messages : List Message) :
    Exchange replies messages [] where
  starts r member := by cases member
  wellFormed r member := absurd member List.not_mem_nil
  continues k r next first := by cases first

theorem Exchange.cons {replies : List Reply} {fields : List Fields} {stop : Option String}
    {blocks : List Block} {results : List ToolResult} {r : Request} {sent : List Request}
    (h : WellFormed r.messages) (waits : EndsWithUser r.messages)
    (read : readBlocks fields = .ok blocks)
    (each : results.length = (blocks.filterMap Block.callId?).length)
    (rest : Exchange replies (answered r.messages blocks results) sent) :
    Exchange (.blocks fields stop :: replies) r.messages (r :: sent) where
  starts r' member := by
    cases member
    rfl
  wellFormed r' member := by
    rcases List.mem_cons.mp member with rfl | later
    · exact ⟨h, waits⟩
    · exact rest.wellFormed r' later
  continues k r' next first second := by
    cases k with
    | zero =>
      cases first
      have start : next ∈ sent.head? := by
        rw [List.head?_eq_getElem?]
        exact second
      exact ⟨fields, stop, blocks, results, rfl, read, each, rest.starts next start⟩
    | succ k => exact rest.continues k r' next first second

theorem exchange_single {r : Request} (h : WellFormed r.messages) (waits : EndsWithUser r.messages)
    (replies : List Reply) : Exchange replies r.messages [r] where
  starts r' member := by
    cases member
    rfl
  wellFormed r' member := by
    rw [List.mem_singleton.mp member]
    exact ⟨h, waits⟩
  continues k r' next first second := by cases second

/-- A turn sends no request, or one request and ends, or one request whose reply is answered before
the next turn. -/
theorem converse_cases (session : Session) (remaining turns : Nat) (rendered : List Json)
    (messages : List Message) (w : World) :
    (¬ w.Reaches ∧ (runIn w (converse session turns rendered messages (remaining + 1))).2 = w) ∨
      (runIn w (converse session turns rendered messages (remaining + 1))).2.requests =
        w.requests ++ [⟨session.model, session.maxTokens, messages⟩] ∨
      ∃ fields stop blocks results names w',
        w.replies = .blocks fields stop :: w'.replies ∧ readBlocks fields = .ok blocks ∧
        results.length = (blocks.filterMap Block.callId?).length ∧
        w'.requests = w.requests ++ [⟨session.model, session.maxTokens, messages⟩] ∧
        runIn w (converse session turns rendered messages (remaining + 1)) =
          runIn w' (converse session (turns + 1) (rendered ++ names)
            (answered messages blocks results) remaining) := by
  rcases turn_cases session remaining turns rendered messages w with
    ⟨unreached, ended⟩ | ⟨w₁, _, requests, ⟨e, w₂, ended, kept⟩ |
      ⟨fields, stop, blocks, replies, read, step⟩⟩
  · rw [ended]
    exact .inl ⟨unreached, rfl⟩
  · rw [ended]
    exact .inr (.inl ((World.requests_of_client kept).trans requests))
  right
  rcases step with ⟨_, done, w₂, executes, calls, went⟩ | ⟨_, ended⟩
  · refine .inr ⟨fields, stop, blocks, done.map Prod.snd, _, w₂, ?_, read, length_results calls,
      (World.requests_of_client executes.client).trans requests, went⟩
    rw [replies, World.replies_of_client executes.client]
  · rw [ended]
    exact .inl requests

theorem converse_requests (session : Session) (remaining : Nat) :
    ∀ (w : World) (turns : Nat) (rendered : List Json) {messages : List Message},
      WellFormed messages → EndsWithUser messages →
      ∃ sent, (runIn w (converse session turns rendered messages remaining)).2.requests =
          w.requests ++ sent ∧
        sent.length ≤ remaining ∧ (0 < remaining → w.Reaches → sent ≠ []) ∧
        Exchange w.replies messages sent := by
  induction remaining with
  | zero =>
    intro w turns rendered messages _ _
    exact ⟨[], (List.append_nil _).symm, Nat.le_refl 0,
      fun positive => absurd positive (Nat.lt_irrefl 0), exchange_nil _ _⟩
  | succ remaining ih =>
    intro w turns rendered messages h waits
    rcases converse_cases session remaining turns rendered messages w with
      ⟨unreached, same⟩ | last |
      ⟨fields, stop, blocks, results, names, w', replies, read, each, requests, went⟩
    · rw [same]
      exact ⟨[], (List.append_nil _).symm, Nat.zero_le _,
        fun _ reaches => absurd reaches unreached, exchange_nil _ _⟩
    · exact ⟨_, last, Nat.le_add_left 1 remaining, fun _ _ => List.cons_ne_nil _ _,
        exchange_single (r := ⟨_, _, messages⟩) h waits w.replies⟩
    · obtain ⟨h', waits'⟩ := wellFormed_answered h waits each
      obtain ⟨sent, more, bound, _, rest⟩ := ih w' (turns + 1) (rendered ++ names) h' waits'
      refine ⟨⟨session.model, session.maxTokens, messages⟩ :: sent, ?_, Nat.succ_le_succ bound,
        fun _ _ => List.cons_ne_nil _ _, ?_⟩
      · rw [went, more, requests, List.append_assoc, List.singleton_append]
      · rw [replies]
        exact Exchange.cons (r := ⟨session.model, session.maxTokens, messages⟩) h waits read each
          rest

def turnCap (w : World) (maxTurns : Option Int) : Nat :=
  (givenOr (· == 0) w.settings.maxTurns maxTurns).toNat

/-- Whatever the model replies, every request carries a dialogue that ends with the user; the first
one is the history with the prompt, and each one goes on from the one before it. Requests are only
added, one for each turn at most, and one at least if there may be a turn and the model can be
reached. -/
theorem run_requests {history : List Message} (h : WellFormed history) (prompt : LooseText)
    (model : Option LooseText) (maxTurns : Option Int) (w : World) :
    ∃ messages sent, addUserText prompt history = .ok messages ∧
      (runIn w (run prompt model maxTurns history)).2.requests = w.requests ++ sent ∧
      sent.length ≤ turnCap w maxTurns ∧ (0 < turnCap w maxTurns → w.Reaches → sent ≠ []) ∧
      Exchange w.replies messages sent := by
  obtain ⟨messages, added, wellFormed, waits⟩ := wellFormed_addUserText h prompt
  refine ⟨messages, ?_⟩
  unfold run
  rw [runIn_bind_ok (runIn_read w World.settings)]
  dsimp only
  rcases connect_cases w with ⟨absent, impossible, ended⟩ | ⟨client, connected, requests, replies⟩
  · rw [runIn_bind_error ended]
    exact ⟨[], added, (List.append_nil _).symm, Nat.zero_le _,
      fun _ reaches => absurd reaches (not_reaches absent impossible), exchange_nil _ _⟩
  · rw [runIn_bind_ok connected, runIn_bind_ok (runIn_ofExcept_ok added _)]
    obtain ⟨sent, more, bound, atLeast, exchange⟩ := converse_requests
      ⟨Settings.modelId (givenOr LooseText.isEmpty w.settings.defaultModel model),
        w.settings.maxTokens, givenOr (· == 0) w.settings.maxTurns maxTurns⟩
      (turnCap w maxTurns) { w with client := some client } 0 [] wellFormed waits
    refine ⟨sent, added, ?_, bound, fun positive _ => atLeast positive (.inl rfl), ?_⟩
    · rw [← requests]
      exact more
    · rw [← replies]
      exact exchange

def callThenAnswer : List Reply :=
  [.blocks [[("type", .str "tool_use"), ("id", .str "t2"), ("name", .str "paint"),
      ("input", .null)]] (some "tool_use"),
    .blocks [[("type", .str "text"), ("text", .str "Done")]] (some "end_turn")]

def replyingWorld (replies : List Reply) : World where
  files := .empty
  settings := .default
  programs := Path.ofText "bin"
  renderer := Script.silent.program
  converter := Script.silent.program
  runs := []
  client := some ⟨"", Settings.maxRetries, replies, []⟩
  connectable := false
  canWait := Program.canWait
  trig := .platform
  edition := .earlier

def pendingDialogue : List Message :=
  answered [user (.str "A ball")] [.toolUse (.str "t1") (.str "read_image") .null]
    [.error "No image"]

theorem run_requests_pending :
    WellFormed pendingDialogue ∧ ∃ messages sent,
      addUserText "Go on" pendingDialogue = .ok messages ∧
      (runIn (replyingWorld callThenAnswer) (run "Go on" none none pendingDialogue)).2.requests =
        sent ∧
      sent.length ≤ 8 ∧ sent ≠ [] ∧ Exchange callThenAnswer messages sent := by
  have start : WellFormed [user (.str "A ball")] :=
    wellFormed_user (hasRole_user _) (.inl ⟨hasRole_user _, .inl ⟨_, rfl⟩⟩)
  have pending : WellFormed pendingDialogue :=
    (wellFormed_answered start ⟨_, rfl, hasRole_user _⟩ rfl).1
  obtain ⟨messages, sent, added, requests, bound, atLeast, exchange⟩ :=
    run_requests pending "Go on" none none (replyingWorld callThenAnswer)
  exact ⟨pending, messages, sent, added, requests, bound, atLeast (by decide) (.inl rfl),
    exchange⟩

end Agent

end RayScene
