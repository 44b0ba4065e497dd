import RayScene.Proofs.Agent.Requests

/-!
# The course of a run

A run that returns has used up the replies up to the first one that does not ask to go on, or as
many as it may have turns, and has made the calls of all that asked to go on (`run_turns`).
-/

namespace RayScene.Agent
open Studio Message

/-- A turn of a run that returns has a reply. Either its calls are made before the next turn, or it
ends the run. -/
theorem converse_returns {session : Session} {remaining turns : Nat} {rendered : List Json}
    {messages : List Message} {w w' : World} {r : AgentResult}
    (h : runIn w (converse session turns rendered messages (remaining + 1)) = (.ok r, w')) :
    ∃ fields stop blocks w₁, w.replies = .blocks fields stop :: w₁.replies ∧
      readBlocks fields = .ok blocks ∧
      w₁.requests = w.requests ++ [⟨session.model, session.maxTokens, messages⟩] ∧
      (∃ client, w₁ = w.withClient client) ∧
      (((Reply.blocks fields stop).goesOn = true ∧ ∃ done w₂, Executes w₁ done w₂ ∧
          done.map Prod.fst = blocks.filterMap Block.call? ∧
          runIn w₂ (converse session (turns + 1) (rendered ++ renderedNames done)
            (answered messages blocks (done.map Prod.snd)) remaining) = (.ok r, w')) ∨
        ((Reply.blocks fields stop).goesOn = false ∧ w' = w₁ ∧
          r = ⟨(Reply.blocks fields stop).text, rendered, turns + 1, stop.getD "",
            messages ++ [assistant (blocks.filterMap Block.kept?)]⟩)) := by
  rcases turn_cases session remaining turns rendered messages w with
    ⟨_, ended⟩ | ⟨w₁, changed, requests, ⟨e, w₂, ended, _⟩ |
      ⟨fields, stop, blocks, replies, read, step⟩⟩
  · cases ended.symm.trans h
  · cases ended.symm.trans h
  refine ⟨fields, stop, blocks, w₁, replies, read, requests, changed, ?_⟩
  rcases step with ⟨goesOn, done, w₂, executes, calls, went⟩ | ⟨ends, ended⟩
  · exact .inl ⟨goesOn, done, w₂, executes, calls, went.symm.trans h⟩
  · cases ended.symm.trans h
    exact .inr ⟨ends, rfl, rfl⟩

/-- How many replies come before the first one that does not ask to go on. -/
def goingOn (replies : List Reply) : Nat := replies.findIdx fun reply => !reply.goesOn

theorem goingOn_cons_true {reply : Reply} (h : reply.goesOn = true) (rest : List Reply) :
    goingOn (reply :: rest) = goingOn rest + 1 := by
  unfold goingOn
  rw [List.findIdx_cons, h]
  rfl

theorem goingOn_cons_false {reply : Reply} (h : reply.goesOn = false) (rest : List Reply) :
    goingOn (reply :: rest) = 0 := by
  unfold goingOn
  rw [List.findIdx_cons, h]
  rfl

/-- How many turns these replies take, of those that there may be. -/
def turnsTaken (replies : List Reply) (cap : Nat) : Nat := min (goingOn replies + 1) cap

/-- The calls of the replies that ask to go on, as many of them as there may be turns. -/
def callsMade (replies : List Reply) (cap : Nat) : List ToolCall :=
  (replies.take (min (goingOn replies) cap)).flatMap Reply.calls

/-- What becomes of turns that return, from a world on and after so many turns before. -/
structure TakesTurns (w : World) (before cap : Nat) (r : AgentResult) (w' : World) : Prop where
  turns : r.turns = before + turnsTaken w.replies cap
  requests : ∃ sent, w'.requests = w.requests ++ sent ∧ sent.length = turnsTaken w.replies cap
  replies : w'.replies = w.replies.drop (turnsTaken w.replies cap)
  /-- apart from the connection to the model, the calls are all that has happened -/
  world : ∃ client, w' = (w.afterCalls (callsMade w.replies cap)).withClient client
  /-- the first reply that does not ask to go on is the answer -/
  answer : goingOn w.replies < cap → ∃ reply, w.replies[goingOn w.replies]? = some reply ∧
    r.text = reply.text ∧ r.stopReason = reply.reason
  cutOff : cap ≤ goingOn w.replies → r.text = "" ∧ r.stopReason = "max_turns"

theorem takesTurns_last {w w' : World} {reply : Reply} {request : Request}
    {client : Option ModelClient} {before remaining : Nat} {rendered : List Json}
    {messages : List Message} (replies : w.replies = reply :: w'.replies)
    (ends : reply.goesOn = false) (requests : w'.requests = w.requests ++ [request])
    (changed : w' = w.withClient client) :
    TakesTurns w before (remaining + 1)
      ⟨reply.text, rendered, before + 1, reply.reason, messages⟩ w' := by
  have last := goingOn_cons_false ends w'.replies
  have one : turnsTaken w.replies (remaining + 1) = 1 := by
    rw [turnsTaken, replies, last]
    omega
  have nothing : callsMade w.replies (remaining + 1) = [] := by
    rw [callsMade, replies, last, Nat.zero_min, List.take_zero]
    rfl
  refine ⟨?_, ⟨[request], requests, one.symm⟩, ?_, ⟨client, ?_⟩, ?_, ?_⟩
  · rw [one]
    rfl
  · rw [one, replies]
    rfl
  · rw [nothing]
    exact changed
  · intro _
    rw [replies, last]
    exact ⟨reply, rfl, rfl, rfl⟩
  · intro short
    rw [replies, last] at short
    omega

/-- A reply that asks to go on takes one turn more, and its calls come before the others. -/
theorem TakesTurns.cons {w w₁ w₂ w' : World} {reply : Reply} {request : Request}
    {client : Option ModelClient} {before remaining : Nat} {r : AgentResult}
    {done : List (ToolCall × ToolResult)} (replies : w.replies = reply :: w₁.replies)
    (goesOn : reply.goesOn = true) (requests : w₁.requests = w.requests ++ [request])
    (changed : w₁ = w.withClient client) (executes : Executes w₁ done w₂)
    (calls : done.map Prod.fst = reply.calls) (rest : TakesTurns w₂ (before + 1) remaining r w') :
    TakesTurns w before (remaining + 1) r w' := by
  have left : w₂.replies = w₁.replies := World.replies_of_client executes.client
  have sent : w₂.requests = w₁.requests := World.requests_of_client executes.client
  have further : goingOn w.replies = goingOn w₂.replies + 1 := by
    rw [replies, goingOn_cons_true goesOn, left]
  have more : turnsTaken w.replies (remaining + 1) = turnsTaken w₂.replies remaining + 1 := by
    rw [turnsTaken, turnsTaken, further]
    omega
  have all : callsMade w.replies (remaining + 1) =
      reply.calls ++ callsMade w₂.replies remaining := by
    have count : min (goingOn w₂.replies + 1) (remaining + 1) =
        min (goingOn w₂.replies) remaining + 1 := by omega
    rw [callsMade, further, count, replies, List.take_succ_cons, List.flatMap_cons, ← left]
    rfl
  obtain ⟨turns, ⟨later, added, each⟩, dropped, ⟨client', after⟩, answer, cutOff⟩ := rest
  refine ⟨?_, ⟨request :: later, ?_, ?_⟩, ?_, ⟨client', ?_⟩, ?_, ?_⟩
  · rw [turns, more]
    omega
  · rw [added, sent, requests, List.append_assoc, List.singleton_append]
  · rw [List.length_cons, each, more]
  · rw [dropped, more, left, replies, List.drop_succ_cons]
  · rw [after, all]
    generalize callsMade w₂.replies remaining = others
    rw [executes.world, changed, calls, afterCalls_withClient, afterCalls_withClient,
      World.afterCalls_append, World.withClient_withClient]
  · intro within
    rw [further] at within ⊢
    obtain ⟨final, found, said⟩ := answer (by omega)
    refine ⟨final, ?_, said⟩
    rw [replies, List.getElem?_cons_succ, ← left]
    exact found
  · intro short
    rw [further] at short
    exact cutOff (by omega)

theorem converse_turns (session : Session) (remaining : Nat) :
    ∀ (w : World) (turns : Nat) (rendered : List Json) (messages : List Message) {r : AgentResult}
      {w' : World}, session.maxTurns = turns + remaining →
      runIn w (converse session turns rendered messages remaining) = (.ok r, w') →
      TakesTurns w turns remaining r w' := by
  induction remaining with
  | zero =>
    intro w turns rendered messages r w' most h
    cases h
    have noTurns : turnsTaken w.replies 0 = 0 := Nat.min_zero _
    refine ⟨?_, ⟨[], (List.append_nil _).symm, noTurns.symm⟩, ?_, ⟨w.client, ?_⟩, ?_,
      fun _ => ⟨rfl, rfl⟩⟩
    · rw [noTurns]
      exact most
    · rw [noTurns]
      rfl
    · rw [callsMade, Nat.min_zero, List.take_zero]
      rfl
    · exact fun short => absurd short (Nat.not_lt_zero _)
  | succ remaining ih =>
    intro w turns rendered messages r w' most h
    obtain ⟨fields, stop, blocks, w₁, replies, read, requests, ⟨client, changed⟩, step⟩ :=
      converse_returns h
    rcases step with ⟨goesOn, done, w₂, executes, calls, later⟩ | ⟨ends, rfl, rfl⟩
    · have same : done.map Prod.fst = (Reply.blocks fields stop).calls := by
        rw [calls, Reply.calls, parts_blocks read]
      have rest := ih w₂ (turns + 1) _ _ (by omega) later
      exact rest.cons replies goesOn requests changed executes same
    · exact takesTurns_last replies ends requests changed

theorem run_ok {prompt : LooseText} {model : Option LooseText} {maxTurns : Option Int}
    {history : List Message} {w w' : World} {r : AgentResult}
    (returned : runIn w (run prompt model maxTurns history) = (.ok r, w')) :
    ∃ messages client session, addUserText prompt history = .ok messages ∧
      (w.withClient client).requests = w.requests ∧ (w.withClient client).replies = w.replies ∧
      session.maxTurns = givenOr (· == 0) w.settings.maxTurns maxTurns ∧
      runIn (w.withClient client) (converse session 0 [] messages (turnCap w maxTurns)) =
        (.ok r, w') := by
  unfold run at returned
  rw [runIn_bind_ok (runIn_read w World.settings)] at returned
  dsimp only at returned
  rcases connect_cases w with ⟨_, _, ended⟩ | ⟨client, connected, requests, replies⟩
  · rw [runIn_bind_error ended] at returned
    cases returned
  rw [runIn_bind_ok connected] at returned
  cases added : addUserText prompt history with
  | error defect =>
    rw [runIn_bind_error (runIn_ofExcept_error added _)] at returned
    cases returned
  | ok messages =>
    rw [runIn_bind_ok (runIn_ofExcept_ok added _)] at returned
    exact ⟨messages, some client, _, rfl, requests, replies, rfl, returned⟩

/-- A run that returns sends one request for each reply up to the first one that does not ask to go
on, but no more than it may have turns. It makes the calls of the replies that ask to go on, each
once and in order, and of no other reply. -/
theorem run_turns {prompt : LooseText} {model : Option LooseText} {maxTurns : Option Int}
    {history : List Message} {w w' : World} {r : AgentResult} (positive : 0 < turnCap w maxTurns)
    (returned : runIn w (run prompt model maxTurns history) = (.ok r, w')) :
    TakesTurns w 0 (turnCap w maxTurns) r w' := by
  obtain ⟨messages, client, session, _, requests, replies, most, went⟩ := run_ok returned
  have cap : session.maxTurns = ((0 : Nat) : Int) + turnCap w maxTurns := by
    rw [most]
    unfold turnCap at positive ⊢
    omega
  obtain ⟨turns, sent, dropped, ⟨client', after⟩, answer, cutOff⟩ :=
    converse_turns session _ _ 0 [] messages cap went
  rw [replies] at turns sent dropped after answer cutOff
  rw [requests] at sent
  rw [afterCalls_withClient, World.withClient_withClient] at after
  exact ⟨turns, sent, dropped, ⟨client', after⟩, answer, cutOff⟩

theorem run_turns_callThenAnswer :
    0 < turnCap (replyingWorld callThenAnswer) none ∧
      ∃ r w', runIn (replyingWorld callThenAnswer) (run "A ball" none none []) = (.ok r, w') ∧
        TakesTurns (replyingWorld callThenAnswer) 0 8 r w' ∧ r.turns = 2 := by
  have positive : 0 < turnCap (replyingWorld callThenAnswer) none := by decide
  have returned : ∃ r w', runIn (replyingWorld callThenAnswer) (run "A ball" none none []) =
      (.ok r, w') := ⟨_, _, rfl⟩
  obtain ⟨r, w', returned⟩ := returned
  have takes := run_turns positive returned
  exact ⟨positive, r, w', returned, takes, takes.turns⟩

end RayScene.Agent
