import RayScene.Proofs.Agent.Replies

/-!
# One turn

A turn of a conversation sends one request. Then it fails, or its reply ends the run, or the calls
of the reply are made and the next turn begins (`turn_cases`).
-/

namespace RayScene

namespace World

def requests (w : World) : List Request := (w.client.map ModelClient.requests).getD []

def replies (w : World) : List Reply := (w.client.map ModelClient.replies).getD []

/-- There is a connection to the model, or one can be made. -/
def Reaches (w : World) : Prop := w.client.isSome = true ∨ w.connectable = true

theorem requests_of_client {w w' : World} (same : w'.client = w.client) :
    w'.requests = w.requests := by
  rw [requests, same, requests]

theorem replies_of_client {w w' : World} (same : w'.client = w.client) :
    w'.replies = w.replies := by
  rw [replies, same, replies]

end World

namespace Agent
open Studio Message

theorem not_reaches {w : World} (absent : w.client = none) (impossible : w.connectable = false) :
    ¬ w.Reaches := by
  rintro (present | possible)
  · rw [absent] at present
    cases present
  · rw [impossible] at possible
    cases possible

theorem connect_cases (w : World) :
    (w.client = none ∧ w.connectable = false ∧ runIn w connect = (.error .noConnection, w)) ∨
      ∃ client, runIn w connect = (.ok client, { w with client := some client }) ∧
        client.requests = w.requests ∧ client.replies = w.replies := by
  unfold connect
  rw [runIn_bind_ok (runIn_get w)]
  cases present : w.client with
  | some client =>
    have same : { w with client := some client } = w := by rw [← present]
    refine .inr ⟨client, ?_, ?_, ?_⟩
    · rw [same]
      rfl
    · rw [World.requests, present]
      rfl
    · rw [World.replies, present]
      rfl
  | none =>
    cases possible : w.connectable with
    | true =>
      refine .inr ⟨_, rfl, ?_, ?_⟩
      · rw [World.requests, present]
        rfl
      · rw [World.replies, present]
        rfl
    | false => exact .inl ⟨rfl, rfl, rfl⟩

theorem send_cases (w : World) (r : Request) :
    (w.client = none ∧ w.connectable = false ∧ runIn w (send r) = (.error .noConnection, w)) ∨
      ∃ result w', runIn w (send r) = (result, w') ∧ w'.requests = w.requests ++ [r] ∧
        w'.replies = w.replies.drop 1 ∧
        ∀ fields stop, result = .ok (fields, stop) →
          w.replies = .blocks fields stop :: w'.replies := by
  unfold send
  rcases connect_cases w with ⟨absent, impossible, ended⟩ | ⟨client, connected, requests, replies⟩
  · exact .inl ⟨absent, impossible, runIn_bind_error ended _⟩
  rw [runIn_bind_ok connected, ← requests, ← replies]
  cases client.replies with
  | nil =>
    refine .inr ⟨_, _, rfl, rfl, rfl, ?_⟩
    intro fields stop same
    cases same
  | cons reply rest =>
    cases reply with
    | blocks fields stop =>
      refine .inr ⟨_, _, rfl, rfl, rfl, ?_⟩
      intro fields' stop' same
      cases same
      rfl
    | refused text =>
      refine .inr ⟨_, _, rfl, rfl, rfl, ?_⟩
      intro fields stop same
      cases same

theorem send_world (w : World) (r : Request) :
    ∃ client, (runIn w (send r)).2 = w.withClient client := by
  unfold send
  rcases connect_cases w with ⟨_, _, ended⟩ | ⟨client, connected, _⟩
  · rw [runIn_bind_error ended]
    exact ⟨w.client, rfl⟩
  rw [runIn_bind_ok connected]
  cases client.replies with
  | nil => exact ⟨_, rfl⟩
  | cons reply rest =>
    cases reply with
    | blocks fields stop => exact ⟨_, rfl⟩
    | refused text => exact ⟨_, rfl⟩

/-- All that a turn can do. The connection to the model is made or gone on with first; what fails
after that, fails with the request sent. -/
theorem turn_cases (session : Session) (remaining turns : Nat) (rendered : List Json)
    (messages : List Message) (w : World) :
    (¬ w.Reaches ∧ runIn w (converse session turns rendered messages (remaining + 1)) =
        (.error .noConnection, w)) ∨
      ∃ w₁, (∃ client, w₁ = w.withClient client) ∧
        w₁.requests = w.requests ++ [⟨session.model, session.maxTokens, messages⟩] ∧
        ((∃ e w₂, runIn w (converse session turns rendered messages (remaining + 1)) =
            (.error e, w₂) ∧ w₂.client = w₁.client) ∨
          ∃ fields stop blocks, w.replies = .blocks fields stop :: w₁.replies ∧
            readBlocks fields = .ok blocks ∧
            (((Reply.blocks fields stop).goesOn = true ∧ ∃ done w₂, Executes w₁ done w₂ ∧
                done.map Prod.fst = blocks.filterMap Block.call? ∧
                runIn w (converse session turns rendered messages (remaining + 1)) =
                  runIn w₂ (converse session (turns + 1) (rendered ++ renderedNames done)
                    (answered messages blocks (done.map Prod.snd)) remaining)) ∨
              ((Reply.blocks fields stop).goesOn = false ∧
                runIn w (converse session turns rendered messages (remaining + 1)) =
                  (.ok ⟨(Reply.blocks fields stop).text, rendered, turns + 1, stop.getD "",
                    messages ++ [assistant (blocks.filterMap Block.kept?)]⟩, w₁)))) := by
  rw [converse]
  obtain ⟨client, changed⟩ := send_world w ⟨session.model, session.maxTokens, messages⟩
  rcases send_cases w ⟨session.model, session.maxTokens, messages⟩ with
    ⟨absent, impossible, ended⟩ | ⟨result, w₁, went, requests, _, reply⟩
  · rw [runIn_bind_error ended]
    exact .inl ⟨not_reaches absent impossible, rfl⟩
  rw [went] at changed
  refine .inr ⟨w₁, ⟨client, changed⟩, requests, ?_⟩
  cases result with
  | error e =>
    rw [runIn_bind_error went]
    exact .inl ⟨e, w₁, rfl, rfl⟩
  | ok pair =>
    obtain ⟨fields, stop⟩ := pair
    rw [runIn_bind_ok went]
    dsimp only
    cases read : readBlocks fields with
    | error name =>
      rw [runIn_bind_error (runIn_ofExcept_error rfl w₁)]
      exact .inl ⟨_, w₁, rfl, rfl⟩
    | ok blocks =>
      rw [runIn_bind_ok (runIn_ofExcept_ok rfl w₁), any_isToolUse_eq read]
      have given := reply fields stop rfl
      split
      · rename_i goesOn
        rcases runIn_bind w₁ (callTools blocks) _ with
          ⟨e, w₂, failed, ended⟩ | ⟨⟨names, results⟩, w₂, called, went₂⟩
        · -- Calling the tools leaves the connection to the model as it is, also when it fails.
          rw [ended]
          exact .inl ⟨e, w₂, rfl, (unaware_callTools blocks).client failed⟩
        · obtain ⟨done, executes, calls, rfl, rfl⟩ := callTools_ok called
          rw [went₂, List.append_assoc, resultBlocks_eq calls]
          refine .inr ⟨fields, stop, blocks, given, read, .inl ?_⟩
          exact ⟨goesOn, done, w₂, executes, calls, rfl⟩
      · rename_i ends
        cases joined : joinTexts blocks with
        | error e =>
          rw [runIn_bind_error (runIn_ofExcept_error rfl w₁)]
          exact .inl ⟨_, w₁, rfl, rfl⟩
        | ok text =>
          rw [runIn_bind_ok (runIn_ofExcept_ok rfl w₁), text_blocks read joined stop]
          exact .inr ⟨fields, stop, blocks, given, read, .inr ⟨eq_false_of_ne_true ends, rfl⟩⟩

end Agent
end RayScene
