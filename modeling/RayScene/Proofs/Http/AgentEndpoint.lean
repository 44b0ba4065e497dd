import RayScene.Proofs.Agent.Endings
import RayScene.Proofs.Http.Rendering

/-!
# What a request to the agent is answered with

A request without a prompt is answered with a report of that, and any other one with the result of
its run, unless the run breaks or the result cannot be sent (`serve_agent`).
-/

namespace RayScene

open Studio (runIn HoldsScenes)

namespace Http

open Agent (Breaks PartsFit IsAnswered turnCap)

structure PostsAgent (request : Request) (form : AgentForm) : Prop where
  method : request.method = "POST"
  target : request.target = "/api/agent"
  body : ∃ v, Body.value? request.body = .ok (some v) ∧ AgentForm.read v = .ok form

namespace AgentForm

def opening (form : AgentForm) : LooseText := Prompt.build form.prompt form.theme

def past (form : AgentForm) : List Message := form.history.getD []

def run (form : AgentForm) : Studio AgentResult :=
  Agent.run form.opening form.model form.maxTurns form.past

end AgentForm

/-- A request without a prompt is told that there is none. With one the model is run, and the result
of that is sent. -/
inductive Concluded (w : World) (form : AgentForm) (response : Response) (w' : World) : Prop
  | noPrompt : form.opening.isEmpty = true → response.Reports .schema → w' = w →
      Concluded w form response w'
  | result {r : AgentResult} : form.opening.isEmpty = false → runIn w form.run = (.ok r, w') →
      response.status = 200 → response.content = .json r.toJson.finitePart.withShownKeys →
      Concluded w form response w'

variable {w w' : World} {form : AgentForm} {request : Request} {response : Response}

theorem runIn_answerAgent_empty (empty : form.opening.isEmpty = true) (w : World) :
    runIn w (Endpoint.answerAgent form) =
      (.error (.fault (.schema .value [⟨[.key "prompt"], .promptOrTheme⟩])), w) := by
  unfold Endpoint.answerAgent
  dsimp only
  rw [show (Prompt.build form.prompt form.theme).isEmpty = true from empty]
  rfl

theorem runIn_answerAgent (given : form.opening.isEmpty = false) (w : World) :
    runIn w (Endpoint.answerAgent form) =
      ((runIn w form.run).1.map fun r => .result r.toJson, (runIn w form.run).2) := by
  unfold Endpoint.answerAgent
  dsimp only
  rw [show (Prompt.build form.prompt form.theme).isEmpty = false from given]
  rcases ran : runIn w form.run with ⟨e | r, w'⟩
  · exact Studio.runIn_bind_error ran _
  · exact Studio.runIn_bind_ok ran _

theorem serve_postsAgent (posts : PostsAgent request form)
    (h : runIn w (recover (Endpoint.answerAgent form)) = (.ok response, w')) :
    runIn w (serve request) = (.ok { response with headOnly := false }, w') := by
  have found : Route.find "POST" (Target.ofText request.target).path = .endpoint .agent := by
    rw [posts.target]
    decide +kernel
  obtain ⟨v, value, isRead⟩ := posts.body
  have opened : Endpoint.answer request.body .agent = Endpoint.answerAgent form :=
    withForm_ok value isRead _
  exact serve_found posts.method rfl (by decide) found (opened ▸ h)

theorem serve_noPrompt (posts : PostsAgent request form) (empty : form.opening.isEmpty = true)
    (w : World) : ∃ response, runIn w (serve request) = (.ok response, w) ∧
      Concluded w form response w := by
  have ran := runIn_recover_error (runIn_answerAgent_empty empty w)
  refine ⟨_, serve_postsAgent posts ran, .noPrompt empty ?_ rfl⟩
  exact faultResponse_reports (.schema .value [⟨[.key "prompt"], .promptOrTheme⟩])

theorem serve_run_ok (posts : PostsAgent request form) (given : form.opening.isEmpty = false)
    {r : AgentResult} (ran : runIn w form.run = (.ok r, w')) :
    runIn w (serve request) = (.ok (.result r.toJson), w') := by
  have acted : runIn w (Endpoint.answerAgent form) = (.ok (.result r.toJson), w') := by
    rw [runIn_answerAgent given, ran]
    rfl
  have served := serve_postsAgent posts (runIn_recover_ok acted)
  by_cases fits : r.toJson.Fits 0
  · rw [Response.result_of_fits fits] at served ⊢
    exact served
  · rw [Response.result_of_not_fits fits] at served ⊢
    exact served

theorem serve_run_error (posts : PostsAgent request form) (given : form.opening.isEmpty = false)
    {e : Failure} (ran : runIn w form.run = (.error e, w')) (other : ∀ f, e ≠ .fault f) :
    runIn w (serve request) = (.ok .internalError, w') := by
  have acted : runIn w (Endpoint.answerAgent form) = (.error e, w') := by
    rw [runIn_answerAgent given, ran]
    rfl
  have served := serve_postsAgent posts (runIn_recover_error acted)
  cases e with
  | fault f => exact absurd rfl (other f)
  | _ => exact served

theorem not_concluded_internalError (given : form.opening.isEmpty = false) :
    ¬ Concluded w form .internalError w' := by
  rintro (empty | ⟨_, _, status, _⟩)
  · cases given.symm.trans empty
  · cases status

/-- A request to the agent is concluded if its prompt is empty, or if no message of the history and
no call breaks the run and all that makes up the result can be sent. Any other one is answered with
an error that says nothing. The run fails only if it breaks, and never with a fault. -/
theorem serve_agent (configured : w.IsConfigured) (holds : HoldsScenes w) (reaches : w.Reaches)
    (answered : IsAnswered w.replies (turnCap w form.maxTurns)) (posts : PostsAgent request form) :
    ∃ response w', runIn w (serve request) = (.ok response, w') ∧
      (Concluded w form response w' ↔ form.opening.isEmpty = true ∨
        ¬ Breaks w form.past (turnCap w form.maxTurns) ∧
          PartsFit w form.opening form.past (turnCap w form.maxTurns)) ∧
      (¬ Concluded w form response w' → response = .internalError) ∧
      ((∃ e, (runIn w form.run).1 = .error e) ↔ Breaks w form.past (turnCap w form.maxTurns)) ∧
      ∀ f, (runIn w form.run).1 ≠ .error (.fault f) := by
  rcases ran : runIn w form.run with ⟨outcome, w₁⟩
  have ends := Agent.run_ends configured holds reaches answered form.opening form.model form.past
  rw [show Agent.run form.opening form.model form.maxTurns form.past = form.run from rfl, ran]
    at ends
  have fails : ((∃ e, outcome = .error e) ↔ Breaks w form.past (turnCap w form.maxTurns)) ∧
      ∀ f, outcome ≠ .error (.fault f) := by
    rcases ends with ⟨breaks, e, rfl, other⟩ | ⟨fine, r, rfl, _⟩
    · exact ⟨iff_of_true ⟨e, rfl⟩ breaks, fun f same => other f (Except.error.inj same)⟩
    · exact ⟨iff_of_false nofun fine, nofun⟩
  cases given : form.opening.isEmpty with
  | true =>
    obtain ⟨response, served, concluded⟩ := serve_noPrompt posts given w
    exact ⟨response, w, served, iff_of_true concluded (.inl rfl), absurd concluded, fails⟩
  | false =>
    rw [or_iff_right Bool.false_ne_true]
    rcases ends with ⟨breaks, e, rfl, other⟩ | ⟨fine, r, rfl, parts⟩
    · refine ⟨_, w₁, serve_run_error posts given ran other, ?_, fun _ => rfl, fails⟩
      exact iff_of_false (not_concluded_internalError given) fun both => both.1 breaks
    refine ⟨_, w₁, serve_run_ok posts given ran, ?_, ?_, fails⟩
    · rw [and_iff_right fine, ← parts]
      by_cases fits : r.toJson.Fits 0
      · refine iff_of_true (.result given ran ?_ ?_) fits
        · rw [Response.result_of_fits fits]
          rfl
        · rw [Response.result_of_fits fits]
          rfl
      · rw [Response.result_of_not_fits fits]
        exact iff_of_false (not_concluded_internalError given) fits
    · intro notConcluded
      apply Response.result_of_not_fits
      intro fits
      rw [Response.result_of_fits fits] at notConcluded
      exact notConcluded (.result given ran rfl rfl)

def agentPost (fields : Fields) : Request := post "/api/agent" (Json.obj fields).indented

theorem postsAgent_indented {fields : Fields}
    (written : Json.Writable Json.bodyLimits 0 (.obj fields))
    (isRead : AgentForm.read (.obj fields) = .ok form) : PostsAgent (agentPost fields) form := by
  exact ⟨rfl, rfl, _, value?_indented (by decide +kernel) written, isRead⟩

def pillarRequest (history : Json) : Fields :=
  [("prompt", .str "A pillar"), ("history", history)]

def pillarForm (history : List Message) : AgentForm :=
  ⟨"A pillar", none, none, none, some history⟩

theorem postsAgent_pillar (history : List Message)
    (written : Json.Writable Json.bodyLimits 1 (.arr (history.map .obj)))
    (isRead : AgentForm.read (.obj (pillarRequest (.arr (history.map .obj)))) =
      .ok (pillarForm history)) :
    PostsAgent (agentPost (pillarRequest (.arr (history.map .obj)))) (pillarForm history) := by
  refine postsAgent_indented ⟨⟨Json.apart_chars _, by decide, Json.apart_chars _,
    Json.apart_chars _, by decide, written, trivial⟩, ?_⟩ isRead
  exact (by decide : [LooseText.proper "prompt", .proper "history"].Nodup)

/-- A world in which the model renders a pillar, calls for it without a scene, and then answers. -/
def renderingWorld : World :=
  { Studio.worldFor "images" with
    client := some ⟨"", Settings.maxRetries, Agent.renderThenAnswer, []⟩ }

theorem isConfigured_renderingWorld : renderingWorld.IsConfigured := Studio.isConfigured_images

theorem holdsScenes_renderingWorld : HoldsScenes renderingWorld := by
  have empty : Studio.IsEmptyStore (Studio.worldFor "images") :=
    Studio.isEmptyStore_worldFor (by decide)
  exact empty.holdsScenes [] renderingWorld

theorem isAnswered_renderingWorld :
    IsAnswered renderingWorld.replies (turnCap renderingWorld none) where
  enough := by decide +kernel
  whole reply member := by
    have given := List.mem_of_mem_take member
    rcases List.mem_cons.mp given with rfl | given
    · intro block isBlock
      rcases List.mem_cons.mp isBlock with rfl | isBlock
      · exact .call rfl rfl rfl rfl
      · rw [List.mem_singleton.mp isBlock]
        exact .call rfl rfl rfl rfl
    · rw [List.mem_singleton.mp given]
      intro block isBlock
      rw [List.mem_singleton.mp isBlock]
      exact .text rfl rfl

def ballPast : List Message := [Message.user (.str "A ball")]

theorem not_escapes {w : World} {input : Json} (waitable : w.canWait w.settings.timeout = true)
    (asked : ((RenderArguments.check input).toOption.all fun args => args.scene.isStorable) =
      true) : ¬ Tool.render.Escapes w input := by
  rintro ⟨read, _, unreported⟩
  rw [read] at asked
  exact Studio.not_unreported waitable asked unreported

theorem not_stumbles_renderingWorld :
    ¬ Agent.Stumbles renderingWorld (Agent.callsMade renderingWorld.replies 8) := by
  rintro (⟨_, first⟩ | ⟨_, second⟩ | impossible)
  · exact not_escapes (by decide +kernel) (by decide +kernel) first
  · exact not_escapes (by decide +kernel) (by decide +kernel) second
  · exact impossible

theorem not_breaks_renderingWorld : ¬ Breaks renderingWorld ballPast 8 := by
  rintro (⟨m, last, defective⟩ | stumbles)
  · cases last
    rcases defective with absent | ⟨_, absent⟩ | ⟨_, content, failed⟩
    · cases absent
    · cases absent
    · cases content
      cases failed
  · exact not_stumbles_renderingWorld stumbles

theorem partsFit_renderingWorld : PartsFit renderingWorld "A pillar" ballPast 8 :=
  ⟨_, rfl, by decide +kernel, by decide +kernel⟩

/-- A pillar is rendered, a call fails, and the result of the run is sent. -/
theorem serve_agent_pillar :
    renderingWorld.IsConfigured ∧ HoldsScenes renderingWorld ∧ renderingWorld.Reaches ∧
      IsAnswered renderingWorld.replies 8 ∧
      PostsAgent (agentPost (pillarRequest (.arr (ballPast.map .obj)))) (pillarForm ballPast) ∧
      ∃ response w', runIn renderingWorld
          (serve (agentPost (pillarRequest (.arr (ballPast.map .obj))))) = (.ok response, w') ∧
        Concluded renderingWorld (pillarForm ballPast) response w' := by
  have posts : PostsAgent (agentPost (pillarRequest (.arr (ballPast.map .obj))))
      (pillarForm ballPast) := by
    refine postsAgent_pillar ballPast ?_ rfl
    exact ⟨by decide, ⟨⟨Json.apart_chars _, by decide, Json.apart_chars _, Json.apart_chars _,
      by decide, Json.apart_chars _, trivial⟩, by decide⟩, trivial⟩
  obtain ⟨response, w', served, concluded, _⟩ := serve_agent isConfigured_renderingWorld
    holdsScenes_renderingWorld (.inl rfl) isAnswered_renderingWorld posts
  exact ⟨isConfigured_renderingWorld, holdsScenes_renderingWorld, .inl rfl,
    isAnswered_renderingWorld, posts, response, w', served,
    concluded.mpr (.inr ⟨not_breaks_renderingWorld, partsFit_renderingWorld⟩)⟩

/-- A history that ends with an empty message breaks the run, and the answer says nothing. -/
theorem not_serve_agent_emptyMessage :
    renderingWorld.IsConfigured ∧ HoldsScenes renderingWorld ∧ renderingWorld.Reaches ∧
      IsAnswered renderingWorld.replies 8 ∧
      PostsAgent (agentPost (pillarRequest (.arr [.obj []]))) (pillarForm [[]]) ∧
      runIn renderingWorld (pillarForm [[]]).run =
        (.error (.defective .noRole), renderingWorld) ∧
      runIn renderingWorld (serve (agentPost (pillarRequest (.arr [.obj []])))) =
        (.ok .internalError, renderingWorld) ∧
      ∀ w', ¬ Concluded renderingWorld (pillarForm [[]]) .internalError w' := by
  have posts : PostsAgent (agentPost (pillarRequest (.arr [.obj []]))) (pillarForm [[]]) := by
    refine postsAgent_pillar [[]] ?_ rfl
    exact ⟨by decide, ⟨trivial, by decide⟩, trivial⟩
  have failed : addUserText (pillarForm [[]]).opening (pillarForm [[]]).past =
      .error .noRole := rfl
  have ran : runIn renderingWorld (pillarForm [[]]).run =
      (.error (.defective .noRole), renderingWorld) := by
    unfold AgentForm.run
    exact Agent.run_defective (w := renderingWorld) rfl failed _ _
  have given : (pillarForm [[]]).opening.isEmpty = false := rfl
  have served : runIn renderingWorld (serve (agentPost (pillarRequest (.arr [.obj []])))) =
      (.ok .internalError, renderingWorld) := serve_run_error posts given ran nofun
  have notConcluded (w' : World) : ¬ Concluded renderingWorld (pillarForm [[]]) .internalError w' :=
    not_concluded_internalError given
  exact ⟨isConfigured_renderingWorld, holdsScenes_renderingWorld, .inl rfl,
    isAnswered_renderingWorld, posts, ran, served, notConcluded⟩

end Http

end RayScene
