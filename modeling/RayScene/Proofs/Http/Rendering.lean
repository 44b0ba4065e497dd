import RayScene.Proofs.Agent.Tools
import RayScene.Proofs.Http.Agreement
import RayScene.Proofs.Http.Targets
import RayScene.Proofs.Studio.Confinement
import RayScene.Proofs.Studio.Effects

/-!
# What a request to render does

The status of the answer to a request to render, and the class of the fault that it reports, say what
has happened to the two files of the name and which programs have run (`serve_render`). A request is
not answered like this only if nobody is told what rendering fails with (`Unanswered`).
-/

namespace RayScene

/-- Rendering as it is asked for: what is given is checked, and then the scene is rendered. -/
def rendering (input : Json) : Studio (RenderArguments × Bytes) :=
  onChecked (RenderArguments.check input) (fun args => Studio.renderAs args.scene args.name)
    Prod.mk

def Asks (input : Json) (s : Scene) (n : String) : Prop :=
  RenderArguments.check input = .ok ⟨.proper n, s⟩ ∧ ArtifactName.isValid n = true

section Cases

open Studio

variable {w w' : World} {input : Json}

theorem Asks.check {s : Scene} {n : String} (h : Asks input s n) :
    ∃ v, Scene.check v = .ok s :=
  (RenderArguments.check_ok h.1).2

/-- What is asked for is refused before anything happens, or the rendering decides. -/
theorem rendering_cases (w : World) (input : Json) :
    (∃ vs, (∀ s n, ¬ Asks input s n) ∧
        runIn w (rendering input) = (.error (.fault (.schema .value vs)), w)) ∨
      ∃ s n, Asks input s n ∧
        ((∃ e w', RenderingEnds w s n (.error e) w' ∧
            runIn w (rendering input) = (.error e, w')) ∨
          ∃ png w', RenderingEnds w s n (.ok png) w' ∧
            runIn w (rendering input) = (.ok (⟨.proper n, s⟩, png), w')) := by
  rcases onChecked_cases w (RenderArguments.check input)
    (fun args => renderAs args.scene args.name) Prod.mk with
    ⟨vs, refused, ended⟩ | ⟨⟨name, s⟩, read, rendered⟩
  · refine .inl ⟨vs, fun s n asks => ?_, ended⟩
    cases refused.symm.trans asks.1
  rcases accepts_or name with ⟨n, rfl, valid⟩ | rejected
  · obtain ⟨result, w', ran, ends⟩ := renderAs_ends ⟨rfl, valid⟩ w s
    refine .inr ⟨s, n, ⟨read, valid⟩, ?_⟩
    rcases rendered with ⟨e, w₁, failed, ended⟩ | ⟨png, w₁, went, ended⟩
    · cases ran.symm.trans failed
      exact .inl ⟨e, w', ends, ended⟩
    · cases ran.symm.trans went
      exact .inr ⟨png, w', ends, ended⟩
  · have refused := renderAs_rejected rejected w s
    left
    rcases rendered with ⟨e, w₁, failed, ended⟩ | ⟨png, w₁, went, ended⟩
    · cases refused.symm.trans failed
      refine ⟨_, fun s' n asks => ?_, ended⟩
      cases read.symm.trans asks.1
      exact rejected n ⟨rfl, asks.2⟩
    · cases refused.symm.trans went

/-- Rendering what is asked for fails with something that nobody is told. -/
def Unanswered (w : World) (input : Json) : Prop :=
  ∃ s n e, Asks input s n ∧ Unreported w s n e

theorem rendering_unanswered (h : Unanswered w input) :
    ∃ e w', runIn w (rendering input) = (.error e, w') ∧ ∀ f, e ≠ .fault f := by
  obtain ⟨s, n, e, asks, unreported⟩ := h
  rcases rendering_cases w input with
    ⟨vs, refused, _⟩ | ⟨s', n', asks', ⟨e', w', ends, ran⟩ | ⟨png, w', ends, _⟩⟩
  · exact absurd asks (refused s n)
  · cases asks.1.symm.trans asks'.1
    cases ends.of_unreported unreported
    exact ⟨e, w', ran, unreported.ne_fault⟩
  · cases asks.1.symm.trans asks'.1
    cases ends.of_unreported unreported

theorem rendering_answered (configured : w.IsConfigured) (answered : ¬ Unanswered w input) :
    (∃ f w', runIn w (rendering input) = (.error (.fault f), w')) ∨
      ∃ args png w', runIn w (rendering input) = (.ok (args, png), w') := by
  rcases rendering_cases w input with
    ⟨vs, _, ran⟩ | ⟨s, n, asks, ⟨e, w', ends, ran⟩ | ⟨png, w', _, ran⟩⟩
  · exact .inl ⟨_, w, ran⟩
  · left
    have reported : ¬ Unreported w s n e := fun unreported => answered ⟨s, n, e, asks, unreported⟩
    cases (ends.fell configured asks.2).1 with
    | storing failed _ _ =>
      obtain ⟨f, rfl⟩ := failed.resolve_left reported
      exact ⟨_, w', ran⟩
    | compiling failed isFault _ _ =>
      obtain ⟨v, accepted⟩ := asks.check
      obtain ⟨f, fault⟩ := Scene.fault_of_compile_error accepted failed
      rw [isFault, fault] at ran
      exact ⟨f, w', ran⟩
    | drawing _ _ failed _ _ =>
      obtain ⟨f, rfl⟩ := failed.resolve_left reported
      exact ⟨_, w', ran⟩
  · exact .inr ⟨_, png, w', ran⟩

end Cases

namespace Http

open Studio (runIn Draws Fell RenderingEnds Unreported Untouched Confined)

structure PostsRender (request : Request) (body : Fields) : Prop where
  method : request.method = "POST"
  target : request.target = "/api/render"
  body : Body.value? request.body = .ok (some (.obj body))

def Response.Reports (response : Response) (c : ReportClass) : Prop :=
  response.status = c.status ∧
    ∃ v, response.content = .json v ∧ v.get? "error" = some (.str c.name)

theorem faultResponse_reports (f : Fault) :
    (faultResponse f).Reports f.report.reportClass := by
  refine ⟨?_, _, rfl, rfl⟩
  cases f <;> rfl

theorem Response.Reports.unique {response : Response} {c c' : ReportClass}
    (h : response.Reports c) (h' : response.Reports c') : c' = c := by
  obtain ⟨_, v, content, named⟩ := h
  obtain ⟨_, v', content', named'⟩ := h'
  cases content.symm.trans content'
  have same : c.name = c'.name := by
    have texts := Option.some.inj (named.symm.trans named')
    exact LooseText.proper.inj (Json.str.inj texts)
  revert same
  cases c <;> cases c' <;> decide

theorem Response.Reports.ne_ok {response : Response} {c : ReportClass} (h : response.Reports c) :
    response.status ≠ 200 := by
  rw [h.1]
  cases c <;> decide

section Answered

variable (w : World) (body : Fields) (s : Scene) (n : String) (response : Response) (w' : World)

/-- The programs have drawn the scene. Its source and its image are stored, and the image is what the
response holds, and what is shown to whoever asks for it then. -/
structure Drawn : Prop where
  runs : ∃ text runs, s.compileText w.trig = .ok text ∧
    Draws w text w.settings.timeout runs (.ok response.body) ∧ w'.runs = w.runs ++ runs
  source : w'.files.read (w.settings.imagesDirectory.child (Artifact.source.file n)) =
    .ok (Utf8.encode s.source)
  image : w'.files.read (w.settings.imagesDirectory.child (Artifact.image.file n)) =
    .ok response.body
  shown {request : Request} : request.method = "GET" → request.target = imageTarget n →
    ∃ answer, runIn w' (serve request) = (.ok answer, w') ∧ answer.status = 200 ∧
      answer.body = response.body

/-- The source is stored, and nothing else has happened. -/
structure Unresolved : Prop where
  net : ∃ u, Net.resolve s = .error u
  runs : w'.runs = w.runs
  source : w'.files.read (w.settings.imagesDirectory.child (Artifact.source.file n)) =
    .ok (Utf8.encode s.source)
  image : Untouched w.files w'.files w.settings.imagesDirectory n .image

/-- The image is not touched, and the source only if a program was tried. -/
structure Failed : Prop where
  runs : w'.runs = w.runs ∨ ∃ text runs result, s.compileText w.trig = .ok text ∧
    Draws w text w.settings.timeout runs result ∧ w'.runs = w.runs ++ runs
  source : w'.runs = w.runs → Untouched w.files w'.files w.settings.imagesDirectory n .source
  image : Untouched w.files w'.files w.settings.imagesDirectory n .image

/-- The status of a response and the class of the fault that it reports say what has happened. -/
structure Answered : Prop where
  status : response.status = 200 ∨ response.Reports .schema ∨ response.Reports .reference ∨
    response.Reports .render
  drawn : response.status = 200 → ∃ s n, Asks (.obj body) s n ∧ Drawn w s n response w'
  refused : response.Reports .schema → (∀ s n, ¬ Asks (.obj body) s n) ∧ w' = w
  unresolved : response.Reports .reference → ∃ s n, Asks (.obj body) s n ∧ Unresolved w s n w'
  failed : response.Reports .render → ∃ s n, Asks (.obj body) s n ∧ Failed w s n w'
  confined : w' = w ∨ ∃ s n runs files, Asks (.obj body) s n ∧ w' = { w with runs, files } ∧
    Confined w.settings.imagesDirectory n w.files files

end Answered

variable {w w' : World} {body : Fields} {s : Scene} {n : String} {response : Response}

/-- What is true of one class of faults is all there is to say about a response that reports it. -/
theorem Answered.of_reports {c : ReportClass} (h : response.Reports c)
    (refused : c = .schema → (∀ s n, ¬ Asks (.obj body) s n) ∧ w' = w)
    (unresolved : c = .reference → ∃ s n, Asks (.obj body) s n ∧ Unresolved w s n w')
    (failed : c = .render → ∃ s n, Asks (.obj body) s n ∧ Failed w s n w')
    (one : c = .schema ∨ c = .reference ∨ c = .render)
    (confined : w' = w ∨ ∃ s n runs files, Asks (.obj body) s n ∧ w' = { w with runs, files } ∧
      Confined w.settings.imagesDirectory n w.files files) :
    Answered w body response w' where
  status := by
    rcases one with rfl | rfl | rfl
    · exact .inr (.inl h)
    · exact .inr (.inr (.inl h))
    · exact .inr (.inr (.inr h))
  drawn isOk := absurd isOk h.ne_ok
  refused h' := refused (h'.unique h)
  unresolved h' := unresolved (h'.unique h)
  failed h' := failed (h'.unique h)
  confined := confined

theorem answered_refused (refused : ∀ s n, ¬ Asks (.obj body) s n) (vs : List Violation) :
    Answered w body (.ofFailure (.fault (.schema .value vs))) w :=
  .of_reports (faultResponse_reports _) (fun _ => ⟨refused, rfl⟩) nofun nofun (.inl rfl) (.inl rfl)

theorem answered_failed (configured : w.IsConfigured) (asks : Asks (.obj body) s n) {e : Failure}
    (ends : RenderingEnds w s n (.error e) w') (reported : ¬ Unreported w s n e) :
    Answered w body (.ofFailure e) w' := by
  have confined := ends.confined configured.isRead asks.2
  obtain ⟨fell, image⟩ := ends.fell configured asks.2
  obtain ⟨runs', files, same, confined⟩ := confined
  have within : w' = w ∨ ∃ s n runs files, Asks (.obj body) s n ∧ w' = { w with runs, files } ∧
      Confined w.settings.imagesDirectory n w.files files :=
    .inr ⟨s, n, runs', files, asks, same, confined⟩
  cases fell with
  | storing failed runs source =>
    obtain ⟨f, rfl⟩ := failed.resolve_left reported
    exact .of_reports (faultResponse_reports _) nofun nofun
      (fun _ => ⟨s, n, asks, .inl runs, fun _ => source, image⟩) (.inr (.inr rfl)) within
  | compiling failed isFault runs source =>
    obtain ⟨v, accepted⟩ := asks.check
    obtain ⟨u, unresolved, rfl⟩ :=
      Scene.unresolved_of_compile_error accepted (Scene.compile_error_of_check accepted failed)
    subst isFault
    exact .of_reports (faultResponse_reports _) nofun
      (fun _ => ⟨s, n, asks, ⟨u, unresolved⟩, runs, source, image⟩) nofun (.inr (.inl rfl)) within
  | drawing compiled draws failed runs source =>
    obtain ⟨f, rfl⟩ := failed.resolve_left reported
    have tried : w'.runs ≠ w.runs := by
      rw [runs]
      intro same
      have nothing := List.append_right_eq_self.mp same
      cases draws <;> cases nothing
    exact .of_reports (faultResponse_reports _) nofun nofun
      (fun _ => ⟨s, n, asks, .inr ⟨_, _, _, compiled, draws, runs⟩,
        fun same => absurd same tried, image⟩) (.inr (.inr rfl)) within

theorem serve_image {request : Request} {png : Bytes} (valid : ArtifactName.isValid n = true)
    (method : request.method = "GET") (target : request.target = imageTarget n)
    (stored : w.files.read (w.settings.imagesDirectory.child (Artifact.image.file n)) = .ok png) :
    runIn w (serve request) = (.ok (.ok (.png png)), w) := by
  have found : Route.find "GET" (Target.ofText request.target).path = .endpoint (.image n) := by
    rw [target, Route.find_image valid, if_pos rfl]
  have content : runIn w (Studio.storedImage n) = (.ok png, w) := by
    refine (Studio.storedContent_read ⟨rfl, valid⟩ w .image).trans ?_
    exact Studio.runIn_ofExcept_ok stored w
  have shown : runIn w (recover (Endpoint.answer request.body (.image n))) =
      (.ok (.ok (.png png)), w) := runIn_recover_ok (Studio.runIn_bind_ok content _)
  exact serve_found method rfl (by decide) found shown

def imageResponse (name : LooseText) (png : Bytes) : Response :=
  { Response.ok (.png png) with
    disposition := some ("inline; filename=\"" ++ name.shown ++ ".png\"") }

theorem answered_drawn (configured : w.IsConfigured) (asks : Asks (.obj body) s n) {png : Bytes}
    (ends : RenderingEnds w s n (.ok png) w') :
    Answered w body (imageResponse (.proper n) png) w' := by
  have noFault {c : ReportClass} : ¬ (imageResponse (.proper n) png).Reports c :=
    fun reports => reports.ne_ok rfl
  obtain ⟨runs', files, same, confined⟩ := ends.confined configured.isRead asks.2
  obtain ⟨runs, source, image⟩ := ends.drawn configured asks.2
  refine {
    status := .inl rfl
    drawn := fun _ => ⟨s, n, asks, runs, source, image, fun method target => ?_⟩
    refused := fun reports => absurd reports noFault
    unresolved := fun reports => absurd reports noFault
    failed := fun reports => absurd reports noFault
    confined := .inr ⟨s, n, runs', files, asks, same, confined⟩ }
  have settings : w'.settings = w.settings := by rw [same]
  rw [← settings] at image
  exact ⟨_, serve_image asks.2 method target image, rfl, rfl⟩

/-! ### Serving -/

/-- A request to render is answered with the image, or with what the failure amounts to. -/
theorem runIn_serve_render {request : Request} (posts : PostsRender request body) (w : World) :
    runIn w (serve request) =
      match runIn w (rendering (.obj body)) with
      | (.ok (args, png), w') => (.ok (imageResponse args.name png), w')
      | (.error e, w') => (.ok (.ofFailure e), w') := by
  have found : Route.find "POST" (Target.ofText request.target).path = .endpoint .render := by
    rw [posts.target]
    decide +kernel
  have opened : Endpoint.answer request.body .render =
      onChecked (RenderArguments.check (.obj body))
        (fun args => Studio.renderAs args.scene args.name)
        fun args png => imageResponse args.name png :=
    withForm_ok posts.body rfl _
  have answered : runIn w (Endpoint.answer request.body .render) =
      ((runIn w (rendering (.obj body))).1.map fun p => imageResponse p.1.name p.2,
        (runIn w (rendering (.obj body))).2) := by
    rw [opened]
    exact runIn_onChecked w _ _ _
  rcases ran : runIn w (rendering (.obj body)) with ⟨e | ⟨args, png⟩, w'⟩
  · rw [ran] at answered
    rw [serve_found posts.method rfl (by decide) found (runIn_recover_error answered)]
    cases e <;> rfl
  · rw [ran] at answered
    exact serve_found posts.method rfl (by decide) found (runIn_recover_ok answered)

theorem not_answered_internalError : ¬ Answered w body .internalError w' := by
  intro answered
  rcases answered.status with status | reports | reports | reports
  · cases status
  · cases reports.1
  · cases reports.1
  · cases reports.1

theorem Response.ofFailure_other {e : Failure} (other : ∀ f, e ≠ .fault f) :
    Response.ofFailure e = .internalError := by
  cases e with
  | fault f => exact absurd rfl (other f)
  | _ => rfl

/-- If nobody is told what rendering fails with, the answer is an error that says nothing. -/
theorem serve_unanswered {request : Request} (posts : PostsRender request body)
    (h : Unanswered w (.obj body)) :
    ∃ w', runIn w (serve request) = (.ok .internalError, w') := by
  obtain ⟨e, w', ran, other⟩ := rendering_unanswered h
  have served := runIn_serve_render posts w
  rw [ran] at served
  dsimp only at served
  rw [Response.ofFailure_other other] at served
  exact ⟨w', served⟩

theorem serve_answered (configured : w.IsConfigured) {request : Request}
    (posts : PostsRender request body) (answered : ¬ Unanswered w (.obj body)) :
    ∃ response w', runIn w (serve request) = (.ok response, w') ∧ Answered w body response w' := by
  have served := runIn_serve_render posts w
  rcases rendering_cases w (.obj body) with
    ⟨vs, refused, ran⟩ | ⟨s, n, asks, ⟨e, w', ends, ran⟩ | ⟨png, w', ends, ran⟩⟩
  · rw [ran] at served
    exact ⟨_, _, served, answered_refused refused vs⟩
  · rw [ran] at served
    have reported : ¬ Unreported w s n e := fun unreported => answered ⟨s, n, e, asks, unreported⟩
    exact ⟨_, _, served, answered_failed configured asks ends reported⟩
  · rw [ran] at served
    exact ⟨_, _, served, answered_drawn configured asks ends⟩

/-- The answer to a request to render says what has happened, except when nobody is told what
rendering fails with: then it says nothing. -/
theorem serve_render (configured : w.IsConfigured) {request : Request}
    (posts : PostsRender request body) :
    ∃ response w', runIn w (serve request) = (.ok response, w') ∧
      (Answered w body response w' ↔ ¬ Unanswered w (.obj body)) ∧
      (Unanswered w (.obj body) → response.status = 500) := by
  by_cases h : Unanswered w (.obj body)
  · obtain ⟨w', served⟩ := serve_unanswered posts h
    exact ⟨_, w', served, iff_of_false not_answered_internalError (not_not.mpr h), fun _ => rfl⟩
  · obtain ⟨response, w', served, answered⟩ := serve_answered configured posts h
    exact ⟨response, w', served, iff_of_true answered h, fun unanswered => absurd unanswered h⟩

def renderBody (name : String) (content : Json) : Fields :=
  [("name", .str name), ("content", content)]

theorem postsRender_indented (name : String) {content : Json}
    (written : Json.Writable Json.bodyLimits 1 content) :
    PostsRender (post "/api/render" (Json.obj (renderBody name content)).indented)
      (renderBody name content) := by
  have writable : Json.Writable Json.bodyLimits 0 (.obj (renderBody name content)) :=
    ⟨⟨Json.apart_chars _, by decide, Json.apart_chars _, Json.apart_chars _, by decide, written,
      trivial⟩, (by decide : [LooseText.proper "name", .proper "content"].Nodup)⟩
  exact ⟨rfl, rfl, value?_indented (by decide +kernel) writable⟩

def pillarBody : Fields := renderBody "a" Example.pillar.scene.toJson

def surrogateBody : Fields := renderBody "a" surrogateNet

theorem postsRender_pillarBody :
    PostsRender (post "/api/render" (Json.obj pillarBody).indented) pillarBody := by
  have accepted : Scene.check Example.pillar.scene.toJson = .ok Example.pillar.scene := by
    decide +kernel
  have written := Scene.written (((Scene.check_decides _).ok_iff _).mp accepted) (by decide +kernel)
  exact postsRender_indented "a" (written.shallow (by decide))

theorem answered_pillarBody {w : World} (waitable : w.canWait w.settings.timeout = true) :
    ¬ Unanswered w (.obj pillarBody) := by
  have asked : (RenderArguments.check (.obj pillarBody)).map (fun args => args.scene.isStorable) =
      .ok true := by
    decide +kernel
  rintro ⟨s, n, e, ⟨read, _⟩, unreported⟩
  rw [read] at asked
  exact Studio.not_unreported waitable (Except.ok.inj asked) unreported

theorem postsRender_surrogateBody :
    PostsRender (post "/api/render" (Json.obj surrogateBody).indented) surrogateBody := by
  have apart : Json.Apart Json.bodyLimits [.surrogate 0xD800] := .surrogate rfl (.inl rfl) nofun .nil
  exact postsRender_indented "a" (writable_emptyScene (by decide) ⟨rfl, rfl⟩ ⟨rfl, rfl⟩
    ⟨by decide, ⟨by decide, apart, trivial⟩, trivial⟩)

theorem unanswered_surrogateBody : Unanswered (Studio.worldFor "images") (.obj surrogateBody) := by
  have asked : (RenderArguments.check (.obj surrogateBody)).map
      (fun args => (args.name, args.scene.isStorable)) = .ok (.proper "a", false) := by
    decide +kernel
  rcases read : RenderArguments.check (.obj surrogateBody) with vs | ⟨given, s⟩
  · rw [read] at asked
    cases asked
  · rw [read] at asked
    cases (Prod.mk.inj (Except.ok.inj asked)).1
    exact ⟨s, "a", _, ⟨read, rfl⟩,
      .notStorable (by decide +kernel) (Prod.mk.inj (Except.ok.inj asked)).2⟩

theorem serve_render_pillar :
    (Studio.worldFor "images").IsConfigured ∧
      PostsRender (post "/api/render" (Json.obj pillarBody).indented) pillarBody ∧
      ∃ response w', runIn (Studio.worldFor "images")
          (serve (post "/api/render" (Json.obj pillarBody).indented)) = (.ok response, w') ∧
        response.status = 200 ∧ Answered (Studio.worldFor "images") pillarBody response w' := by
  have posts := postsRender_pillarBody
  have drawn : (runIn (Studio.worldFor "images") (rendering (.obj pillarBody))).1.isOk = true := by
    decide +kernel
  obtain ⟨response, w', served, answered, _⟩ := serve_render Studio.isConfigured_images posts
  refine ⟨Studio.isConfigured_images, posts, response, w', served, ?_,
    answered.mpr (answered_pillarBody (by decide +kernel))⟩
  have same := runIn_serve_render posts (Studio.worldFor "images")
  rcases ran : runIn (Studio.worldFor "images") (rendering (.obj pillarBody)) with
    ⟨e | ⟨args, png⟩, w₁⟩
  · rw [ran] at drawn
    cases drawn
  · rw [ran] at same
    cases served.symm.trans same
    rfl

/-- A scene whose net names a surrogate is answered with an error that says nothing. -/
theorem serve_render_surrogate :
    (Studio.worldFor "images").IsConfigured ∧
      PostsRender (post "/api/render" (Json.obj surrogateBody).indented) surrogateBody ∧
      ∃ w', runIn (Studio.worldFor "images")
          (serve (post "/api/render" (Json.obj surrogateBody).indented)) =
            (.ok .internalError, w') ∧
        ¬ Answered (Studio.worldFor "images") surrogateBody .internalError w' := by
  obtain ⟨w', served⟩ := serve_unanswered postsRender_surrogateBody unanswered_surrogateBody
  exact ⟨Studio.isConfigured_images, postsRender_surrogateBody, w', served,
    not_answered_internalError⟩

end Http

end RayScene
