import RayScene.Proofs.Studio.Actions
import RayScene.Proofs.Studio.Artifacts

/-!
# How far rendering gets

Rendering goes through stages: the directory, the source, the renderer input, the two programs and
the image. It may end at each of them, and the stage decides what it ends with and what it has done
until then (`renderAs_ends`).
-/

namespace RayScene

namespace Studio

theorem runIn_runStage (w : World) (stage : Stage) (input : Bytes) (timeout : Int) :
    let run : Invocation := ⟨command w.settings stage, input, timeout⟩
    runIn w (runStage stage input timeout) =
      (outcomeResult stage run (w.canWait timeout) (program w stage w.runs run),
        { w with runs := w.runs ++ [run] }) := by
  intro run
  unfold runStage
  rw [runIn_bind_ok (runIn_get w), runIn_bind_ok (runIn_set w _)]
  cases outcomeResult stage run (w.canWait timeout) (program w stage w.runs run) <;> rfl

section Outcome

variable {stage : Stage} {run : Invocation} {waitable : Bool} {outcome : Outcome}

theorem waitable_of_outcomeResult_ok {output : Bytes}
    (h : outcomeResult stage run waitable outcome = .ok output) : waitable = true := by
  cases outcome with
  | notStarted number => cases h
  | timedOut => cases h
  | exited status output errors =>
    cases waitable with
    | true => rfl
    | false => cases h

theorem outcomeResult_unwaitable_iff {timeout : Int} :
    outcomeResult stage run waitable outcome = .error (.unwaitable timeout) ↔
      timeout = run.timeout ∧ waitable = false ∧ ∀ number, outcome ≠ .notStarted number := by
  cases outcome with
  | notStarted number => exact iff_of_false nofun fun ⟨_, _, starts⟩ => starts number rfl
  | timedOut => cases waitable <;> simp [outcomeResult, eq_comm]
  | exited status output errors =>
    cases waitable with
    | false => simp [outcomeResult, eq_comm]
    | true =>
      refine iff_of_false (fun same => ?_) nofun
      rw [outcomeResult, Bool.not_true, if_neg Bool.false_ne_true] at same
      split at same <;> cases same

/-- A stage that does not succeed fails with a fault of rendering, or else it has started and cannot
be waited for. -/
theorem outcomeResult_error {e : Failure}
    (h : outcomeResult stage run waitable outcome = .error e) :
    (∃ f, e = .fault (.render f)) ∨ e = .unwaitable run.timeout := by
  cases outcome with
  | notStarted number =>
    cases h
    exact .inl ⟨_, rfl⟩
  | timedOut =>
    cases waitable with
    | true =>
      cases h
      exact .inl ⟨_, rfl⟩
    | false =>
      cases h
      exact .inr rfl
  | exited status output errors =>
    rw [outcomeResult] at h
    split at h
    · cases h
      exact .inr rfl
    · split at h
      · cases h
      · cases h
        exact .inl ⟨_, rfl⟩

end Outcome

def rendererRun (w : World) (text : String) (timeout : Int) : Invocation :=
  ⟨command w.settings .renderer, Utf8.encode (text ++ "\n"), timeout⟩

def converterRun (w : World) (bitmap : Bytes) (timeout : Int) : Invocation :=
  ⟨command w.settings .converter, bitmap, timeout⟩

section Drawing

variable (w : World) (text : String) (timeout : Int)

def rendered : Except Failure Bytes :=
  outcomeResult .renderer (rendererRun w text timeout) (w.canWait timeout)
    (w.renderer w.runs (rendererRun w text timeout))

/-- What the run of the converter amounts to that comes after the one of the renderer. -/
def converted (bitmap : Bytes) : Except Failure Bytes :=
  outcomeResult .converter (converterRun w bitmap timeout) (w.canWait timeout)
    (w.converter (w.runs ++ [rendererRun w text timeout]) (converterRun w bitmap timeout))

/-- The attempts to run the programs for renderer input, and what they give: the converter is tried
only if the renderer succeeds, and on the bitmap that the renderer gives. -/
inductive Draws : List Invocation → Except Failure Bytes → Prop
  | notRendered {e : Failure} : rendered w text timeout = .error e →
      Draws [rendererRun w text timeout] (.error e)
  | notConverted {bitmap : Bytes} {e : Failure} : rendered w text timeout = .ok bitmap →
      converted w text timeout bitmap = .error e →
      Draws [rendererRun w text timeout, converterRun w bitmap timeout] (.error e)
  | converted {bitmap png : Bytes} : rendered w text timeout = .ok bitmap →
      converted w text timeout bitmap = .ok png →
      Draws [rendererRun w text timeout, converterRun w bitmap timeout] (.ok png)

end Drawing

section Draws

variable {w : World} {text : String} {timeout : Int}

theorem Draws.unique {runs runs' : List Invocation} {result result' : Except Failure Bytes}
    (h : Draws w text timeout runs result) (h' : Draws w text timeout runs' result') :
    runs' = runs ∧ result' = result := by
  cases h with
  | notRendered failed =>
    cases h' with
    | notRendered failed' =>
      cases failed.symm.trans failed'
      exact ⟨rfl, rfl⟩
    | notConverted drawn _ => cases failed.symm.trans drawn
    | converted drawn _ => cases failed.symm.trans drawn
  | notConverted drawn failed =>
    cases h' with
    | notRendered failed' => cases failed'.symm.trans drawn
    | notConverted drawn' failed' =>
      cases drawn.symm.trans drawn'
      cases failed.symm.trans failed'
      exact ⟨rfl, rfl⟩
    | converted drawn' succeeded =>
      cases drawn.symm.trans drawn'
      cases failed.symm.trans succeeded
  | converted drawn succeeded =>
    cases h' with
    | notRendered failed => cases failed.symm.trans drawn
    | notConverted drawn' failed =>
      cases drawn.symm.trans drawn'
      cases failed.symm.trans succeeded
    | converted drawn' succeeded' =>
      cases drawn.symm.trans drawn'
      cases succeeded.symm.trans succeeded'
      exact ⟨rfl, rfl⟩

theorem Draws.error {runs : List Invocation} {e : Failure}
    (h : Draws w text timeout runs (.error e)) :
    (∃ f, e = .fault (.render f)) ∨ e = .unwaitable timeout := by
  cases h with
  | notRendered failed => exact outcomeResult_error failed
  | notConverted _ failed => exact outcomeResult_error failed

/-- The renderer starts on the renderer input, and cannot be waited for. -/
structure Unwaited (w : World) (text : String) (timeout : Int) : Prop where
  refused : w.canWait timeout = false
  starts (number : Int) : w.renderer w.runs (rendererRun w text timeout) ≠ .notStarted number

theorem rendered_unwaitable_iff {t : Int} : rendered w text timeout = .error (.unwaitable t) ↔
    t = timeout ∧ Unwaited w text timeout :=
  outcomeResult_unwaitable_iff.trans
    (and_congr_right fun _ => ⟨fun ⟨refused, starts⟩ => ⟨refused, starts⟩,
      fun ⟨refused, starts⟩ => ⟨refused, starts⟩⟩)

theorem Unwaited.draws (h : Unwaited w text timeout) :
    Draws w text timeout [rendererRun w text timeout] (.error (.unwaitable timeout)) :=
  .notRendered (rendered_unwaitable_iff.mpr ⟨rfl, h⟩)

/-- If a stage cannot be waited for, it is the first one. -/
theorem Draws.unwaitable_iff {runs : List Invocation} {result : Except Failure Bytes} {t : Int}
    (h : Draws w text timeout runs result) :
    result = .error (.unwaitable t) ↔ t = timeout ∧ Unwaited w text timeout := by
  rw [← rendered_unwaitable_iff]
  cases h with
  | notRendered failed => rw [failed]
  | @notConverted bitmap e drawn failed =>
    rw [drawn]
    refine iff_of_false (fun same => ?_) nofun
    rw [same] at failed
    have waitable := waitable_of_outcomeResult_ok drawn
    rw [(outcomeResult_unwaitable_iff.mp failed).2.1] at waitable
    cases waitable
  | converted drawn succeeded =>
    rw [drawn]
    exact iff_of_false nofun nofun

end Draws

/-- The configured timeout holds if none is given. -/
theorem renderText_draws (w : World) (text : String) (timeout : Option Int) :
    ∃ runs result, Draws w text (timeout.getD w.settings.timeout) runs result ∧
      runIn w (renderText text timeout) = (result, { w with runs := w.runs ++ runs }) := by
  unfold renderText
  rw [runIn_bind_ok (runIn_read w _)]
  dsimp only
  generalize timeout.getD w.settings.timeout = seconds
  have ran : runIn w (runStage .renderer (Utf8.encode (text ++ "\n")) seconds) =
      (rendered w text seconds, { w with runs := w.runs ++ [rendererRun w text seconds] }) :=
    runIn_runStage w .renderer _ seconds
  cases first : rendered w text seconds with
  | error e =>
    rw [first] at ran
    exact ⟨_, _, .notRendered first, runIn_bind_error ran _⟩
  | ok bitmap =>
    rw [first] at ran
    let w₁ : World := { w with runs := w.runs ++ [rendererRun w text seconds] }
    have ran' : runIn w₁ (runStage .converter bitmap seconds) =
        (converted w text seconds bitmap,
          { w₁ with runs := w₁.runs ++ [converterRun w bitmap seconds] }) :=
      runIn_runStage w₁ .converter bitmap seconds
    have both := (runIn_bind_ok ran fun bitmap => runStage .converter bitmap seconds).trans ran'
    cases second : converted w text seconds bitmap with
    | error e =>
      rw [second] at both
      refine ⟨_, _, .notConverted first second, ?_⟩
      rw [List.append_cons]
      exact both
    | ok png =>
      rw [second] at both
      refine ⟨_, _, .converted first second, ?_⟩
      rw [List.append_cons]
      exact both

inductive DrawingEnds (w : World) (s : Scene) (place : String) : Except Failure Bytes → World → Prop
  | notCompiled {e : CompileError} : s.compileText w.trig = .error e →
      DrawingEnds w s place (.error (Failure.ofCompile e)) w
  | notDrawn {text : String} {runs : List Invocation} {e : Failure} :
      s.compileText w.trig = .ok text → Draws w text w.settings.timeout runs (.error e) →
      DrawingEnds w s place (.error e) { w with runs := w.runs ++ runs }
  | notWritten {text : String} {runs : List Invocation} {png : Bytes} {e : AccessError} :
      s.compileText w.trig = .ok text → Draws w text w.settings.timeout runs (.ok png) →
      w.files.write (Path.ofText place) png = .error e →
      DrawingEnds w s place (.error (.ofAccess (fun e => .fault (.render (.notWritten place e))) e))
        { w with runs := w.runs ++ runs }
  | written {text : String} {runs : List Invocation} {png : Bytes} {files : Files} :
      s.compileText w.trig = .ok text → Draws w text w.settings.timeout runs (.ok png) →
      w.files.write (Path.ofText place) png = .ok files →
      DrawingEnds w s place (.ok png) { w with runs := w.runs ++ runs, files }

theorem runIn_compile (w : World) (s : Scene) :
    runIn w (compile s) = ((s.compileText w.trig).mapError Failure.ofCompile, w) := by
  refine (runIn_bind_ok (runIn_read w World.trig) _).trans ?_
  cases s.compileText w.trig with
  | error e => rfl
  | ok text => rfl

theorem runIn_writeImage (w : World) (place : String) (png : Bytes) :
    runIn w (writeImage place png) =
      match w.files.write (Path.ofText place) png with
      | .ok files => (.ok (), { w with files })
      | .error e =>
        (.error (.ofAccess (fun e => .fault (.render (.notWritten place e))) e), w) := by
  unfold writeImage
  rw [runIn_bind_ok (runIn_get w)]
  cases w.files.write (Path.ofText place) png with
  | error e => exact runIn_bind_error (runIn_ofExcept_error rfl w) _
  | ok files => exact runIn_bind_ok (runIn_ofExcept_ok rfl w) _

theorem renderTo_ends (w : World) (s : Scene) (place : String) :
    ∃ result w', runIn w (renderTo s (some place)) = (result, w') ∧
      DrawingEnds w s place result w' := by
  have compiling := runIn_compile w s
  unfold renderTo
  cases compiled : s.compileText w.trig with
  | error e =>
    rw [compiled] at compiling
    exact ⟨_, _, runIn_bind_error compiling _, .notCompiled compiled⟩
  | ok text =>
    rw [compiled] at compiling
    rw [runIn_bind_ok compiling]
    obtain ⟨runs, e | png, drawn, ran⟩ := renderText_draws w text none
    · exact ⟨_, _, runIn_bind_error ran _, .notDrawn compiled drawn⟩
    · rw [runIn_bind_ok ran]
      have writing := runIn_writeImage { w with runs := w.runs ++ runs } place png
      dsimp only at writing ⊢
      cases written : w.files.write (Path.ofText place) png with
      | error e =>
        rw [written] at writing
        exact ⟨_, _, runIn_bind_error writing _, .notWritten compiled drawn written⟩
      | ok files =>
        rw [written] at writing
        exact ⟨_, _, runIn_bind_ok writing _, .written compiled drawn written⟩

/-! ### The store -/

inductive StoringEnds (w : World) (s : Scene) (n : String) : Except Failure Unit → World → Prop
  | notMade {made : Files} {e : AccessError} :
      w.files.makeDirectories w.settings.imagesDirectory = (made, .error e) →
      StoringEnds w s n (.error (notStored n e)) { w with files := made }
  | notStorable {made : Files} :
      w.files.makeDirectories w.settings.imagesDirectory = (made, .ok ()) → s.isStorable = false →
      StoringEnds w s n (.error .notStorable) { w with files := made }
  | notWritten {made : Files} {e : AccessError} :
      w.files.makeDirectories w.settings.imagesDirectory = (made, .ok ()) → s.isStorable = true →
      made.write (w.settings.imagesDirectory.child (Artifact.source.file n))
        (Utf8.encode s.source) = .error e →
      StoringEnds w s n (.error (notStored n e)) { w with files := made }
  | written {made files : Files} :
      w.files.makeDirectories w.settings.imagesDirectory = (made, .ok ()) → s.isStorable = true →
      made.write (w.settings.imagesDirectory.child (Artifact.source.file n))
        (Utf8.encode s.source) = .ok files →
      StoringEnds w s n (.ok ()) { w with files }

theorem storeSource_ends (w : World) (s : Scene) (n : String) :
    ∃ result w', runIn w (storeSource s n) = (result, w') ∧ StoringEnds w s n result w' := by
  have making := runIn_makeImagesDirectory w
  have path : runIn w (pathOf n .source) =
      (.ok (w.settings.imagesDirectory.child (Artifact.source.file n)), w) := rfl
  unfold storeSource
  rw [runIn_bind_ok path]
  rcases attempt : w.files.makeDirectories w.settings.imagesDirectory with ⟨made, e | done⟩
  · rw [attempt] at making
    rw [runIn_bind_ok making]
    exact ⟨_, _, runIn_bind_error (runIn_ofExcept_error rfl _) _, .notMade attempt⟩
  · rw [attempt] at making
    rw [runIn_bind_ok making, runIn_bind_ok (runIn_ofExcept_ok rfl _)]
    by_cases storable : s.isStorable = true
    · rw [if_pos storable, runIn_bind_ok (runIn_get _)]
      dsimp only
      cases written : made.write (w.settings.imagesDirectory.child (Artifact.source.file n))
        (Utf8.encode s.source) with
      | error e =>
        exact ⟨_, _, runIn_bind_error (runIn_ofExcept_error rfl _) _,
          .notWritten attempt storable written⟩
      | ok files =>
        exact ⟨_, _, runIn_bind_ok (runIn_ofExcept_ok rfl _) _, .written attempt storable written⟩
    · rw [if_neg storable]
      exact ⟨_, _, rfl, .notStorable attempt (eq_false_of_ne_true storable)⟩

inductive RenderingEnds (w : World) (s : Scene) (n : String) : Except Failure Bytes → World → Prop
  | notStored {e : Failure} {w' : World} :
      StoringEnds w s n (.error e) w' → RenderingEnds w s n (.error e) w'
  | stored {w₁ w' : World} {result : Except Failure Bytes} :
      StoringEnds w s n (.ok ()) w₁ →
      DrawingEnds w₁ s (w.settings.imagesDirectory.child (Artifact.image.file n)).text
        result w' →
      RenderingEnds w s n result w'

section World

variable {w w' : World} {s : Scene} {n : String}

/-- Storing that fails has made the directory, as far as that goes. -/
theorem StoringEnds.error_world {e : Failure} (h : StoringEnds w s n (.error e) w') :
    w' = { w with files := (w.files.makeDirectories w.settings.imagesDirectory).1 } := by
  cases h with
  | notMade making => rw [making]
  | notStorable making _ => rw [making]
  | notWritten making _ _ => rw [making]

theorem StoringEnds.ok_world (h : StoringEnds w s n (.ok ()) w') :
    (w.files.makeDirectories w.settings.imagesDirectory).2 = .ok () ∧ s.isStorable = true ∧
      ∃ files, (w.files.makeDirectories w.settings.imagesDirectory).1.write
          (w.settings.imagesDirectory.child (Artifact.source.file n)) (Utf8.encode s.source) =
        .ok files ∧ w' = { w with files } := by
  cases h with
  | written making storable written =>
    rw [making]
    exact ⟨rfl, storable, _, written, rfl⟩

/-- Storing changes nothing but the files. -/
theorem StoringEnds.world {result : Except Failure Unit} (h : StoringEnds w s n result w') :
    ∃ files, w' = { w with files } := by
  cases result with
  | error e => exact ⟨_, h.error_world⟩
  | ok done =>
    obtain ⟨_, _, files, _, same⟩ := h.ok_world
    exact ⟨files, same⟩

theorem DrawingEnds.world {place : String} {result : Except Failure Bytes}
    (h : DrawingEnds w s place result w') : ∃ runs files, w' = { w with runs, files } := by
  cases h with
  | notCompiled _ => exact ⟨_, _, rfl⟩
  | notDrawn _ _ => exact ⟨_, _, rfl⟩
  | notWritten _ _ _ => exact ⟨_, _, rfl⟩
  | written _ _ _ => exact ⟨_, _, rfl⟩

theorem RenderingEnds.world {result : Except Failure Bytes} (h : RenderingEnds w s n result w') :
    ∃ runs files, w' = { w with runs, files } := by
  cases h with
  | notStored storing =>
    obtain ⟨files, rfl⟩ := storing.world
    exact ⟨_, _, rfl⟩
  | stored storing drawing =>
    obtain ⟨files, rfl⟩ := storing.world
    exact drawing.world

end World

theorem renderAs_ends {name : LooseText} {n : String} (accepted : Accepts name n) (w : World)
    (s : Scene) :
    ∃ result w', runIn w (renderAs s name) = (result, w') ∧ RenderingEnds w s n result w' := by
  obtain ⟨result, w₁, storing, ends⟩ := storeSource_ends w s n
  cases result with
  | error e => exact ⟨_, _, renderAs_not_stored accepted storing, .notStored ends⟩
  | ok done =>
    have settings : w₁.settings = w.settings := by
      obtain ⟨files, rfl⟩ := ends.world
      rfl
    rw [renderAs_stored accepted storing, settings]
    obtain ⟨result, w', drawing, drawn⟩ := renderTo_ends w₁ s
      (w.settings.imagesDirectory.child (Artifact.image.file n)).text
    exact ⟨result, w', drawing, .stored ends drawn⟩

theorem renderAs_world (w : World) (s : Scene) (name : LooseText) :
    ∃ runs files, (runIn w (renderAs s name)).2 = { w with runs, files } := by
  rcases accepts_or name with ⟨n, accepted⟩ | rejected
  · obtain ⟨result, w', ran, ends⟩ := renderAs_ends accepted w s
    rw [ran]
    exact ends.world
  · rw [renderAs_rejected rejected]
    exact ⟨_, _, rfl⟩

/-- Storing a source makes the directory for images first. If it fails, nothing else has changed. -/
theorem storeSource_files (w : World) (s : Scene) (name : String) :
    (∃ e, runIn w (storeSource s name) =
        (.error e, { w with files := (w.files.makeDirectories w.settings.imagesDirectory).1 })) ∨
      ∃ files, (w.files.makeDirectories w.settings.imagesDirectory).2 = .ok () ∧
        s.isStorable = true ∧
        (w.files.makeDirectories w.settings.imagesDirectory).1.write
          (w.settings.imagesDirectory.child (name ++ Artifact.source.ending))
          (Utf8.encode s.source) = .ok files ∧
        runIn w (storeSource s name) = (.ok (), { w with files }) := by
  obtain ⟨result, w', storing, ends⟩ := storeSource_ends w s name
  cases result with
  | error e =>
    obtain rfl := ends.error_world
    exact .inl ⟨e, storing⟩
  | ok done =>
    obtain ⟨made, storable, files, written, rfl⟩ := ends.ok_world
    exact .inr ⟨files, made, storable, written, storing⟩

/-! ### Failures that are not reported -/

structure Stores (w : World) (s : Scene) (n : String) : Prop where
  made : (w.files.makeDirectories w.settings.imagesDirectory).2 = .ok ()
  storable : s.isStorable = true
  written : ∃ files, (w.files.makeDirectories w.settings.imagesDirectory).1.write
    (w.settings.imagesDirectory.child (Artifact.source.file n)) (Utf8.encode s.source) = .ok files

/-- What rendering a scene under a name fails with and nobody is told: the nets of the scene name
surrogates, or nobody can wait for the renderer. -/
inductive Unreported (w : World) (s : Scene) (n : String) : Failure → Prop
  | notStorable : (w.files.makeDirectories w.settings.imagesDirectory).2 = .ok () →
      s.isStorable = false → Unreported w s n .notStorable
  | notAwaited {text : String} : Stores w s n → s.compileText w.trig = .ok text →
      Unwaited w text w.settings.timeout → Unreported w s n (.unwaitable w.settings.timeout)

section Unreported

variable {w w' : World} {s : Scene} {n : String} {e : Failure}

theorem Unreported.ne_fault (h : Unreported w s n e) (f : Fault) : e ≠ .fault f := by
  cases h <;> exact nofun

theorem not_unreported (waitable : w.canWait w.settings.timeout = true)
    (storable : s.isStorable = true) : ¬ Unreported w s n e := by
  rintro (⟨_, broken⟩ | ⟨_, _, unwaited⟩)
  · cases storable.symm.trans broken
  · cases waitable.symm.trans unwaited.refused

theorem StoringEnds.stores_iff {result : Except Failure Unit}
    (h : StoringEnds w s n result w') : result = .ok () ↔ Stores w s n := by
  cases h with
  | notMade making =>
    refine iff_of_false nofun fun stores => ?_
    cases (congrArg Prod.snd making).symm.trans stores.made
  | notStorable _ broken =>
    refine iff_of_false nofun fun stores => ?_
    cases broken.symm.trans stores.storable
  | notWritten making _ failed =>
    refine iff_of_false nofun fun ⟨_, _, _, done⟩ => ?_
    rw [making] at done
    cases failed.symm.trans done
  | written making storable done =>
    exact iff_of_true rfl ⟨congrArg Prod.snd making, storable, _, by rw [making]; exact done⟩

theorem StoringEnds.error_of_not_storable {result : Except Failure Unit}
    (made : (w.files.makeDirectories w.settings.imagesDirectory).2 = .ok ())
    (broken : s.isStorable = false) (h : StoringEnds w s n result w') :
    result = .error .notStorable := by
  cases h with
  | notMade making => cases (congrArg Prod.snd making).symm.trans made
  | notStorable _ _ => rfl
  | notWritten _ storable _ => cases broken.symm.trans storable
  | written _ storable _ => cases broken.symm.trans storable

theorem DrawingEnds.error_of_unwaited {place : String} {result : Except Failure Bytes}
    {text : String} (h : DrawingEnds w s place result w')
    (compiled : s.compileText w.trig = .ok text) (unwaited : Unwaited w text w.settings.timeout) :
    result = .error (.unwaitable w.settings.timeout) := by
  cases h with
  | notCompiled failed => cases failed.symm.trans compiled
  | notDrawn compiled' draws =>
    cases compiled.symm.trans compiled'
    exact draws.unwaitable_iff.mpr ⟨rfl, unwaited⟩
  | notWritten compiled' draws _ =>
    cases compiled.symm.trans compiled'
    cases draws.unwaitable_iff.mpr ⟨rfl, unwaited⟩
  | written compiled' draws _ =>
    cases compiled.symm.trans compiled'
    cases draws.unwaitable_iff.mpr ⟨rfl, unwaited⟩

/-- What nobody is told is what rendering fails with. -/
theorem RenderingEnds.of_unreported {result : Except Failure Bytes}
    (unreported : Unreported w s n e) (h : RenderingEnds w s n result w') :
    result = .error e := by
  cases unreported with
  | notStorable made broken =>
    cases h with
    | notStored storing =>
      cases storing.error_of_not_storable made broken
      rfl
    | stored storing _ => cases storing.error_of_not_storable made broken
  | notAwaited stores compiled unwaited =>
    cases h with
    | notStored storing => cases storing.stores_iff.mpr stores
    | stored storing drawing =>
      obtain ⟨files, rfl⟩ := storing.world
      exact drawing.error_of_unwaited compiled ⟨unwaited.refused, unwaited.starts⟩

theorem renderAs_unreported {given : LooseText} (accepted : Accepts given n)
    (unreported : Unreported w s n e) : (runIn w (renderAs s given)).1 = .error e := by
  obtain ⟨result, w', ran, ends⟩ := renderAs_ends accepted w s
  rw [ran]
  exact ends.of_unreported unreported

end Unreported

end Studio

end RayScene
