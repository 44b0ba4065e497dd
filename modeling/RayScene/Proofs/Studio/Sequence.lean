import Mathlib.Algebra.Group.Int.Defs
import RayScene.Proofs.Files.Tree
import RayScene.Proofs.Studio.LastWrite
import RayScene.Proofs.Studio.Stages

/-!
# The two programs in sequence

The renderer runs first, the converter only on what the renderer gave, and both under one timeout.
Whatever scripts the runs follow, the image is what the converter gave, and a fault names the first
program that did not succeed, unless it has started under a timeout that nobody can wait for. A file
is written only after both succeeded, and then holds the image (`renders_in_sequence`).
-/

namespace RayScene

namespace RenderFault

def Names (f : RenderFault) (stage : Stage) : Prop := ∃ rest, f.message = stage.name ++ rest

theorem names_notStarted (stage : Stage) (e : SystemError) : (notStarted stage e).Names stage :=
  ⟨_, String.append_assoc ..⟩

theorem names_timedOut (stage : Stage) (timeout : Int) : (timedOut stage timeout).Names stage := by
  refine ⟨" timed out after " ++ (toString timeout ++ "s"), ?_⟩
  rw [← String.append_assoc, ← String.append_assoc]
  rfl

theorem names_failed (stage : Stage) (status : Int) (errors : String) :
    (failed stage status errors).Names stage := by
  refine ⟨" failed (exit " ++ (toString status ++ ("): " ++ errors)), ?_⟩
  rw [← String.append_assoc, ← String.append_assoc, ← String.append_assoc]
  rfl

end RenderFault

/-- A fault of rendering that names the stage; if runs under this timeout cannot be waited for, it
may also be that they cannot. -/
def Failure.Names (e : Failure) (canWait : Int → Bool) (timeout : Int) (stage : Stage) : Prop :=
  (∃ f, e = .fault (.render f) ∧ f.Names stage) ∨
    e = .unwaitable timeout ∧ canWait timeout = false

namespace Script

/-- The run can be started and waited for, ends in time and with status 0, and gives this output. -/
structure Succeeds (canWait : Int → Bool) (s : Script) (run : Invocation) (output : Bytes) :
    Prop where
  starts : s.errorNumber = none
  waitable : canWait run.timeout = true
  inTime : s.seconds.exceeds run.timeout = false
  status : s.status = 0
  output : s.output ++ (if s.echo then run.input else []) = output

inductive Fails (canWait : Int → Bool) (s : Script) (run : Invocation) (stage : Stage) :
    Failure → Prop
  | notStarted {number : Int} : s.errorNumber = some number →
      Fails canWait s run stage (.fault (.render (.notStarted stage ⟨number, run.program⟩)))
  | notAwaited : s.errorNumber = none → canWait run.timeout = false →
      Fails canWait s run stage (.unwaitable run.timeout)
  | timedOut : s.errorNumber = none → canWait run.timeout = true →
      s.seconds.exceeds run.timeout = true →
      Fails canWait s run stage (.fault (.render (.timedOut stage run.timeout)))
  | failed : s.errorNumber = none → canWait run.timeout = true →
      s.seconds.exceeds run.timeout = false → s.status ≠ 0 →
      Fails canWait s run stage
        (.fault (.render (.failed stage s.status (Utf8.decodeLossy s.errors))))

variable {canWait : Int → Bool} {s : Script} {run : Invocation} {stage : Stage}

theorem Fails.names {e : Failure} (h : s.Fails canWait run stage e) :
    e.Names canWait run.timeout stage := by
  cases h with
  | notStarted _ => exact .inl ⟨_, rfl, RenderFault.names_notStarted ..⟩
  | notAwaited _ refused => exact .inr ⟨rfl, refused⟩
  | timedOut _ _ _ => exact .inl ⟨_, rfl, RenderFault.names_timedOut ..⟩
  | failed _ _ _ _ => exact .inl ⟨_, rfl, RenderFault.names_failed ..⟩

/-- A run that follows a script succeeds or fails as the script has it. -/
theorem outcomeResult_program (canWait : Int → Bool) (s : Script) (run : Invocation)
    (stage : Stage) (runs : List Invocation) :
    match Studio.outcomeResult stage run (canWait run.timeout) (s.program runs run) with
    | .ok output => s.Succeeds canWait run output
    | .error e => s.Fails canWait run stage e := by
  unfold program
  cases starts : s.errorNumber with
  | some number => exact .notStarted starts
  | none =>
    cases waitable : canWait run.timeout with
    | false =>
      cases inTime : s.seconds.exceeds run.timeout <;> exact .notAwaited starts waitable
    | true =>
      cases inTime : s.seconds.exceeds run.timeout with
      | true => exact .timedOut starts waitable inTime
      | false =>
        by_cases succeeded : s.status = 0
        · simp only [Studio.outcomeResult, succeeded, Bool.not_true, Bool.false_eq_true, if_false,
            if_true]
          exact ⟨starts, waitable, inTime, succeeded, rfl⟩
        · simp only [Studio.outcomeResult, succeeded, Bool.not_true, Bool.false_eq_true, if_false]
          exact .failed starts waitable inTime succeeded

theorem Succeeds.unique {output other : Bytes} (h : s.Succeeds canWait run output)
    (h' : s.Succeeds canWait run other) : other = output := h'.output.symm.trans h.output

theorem Fails.not_succeeds {e : Failure} {output : Bytes} (h : s.Fails canWait run stage e) :
    ¬ s.Succeeds canWait run output := by
  rintro ⟨starts, waitable, inTime, succeeded, _⟩
  cases h with
  | notStarted broken => cases broken.symm.trans starts
  | notAwaited _ refused => cases refused.symm.trans waitable
  | timedOut _ _ exceeded => cases exceeded.symm.trans inTime
  | failed _ _ _ failed => exact failed succeeded

theorem outcomeResult_ok_iff (runs : List Invocation) {output : Bytes} :
    Studio.outcomeResult stage run (canWait run.timeout) (s.program runs run) = .ok output ↔
      s.Succeeds canWait run output := by
  have follows := outcomeResult_program canWait s run stage runs
  revert follows
  cases Studio.outcomeResult stage run (canWait run.timeout) (s.program runs run) with
  | error e => exact fun fails => iff_of_false nofun fails.not_succeeds
  | ok given =>
    intro succeeds
    exact ⟨fun same => Except.ok.inj same ▸ succeeds, fun other => by rw [other.unique succeeds]⟩

theorem fails_of_outcomeResult (runs : List Invocation) {e : Failure}
    (h : Studio.outcomeResult stage run (canWait run.timeout) (s.program runs run) = .error e) :
    s.Fails canWait run stage e := by
  have follows := outcomeResult_program canWait s run stage runs
  rw [h] at follows
  exact follows

end Script

/-- A program of which each run follows a script of its own. -/
def Program.ofScripts (script : List Invocation → Invocation → Script) : Program :=
  fun runs run => (script runs run).program runs run

namespace Studio

section Sequence

variable (w : World) (renderer converter : List Invocation → Invocation → Script) (text : String)
  (timeout : Int)

def scripted : World :=
  { w with renderer := .ofScripts renderer, converter := .ofScripts converter }

def firstScript : Script := renderer w.runs (rendererRun w text timeout)

def secondScript (bitmap : Bytes) : Script :=
  converter (w.runs ++ [rendererRun w text timeout]) (converterRun w bitmap timeout)

def Rendered (bitmap : Bytes) : Prop :=
  (firstScript w renderer text timeout).Succeeds w.canWait (rendererRun w text timeout) bitmap

/-- The converter, run after that on the bitmap, succeeds and gives this image. -/
def Converted (bitmap png : Bytes) : Prop :=
  (secondScript w converter text timeout bitmap).Succeeds w.canWait (converterRun w bitmap timeout)
    png

structure RunsInSequence (result : Except Failure Bytes) (w' : World) : Prop where
  ok_iff (png : Bytes) : result = .ok png ↔ ∃ bitmap, Rendered w renderer text timeout bitmap ∧
    Converted w converter text timeout bitmap png
  once : (¬ ∃ bitmap, Rendered w renderer text timeout bitmap) →
    w' = { w with runs := w.runs ++ [rendererRun w text timeout] }
  twice {bitmap : Bytes} : Rendered w renderer text timeout bitmap →
    w' = { w with runs := w.runs ++ [rendererRun w text timeout, converterRun w bitmap timeout] }
  notRendered : (¬ ∃ bitmap, Rendered w renderer text timeout bitmap) →
    ∃ e, result = .error e ∧ e.Names w.canWait timeout .renderer ∧
      (firstScript w renderer text timeout).Fails w.canWait (rendererRun w text timeout) .renderer e
  notConverted {bitmap : Bytes} : Rendered w renderer text timeout bitmap →
    (¬ ∃ png, Converted w converter text timeout bitmap png) →
    ∃ e, result = .error e ∧ e.Names w.canWait timeout .converter ∧
      (secondScript w converter text timeout bitmap).Fails w.canWait (converterRun w bitmap timeout)
        .converter e

variable {w renderer converter text timeout}

theorem rendered_scripted_iff {bitmap : Bytes} :
    rendered (scripted w renderer converter) text timeout = .ok bitmap ↔
      Rendered (scripted w renderer converter) renderer text timeout bitmap :=
  Script.outcomeResult_ok_iff w.runs

theorem converted_scripted_iff {bitmap png : Bytes} :
    converted (scripted w renderer converter) text timeout bitmap = .ok png ↔
      Converted (scripted w renderer converter) converter text timeout bitmap png :=
  Script.outcomeResult_ok_iff w.runs

theorem Draws.runsInSequence {runs : List Invocation} {result : Except Failure Bytes}
    (h : Draws (scripted w renderer converter) text timeout runs result) :
    RunsInSequence (scripted w renderer converter) renderer converter text timeout result
      { scripted w renderer converter with runs := w.runs ++ runs } := by
  cases h with
  | notRendered failed =>
    have fails := Script.fails_of_outcomeResult w.runs failed
    have not (bitmap : Bytes) : ¬ Rendered _ renderer text timeout bitmap := fails.not_succeeds
    exact {
      ok_iff _ := ⟨nofun, fun ⟨bitmap, drawn, _⟩ => absurd drawn (not bitmap)⟩
      once _ := rfl
      twice drawn := absurd drawn (not _)
      notRendered _ := ⟨_, rfl, fails.names, fails⟩
      notConverted drawn := absurd drawn (not _) }
  | @notConverted bitmap e drawn failed =>
    have fails := Script.fails_of_outcomeResult w.runs failed
    have drawn := rendered_scripted_iff.mp drawn
    exact {
      ok_iff png := by
        refine ⟨nofun, fun ⟨other, drawn', succeeded⟩ => ?_⟩
        obtain rfl := drawn.unique drawn'
        exact absurd succeeded fails.not_succeeds
      once not := absurd ⟨_, drawn⟩ not
      twice drawn' := by
        obtain rfl := drawn.unique drawn'
        rfl
      notRendered not := absurd ⟨_, drawn⟩ not
      notConverted drawn' _ := by
        obtain rfl := drawn.unique drawn'
        exact ⟨_, rfl, fails.names, fails⟩ }
  | @converted bitmap png drawn succeeded =>
    have drawn := rendered_scripted_iff.mp drawn
    have succeeded := converted_scripted_iff.mp succeeded
    exact {
      ok_iff other := by
        refine ⟨fun same => ⟨bitmap, drawn, Except.ok.inj same ▸ succeeded⟩, ?_⟩
        rintro ⟨bitmap', drawn', succeeded'⟩
        obtain rfl := drawn.unique drawn'
        rw [succeeded.unique succeeded']
      once not := absurd ⟨_, drawn⟩ not
      twice drawn' := by
        obtain rfl := drawn.unique drawn'
        rfl
      notRendered not := absurd ⟨_, drawn⟩ not
      notConverted drawn' not := by
        obtain rfl := drawn.unique drawn'
        exact absurd ⟨_, succeeded⟩ not }

/-! ### Scenes -/

structure DrawsInSequence (w : World) (renderer converter : List Invocation → Invocation → Script)
    (s : Scene) (place : String) (result : Except Failure Bytes) (w' : World) : Prop where
  notCompiled {e : CompileError} : s.compileText w.trig = .error e →
    result = .error (.ofCompile e) ∧ w' = w
  compiled {text : String} : s.compileText w.trig = .ok text → ∃ drawn w₁,
    RunsInSequence w renderer converter text w.settings.timeout drawn w₁ ∧
      w'.runs = w₁.runs ∧ ∀ e, drawn = .error e → result = .error e ∧ w' = w₁
  ok_iff (png : Bytes) : result = .ok png ↔ ∃ text bitmap, s.compileText w.trig = .ok text ∧
    Rendered w renderer text w.settings.timeout bitmap ∧
    Converted w converter text w.settings.timeout bitmap png ∧
    w.files.write (Path.ofText place) png = .ok w'.files
  stored {png : Bytes} : result = .ok png → w'.files.read (Path.ofText place) = .ok png
  notWritten {text : String} {bitmap png : Bytes} {e : AccessError} :
    s.compileText w.trig = .ok text → Rendered w renderer text w.settings.timeout bitmap →
    Converted w converter text w.settings.timeout bitmap png →
    w.files.write (Path.ofText place) png = .error e →
    result = .error (.ofAccess (fun e => .fault (.render (.notWritten place e))) e)
  changed : w'.files ≠ w.files → ∃ text bitmap png, s.compileText w.trig = .ok text ∧
    Rendered w renderer text w.settings.timeout bitmap ∧
    Converted w converter text w.settings.timeout bitmap png ∧ result = .ok png

variable {s : Scene} {place : String} {result : Except Failure Bytes} {w' : World}

/-- What becomes of a scene that compiles is up to the programs, and then to the file. -/
theorem DrawingEnds.of_compiled {text : String} (h : DrawingEnds w s place result w')
    (compiled : s.compileText w.trig = .ok text) :
    ∃ runs drawn, Draws w text w.settings.timeout runs drawn ∧ w'.runs = w.runs ++ runs ∧
      (∀ e, drawn = .error e → result = .error e ∧ w' = { w with runs := w.runs ++ runs }) ∧
      ∀ png, drawn = .ok png →
        (∀ e, w.files.write (Path.ofText place) png = .error e →
          result = .error (.ofAccess (fun e => .fault (.render (.notWritten place e))) e)) ∧
        ∀ files, w.files.write (Path.ofText place) png = .ok files → result = .ok png := by
  cases h with
  | notCompiled failed => cases failed.symm.trans compiled
  | notDrawn compiled' draws =>
    cases compiled.symm.trans compiled'
    exact ⟨_, _, draws, rfl, fun e same => ⟨same, rfl⟩, nofun⟩
  | notWritten compiled' draws failed =>
    cases compiled.symm.trans compiled'
    refine ⟨_, _, draws, rfl, nofun, ?_⟩
    rintro png ⟨⟩
    constructor
    · intro e failed'
      cases failed.symm.trans failed'
      rfl
    · intro files done
      cases failed.symm.trans done
  | written compiled' draws done =>
    cases compiled.symm.trans compiled'
    refine ⟨_, _, draws, rfl, nofun, ?_⟩
    rintro png ⟨⟩
    refine ⟨fun e failed => ?_, fun files _ => rfl⟩
    cases done.symm.trans failed

theorem DrawingEnds.ok_iff (h : DrawingEnds (scripted w renderer converter) s place result w')
    (png : Bytes) :
    result = .ok png ↔ ∃ text bitmap, s.compileText w.trig = .ok text ∧
      Rendered (scripted w renderer converter) renderer text w.settings.timeout bitmap ∧
      Converted (scripted w renderer converter) converter text w.settings.timeout bitmap png ∧
      w.files.write (Path.ofText place) png = .ok w'.files := by
  constructor
  · rintro rfl
    cases h with
    | written compiled draws done =>
      obtain ⟨bitmap, drawn, succeeded⟩ := (draws.runsInSequence.ok_iff png).mp rfl
      exact ⟨_, bitmap, compiled, drawn, succeeded, done⟩
  · rintro ⟨text, bitmap, compiled, drawn, succeeded, done⟩
    obtain ⟨_, _, draws, _, _, ends⟩ := h.of_compiled compiled
    have isDrawn := (draws.runsInSequence.ok_iff png).mpr ⟨bitmap, drawn, succeeded⟩
    exact (ends png isDrawn).2 _ done

theorem DrawingEnds.drawsInSequence
    (h : DrawingEnds (scripted w renderer converter) s place result w') :
    DrawsInSequence (scripted w renderer converter) renderer converter s place result w' where
  notCompiled failed := by
    cases h with
    | notCompiled failed' =>
      cases failed.symm.trans failed'
      exact ⟨rfl, rfl⟩
    | notDrawn compiled _ => cases failed.symm.trans compiled
    | notWritten compiled _ _ => cases failed.symm.trans compiled
    | written compiled _ _ => cases failed.symm.trans compiled
  compiled compiled := by
    obtain ⟨_, _, draws, ran, failed, _⟩ := h.of_compiled compiled
    exact ⟨_, _, draws.runsInSequence, ran, failed⟩
  ok_iff := h.ok_iff
  stored succeeded := by
    obtain ⟨_, _, _, _, _, written⟩ := (h.ok_iff _).mp succeeded
    exact Files.read_write_same written
  notWritten compiled drawn converted failed := by
    obtain ⟨_, _, draws, _, _, ends⟩ := h.of_compiled compiled
    have isDrawn := (draws.runsInSequence.ok_iff _).mpr ⟨_, drawn, converted⟩
    exact (ends _ isDrawn).1 _ failed
  changed other := by
    have succeeded : ∃ png, result = .ok png := by
      cases h with
      | notCompiled _ => exact absurd rfl other
      | notDrawn _ _ => exact absurd rfl other
      | notWritten _ _ _ => exact absurd rfl other
      | written _ _ _ => exact ⟨_, rfl⟩
    obtain ⟨png, succeeded⟩ := succeeded
    obtain ⟨text, bitmap, compiled, drawn, converted, _⟩ := (h.ok_iff png).mp succeeded
    exact ⟨text, bitmap, png, compiled, drawn, converted, succeeded⟩

end Sequence

section Sequence

variable (w : World) (renderer converter : List Invocation → Invocation → Script)

theorem renderInput_broken (w : World) (before : String) (unit : Nat) (after : List CodePoint)
    (timeout : Option Int) :
    ∃ u, runIn w (renderInput (.broken before unit after) timeout) =
      (.error (.unencodable u), w) :=
  ⟨_, runIn_bind_error (runIn_ofExcept_error rfl w) _⟩

theorem renderInput_proper (w : World) (text : String) (timeout : Option Int) :
    runIn w (renderInput text timeout) = runIn w (renderText text timeout) :=
  runIn_bind_ok (runIn_ofExcept_ok rfl w) _

/-- Rendering runs the two programs in sequence, and writes no file before both succeeded. -/
theorem renders_in_sequence :
    (∀ text timeout, let w₀ := scripted w renderer converter
      let seconds := match timeout with
        | none => w.settings.timeout
        | some seconds => seconds
      let (result, w') := runIn w₀ (renderInput text timeout)
      match text with
      | .proper text => RunsInSequence w₀ renderer converter text seconds result w'
      | .broken .. => (∃ u, result = .error (.unencodable u)) ∧ w' = w₀) ∧
    ∀ s place, let w₀ := scripted w renderer converter
      let (result, w') := runIn w₀ (renderTo s (some place))
      DrawsInSequence w₀ renderer converter s place result w' := by
  constructor
  · intro text timeout
    cases text with
    | broken before unit after =>
      obtain ⟨u, ended⟩ :=
        renderInput_broken (scripted w renderer converter) before unit after timeout
      dsimp only
      rw [ended]
      exact ⟨⟨u, rfl⟩, rfl⟩
    | proper text =>
      obtain ⟨runs, result, draws, ran⟩ :=
        renderText_draws (scripted w renderer converter) text timeout
      dsimp only
      rw [renderInput_proper, ran]
      cases timeout with
      | none => exact draws.runsInSequence
      | some seconds => exact draws.runsInSequence
  · intro s place
    obtain ⟨result, w', ran, ends⟩ := renderTo_ends (scripted w renderer converter) s place
    dsimp only
    rw [ran]
    exact ends.drawsInSequence

end Sequence

/-- The renderer would end in time with status 0, but one second more than the system can wait for is
no timeout, nor is a number that no float is near to, and no program is run on a surrogate. -/
theorem renderInput_refused :
    (runIn (worldFor "images") (renderInput "0 0 0" (some 2147483))).1 = .ok [] ∧
      (runIn (worldFor "images") (renderInput "0 0 0" (some 2147484))).1 =
        .error (.unwaitable 2147484) ∧
      (runIn (worldFor "images") (renderInput "0 0 0" (some (10 ^ 400)))).1 =
        .error (.unwaitable (10 ^ 400)) ∧
      (runIn (worldFor "images") (renderInput "0 0 0" (some (-10 ^ 400)))).1 =
        .error (.unwaitable (-10 ^ 400)) ∧
      (runIn (worldFor "images") (renderInput (.broken "" 0xD800 []) none)).1 =
        .error (.unencodable ⟨0, 0xD800, 0⟩) := by
  decide +kernel

end Studio

end RayScene
