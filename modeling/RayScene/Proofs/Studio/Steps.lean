import Mathlib.Logic.Function.Iterate
import RayScene.Proofs.Studio.Stages

/-!
# Rendering in four steps

Rendering under a name stores the source, runs the renderer, runs the converter and writes the image.
A call that is under way has gone so far (`Progress`), and each of its steps is taken in the world
as it is then. Four steps without a pause are the whole call (`steps_renderAs`).
-/

namespace RayScene.Studio

inductive Progress where
  | begun
  | stored
  | drawn (bitmap : Bytes)
  | converted (png : Bytes)
  | ended (result : Except Failure Bytes)

def advance (s : Scene) (n : String) : Progress → Studio Progress
  | .begun => do
    storeSource s n
    return .stored
  | .stored => do
    let text ← compile s
    let timeout ← read fun w => w.settings.timeout
    return .drawn (← runStage .renderer (Utf8.encode (text ++ "\n")) timeout)
  | .drawn bitmap => do
    let timeout ← read fun w => w.settings.timeout
    return .converted (← runStage .converter bitmap timeout)
  | .converted png => do
    let place ← pathOf n .image
    writeImage place.text png
    return .ended (.ok png)
  | .ended result => return .ended result

/-- Where a step leads to; a step that fails is the last one. -/
def settle {α : Type} (next : α → Progress) : Except Failure α × World → Progress × World
  | (.ok x, w) => (next x, w)
  | (.error e, w) => (.ended (.error e), w)

def step (s : Scene) (n : String) : Progress × World → Progress × World
  | (p, w) => settle id (runIn w (advance s n p))

variable {s : Scene} {n : String}

theorem settle_map {α β : Type} (w : World) (a : Studio α) (f : α → β) (next : β → Progress) :
    settle next (runIn w (a >>= fun x => pure (f x))) = settle (fun x => next (f x)) (runIn w a) := by
  rcases ran : runIn w a with ⟨e | x, w'⟩
  · rw [runIn_bind_error ran]
    rfl
  · rw [runIn_bind_ok ran]
    rfl

theorem step_begun (w : World) :
    step s n (.begun, w) = settle (fun _ => .stored) (runIn w (storeSource s n)) :=
  settle_map w _ _ id

theorem step_stored {w : World} {text : String} (compiled : s.compileText w.trig = .ok text) :
    step s n (.stored, w) = settle .drawn
      (runIn w (runStage .renderer (Utf8.encode (text ++ "\n")) w.settings.timeout)) := by
  have compiling := runIn_compile w s
  rw [compiled] at compiling
  unfold step advance
  dsimp only
  rw [runIn_bind_ok compiling, runIn_bind_ok (runIn_read w _)]
  exact settle_map w _ _ id

theorem step_stored_error {w : World} {e : CompileError} (failed : s.compileText w.trig = .error e) :
    step s n (.stored, w) = (.ended (.error (.ofCompile e)), w) := by
  have compiling := runIn_compile w s
  rw [failed] at compiling
  unfold step advance
  dsimp only
  rw [runIn_bind_error compiling]
  rfl

theorem step_drawn (w : World) (bitmap : Bytes) :
    step s n (.drawn bitmap, w) =
      settle .converted (runIn w (runStage .converter bitmap w.settings.timeout)) := by
  unfold step advance
  dsimp only
  rw [runIn_bind_ok (runIn_read w _)]
  exact settle_map w _ _ id

theorem step_converted (w : World) (png : Bytes) :
    step s n (.converted png, w) = settle (fun _ => .ended (.ok png))
      (runIn w (writeImage (w.settings.imagesDirectory.child (Artifact.image.file n)).text png)) := by
  unfold step advance
  dsimp only
  rw [runIn_bind_ok (runIn_pathOf w n .image)]
  exact settle_map w _ _ id

theorem step_ended (w : World) (result : Except Failure Bytes) :
    step s n (.ended result, w) = (.ended result, w) := rfl

theorem steps_renderText {w : World} {text : String} (compiled : s.compileText w.trig = .ok text) :
    step s n (step s n (.stored, w)) = settle .converted (runIn w (renderText text none)) := by
  unfold renderText
  rw [step_stored compiled, runIn_bind_ok (runIn_read w _)]
  dsimp only [Option.getD_none]
  rcases drawn : runIn w (runStage .renderer (Utf8.encode (text ++ "\n")) w.settings.timeout) with
    ⟨e | bitmap, w'⟩
  · rw [runIn_bind_error drawn]
    rfl
  · have settings : w'.settings = w.settings := by
      have ran := runIn_runStage w .renderer (Utf8.encode (text ++ "\n")) w.settings.timeout
      rw [drawn] at ran
      rw [(Prod.mk.inj ran).2]
    rw [runIn_bind_ok drawn, ← settings]
    exact step_drawn w' bitmap

/-- Running the programs and writing the image are the steps that are left after a source was stored.
-/
theorem steps_renderTo (w : World) :
    (step s n)^[3] (.stored, w) = settle (fun png => .ended (.ok png)) (runIn w (renderTo s
      (some (w.settings.imagesDirectory.child (Artifact.image.file n)).text))) := by
  have compiling := runIn_compile w s
  unfold renderTo
  rw [Function.iterate_succ_apply', Function.iterate_succ_apply', Function.iterate_one]
  cases compiled : s.compileText w.trig with
  | error e =>
    rw [compiled] at compiling
    rw [step_stored_error compiled, step_ended, step_ended, runIn_bind_error compiling]
    rfl
  | ok text =>
    rw [compiled] at compiling
    rw [steps_renderText compiled, runIn_bind_ok compiling]
    obtain ⟨runs, e | png, _, ran⟩ := renderText_draws w text none
    · rw [runIn_bind_error ran, ran]
      rfl
    · rw [runIn_bind_ok ran, ran]
      have written := settle_map { w with runs := w.runs ++ runs }
        (writeImage (w.settings.imagesDirectory.child (Artifact.image.file n)).text png)
        (fun _ => png) fun png => .ended (.ok png)
      exact (step_converted _ png).trans written.symm

/-- A call that takes all its steps at once is rendering under a name. -/
theorem steps_renderAs {name : LooseText} (accepted : Accepts name n) (w : World) :
    (step s n)^[4] (.begun, w) = Prod.map .ended id (runIn w (renderAs s name)) := by
  have ended (outcome : Except Failure Bytes × World) :
      settle (fun png => .ended (.ok png)) outcome = Prod.map .ended id outcome := by
    rcases outcome with ⟨e | png, w'⟩
    · rfl
    · rfl
  rw [Function.iterate_succ_apply, step_begun]
  rcases storing : runIn w (storeSource s n) with ⟨e | done, w'⟩
  · rw [renderAs_not_stored accepted storing]
    rfl
  · rw [renderAs_stored accepted storing]
    exact (steps_renderTo w').trans (ended _)

end RayScene.Studio
