import RayScene.Proofs.Studio.Calls

/-!
# Runs on a store

A run is any number of calls on one store; between calls everything but the store may change. What
survives making the directory and writing an artifact survives a run (`runFrom_keeps`).
-/

namespace RayScene.Studio

/-- The store of a world amid all the rest of another one. -/
def amid (around w : World) : World :=
  { around with
    files := w.files
    settings := { around.settings with imagesDirectory := w.settings.imagesDirectory } }

/-- A call, with the world around the store when it is made. -/
structure Step where
  around : World
  call : Call

def Step.before (w : World) (step : Step) : World := amid step.around w

def Step.after (w : World) (step : Step) : World := step.call.leave (step.before w)

def runFrom (w : World) (steps : List Step) : World := steps.foldl Step.after w

/-- What the latest call of a run gives, of those that give something. -/
def latest {α : Type} (gives : World → Call → Option α) (w : World) : List Step → Option α
  | [] => none
  | step :: rest => (latest gives (step.after w) rest).or (gives (step.before w) step.call)

section Runs

variable {α β : Type}

theorem latest_append (gives : World → Call → Option α) (w : World) (steps others : List Step) :
    latest gives w (steps ++ others) =
      (latest gives (runFrom w steps) others).or (latest gives w steps) := by
  induction steps generalizing w with
  | nil =>
    rw [latest, Option.or_none]
    rfl
  | cons step rest ih =>
    rw [List.cons_append, latest, ih, latest, Option.or_assoc]
    rfl

theorem latest_map (f : α → β) (gives : World → Call → Option α) (w : World) (steps : List Step) :
    latest (fun w call => (gives w call).map f) w steps = (latest gives w steps).map f := by
  induction steps generalizing w with
  | nil => rfl
  | cons step rest ih => rw [latest, ih, latest, Option.map_or]

theorem latest_none {gives : World → Call → Option α} (w : World) {steps : List Step}
    (h : ∀ step ∈ steps, ∀ w, gives w step.call = none) : latest gives w steps = none := by
  induction steps generalizing w with
  | nil => rfl
  | cons step rest ih =>
    rw [latest, h step List.mem_cons_self, Option.or_none]
    exact ih _ fun other member => h other (List.mem_cons_of_mem _ member)

theorem imagesDirectory_runFrom (w : World) (steps : List Step) :
    (runFrom w steps).settings.imagesDirectory = w.settings.imagesDirectory := by
  induction steps generalizing w with
  | nil => rfl
  | cons step rest ih =>
    have same : (step.after w).settings = (step.before w).settings := Call.leave_settings _ _
    show (runFrom (step.after w) rest).settings.imagesDirectory = _
    rw [ih, same]
    rfl

def knownAfter (w : World) (steps : List Step) : Known :=
  fun name artifact => latest (fun w call => givenBy name w call artifact) w steps

theorem runFrom_keeps {w : World} {I : Files → Known → Prop} {known : Known}
    (survives : Survives w.settings.imagesDirectory I)
    (isRead : Path.IsRead w.settings.imagesDirectory) (h : I w.files known) (steps : List Step) :
    I (runFrom w steps).files
      (fun name artifact => (knownAfter w steps name artifact).or (known name artifact)) := by
  induction steps generalizing w known with
  | nil => exact h
  | cons step rest ih =>
    have directory : (step.after w).settings.imagesDirectory = w.settings.imagesDirectory :=
      imagesDirectory_runFrom w [step]
    have once : I (step.after w).files (known.after (step.before w) step.call) :=
      step.call.leave_keeps (w := step.before w) survives isRead h
    have whole := ih (w := step.after w) (directory ▸ survives) (directory ▸ isRead) once
    have same (name : String) (artifact : Artifact) :
        (knownAfter w (step :: rest) name artifact).or (known name artifact) =
          (knownAfter (step.after w) rest name artifact).or
            (known.after (step.before w) step.call name artifact) := Option.or_assoc
    simp only [same]
    exact whole

end Runs

end RayScene.Studio
