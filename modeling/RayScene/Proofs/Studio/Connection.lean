import RayScene.Proofs.Studio.Actions

/-!
# The store and the connection to the model

The actions of the store neither look at the connection to the model nor change it
(`unaware_renderAs`, `unaware_storedContent`).
-/

namespace RayScene

def World.withClient (w : World) (client : Option ModelClient) : World := { w with client }

theorem World.withClient_client (w : World) : w.withClient w.client = w := rfl

theorem World.withClient_withClient (w : World) (client client' : Option ModelClient) :
    (w.withClient client).withClient client' = w.withClient client' := rfl

namespace Studio

variable {α β ε : Type}

/-- The action does the same with every connection to the model, and keeps it. -/
def Unaware (a : Studio α) : Prop :=
  ∀ w client, runIn (w.withClient client) a = ((runIn w a).1, (runIn w a).2.withClient client)

namespace Unaware

theorem client {a : Studio α} (h : Unaware a) {w w' : World} {result : Except Failure α}
    (ran : runIn w a = (result, w')) : w'.client = w.client := by
  have same := h w w.client
  rw [World.withClient_client, ran] at same
  exact congrArg (fun outcome => outcome.2.client) same

theorem pure (a : α) : Unaware (pure a) := fun _ _ => rfl

theorem throw (e : Failure) : Unaware (throw e : Studio α) := fun _ _ => rfl

theorem ofExcept (toFailure : ε → Failure) (r : Except ε α) : Unaware (ofExcept toFailure r) := by
  intro w client
  cases r with
  | ok a => rfl
  | error e => rfl

theorem read {f : World → α} (same : ∀ w client, f (w.withClient client) = f w) :
    Unaware (read f) := by
  intro w client
  rw [runIn_read, runIn_read, same]

theorem bind {a : Studio α} {next : α → Studio β} (first : Unaware a)
    (later : ∀ x, Unaware (next x)) : Unaware (a >>= next) := by
  intro w client
  have step := first w client
  rcases result : runIn w a with ⟨e | x, w'⟩
  · rw [result] at step
    rw [runIn_bind_error step, runIn_bind_error result]
  · rw [result] at step
    rw [runIn_bind_ok step, runIn_bind_ok result]
    exact later x w' client

theorem handled {a : Studio α} {handle : Failure → Studio α} (first : Unaware a)
    (others : ∀ e, Unaware (handle e)) : Unaware (tryCatch a handle) := by
  intro w client
  rw [runIn_tryCatch, runIn_tryCatch, first w client]
  rcases runIn w a with ⟨e | x, w'⟩
  · exact others e w' client
  · rfl

end Unaware

theorem unaware_replace (toFailure : ε → Failure) (change : Files → Except ε Files) :
    Unaware (do
      let w ← get
      let files ← ofExcept toFailure (change w.files)
      set { w with files }) := by
  intro w client
  rw [runIn_bind_ok (runIn_get _), runIn_bind_ok (runIn_get w)]
  show runIn _ (ofExcept toFailure (change w.files) >>= _) = _
  cases change w.files with
  | error e => rfl
  | ok files => rfl

theorem unaware_runStage (stage : Stage) (input : Bytes) (timeout : Int) :
    Unaware (runStage stage input timeout) := by
  intro w client
  have same : program (w.withClient client) stage = program w stage := by
    cases stage with
    | renderer => rfl
    | converter => rfl
  unfold runStage
  rw [runIn_bind_ok (runIn_get _), runIn_bind_ok (runIn_get w),
    runIn_bind_ok (runIn_set _ _), runIn_bind_ok (runIn_set w _), same]
  let run : Invocation := ⟨command w.settings stage, input, timeout⟩
  exact Unaware.ofExcept id
    (outcomeResult stage run (w.canWait timeout) (program w stage w.runs run))
    { w with runs := w.runs ++ [run] } client

theorem unaware_renderText (text : String) (timeout : Option Int) :
    Unaware (renderText text timeout) := by
  unfold renderText
  apply Unaware.bind (Unaware.read fun _ _ => rfl)
  intro seconds
  apply Unaware.bind (unaware_runStage _ _ _)
  intro bitmap
  exact unaware_runStage _ _ _

theorem unaware_writeImage (place : String) (png : Bytes) : Unaware (writeImage place png) :=
  unaware_replace _ fun fs => fs.write (Path.ofText place) png

theorem unaware_renderTo (s : Scene) (place : String) : Unaware (renderTo s (some place)) := by
  unfold renderTo compile
  apply Unaware.bind
  · apply Unaware.bind (Unaware.read fun _ _ => rfl)
    exact fun trig => Unaware.ofExcept _ _
  intro wire
  apply Unaware.bind (unaware_renderText _ _)
  intro png
  show Unaware (writeImage place png >>= fun _ => Pure.pure png)
  apply Unaware.bind (unaware_writeImage place png)
  exact fun _ => Unaware.pure png

theorem unaware_pathOf (name : String) (artifact : Artifact) : Unaware (pathOf name artifact) :=
  fun _ _ => rfl

theorem unaware_validName (name : LooseText) : Unaware (validName name) := by
  unfold validName
  split
  · exact Unaware.pure _
  · exact Unaware.throw _

theorem unaware_storeSource (s : Scene) (name : String) : Unaware (storeSource s name) := by
  unfold storeSource
  apply Unaware.bind (unaware_pathOf _ _)
  intro path
  apply Unaware.bind (a := makeImagesDirectory) fun _ _ => rfl
  intro made
  apply Unaware.bind (Unaware.ofExcept _ _)
  intro done
  have written : Unaware (do
      let w ← get
      let files ← ofExcept (notStored name) (w.files.write path (Utf8.encode s.source))
      set { w with files }) := unaware_replace _ fun fs => fs.write path (Utf8.encode s.source)
  by_cases storable : s.isStorable = true
  · rw [if_pos storable]
    exact written
  · rw [if_neg storable]
    exact Unaware.throw _

theorem unaware_renderAs (s : Scene) (name : LooseText) : Unaware (renderAs s name) := by
  unfold renderAs
  apply Unaware.bind (unaware_validName name)
  intro n
  apply Unaware.bind (unaware_storeSource s n)
  intro done
  apply Unaware.bind (unaware_pathOf _ _)
  intro place
  exact unaware_renderTo s place.text

theorem unaware_storedContent (name : LooseText) (artifact : Artifact) :
    Unaware (storedContent name artifact) := by
  unfold storedContent
  apply Unaware.bind (unaware_validName name)
  intro n
  apply Unaware.bind (unaware_pathOf _ _)
  intro path w client
  rw [runIn_bind_ok (runIn_get _), runIn_bind_ok (runIn_get w)]
  exact Unaware.ofExcept _ _ w client

theorem unaware_storedSource (name : LooseText) : Unaware (storedSource name) := by
  unfold storedSource
  apply Unaware.bind (unaware_storedContent name .source)
  exact fun content => Unaware.ofExcept _ _

end Studio
end RayScene
