import RayScene.Proofs.Scene.Compiling
import RayScene.Proofs.Studio.Effects
import RayScene.Proofs.Studio.Overlay
import RayScene.Proofs.Studio.Steps

/-!
# Calls that take turns

Several calls to render are under way in one world, and take their steps in any order. If the
programs compute, what is stored after any number of turns is known from the turns alone: of each
artifact, what the call stored that was the last one to get to it (`tracked`).
-/

namespace RayScene

/-- A scene that was accepted and compiles, to be rendered under a valid name. -/
structure Job (trig : Trig) where
  scene : Scene
  name : String
  text : String
  accepted : ∃ v, Scene.check v = .ok scene
  compiled : scene.compileText trig = .ok text
  isValid : ArtifactName.isValid name = true

theorem Job.isStorable {trig : Trig} (job : Job trig) : job.scene.isStorable = true := by
  obtain ⟨w, compiled, _⟩ := Scene.compileText_ok_iff.mp job.compiled
  exact Scene.isStorable_of_compile compiled

def Job.content {trig : Trig} (draw convert : Bytes → Bytes) (job : Job trig) : Artifact → Bytes
  | .source => Utf8.encode job.scene.source
  | .image => convert (draw (Utf8.encode (job.text ++ "\n")))

def Outcome.output? : Outcome → Option Bytes
  | exited status output _ => if status = 0 then some output else none
  | _ => none

/-- Both programs always succeed, with an output that depends on their input only, and can be waited
for. -/
structure World.Computes (w : World) (draw convert : Bytes → Bytes) : Prop where
  waitable : w.canWait w.settings.timeout = true
  renderer (runs : List Invocation) (run : Invocation) :
    (w.renderer runs run).output? = some (draw run.input)
  converter (runs : List Invocation) (run : Invocation) :
    (w.converter runs run).output? = some (convert run.input)

/-- The number of steps before the one that stores an artifact. -/
def Artifact.turn : Artifact → Nat
  | source => 0
  | image => 3

theorem Artifact.turn_ne (artifact : Artifact) {k : Nat} (between : k = 1 ∨ k = 2) :
    k ≠ artifact.turn := by
  rcases between with rfl | rfl
  · cases artifact <;> decide
  · cases artifact <;> decide

theorem Artifact.turn_injective {a b : Artifact} (h : a.turn = b.turn) : a = b := by
  cases a <;> cases b <;> first | rfl | cases h

namespace Studio

structure State (ι : Type) where
  progress : ι → Progress
  world : World

/-- A source that can be stored is not stored only if its file cannot be written. -/
theorem StoringEnds.not_isWritable {w w' : World} {s : Scene} {n : String} {e : Failure}
    (h : StoringEnds w s n (.error e) w') (storable : s.isStorable = true) :
    (w.files.makeDirectories w.settings.imagesDirectory).1.isWritable
      (w.settings.imagesDirectory.child (Artifact.source.file n)) = false := by
  rw [Bool.eq_false_iff]
  intro writable
  obtain ⟨files, written⟩ := (Files.isWritable_iff_write (Utf8.encode s.source)).mp writable
  cases h with
  | notMade making =>
    have made := Files.makeDirectories_ok (isDirectory_before_write written)
    rw [making] at made
    cases made
  | notStorable _ broken => cases storable.symm.trans broken
  | notWritten making _ failed =>
    rw [making] at written
    cases failed.symm.trans written

theorem runIn_runStage_output {w : World} {stage : Stage} {input output : Bytes} {timeout : Int}
    (waitable : w.canWait timeout = true)
    (gives : (program w stage w.runs ⟨command w.settings stage, input, timeout⟩).output? =
      some output) :
    runIn w (runStage stage input timeout) =
      (.ok output, { w with runs := w.runs ++ [⟨command w.settings stage, input, timeout⟩] }) := by
  rw [runIn_runStage, waitable]
  revert gives
  cases program w stage w.runs ⟨command w.settings stage, input, timeout⟩ with
  | notStarted number => exact nofun
  | timedOut => exact nofun
  | exited status out errors =>
    intro gives
    obtain ⟨succeeded, same⟩ := Option.ite_none_right_eq_some.mp gives
    cases same
    rw [outcomeResult, Bool.not_true, if_neg Bool.false_ne_true, if_pos succeeded]

section Turns

variable {ι : Type} [DecidableEq ι] {trig : Trig}

def State.take (jobs : ι → Job trig) (st : State ι) (t : ι) : State ι :=
  let (next, w') := step (jobs t).scene (jobs t).name (st.progress t, st.world)
  ⟨Function.update st.progress t next, w'⟩

/-- The calls take their steps in this order. -/
def interleave (jobs : ι → Job trig) (w : World) (schedule : List ι) : State ι :=
  schedule.foldl (State.take jobs) ⟨fun _ => .begun, w⟩

/-- The call that took the step with this number last, of those under a name. The turns come last
first. -/
def latestAt (jobs : ι → Job trig) (k : Nat) (n : String) : List ι → Option ι
  | [] => none
  | t :: before =>
    if before.count t = k ∧ (jobs t).name = n then some t else latestAt jobs k n before

end Turns

def isWritableAfter (w : World) (n : String) (artifact : Artifact) : Bool :=
  (w.files.makeDirectories w.settings.imagesDirectory).1.isWritable
    (w.settings.imagesDirectory.child (artifact.file n))

def isStored (w : World) (n : String) : Artifact → Bool
  | .source => isWritableAfter w n .source
  | .image => isWritableAfter w n .source && isWritableAfter w n .image

section Tracking

variable {ι : Type} [DecidableEq ι] {w : World} (draw convert : Bytes → Bytes)
  (jobs : ι → Job w.trig)

/-- What is stored after these turns, last first. -/
def held (taken : List ι) : Known := fun n artifact =>
  if isStored w n artifact = true then
    (latestAt jobs artifact.turn n taken).map fun t => (jobs t).content draw convert artifact
  else none

variable {draw convert jobs} {taken : List ι} {t : ι} {artifact : Artifact}

theorem held_update (turn : taken.count t = artifact.turn)
    (stored : isStored w (jobs t).name artifact = true) :
    held draw convert jobs (t :: taken) = (held draw convert jobs taken).update (jobs t).name
      artifact ((jobs t).content draw convert artifact) := by
  funext n other
  by_cases same : n = (jobs t).name ∧ other = artifact
  · obtain ⟨rfl, rfl⟩ := same
    rw [Known.update_same, held, if_pos stored, latestAt, if_pos ⟨turn, rfl⟩]
    rfl
  · have another : ¬ (taken.count t = other.turn ∧ (jobs t).name = n) := by
      rintro ⟨turn', rfl⟩
      exact same ⟨rfl, Artifact.turn_injective (turn'.symm.trans turn)⟩
    rw [Known.update, if_neg same, held, latestAt, if_neg another]
    rfl

theorem held_same (h : ∀ artifact : Artifact, taken.count t = artifact.turn →
    isStored w (jobs t).name artifact = false) :
    held draw convert jobs (t :: taken) = held draw convert jobs taken := by
  funext n artifact
  unfold held
  by_cases stored : isStored w n artifact = true
  · have another : ¬ (taken.count t = artifact.turn ∧ (jobs t).name = n) := by
      rintro ⟨turn, rfl⟩
      rw [h artifact turn] at stored
      cases stored
    rw [latestAt, if_neg another]
  · rw [if_neg stored, if_neg stored]

variable (draw convert jobs)

inductive Reached (t : ι) : Nat → Progress → Prop
  | begun : Reached t 0 .begun
  | stored : isStored w (jobs t).name .source = true → Reached t 1 .stored
  | drawn : isStored w (jobs t).name .source = true →
      Reached t 2 (.drawn (draw (Utf8.encode ((jobs t).text ++ "\n"))))
  | converted : isStored w (jobs t).name .source = true →
      Reached t 3 (.converted ((jobs t).content draw convert .image))
  | written (k : Nat) : isStored w (jobs t).name .source = true →
      isStored w (jobs t).name .image = true →
      Reached t (k + 4) (.ended (.ok ((jobs t).content draw convert .image)))
  | notWritten (k : Nat) {e : Failure} : isStored w (jobs t).name .source = true →
      isStored w (jobs t).name .image = false → Reached t (k + 4) (.ended (.error e))
  | notStored (k : Nat) {e : Failure} : isStored w (jobs t).name .source = false →
      Reached t (k + 1) (.ended (.error e))

structure Tracked (taken : List ι) (st : State ι) : Prop where
  world : ∃ runs files, st.world = { w with runs, files }
  overlays : Overlays w.settings.imagesDirectory
    (w.files.makeDirectories w.settings.imagesDirectory).1
    (st.world.files.makeDirectories w.settings.imagesDirectory).1 (held draw convert jobs taken)
  made : taken ≠ [] →
    (st.world.files.makeDirectories w.settings.imagesDirectory).1 = st.world.files
  reached (t : ι) : Reached draw convert jobs t (taken.count t) (st.progress t)

variable {draw convert jobs} {st : State ι} {next : Progress} {w' : World}

theorem isStored_of_source {n : String} (h : isStored w n .source = false) (artifact : Artifact) :
    isStored w n artifact = false := by
  cases artifact with
  | source => exact h
  | image =>
    have source : isWritableAfter w n .source = false := h
    show (isWritableAfter w n .source && isWritableAfter w n .image) = false
    rw [source, Bool.false_and]

theorem tracked_begun : Tracked draw convert jobs [] ⟨fun _ => .begun, w⟩ where
  world := ⟨_, _, rfl⟩
  overlays := by
    have nothing : held draw convert jobs [] = fun _ _ => none := by
      funext n artifact
      exact ite_self _
    rw [nothing]
    exact .refl _ _
  made h := absurd rfl h
  reached _ := .begun

namespace Tracked

theorem take_of (h : Tracked draw convert jobs taken st)
    (stepped : step (jobs t).scene (jobs t).name (st.progress t, st.world) = (next, w'))
    (world : ∃ runs files, w' = { w with runs, files })
    (overlays : Overlays w.settings.imagesDirectory
      (w.files.makeDirectories w.settings.imagesDirectory).1 w'.files
      (held draw convert jobs (t :: taken)))
    (made : (w'.files.makeDirectories w.settings.imagesDirectory).1 = w'.files)
    (reached : Reached draw convert jobs t (taken.count t + 1) next) :
    Tracked draw convert jobs (t :: taken) (st.take jobs t) := by
  unfold State.take
  rw [stepped]
  refine {
    world
    overlays := ?_
    made := fun _ => made
    reached := fun u => ?_ }
  · dsimp only
    rwa [made]
  · by_cases same : u = t
    · subst same
      rw [List.count_cons_self]
      dsimp only
      rwa [Function.update_self]
    · rw [List.count_cons_of_ne (Ne.symm same)]
      dsimp only
      rw [Function.update_of_ne same]
      exact h.reached u

/-- A step that leaves the files alone is not one that would have stored something. -/
theorem take_still (h : Tracked draw convert jobs taken st)
    (stepped : step (jobs t).scene (jobs t).name (st.progress t, st.world) = (next, w'))
    (world : ∃ runs, w' = { st.world with runs }) (begun : taken.count t ≠ 0)
    (nothing : ∀ artifact : Artifact, taken.count t = artifact.turn →
      isStored w (jobs t).name artifact = false)
    (reached : Reached draw convert jobs t (taken.count t + 1) next) :
    Tracked draw convert jobs (t :: taken) (st.take jobs t) := by
  obtain ⟨runs, rfl⟩ := world
  obtain ⟨runs', files, same⟩ := h.world
  have nonempty : taken ≠ [] := by
    rintro rfl
    exact begun rfl
  have overlays := h.overlays
  rw [h.made nonempty, ← held_same nothing] at overlays
  refine h.take_of stepped ?_ overlays (h.made nonempty) reached
  rw [same]
  exact ⟨_, _, rfl⟩

theorem isWritable_iff (h : Tracked draw convert jobs taken st) (t : ι) (artifact : Artifact) :
    isWritableAfter w (jobs t).name artifact = true ↔
      (st.world.files.makeDirectories w.settings.imagesDirectory).1.isWritable
        (w.settings.imagesDirectory.child (artifact.file (jobs t).name)) = true :=
  (h.overlays.isWritable_iff (jobs t).isValid).symm

theorem take_begun (h : Tracked draw convert jobs taken st) (turn : taken.count t = 0)
    (begun : st.progress t = .begun) : Tracked draw convert jobs (t :: taken) (st.take jobs t) := by
  obtain ⟨progress, world⟩ := st
  obtain ⟨runs, files, rfl⟩ := h.world
  have writable := h.isWritable_iff t .source
  have overlays := h.overlays
  dsimp only at begun writable overlays
  have stepped := step_begun (s := (jobs t).scene) (n := (jobs t).name) { w with runs, files }
  rw [← begun] at stepped
  obtain ⟨result, w', storing, ends⟩ :=
    storeSource_ends { w with runs, files } (jobs t).scene (jobs t).name
  rw [storing] at stepped
  cases result with
  | error e =>
    have failed := ends.not_isWritable ((jobs t).isStorable)
    obtain rfl := ends.error_world
    have notStored : isStored w (jobs t).name .source = false := by
      rw [Bool.eq_false_iff]
      intro stored
      rw [writable.mp stored] at failed
      cases failed
    refine h.take_of stepped ⟨_, _, rfl⟩ ?_ (Files.makeDirectories_again _ _) ?_
    · rw [held_same fun artifact _ => isStored_of_source notStored artifact]
      exact overlays
    · rw [turn]
      exact .notStored 0 notStored
  | ok done =>
    obtain ⟨_, _, files', written, rfl⟩ := ends.ok_world
    have stored : isStored w (jobs t).name .source = true :=
      writable.mpr ((Files.isWritable_iff_write _).mpr ⟨files', written⟩)
    have held := overlays.write (jobs t).isValid written
    refine h.take_of stepped ⟨_, _, rfl⟩ ?_ (makeDirectories_write written) ?_
    · rw [held_update turn stored]
      exact held
    · rw [turn]
      exact .stored stored

theorem take_stored (computes : w.Computes draw convert) (h : Tracked draw convert jobs taken st)
    (turn : taken.count t = 1) (stored : isStored w (jobs t).name .source = true)
    (there : st.progress t = .stored) :
    Tracked draw convert jobs (t :: taken) (st.take jobs t) := by
  obtain ⟨progress, world⟩ := st
  obtain ⟨runs, files, rfl⟩ := h.world
  dsimp only at there
  have stepped := step_stored (n := (jobs t).name) (w := { w with runs, files }) (jobs t).compiled
  rw [← there] at stepped
  have ran : runIn { w with runs, files }
      (runStage .renderer (Utf8.encode ((jobs t).text ++ "\n")) w.settings.timeout) = _ :=
    runIn_runStage_output computes.waitable (computes.renderer _ _)
  rw [ran] at stepped
  refine h.take_still stepped ⟨_, rfl⟩ (by omega)
    (fun artifact same => absurd same (turn ▸ artifact.turn_ne (.inl rfl))) ?_
  rw [turn]
  exact .drawn stored

theorem take_drawn (computes : w.Computes draw convert) (h : Tracked draw convert jobs taken st)
    (turn : taken.count t = 2) (stored : isStored w (jobs t).name .source = true)
    (there : st.progress t = .drawn (draw (Utf8.encode ((jobs t).text ++ "\n")))) :
    Tracked draw convert jobs (t :: taken) (st.take jobs t) := by
  obtain ⟨progress, world⟩ := st
  obtain ⟨runs, files, rfl⟩ := h.world
  dsimp only at there
  have stepped := step_drawn (s := (jobs t).scene) (n := (jobs t).name) { w with runs, files }
    (draw (Utf8.encode ((jobs t).text ++ "\n")))
  rw [← there] at stepped
  have ran : runIn { w with runs, files } (runStage .converter
      (draw (Utf8.encode ((jobs t).text ++ "\n"))) w.settings.timeout) = _ :=
    runIn_runStage_output computes.waitable (computes.converter _ _)
  rw [ran] at stepped
  refine h.take_still stepped ⟨_, rfl⟩ (by omega)
    (fun artifact same => absurd same (turn ▸ artifact.turn_ne (.inr rfl))) ?_
  rw [turn]
  exact .converted stored

theorem take_converted (configured : w.IsConfigured) (h : Tracked draw convert jobs taken st)
    (turn : taken.count t = 3) (stored : isStored w (jobs t).name .source = true)
    (there : st.progress t = .converted ((jobs t).content draw convert .image)) :
    Tracked draw convert jobs (t :: taken) (st.take jobs t) := by
  obtain ⟨progress, world⟩ := st
  obtain ⟨runs, files, rfl⟩ := h.world
  have nonempty : taken ≠ [] := by
    rintro rfl
    cases turn
  have made := h.made nonempty
  have writable := h.isWritable_iff t .image
  have overlays := h.overlays
  rw [made] at writable overlays
  dsimp only at there made writable overlays
  have image : isStored w (jobs t).name .image = isWritableAfter w (jobs t).name .image := by
    have source : isWritableAfter w (jobs t).name .source = true := stored
    rw [isStored, source, Bool.true_and]
  have stepped := step_converted (s := (jobs t).scene) (n := (jobs t).name) { w with runs, files }
    ((jobs t).content draw convert .image)
  rw [← there, runIn_writeImage, (configured.file (jobs t).isValid .image).2] at stepped
  dsimp only at stepped
  cases written : files.write
      (w.settings.imagesDirectory.child (Artifact.image.file (jobs t).name))
      ((jobs t).content draw convert .image) with
  | error e =>
    rw [written] at stepped
    have notStored : isStored w (jobs t).name .image = false := by
      rw [image, Bool.eq_false_iff]
      intro writes
      obtain ⟨files', written'⟩ := (Files.isWritable_iff_write _).mp (writable.mp writes)
      cases written.symm.trans written'
    refine h.take_still stepped ⟨_, rfl⟩ (by omega) (fun artifact turn' => ?_) ?_
    · rw [turn] at turn'
      cases artifact with
      | source => cases turn'
      | image => exact notStored
    · rw [turn]
      exact .notWritten 0 stored notStored
  | ok files' =>
    rw [written] at stepped
    have isImage : isStored w (jobs t).name .image = true :=
      image.trans (writable.mpr ((Files.isWritable_iff_write _).mpr ⟨files', written⟩))
    refine h.take_of stepped ⟨_, _, rfl⟩ ?_ (makeDirectories_write written) ?_
    · rw [held_update turn isImage]
      exact overlays.write (jobs t).isValid written
    · rw [turn]
      exact .written 0 stored isImage

theorem take_ended {result : Except Failure Bytes} (h : Tracked draw convert jobs taken st)
    (begun : taken.count t ≠ 0) (there : st.progress t = .ended result)
    (nothing : ∀ artifact : Artifact, taken.count t = artifact.turn →
      isStored w (jobs t).name artifact = false)
    (reached : Reached draw convert jobs t (taken.count t + 1) (.ended result)) :
    Tracked draw convert jobs (t :: taken) (st.take jobs t) := by
  have stepped : step (jobs t).scene (jobs t).name (st.progress t, st.world) =
      (.ended result, st.world) := by
    rw [there]
    rfl
  exact h.take_still stepped ⟨_, rfl⟩ begun nothing reached

/-- Whatever step a call takes, all that there is to know stays known. -/
theorem take (configured : w.IsConfigured) (computes : w.Computes draw convert)
    (h : Tracked draw convert jobs taken st) (t : ι) :
    Tracked draw convert jobs (t :: taken) (st.take jobs t) := by
  generalize count : taken.count t = k
  generalize there : st.progress t = p
  have reached := h.reached t
  rw [count, there] at reached
  cases reached with
  | begun => exact h.take_begun count there
  | stored stored => exact h.take_stored computes count stored there
  | drawn stored => exact h.take_drawn computes count stored there
  | converted stored => exact h.take_converted configured count stored there
  | written k stored image =>
    refine h.take_ended (by omega) there (fun artifact turn => ?_) ?_
    · cases artifact <;> rw [count] at turn <;> cases turn
    · rw [count]
      exact .written (k + 1) stored image
  | notWritten k stored image =>
    refine h.take_ended (by omega) there (fun artifact turn => ?_) ?_
    · cases artifact <;> rw [count] at turn <;> cases turn
    · rw [count]
      exact .notWritten (k + 1) stored image
  | notStored k notStored =>
    refine h.take_ended (by omega) there (fun artifact _ => isStored_of_source notStored artifact) ?_
    rw [count]
    exact .notStored (k + 1) notStored

end Tracked

/-- After any turns of any calls, all that there is to know is known. -/
theorem tracked (configured : w.IsConfigured) (computes : w.Computes draw convert)
    (jobs : ι → Job w.trig) (schedule : List ι) :
    Tracked draw convert jobs schedule.reverse (interleave jobs w schedule) := by
  unfold interleave
  rw [List.foldl_eq_foldr_reverse]
  induction schedule.reverse with
  | nil => exact tracked_begun
  | cons t before ih => exact ih.take configured computes t

end Tracking

end Studio

end RayScene
