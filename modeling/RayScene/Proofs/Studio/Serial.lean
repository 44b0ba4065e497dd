import RayScene.Proofs.Studio.Interleaving
import RayScene.Proofs.Studio.LastWrite
import RayScene.Proofs.Studio.Sources

/-!
# Two calls at the same time

Two calls to render take their steps in any order. If neither lies within the other, or if they are
under different names, they leave what they would leave one after the other; else the source is that
of the inner one and the image that of the outer one (`interleave_compares`).
-/

namespace RayScene

def Job.call {trig : Trig} (job : Job trig) : Studio.Call := .render job.scene job.name

theorem Job.scene_of_source {trig : Trig} {job job' : Job trig}
    (same : job.scene.source = job'.scene.source) : job.scene = job'.scene := by
  have read (job : Job trig) : Scene.ofText .earlier job.scene.source = .ok job.scene := by
    obtain ⟨v, accepted⟩ := job.accepted
    exact (Scene.isReadFrom_source accepted job.isStorable).read .earlier
  have first := read job
  rw [same] at first
  exact Except.ok.inj (first.symm.trans (read job'))

namespace Studio

section Turns

variable {ι : Type} [DecidableEq ι] {trig : Trig} {jobs : ι → Job trig}

/-- The schedule in which one call takes all its steps, and then another one does. -/
def inTurn (t u : ι) : List ι := List.replicate 4 t ++ List.replicate 4 u

theorem take_replicate (st : State ι) (t : ι) (k : Nat) :
    (List.replicate k t).foldl (State.take jobs) st =
      ⟨Function.update st.progress t
          ((step (jobs t).scene (jobs t).name)^[k] (st.progress t, st.world)).1,
        ((step (jobs t).scene (jobs t).name)^[k] (st.progress t, st.world)).2⟩ := by
  induction k generalizing st with
  | zero =>
    rw [List.replicate_zero, List.foldl_nil, Function.iterate_zero_apply, Function.update_eq_self]
  | succ k ih =>
    have progress : (st.take jobs t).progress t =
        (step (jobs t).scene (jobs t).name (st.progress t, st.world)).1 := Function.update_self ..
    rw [List.replicate_succ, List.foldl_cons, ih, progress, Function.iterate_succ_apply]
    exact congrArg (State.mk · _) (Function.update_idem ..)

/-- Calls that do not overlap leave what they leave when they are alone. -/
theorem interleave_inTurn_world (w : World) {t u : ι} (different : u ≠ t) :
    (interleave jobs w (inTurn t u)).world = (jobs u).call.leave ((jobs t).call.leave w) := by
  have alone (t : ι) (w : World) :
      (step (jobs t).scene (jobs t).name)^[4] (.begun, w) =
        (.ended (runIn w (renderAs (jobs t).scene (jobs t).name)).1, (jobs t).call.leave w) :=
    steps_renderAs ⟨rfl, (jobs t).isValid⟩ w
  unfold interleave inTurn
  rw [List.foldl_append, take_replicate, take_replicate, alone]
  dsimp only
  rw [Function.update_of_ne different, alone]

theorem latestAt_none {k : Nat} {n : String} (others : ∀ t, (jobs t).name ≠ n) (taken : List ι) :
    latestAt jobs k n taken = none := by
  induction taken with
  | nil => rfl
  | cons t before ih => rw [latestAt, if_neg (fun both => others t both.2), ih]

theorem latestAt_only {k : Nat} {n : String} {t : ι} {taken : List ι}
    (only : ∀ u, (jobs u).name = n ↔ u = t) (gone : k < taken.count t) :
    latestAt jobs k n taken = some t := by
  induction taken with
  | nil => cases gone
  | cons u before ih =>
    unfold latestAt
    by_cases same : u = t
    · subst same
      rw [List.count_cons_self] at gone
      by_cases now : before.count u = k
      · rw [if_pos ⟨now, (only u).mpr rfl⟩]
      · rw [if_neg (fun both => now both.1), ih (by omega)]
    · rw [List.count_cons_of_ne same] at gone
      rw [if_neg (fun both => same ((only u).mp both.2)), ih gone]

end Turns

/-! ### Two calls -/

section TwoCalls

variable {w : World} {draw convert : Bytes → Bytes} {jobs : Bool → Job w.trig} {n : String}
  {schedule schedule' : List Bool} {t u : Bool} {artifact : Artifact}

theorem same_name (same : (jobs true).name = (jobs false).name) (t u : Bool) :
    (jobs u).name = (jobs t).name := by
  cases t <;> cases u
  · rfl
  · exact same
  · exact same.symm
  · rfl

theorem only_name (different : (jobs true).name ≠ (jobs false).name) (t u : Bool) :
    (jobs u).name = (jobs t).name ↔ u = t := by
  cases t <;> cases u
  · exact iff_of_true rfl rfl
  · exact iff_of_false different nofun
  · exact iff_of_false different.symm nofun
  · exact iff_of_true rfl rfl

def IsInterleaving (schedule : List Bool) : Prop := ∀ t, schedule.count t = 4

instance (schedule : List Bool) : Decidable (IsInterleaving schedule) :=
  inferInstanceAs (Decidable (∀ t, schedule.count t = 4))

theorem isInterleaving_inTurn (t : Bool) : IsInterleaving (inTurn t !t) := by
  cases t <;> decide

theorem IsInterleaving.ends (complete : IsInterleaving schedule)
    (separate : schedule.head? ≠ schedule.getLast?) :
    ∃ t, schedule.head? = some t ∧ schedule.getLast? = some !t := by
  cases schedule with
  | nil => cases complete true
  | cons t rest =>
    have last := List.getLast?_eq_some_getLast (List.cons_ne_nil t rest)
    refine ⟨t, rfl, ?_⟩
    rw [last] at separate ⊢
    rw [Bool.eq_not_of_ne fun same => separate (congrArg some same.symm)]

/-- Under one name the call that begins first is not the latest one to begin. -/
theorem latestAt_begun (same : ∀ t, (jobs t).name = n) {before : List Bool}
    (other : (!t) ∈ before) : latestAt jobs 0 n (before ++ [t]) = some !t := by
  induction before with
  | nil => cases other
  | cons u rest ih =>
    rw [List.cons_append, latestAt]
    by_cases begun : (!t) ∈ rest
    · have again : u ∈ rest ++ [t] := by
        rcases Bool.eq_or_eq_not u t with rfl | rfl
        · exact List.mem_append_right _ List.mem_cons_self
        · exact List.mem_append_left _ begun
      rw [if_neg (fun both => List.count_eq_zero.mp both.1 again), ih begun]
    · have first : u = !t := by
        rcases List.mem_cons.mp other with now | later
        · exact now.symm
        · exact absurd later begun
      subst first
      have fresh : (!t) ∉ rest ++ [t] := by
        rw [List.mem_append, List.mem_singleton]
        rintro (member | self)
        · exact begun member
        · exact Bool.not_ne_self t self
      rw [if_pos ⟨List.count_eq_zero.mpr fresh, same _⟩]

/-- Under one name, the source is that of the call that begins last, and the image that of the one
that ends last. -/
theorem latestAt_same (same : ∀ t, (jobs t).name = n) (complete : IsInterleaving schedule)
    (first : schedule.head? = some t) (last : schedule.getLast? = some u) :
    latestAt jobs 0 n schedule.reverse = some !t ∧ latestAt jobs 3 n schedule.reverse = some u := by
  constructor
  · obtain ⟨rest, rfl⟩ := List.head?_eq_some_iff.mp first
    have others := complete !t
    rw [List.count_cons_of_ne (Bool.not_ne_self t).symm] at others
    rw [List.reverse_cons]
    refine latestAt_begun same (List.mem_reverse.mpr (List.count_pos_iff.mp ?_))
    omega
  · obtain ⟨before, rfl⟩ := List.getLast?_eq_some_iff.mp last
    have gone := complete u
    rw [List.count_append, List.count_singleton_self] at gone
    rw [List.reverse_append, List.reverse_singleton, List.singleton_append, latestAt, if_pos]
    exact ⟨by rw [List.count_reverse]; omega, same u⟩

/-- What is stored under one name, if this call begins last and this one ends last. -/
def heldOf (draw convert : Bytes → Bytes) (jobs : Bool → Job w.trig) (n : String) (t u : Bool) :
    Known := fun m artifact =>
  if m = n ∧ isStored w n artifact = true then
    some ((jobs (match artifact with | .source => t | .image => u)).content draw convert artifact)
  else none

theorem held_same_name (same : ∀ t, (jobs t).name = n) (complete : IsInterleaving schedule)
    (first : schedule.head? = some t) (last : schedule.getLast? = some u) :
    held draw convert jobs schedule.reverse = heldOf draw convert jobs n (!t) u := by
  obtain ⟨source, image⟩ := latestAt_same same complete first last
  funext m artifact
  unfold held heldOf
  by_cases here : m = n
  · subst here
    cases artifact with
    | source => simp only [Artifact.turn, source, Option.map_some, true_and]
    | image => simp only [Artifact.turn, image, Option.map_some, true_and]
  · have others (t : Bool) : (jobs t).name ≠ m := fun named => here (named.symm.trans (same t))
    have away : ¬ (m = n ∧ isStored w n artifact = true) := fun both => here both.1
    rw [latestAt_none others, if_neg away, Option.map_none, ite_self]

section Held

variable {m : String} {t' u' : Bool}

theorem heldOf_other_image (h : m = n → artifact ≠ .image) :
    heldOf draw convert jobs n t u m artifact = heldOf draw convert jobs n t u' m artifact := by
  by_cases here : m = n
  · cases artifact with
    | source => rfl
    | image => exact absurd rfl (h here)
  · unfold heldOf
    rw [if_neg (fun both => here both.1), if_neg (fun both => here both.1)]

theorem heldOf_other_source (h : m = n → artifact ≠ .source) :
    heldOf draw convert jobs n t u m artifact = heldOf draw convert jobs n t' u m artifact := by
  by_cases here : m = n
  · cases artifact with
    | source => exact absurd rfl (h here)
    | image => rfl
  · unfold heldOf
    rw [if_neg (fun both => here both.1), if_neg (fun both => here both.1)]

end Held

/-- Under different names each call is the latest one under its own. -/
theorem latestAt_different (different : (jobs true).name ≠ (jobs false).name)
    (complete : IsInterleaving schedule) (t : Bool) (artifact : Artifact) :
    latestAt jobs artifact.turn (jobs t).name schedule.reverse = some t := by
  refine latestAt_only (only_name different t) ?_
  rw [List.count_reverse, complete t]
  cases artifact <;> decide

theorem held_different_names (different : (jobs true).name ≠ (jobs false).name)
    (complete : IsInterleaving schedule) (complete' : IsInterleaving schedule') :
    held draw convert jobs schedule.reverse = held draw convert jobs schedule'.reverse := by
  funext m artifact
  unfold held
  by_cases named : ∃ t, (jobs t).name = m
  · obtain ⟨t, rfl⟩ := named
    rw [latestAt_different different complete, latestAt_different different complete']
  · have others (t : Bool) : (jobs t).name ≠ m := fun same => named ⟨t, same⟩
    rw [latestAt_none others, latestAt_none others]

variable (w draw convert jobs) in
def Holds (fs : Files) (t : Bool) (artifact : Artifact) : Prop :=
  fs.read (w.settings.imagesDirectory.child (artifact.file (jobs t).name)) =
    .ok ((jobs t).content draw convert artifact)

variable (jobs) in
def serial (t : Bool) : Files := ((jobs !t).call.leave ((jobs t).call.leave w)).files

variable (jobs) in
def together (schedule : List Bool) : Files := (interleave jobs w schedule).world.files

theorem together_overlays (configured : w.IsConfigured) (computes : w.Computes draw convert)
    (jobs : Bool → Job w.trig) (complete : IsInterleaving schedule) :
    Overlays w.settings.imagesDirectory (w.files.makeDirectories w.settings.imagesDirectory).1
      (together jobs schedule) (held draw convert jobs schedule.reverse) := by
  have h := tracked configured computes jobs schedule
  have nonempty : schedule.reverse ≠ [] := by
    rw [Ne, List.reverse_eq_nil_iff]
    rintro rfl
    cases complete true
  have overlays := h.overlays
  rw [h.made nonempty] at overlays
  exact overlays

theorem serial_eq (jobs : Bool → Job w.trig) (t : Bool) :
    serial jobs t = together jobs (inTurn t !t) :=
  congrArg World.files (interleave_inTurn_world w (Bool.not_ne_self t)).symm

theorem serial_overlays (configured : w.IsConfigured) (computes : w.Computes draw convert)
    (jobs : Bool → Job w.trig) (t : Bool) :
    Overlays w.settings.imagesDirectory (w.files.makeDirectories w.settings.imagesDirectory).1
      (serial jobs t) (held draw convert jobs (inTurn t !t).reverse) := by
  rw [serial_eq]
  exact together_overlays configured computes jobs (isInterleaving_inTurn t)

/-- After all its steps a call has ended, with an image if both artifacts could be stored. -/
theorem progress_cases (configured : w.IsConfigured) (computes : w.Computes draw convert)
    (complete : IsInterleaving schedule) (t : Bool) :
    ((interleave jobs w schedule).progress t = .ended (.ok ((jobs t).content draw convert .image)) ∧
        ∀ artifact, isStored w (jobs t).name artifact = true) ∨
      ∃ e, (interleave jobs w schedule).progress t = .ended (.error e) := by
  have reached := (tracked configured computes jobs schedule).reached t
  rw [List.count_reverse, complete t] at reached
  generalize (interleave jobs w schedule).progress t = p at reached
  cases reached with
  | written k source image =>
    refine .inl ⟨rfl, fun artifact => ?_⟩
    cases artifact with
    | source => exact source
    | image => exact image
  | notWritten k _ _ => exact .inr ⟨_, rfl⟩
  | notStored k _ => exact .inr ⟨_, rfl⟩

theorem holds_of_held {fs : Files} {taken : List Bool}
    (overlays : Overlays w.settings.imagesDirectory
      (w.files.makeDirectories w.settings.imagesDirectory).1 fs (held draw convert jobs taken))
    (stored : isStored w (jobs t).name artifact = true)
    (latest : latestAt jobs artifact.turn (jobs t).name taken = some t) :
    Holds w draw convert jobs fs t artifact := by
  have writable : isWritableAfter w (jobs t).name artifact = true := by
    cases artifact with
    | source => exact stored
    | image => exact (Bool.and_eq_true_iff.mp stored).2
  refine overlays.read (jobs t).isValid writable ?_
  rw [held, if_pos stored, latest]
  rfl

variable (w draw convert jobs schedule) in
/-- What two calls leave that take their steps in this order, compared with what they leave one after
the other. -/
structure ComparesWithSerial : Prop where
  ended (t : Bool) : ∃ result, (interleave jobs w schedule).progress t = .ended result
  different : (jobs true).name ≠ (jobs false).name →
    ∀ t, (together jobs schedule).Alike (serial jobs t)
  overlapping {t : Bool} : schedule.head? = some t → schedule.getLast? = some (!t) →
    (together jobs schedule).Alike (serial jobs t)
  paired {t : Bool} {png : Bytes} :
    (jobs true).name ≠ (jobs false).name ∨ schedule.head? ≠ schedule.getLast? →
    (interleave jobs w schedule).progress t = .ended (.ok png) →
    ∃ u, (jobs u).name = (jobs t).name ∧
      ∀ artifact, Holds w draw convert jobs (together jobs schedule) u artifact
  /-- All but the image is as if the outer call came first, all but the source as if it came last. -/
  nested {t : Bool} : (jobs true).name = (jobs false).name →
    schedule.head? = some t → schedule.getLast? = some t →
    (∀ l, ¬ IsPlace (together jobs schedule) w.settings.imagesDirectory (jobs t).name .image l →
      (together jobs schedule).at? l = (serial jobs t).at? l) ∧
    ∀ l, ¬ IsPlace (together jobs schedule) w.settings.imagesDirectory (jobs t).name .source l →
      (together jobs schedule).at? l = (serial jobs !t).at? l
  mixed {t : Bool} {png : Bytes} : (jobs true).name = (jobs false).name →
    schedule.head? = some t → schedule.getLast? = some t →
    (interleave jobs w schedule).progress t = .ended (.ok png) →
    Holds w draw convert jobs (together jobs schedule) (!t) .source ∧
      Holds w draw convert jobs (together jobs schedule) t .image ∧
      ((∀ artifact, (jobs true).content draw convert artifact ≠
          (jobs false).content draw convert artifact) →
        ∀ u, ¬ (together jobs schedule).Alike (serial jobs u))

theorem content_ne (apart : ∀ artifact, (jobs true).content draw convert artifact ≠
      (jobs false).content draw convert artifact) (t : Bool) (artifact : Artifact) :
    (jobs t).content draw convert artifact ≠ (jobs !t).content draw convert artifact := by
  cases t
  · exact (apart artifact).symm
  · exact apart artifact

theorem Holds.content_eq {fs fs' : Files} (same : (jobs true).name = (jobs false).name)
    (alike : fs.Alike fs') (h : Holds w draw convert jobs fs t artifact)
    (h' : Holds w draw convert jobs fs' u artifact) :
    (jobs t).content draw convert artifact = (jobs u).content draw convert artifact := by
  unfold Holds at h h'
  rw [same_name same t u, ← alike.read] at h'
  exact Except.ok.inj (h.symm.trans h')

section Compared

variable (configured : w.IsConfigured) (computes : w.Computes draw convert)
  (complete : IsInterleaving schedule)

include configured computes complete

theorem different_alike (different : (jobs true).name ≠ (jobs false).name) (t : Bool) :
    (together jobs schedule).Alike (serial jobs t) := by
  have overlays := together_overlays configured computes jobs complete
  rw [held_different_names different complete (isInterleaving_inTurn t)] at overlays
  exact overlays.alike (serial_overlays configured computes jobs t)

theorem overlapping_alike (first : schedule.head? = some t) (last : schedule.getLast? = some !t) :
    (together jobs schedule).Alike (serial jobs t) := by
  by_cases same : (jobs true).name = (jobs false).name
  · have overlays := together_overlays configured computes jobs complete
    have after := serial_overlays configured computes jobs t
    rw [held_same_name (same_name same t) complete first last] at overlays
    rw [held_same_name (same_name same t) (isInterleaving_inTurn t) rfl rfl] at after
    exact overlays.alike after
  · exact different_alike configured computes complete same t

theorem nested_at? (same : (jobs true).name = (jobs false).name)
    (first : schedule.head? = some t) (last : schedule.getLast? = some t) (l : Location) :
    (¬ IsPlace (together jobs schedule) w.settings.imagesDirectory (jobs t).name .image l →
        (together jobs schedule).at? l = (serial jobs t).at? l) ∧
      (¬ IsPlace (together jobs schedule) w.settings.imagesDirectory (jobs t).name .source l →
        (together jobs schedule).at? l = (serial jobs !t).at? l) := by
  have overlays := together_overlays configured computes jobs complete
  rw [held_same_name (same_name same t) complete first last] at overlays
  have after (u : Bool) := serial_overlays configured computes jobs u
  have apart {artifact other : Artifact} {m : String}
      (elsewhere : ¬ IsPlace (together jobs schedule) w.settings.imagesDirectory (jobs t).name
        artifact l)
      (place : IsPlace (w.files.makeDirectories w.settings.imagesDirectory).1
        w.settings.imagesDirectory m other l) (here : m = (jobs t).name) : other ≠ artifact := by
    rintro rfl
    subst here
    exact elsewhere (overlays.isPlace_iff.mpr place)
  constructor
  · intro elsewhere
    have after := after t
    rw [held_same_name (same_name same t) (isInterleaving_inTurn t) rfl rfl] at after
    exact overlays.agree after fun m other place => heldOf_other_image (apart elsewhere place)
  · intro elsewhere
    have after := after !t
    rw [held_same_name (same_name same t) (isInterleaving_inTurn !t) rfl rfl, Bool.not_not] at after
    exact overlays.agree after fun m other place => heldOf_other_source (apart elsewhere place)

theorem holds_together (stored : ∀ artifact, isStored w (jobs t).name artifact = true) :
    ((jobs true).name ≠ (jobs false).name →
      ∀ artifact, Holds w draw convert jobs (together jobs schedule) t artifact) ∧
    ∀ {u v : Bool}, (jobs true).name = (jobs false).name → schedule.head? = some u →
      schedule.getLast? = some v →
      Holds w draw convert jobs (together jobs schedule) (!u) .source ∧
        Holds w draw convert jobs (together jobs schedule) v .image := by
  have overlays := together_overlays configured computes jobs complete
  constructor
  · exact fun different artifact => holds_of_held overlays (stored artifact)
      (latestAt_different different complete t artifact)
  · intro u v same first last
    obtain ⟨source, image⟩ := latestAt_same (same_name same t) complete first last
    constructor
    · rw [← same_name same t !u] at stored source
      exact holds_of_held overlays (stored .source) source
    · rw [← same_name same t v] at stored image
      exact holds_of_held overlays (stored .image) image

/-- If one call lies within the other, and the calls store other sources and other images, what they
leave is what they leave in no order. -/
theorem nested_not_alike (same : (jobs true).name = (jobs false).name)
    (first : schedule.head? = some t) (last : schedule.getLast? = some t)
    (stored : ∀ artifact, isStored w (jobs t).name artifact = true)
    (apart : ∀ artifact, (jobs true).content draw convert artifact ≠
      (jobs false).content draw convert artifact) (u : Bool) :
    ¬ (together jobs schedule).Alike (serial jobs u) := by
  intro alike
  obtain ⟨source, image⟩ :=
    (holds_together configured computes complete stored).2 same first last
  rw [serial_eq] at alike
  obtain ⟨source', image'⟩ := (holds_together configured computes (isInterleaving_inTurn u) stored).2
    same rfl rfl
  -- In the order that the outer call begins its image is lost, in the other one the inner source.
  by_cases outer : u = t
  · subst outer
    exact content_ne apart u .image (image.content_eq same alike image')
  · obtain rfl := Bool.eq_not_of_ne outer
    rw [Bool.not_not] at source' alike
    exact content_ne apart t .source (source.content_eq same alike source').symm

end Compared

/-- Two calls that take their steps in any order leave what they leave one after the other, and so a
source and an image that belong together, unless they are under one name and one of them lies within
the other. Then the source is that of the inner call, and the image that of the outer one. -/
theorem interleave_compares (configured : w.IsConfigured) (computes : w.Computes draw convert)
    (jobs : Bool → Job w.trig) (complete : IsInterleaving schedule) :
    ComparesWithSerial w draw convert jobs schedule where
  ended t := by
    rcases progress_cases configured computes complete t with ⟨ended, _⟩ | ⟨e, ended⟩
    · exact ⟨_, ended⟩
    · exact ⟨_, ended⟩
  different := different_alike configured computes complete
  overlapping := overlapping_alike configured computes complete
  paired {t png} separate ended := by
    rcases progress_cases configured computes complete t with ⟨_, stored⟩ | ⟨e, failed⟩
    · have holds := holds_together configured computes complete stored
      by_cases same : (jobs true).name = (jobs false).name
      · obtain ⟨u, first, last⟩ := complete.ends (separate.resolve_left (not_not.mpr same))
        obtain ⟨source, image⟩ := holds.2 same first last
        refine ⟨!u, same_name same t _, fun artifact => ?_⟩
        cases artifact with
        | source => exact source
        | image => exact image
      · exact ⟨t, rfl, holds.1 same⟩
    · cases failed.symm.trans ended
  nested same first last :=
    ⟨fun l => (nested_at? configured computes complete same first last l).1,
      fun l => (nested_at? configured computes complete same first last l).2⟩
  mixed {t png} same first last ended := by
    rcases progress_cases configured computes complete t with ⟨_, stored⟩ | ⟨e, failed⟩
    · obtain ⟨source, image⟩ :=
        (holds_together configured computes complete stored).2 same first last
      exact ⟨source, image, nested_not_alike configured computes complete same first last stored⟩
    · cases failed.symm.trans ended

end TwoCalls

/-! ### Two small scenes -/

def echoWorld : World :=
  { worldFor "images" with
    renderer := fun _ run => .exited 0 run.input []
    converter := fun _ run => .exited 0 run.input [] }

theorem computes_echoWorld : echoWorld.Computes id id where
  waitable := by decide +kernel
  renderer _ _ := rfl
  converter _ _ := rfl

def emptyAt (depth : Int) : Scene where
  cameraPosition := Example.vector 0 0 depth
  cameraAngles := Example.angles 0 0
  lights := [⟨Example.angles 0 0, Example.whole 0⟩]
  objects := []
  nets := []

structure RendersEmpty (jobs : Bool → Job echoWorld.trig) : Prop where
  scene (t : Bool) : (jobs t).scene = emptyAt (if t then 1 else 0)
  name (t : Bool) : (jobs t).name = "a"

theorem exists_rendersEmpty : ∃ jobs, RendersEmpty jobs := by
  have job (t : Bool) : ∃ job : Job echoWorld.trig,
      job.scene = emptyAt (if t then 1 else 0) ∧ job.name = "a" := by
    have compiles : ((emptyAt (if t then 1 else 0)).compileText echoWorld.trig).isOk = true := by
      cases t <;> decide +kernel
    have accepted : Scene.check (emptyAt (if t then 1 else 0)).toJson =
        .ok (emptyAt (if t then 1 else 0)) := by
      cases t <;> decide +kernel
    cases compiled : (emptyAt (if t then 1 else 0)).compileText echoWorld.trig with
    | error e =>
      rw [compiled] at compiles
      cases compiles
    | ok text => exact ⟨⟨_, "a", text, ⟨_, accepted⟩, compiled, rfl⟩, rfl, rfl⟩
  choose jobs scene name using job
  exact ⟨jobs, scene, name⟩

theorem encode_injective {a b : String} (h : Utf8.encode a = Utf8.encode b) : a = b := by
  have decoded := congrArg Utf8.decode h
  rw [Utf8.decode_encode, Utf8.decode_encode] at decoded
  exact Except.ok.inj decoded

theorem RendersEmpty.apart {jobs : Bool → Job echoWorld.trig} (h : RendersEmpty jobs)
    (artifact : Artifact) :
    (jobs true).content id id artifact ≠ (jobs false).content id id artifact := by
  cases artifact with
  | source =>
    intro same
    have scenes := Job.scene_of_source (encode_injective same)
    rw [h.scene, h.scene] at scenes
    exact absurd scenes (by decide +kernel)
  | image =>
    intro same
    dsimp only [Job.content, id] at same
    have lines := congrArg String.toList (encode_injective same)
    rw [String.toList_append, String.toList_append] at lines
    have texts := String.toList_injective (List.append_cancel_right lines)
    have compiled (t : Bool) : (emptyAt (if t then 1 else 0)).compileText echoWorld.trig =
        .ok (jobs t).text := by
      rw [← h.scene, (jobs t).compiled]
    have both := (compiled true).trans ((congrArg Except.ok texts).trans (compiled false).symm)
    exact absurd both (by decide +kernel)

theorem isConfigured_echoWorld : echoWorld.IsConfigured := ⟨"images", by decide, rfl⟩

theorem interleave_compares_empty :
    echoWorld.IsConfigured ∧ echoWorld.Computes id id ∧
      IsInterleaving [true, false, false, false, true, true, true, false] ∧
      ∃ jobs, RendersEmpty jobs ∧
        (together jobs [true, false, false, false, true, true, true, false]).Alike
          (serial jobs true) := by
  have complete : IsInterleaving [true, false, false, false, true, true, true, false] := by decide
  obtain ⟨jobs, renders⟩ := exists_rendersEmpty
  have compares := interleave_compares isConfigured_echoWorld computes_echoWorld jobs complete
  exact ⟨isConfigured_echoWorld, computes_echoWorld, complete, jobs, renders,
    compares.overlapping rfl rfl⟩

/-- A call that lies within another one leaves its source beside the image of the other one. -/
theorem interleave_not_serial :
    echoWorld.IsConfigured ∧ echoWorld.Computes id id ∧
      IsInterleaving [true, false, false, false, false, true, true, true] ∧
      ∃ jobs, RendersEmpty jobs ∧
        let files := together jobs [true, false, false, false, false, true, true, true]
        Holds echoWorld id id jobs files false .source ∧
          Holds echoWorld id id jobs files true .image ∧ ∀ t, ¬ files.Alike (serial jobs t) := by
  have complete : IsInterleaving [true, false, false, false, false, true, true, true] := by decide
  obtain ⟨jobs, renders⟩ := exists_rendersEmpty
  have same : (jobs true).name = (jobs false).name := (renders.name _).trans (renders.name _).symm
  have stored (artifact : Artifact) : isStored echoWorld (jobs true).name artifact = true := by
    rw [renders.name]
    cases artifact <;> decide +kernel
  obtain ⟨source, image⟩ :=
    (holds_together isConfigured_echoWorld computes_echoWorld complete stored).2 same rfl rfl
  exact ⟨isConfigured_echoWorld, computes_echoWorld, complete, jobs, renders, source, image,
    nested_not_alike isConfigured_echoWorld computes_echoWorld complete same rfl rfl stored
      renders.apart⟩

end Studio

end RayScene
