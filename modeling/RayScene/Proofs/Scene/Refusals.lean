import RayScene.Proofs.Scene.Compiling
import RayScene.Proofs.Scene.Language
import RayScene.Proofs.Scene.Resolution

/-!
# Which scenes are refused

Compiling looks at the number of objects first, then at the number of lights, then at the names in
the nets and last at the numbers it writes, and whichever fails first is reported
(`Scene.compile_ends`). The scene need not have been checked before: it may repeat names, its numbers
may be of any kind, as long as those of the camera become finite floats, and its nets may list what
cannot be looked up.
-/

namespace RayScene

namespace Scene

variable {trig : Trig} {s : Scene}

theorem brokenPrecondition?_objectCount_iff :
    s.brokenPrecondition? = some .objectCount ↔ maxObjects < s.objects.length := by
  unfold brokenPrecondition?
  split
  · simp [*]
  · split <;> simp [*]

theorem brokenPrecondition?_oneLight_iff :
    s.brokenPrecondition? = some .oneLight ↔
      s.objects.length ≤ maxObjects ∧ s.lights.length ≠ requiredLights := by
  unfold brokenPrecondition?
  split
  · simp only [Option.some.injEq, reduceCtorEq, false_iff]
    omega
  · split <;> simp_all

theorem brokenPrecondition?_eq_none_iff :
    s.brokenPrecondition? = none ↔
      s.objects.length ≤ maxObjects ∧ s.lights.length = requiredLights := by
  unfold brokenPrecondition?
  split
  · simp only [reduceCtorEq, false_iff]
    omega
  · split <;> simp_all

/-! ### The three stages -/

theorem compile_broken {p : Precondition} (broken : s.brokenPrecondition? = some p) :
    s.compile trig = .error (.precondition p) := by
  unfold compile
  rw [broken]
  rfl

theorem compile_unresolved {u : Net.Unresolved} (unbroken : s.brokenPrecondition? = none)
    (unresolved : Net.resolve s = .error u) : s.compile trig = .error (.unresolved u) := by
  unfold compile
  rw [unbroken, unresolved]
  rfl

theorem compile_resolved {nets : List (List Nat)} {camera : Float × Float × Float}
    (unbroken : s.brokenPrecondition? = none) (resolved : Net.resolve s = .ok nets)
    (placed : Camera.position trig s = .ok camera) :
    s.compile trig = .ok (Wire.ofScene s camera
      (Net.complete (nets.map fun net => net.map Int.ofNat) s.objects.length)) := by
  unfold compile
  rw [unbroken, resolved, placed]
  rfl

theorem compile_misplaced {nets : List (List Nat)} {f : Camera.Failure}
    (unbroken : s.brokenPrecondition? = none) (resolved : Net.resolve s = .ok nets)
    (misplaced : Camera.position trig s = .error f) : s.compile trig = .error (.camera f) := by
  unfold compile
  rw [unbroken, resolved, misplaced]
  rfl

/-- If the camera has a place, a scene is refused for a precondition or for a name, or compiles. -/
theorem compile_cases (converts : s.CameraConverts) (trig : Trig) :
    (∃ p, s.brokenPrecondition? = some p ∧ s.compile trig = .error (.precondition p)) ∨
    (s.brokenPrecondition? = none ∧
      ((∃ u, s.IsFirstUnknown u ∧ s.compile trig = .error (.unresolved u)) ∨
        ∃ nets camera, Net.resolve s = .ok nets ∧ s.compile trig = .ok (Wire.ofScene s camera
          (Net.complete (nets.map fun net => net.map Int.ofNat) s.objects.length)))) := by
  cases broken : s.brokenPrecondition? with
  | some p => exact .inl ⟨p, rfl, compile_broken broken⟩
  | none =>
    cases resolved : Net.resolve s with
    | error u =>
      exact .inr ⟨rfl, .inl ⟨u, Net.resolve_error_iff.mp resolved,
        compile_unresolved broken resolved⟩⟩
    | ok nets =>
      obtain ⟨camera, placed⟩ := Camera.position_ok converts trig
      exact .inr ⟨rfl, .inr ⟨nets, camera, rfl, compile_resolved broken resolved placed⟩⟩

theorem compile_precondition_iff (converts : s.CameraConverts) {p : Precondition} :
    s.compile trig = .error (.precondition p) ↔ s.brokenPrecondition? = some p := by
  refine ⟨fun refused => ?_, compile_broken⟩
  rcases compile_cases converts trig with ⟨q, broken, ends⟩ | ⟨_, ⟨u, _, ends⟩ | ⟨_, _, _, ends⟩⟩
  · cases ends.symm.trans refused
    exact broken
  · cases ends.symm.trans refused
  · cases ends.symm.trans refused

theorem compile_unresolved_iff (converts : s.CameraConverts) {u : Net.Unresolved} :
    s.compile trig = .error (.unresolved u) ↔
      s.brokenPrecondition? = none ∧ s.IsFirstUnknown u := by
  constructor
  · intro refused
    rcases compile_cases converts trig with
      ⟨q, _, ends⟩ | ⟨unbroken, ⟨u', unknown, ends⟩ | ⟨_, _, _, ends⟩⟩
    · cases ends.symm.trans refused
    · cases ends.symm.trans refused
      exact ⟨unbroken, unknown⟩
    · cases ends.symm.trans refused
  · rintro ⟨unbroken, unknown⟩
    exact compile_unresolved unbroken (Net.resolve_error_iff.mpr unknown)

theorem compile_ok_iff (converts : s.CameraConverts) :
    (∃ w, s.compile trig = .ok w) ↔
      s.brokenPrecondition? = none ∧ ∀ net ∈ s.nets, ∀ name ∈ net, s.Names name := by
  rw [← Net.exists_resolve_iff]
  constructor
  · rintro ⟨w, compiled⟩
    rcases compile_cases converts trig with
      ⟨q, _, ends⟩ | ⟨unbroken, ⟨u, _, ends⟩ | ⟨nets, _, resolved, _⟩⟩
    · cases ends.symm.trans compiled
    · cases ends.symm.trans compiled
    · exact ⟨unbroken, nets, resolved⟩
  · rintro ⟨unbroken, nets, resolved⟩
    obtain ⟨camera, placed⟩ := Camera.position_ok converts trig
    exact ⟨_, compile_resolved unbroken resolved placed⟩

theorem compileText_written {w : Wire} (compiled : s.compile trig = .ok w)
    (writable : ∀ x ∈ s.numbers, x.IsWritable) : s.compileText trig = .ok w.spelled := by
  refine compileText_ok_iff.mpr ⟨w, compiled, ?_⟩
  obtain ⟨_, _, _, _, _, _, rfl⟩ := compile_ok compiled
  exact (Wire.text?_eq_some_iff _ _).mpr ⟨(Wire.isWritable_ofScene_iff _ _ _).mpr writable, rfl⟩

theorem compileText_unwritable {w : Wire} (compiled : s.compile trig = .ok w)
    (unwritable : ¬ ∀ x ∈ s.numbers, x.IsWritable) :
    s.compileText trig = .error .unwritable := by
  have unwritten : w.text? = none := by
    obtain ⟨_, _, _, _, _, _, rfl⟩ := compile_ok compiled
    refine Option.eq_none_iff_forall_ne_some.mpr fun text written => unwritable ?_
    exact (Wire.isWritable_ofScene_iff _ _ _).mp ((Wire.text?_eq_some_iff _ _).mp written).1
  rw [compileText_of_compile compiled, unwritten]

/-- Where the numbers can be written or not, all other errors are those of the content. -/
theorem compileText_error_iff {e : CompileError} (other : e ≠ .unwritable) :
    s.compileText trig = .error e ↔ s.compile trig = .error e := by
  refine ⟨fun refused => ?_, compileText_refused⟩
  cases compiled : s.compile trig with
  | error e' =>
    cases (compileText_refused compiled).symm.trans refused
    rfl
  | ok w =>
    by_cases writable : ∀ x ∈ s.numbers, x.IsWritable
    · cases (compileText_written compiled writable).symm.trans refused
    · cases (compileText_unwritable compiled writable).symm.trans refused
      exact absurd rfl other

theorem compileText_unresolved_iff (converts : s.CameraConverts) {u : Net.Unresolved} :
    s.compileText trig = .error (.unresolved u) ↔
      s.brokenPrecondition? = none ∧ s.IsFirstUnknown u := by
  have other : CompileError.unresolved u ≠ .unwritable := nofun
  exact (compileText_error_iff other).trans (compile_unresolved_iff converts)

theorem exists_text_iff (converts : s.CameraConverts) :
    (∃ text, s.compileText trig = .ok text) ↔ (s.brokenPrecondition? = none ∧
      ∀ net ∈ s.nets, ∀ name ∈ net, s.Names name) ∧ ∀ x ∈ s.numbers, x.IsWritable := by
  have content := @compile_ok_iff trig s converts
  rw [← content]
  constructor
  · rintro ⟨text, exported⟩
    obtain ⟨w, compiled, _⟩ := compileText_ok_iff.mp exported
    refine ⟨⟨w, compiled⟩, by_contra fun unwritable => ?_⟩
    cases (compileText_unwritable compiled unwritable).symm.trans exported
  · rintro ⟨⟨w, compiled⟩, writable⟩
    exact ⟨_, compileText_written compiled writable⟩

theorem compileText_unwritable_iff (converts : s.CameraConverts) :
    s.compileText trig = .error .unwritable ↔ (s.brokenPrecondition? = none ∧
      ∀ net ∈ s.nets, ∀ name ∈ net, s.Names name) ∧ ¬ ∀ x ∈ s.numbers, x.IsWritable := by
  have content := @compile_ok_iff trig s converts
  rw [← content]
  constructor
  · intro refused
    rcases compile_cases converts trig with
      ⟨p, _, ends⟩ | ⟨_, ⟨u, _, ends⟩ | ⟨_, _, _, compiled⟩⟩
    · cases (compileText_refused ends).symm.trans refused
    · cases (compileText_refused ends).symm.trans refused
    · refine ⟨⟨_, compiled⟩, fun writable => ?_⟩
      cases (compileText_written compiled writable).symm.trans refused
  · rintro ⟨⟨w, compiled⟩, unwritable⟩
    exact compileText_unwritable compiled unwritable

/-! ### Reports -/

def Refused (trig : Trig) (s : Scene) (c : ReportClass) (text : String) : Prop :=
  ∃ e f, s.compileText trig = .error e ∧ Failure.ofCompile e = .fault f ∧
    f.report.reportClass = c ∧ f.report.text = text

theorem refused_precondition_iff (converts : s.CameraConverts) (p : Precondition) :
    s.Refused trig .precondition p.message ↔ s.brokenPrecondition? = some p := by
  have other : CompileError.precondition p ≠ .unwritable := nofun
  have refusal := (compileText_error_iff other).trans (@compile_precondition_iff trig s converts p)
  rw [← refusal]
  constructor
  · rintro ⟨e, f, refused, isFault, sameClass, sameText⟩
    cases e with
    | camera => cases isFault
    | unwritable => cases isFault
    | unresolved =>
      cases isFault
      cases sameClass
    | precondition q =>
      cases isFault
      have same : q = p := by
        revert sameText
        cases q <;> cases p <;> decide
      rw [refused, same]
  · intro refused
    refine ⟨_, _, refused, rfl, rfl, ?_⟩
    cases p <;> rfl

theorem compileMembers_names :
    s.compileMembers trig (s.nets.map fun net => net.map .name) =
      (s.compileText trig).mapError .inl := by
  have resolved : ∀ u, Net.resolveMembers s (s.nets.map fun net => net.map .name) ≠
      .error (.inr u) := by
    intro u
    unfold Net.resolveMembers
    rw [Net.netsUpTo_names]
    cases Net.resolve s <;> simp
  unfold compileMembers
  split
  · exact absurd ‹_› (resolved _)
  · rw [Net.netsUpTo_names]

theorem compileMembers_unhashable_iff {nets : List (List Net.Member)} {u : Net.Unhashable} :
    s.compileMembers trig nets = .error (.inr u) ↔ s.brokenPrecondition? = none ∧
      (Net.netsUpTo nets).2 = some u ∧
      ∀ net ∈ (Net.netsUpTo nets).1, ∀ name ∈ net, s.Names name := by
  rw [← Net.resolveMembers_unhashable_iff]
  unfold compileMembers
  split
  next u' unbroken stopped => simp [unbroken, stopped]
  next other =>
    constructor
    · intro refused
      cases outcome : compileText trig { s with nets := (Net.netsUpTo nets).1 } <;>
        rw [outcome] at refused <;> cases refused
    · rintro ⟨unbroken, stopped⟩
      exact absurd stopped (other u unbroken)

theorem check_distinct :
    Check.Gives Scene.check fun s => (s.objects.map SceneObject.name).Nodup := by
  intro v s accepted
  obtain ⟨_, _, _, _, _, _, ⟨_, _, _, _, distinct⟩, _⟩ :=
    ((Scene.check_decides v).ok_iff s).mp accepted
  exact distinct

structure CompileEnds (trig : Trig) (s : Scene) : Prop where
  objectCount : s.Refused trig .precondition "too many objects" ↔ 60 < s.objects.length
  oneLight : s.Refused trig .precondition "exactly one light is required" ↔
    s.objects.length ≤ 60 ∧ s.lights.length ≠ 1
  /-- the report names the first net with an unknown name, and the first unknown name in it -/
  unresolved (u : Net.Unresolved) : s.compileText trig = .error (.unresolved u) ↔
    (s.objects.length ≤ 60 ∧ s.lights.length = 1) ∧ s.IsFirstUnknown u
  /-- there is such a report if any name in a net is unknown -/
  someUnresolved : (∃ u, s.compileText trig = .error (.unresolved u)) ↔
    (s.objects.length ≤ 60 ∧ s.lights.length = 1) ∧ ∃ net ∈ s.nets, ∃ name ∈ net, ¬ s.Names name
  text : (∃ text, s.compileText trig = .ok text) ↔
    ((s.objects.length ≤ 60 ∧ s.lights.length = 1) ∧
      ∀ net ∈ s.nets, ∀ name ∈ net, s.Names name) ∧ ∀ x ∈ s.numbers, x.IsWritable
  unwritable : s.compileText trig = .error .unwritable ↔
    ((s.objects.length ≤ 60 ∧ s.lights.length = 1) ∧
      ∀ net ∈ s.nets, ∀ name ∈ net, s.Names name) ∧ ¬ ∀ x ∈ s.numbers, x.IsWritable
  /-- a list or an object in a net cannot be looked up, which matters if the names before are known;
  names only are looked up as in the scene's own nets -/
  unhashable (nets : List (List Net.Member)) (u : Net.Unhashable) :
    s.compileMembers trig nets = .error (.inr u) ↔ (s.objects.length ≤ 60 ∧ s.lights.length = 1) ∧
      (Net.netsUpTo nets).2 = some u ∧ ∀ net ∈ (Net.netsUpTo nets).1, ∀ name ∈ net, s.Names name
  names : s.compileMembers trig (s.nets.map fun net => net.map .name) =
    (s.compileText trig).mapError .inl
  /-- the nets have then the shape of the author's, and list the last object of each name -/
  nets : (∀ net ∈ s.nets, ∀ name ∈ net, s.Names name) →
    ∃ nets, Net.resolve s = .ok nets ∧ List.Forall₂ (List.Forall₂ s.IsLast) s.nets nets
  /-- in an accepted scene that is the only object of the name -/
  only {v : Json} : Scene.check v = .ok s → ∀ {name i}, s.IsLast name i →
    ∀ j, (h : j < s.objects.length) → LooseText.proper s.objects[j].name = name → j = i

/-- A scene whose camera numbers become finite floats is refused for its objects, else for its
lights, else for the first unknown name in a net, else for an integer with too many digits, and
compiles in all other cases. -/
theorem compile_ends (converts : s.CameraConverts) (trig : Trig) : s.CompileEnds trig where
  objectCount := (refused_precondition_iff converts .objectCount).trans
    brokenPrecondition?_objectCount_iff
  oneLight := (refused_precondition_iff converts .oneLight).trans brokenPrecondition?_oneLight_iff
  unresolved u := (compileText_unresolved_iff converts).trans
    (and_congr_left fun _ => brokenPrecondition?_eq_none_iff)
  someUnresolved := by
    simp only [compileText_unresolved_iff converts, exists_and_left, Net.exists_firstUnknown_iff,
      brokenPrecondition?_eq_none_iff, maxObjects, requiredLights]
  text := by
    rw [exists_text_iff converts, brokenPrecondition?_eq_none_iff, maxObjects, requiredLights]
  unwritable := by
    rw [compileText_unwritable_iff converts, brokenPrecondition?_eq_none_iff, maxObjects,
      requiredLights]
  unhashable nets u := by
    rw [compileMembers_unhashable_iff, brokenPrecondition?_eq_none_iff, maxObjects, requiredLights]
  names := compileMembers_names
  nets named := by
    obtain ⟨nets, resolved⟩ := Net.exists_resolve_iff.mpr named
    exact ⟨nets, resolved, Net.resolve_ok_iff.mp resolved⟩
  only accepted _ _ isLast _ inside named := place_unique (check_distinct accepted) inside
    isLast.within (LooseText.proper.inj (named.trans isLast.named.symm))

/-- Two cubes of one name. The camera holds an integer, a truth value and floats. -/
def twins (name : String) (nets : List (List LooseText)) : Scene where
  cameraPosition := ⟨.int 1, .bool true, .float 0.5⟩
  cameraAngles := Example.angles 0 0
  lights := [⟨Example.angles 0 0, .int 1⟩]
  objects := List.replicate 2 (Example.object name .cube (Example.vector 1 1 1)
    (Example.vector 0 0 0) 1 (Example.color 0 0 0))
  nets := nets

theorem twins_converts (name : String) (nets : List (List LooseText)) :
    (twins name nets).CameraConverts :=
  ⟨⟨_, rfl, by decide +kernel⟩, ⟨_, rfl, by decide +kernel⟩, ⟨_, rfl, by decide +kernel⟩,
    ⟨_, rfl, by decide +kernel⟩, ⟨_, rfl, by decide +kernel⟩⟩

theorem compile_ends_twins :
    (∀ nets, (twins "a" nets).CameraConverts) ∧
      (∃ text, (twins "a" [["a"], [], ["a", "a"]]).compileText Wire.levelTrig = .ok text) ∧
      (twins "a" [["a"], [], ["a", "-1\n", "b"], ["b"]]).compileText Wire.levelTrig =
        .error (.unresolved ⟨2, "-1\n"⟩) := by
  have converts := twins_converts "a"
  refine ⟨converts, ?_, ?_⟩
  · refine (compile_ends (converts _) Wire.levelTrig).text.mpr ⟨⟨by decide, by decide⟩, ?_⟩
    decide +kernel
  · refine ((compile_ends (converts _) Wire.levelTrig).unresolved _).mpr ⟨by decide,
      [["a"], []], ["a"], ["b"], [["b"]], rfl, rfl, ?_, ?_, ?_⟩
    · decide
    · decide
    · decide

def turnedTwins (direction : Number) : Scene :=
  let s := twins "a" [["a"]]
  { s with objects := s.objects.map fun o => { o with direction } }

theorem mem_numbers_turnedTwins (direction : Number) :
    direction ∈ (turnedTwins direction).numbers := by
  simp [turnedTwins, twins, numbers, SceneObject.numbers]

/-- An integer with 4301 digits keeps a scene from being written in which nothing else is wrong, and
a list in a net is not reported as an unknown name. -/
theorem compile_ends_otherwise :
    (∃ s, s = turnedTwins (.int (10 ^ 4300)) ∧ s.CameraConverts ∧ s.objects.length ≤ 60 ∧
      s.lights.length = 1 ∧ (∀ net ∈ s.nets, ∀ name ∈ net, s.Names name) ∧
      s.compileText Wire.levelTrig = .error .unwritable) ∧
    (twins "a" []).compileMembers Wire.levelTrig [[.unhashable .list]] = .error (.inr .list) := by
  obtain ⟨x, y, z, pitch, yaw⟩ := twins_converts "a" [["a"]]
  have converts : (turnedTwins (.int (10 ^ 4300))).CameraConverts := ⟨x, y, z, pitch, yaw⟩
  have named : ∀ net ∈ [[LooseText.proper "a"]], ∀ name ∈ net,
      (turnedTwins (.int (10 ^ 4300))).Names name := by
    simp only [List.forall_mem_singleton]
    exact ⟨_, List.mem_cons_self, rfl⟩
  refine ⟨⟨_, rfl, converts, by decide, by decide, named, ?_⟩, rfl⟩
  refine (compileText_unwritable_iff converts).mpr ⟨⟨rfl, named⟩, fun writable => ?_⟩
  exact absurd ((Number.isWritable_pow_iff _).mp (writable _ (mem_numbers_turnedTwins _)))
    (lt_irrefl _)

end Scene

end RayScene
