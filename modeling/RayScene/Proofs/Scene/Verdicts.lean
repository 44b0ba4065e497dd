import RayScene.Proofs.Scene.Refusals
import RayScene.Proofs.Wire.Numerals
import RayScene.Proofs.Wire.Validation

/-!
# Verdicts are faithful

Every text gets a verdict (`Verdict.ofText_decides`). It is valid exactly if the text is a scene
whose nets name objects only, and otherwise it is the fault that reading or compiling ends with.
Once a text has been read, neither a precondition nor the camera nor a number can fail. Of sine and
cosine it is only assumed that they lie between -1 and 1.
-/

namespace RayScene

theorem ReportClass.defaultText_ne_empty (c : ReportClass) : c.defaultText ≠ "" := by
  cases c <;> decide

theorem Report.make_text_ne_empty (c : ReportClass) (text : Option String) (status : Option Int) :
    (Report.make c text status).text ≠ "" := by
  cases text with
  | none => exact c.defaultText_ne_empty
  | some said =>
    show (if said.isEmpty then c.defaultText else said) ≠ ""
    split
    · exact c.defaultText_ne_empty
    · rename_i nonempty
      exact fun empty => nonempty (empty ▸ rfl)

theorem Fault.message_ne_empty (f : Fault) : f.message ≠ "" := by
  cases f <;> exact Report.make_text_ne_empty _ _ _

namespace Scene

variable {trig : Trig}

/-- Only a net can keep the scene from compiling, and all that is then written are numbers. -/
structure Exports (trig : Trig) (s : Scene) : Prop where
  unbroken : s.brokenPrecondition? = none
  placed : ∃ x y z, Camera.position trig s = .ok (x, y, z) ∧ Double.isFinite x = true ∧
    Double.isFinite y = true ∧ Double.isFinite z = true
  written : ∀ w, s.compile trig = .ok w → ∃ text, w.text? = some text
  numerals : ∀ text, s.compileText trig = .ok text → ∀ t ∈ Wire.tokens text.toList, IsNumeral t
  records : ∀ text, s.compileText trig = .ok text → ∃ r rest,
    Wire.readPrefix text = some (r, rest) ∧ r.entries = s.objects.map Wire.Entry.ofObject

theorem exports_of_check (bounded : trig.IsBounded) : Check.Gives check (Exports trig) := by
  intro v s accepted
  obtain ⟨x, y, z, placed, xFinite, yFinite, zFinite⟩ :=
    Camera.position_finite (check_converts accepted) bounded
  refine ⟨check_unbroken accepted, ⟨x, y, z, placed, xFinite, yFinite, zFinite⟩,
    fun w compiled => ⟨_, text?_of_check accepted compiled⟩, ?_, ?_⟩
  · intro text exported t member
    obtain ⟨w, compiled, written⟩ := compileText_ok_iff.mp exported
    obtain ⟨_, _, nets, camera, _, placed', rfl⟩ := compile_ok compiled
    cases placed.symm.trans placed'
    exact Wire.isNumeral_of_mem_tokens (checkIn_finite accepted) xFinite yFinite zFinite written
      member
  · intro text exported
    obtain ⟨w, compiled, written⟩ := compileText_ok_iff.mp exported
    cases written.symm.trans (text?_of_check accepted compiled)
    obtain ⟨_, _, nets, camera, _, _, rfl⟩ := compile_ok compiled
    exact Wire.exists_readPrefix_ofScene (check_gives accepted) camera
      fun net => Wire.sentinel_notMem_complete

end Scene

theorem Wire.levelTrig_isBounded : levelTrig.IsBounded := by
  have zeroBits : Double.magnitude 0 = 0 := by decide +kernel
  have oneBits : Double.magnitude 1 = 4607182418800017408 := by decide +kernel
  have positive : Double.isNegative 1 = false := by decide +kernel
  have parts : Double.parts 4607182418800017408 = (4503599627370496, -52) := by decide +kernel
  intro x _
  constructor
  · refine ⟨0, ?_, by norm_num, by norm_num⟩
    show Double.value 0 = _
    rw [Double.value, Double.isFinite, zeroBits, if_pos (by decide), Double.ratio_eq_zero.mpr rfl]
    simp
  · refine ⟨1, ?_, by norm_num, by norm_num⟩
    show Double.value 1 = _
    rw [Double.value, Double.isFinite, oneBits, positive, if_pos (by decide), Double.ratio, parts]
    norm_num

/-! ### Verdicts -/

namespace Verdict

variable {edition : Edition} {trig : Trig} {text : LooseText}

/-- The fault that reading the text ends with, or else compiling the scene that was read. -/
def EndsWith (edition : Edition) (trig : Trig) (text : LooseText) (f : Fault) : Prop :=
  (∃ vs, Scene.ofText edition text = .error vs ∧ f = .schema .text vs) ∨
    ∃ s e, Scene.ofText edition text = .ok s ∧ s.compileText trig = .error e ∧
      Failure.ofCompile e = .fault f

structure Decides (edition : Edition) (trig : Trig) (text : LooseText) (verdict : Verdict) :
    Prop where
  valid_iff : ∀ n, verdict = .valid n ↔ ∃ s, Scene.ofText edition text = .ok s ∧
    (∀ net ∈ s.nets, ∀ name ∈ net, s.Names name) ∧ s.objects.length = n
  /-- the objects are counted as the renderer finds them in the compiled text -/
  counted : ∀ n, verdict = .valid n → ∃ s written r rest, Scene.ofText edition text = .ok s ∧
    s.compileText trig = .ok written ∧ Wire.readPrefix written = some (r, rest) ∧
    r.entries.length = n
  invalid_iff : ∀ f, verdict = .invalid f ↔ EndsWith edition trig text f
  told : ∀ f, verdict = .invalid f → f.message ≠ "" := fun f _ => f.message_ne_empty
  exports : ∀ s, Scene.ofText edition text = .ok s → s.Exports trig

theorem decides_unread {vs : List Violation} (unread : Scene.ofText edition text = .error vs) :
    Decides edition trig text (.invalid (.schema .text vs)) where
  valid_iff n := by
    refine ⟨fun same => ?_, ?_⟩
    · cases same
    · rintro ⟨s, read, _⟩
      cases unread.symm.trans read
  counted n same := by cases same
  invalid_iff f := by
    constructor
    · intro same
      cases same
      exact .inl ⟨vs, unread, rfl⟩
    · rintro (⟨vs', unread', rfl⟩ | ⟨s, e, read, _⟩)
      · cases unread.symm.trans unread'
        rfl
      · cases unread.symm.trans read
  exports s read := by cases unread.symm.trans read

theorem decides_refused {s : Scene} {e : CompileError} {f : Fault} (exports : s.Exports trig)
    (converts : s.CameraConverts) (read : Scene.ofText edition text = .ok s)
    (refused : s.compileText trig = .error e) (fault : Failure.ofCompile e = .fault f) :
    Decides edition trig text (.invalid f) where
  valid_iff n := by
    refine ⟨fun same => ?_, ?_⟩
    · cases same
    · rintro ⟨s', read', names, _⟩
      cases read.symm.trans read'
      obtain ⟨w, compiled⟩ := (Scene.compile_ok_iff converts).mpr ⟨exports.unbroken, names⟩
      obtain ⟨written, same⟩ := exports.written w compiled
      cases refused.symm.trans (Scene.compileText_ok_iff.mpr ⟨w, compiled, same⟩)
  counted n same := by cases same
  invalid_iff f' := by
    constructor
    · intro same
      cases same
      exact .inr ⟨s, e, read, refused, fault⟩
    · rintro (⟨vs, unread, _⟩ | ⟨s', e', read', refused', fault'⟩)
      · cases read.symm.trans unread
      · cases read.symm.trans read'
        cases refused.symm.trans refused'
        cases fault.symm.trans fault'
        rfl
  exports s' read' := by
    cases read.symm.trans read'
    exact exports

theorem decides_compiled {s : Scene} {written : String} (exports : s.Exports trig)
    (converts : s.CameraConverts) (read : Scene.ofText edition text = .ok s)
    (exported : s.compileText trig = .ok written) :
    Decides edition trig text (.valid s.objects.length) where
  valid_iff n := by
    obtain ⟨w, compiled, _⟩ := Scene.compileText_ok_iff.mp exported
    obtain ⟨_, names⟩ := (Scene.compile_ok_iff converts).mp ⟨w, compiled⟩
    constructor
    · intro same
      cases same
      exact ⟨s, read, names, rfl⟩
    · rintro ⟨s', read', _, rfl⟩
      cases read.symm.trans read'
      rfl
  counted n same := by
    cases same
    obtain ⟨r, rest, front, entries⟩ := exports.records written exported
    exact ⟨s, written, r, rest, read, exported, front, by rw [entries, List.length_map]⟩
  invalid_iff f := by
    refine ⟨fun same => ?_, ?_⟩
    · cases same
    · rintro (⟨vs, unread, _⟩ | ⟨s', e, read', refused, _⟩)
      · cases read.symm.trans unread
      · cases read.symm.trans read'
        cases exported.symm.trans refused
  exports s' read' := by
    cases read.symm.trans read'
    exact exports

theorem ofText_decides (bounded : trig.IsBounded) (edition : Edition) (text : LooseText) :
    ∃ verdict, ofText edition trig text = .ok verdict ∧ Decides edition trig text verdict := by
  unfold ofText
  cases read : Scene.ofText edition text with
  | error vs => exact ⟨_, rfl, decides_unread read⟩
  | ok s =>
    obtain ⟨v, accepted⟩ := Scene.check_of_ofText read
    have exports := Scene.exports_of_check bounded accepted
    have converts := Scene.check_converts accepted
    dsimp only
    cases exported : s.compileText trig with
    | ok written => exact ⟨_, rfl, decides_compiled exports converts read exported⟩
    | error e =>
      obtain ⟨f, fault⟩ := Scene.fault_of_compile_error accepted exported
      dsimp only
      rw [fault]
      exact ⟨_, rfl, decides_refused exports converts read exported fault⟩

/-- A scene of one object; no double is further out than its camera. -/
def farText : String :=
  "\x7b\"camera_position\":\x7b\"x\":-1.7976931348623157e308,\"y\":0," ++
  "\"z\":1.7976931348623157e308\x7d,\"camera_angle\":\x7b\"a\":0,\"b\":0\x7d," ++
  "\"lights\":[\x7b\"angle\":\x7b\"a\":0,\"b\":0\x7d,\"intensity\":255\x7d]," ++
  "\"objects\":[\x7b\"name\":\"ball\",\"shape\":\"Quad\"," ++
  "\"param\":\x7b\"x\":1,\"y\":1,\"z\":1\x7d,\"position\":\x7b\"x\":0,\"y\":0,\"z\":0\x7d," ++
  "\"direction\":1,\"color\":\x7b\"r\":255,\"g\":0,\"b\":0\x7d\x7d]," ++
  "\"and_nets\":[[\"ball\"]]\x7d"

/-- From there the camera does not reach infinity, 200 units ahead. -/
theorem ofText_decides_far :
    Wire.levelTrig.IsBounded ∧ ofText .earlier Wire.levelTrig farText = .ok (.valid 1) ∧
      ∃ s x y z, Scene.ofText .earlier farText = .ok s ∧ s.objects.length = 1 ∧
        Camera.position Wire.levelTrig s = .ok (x, y, z) ∧ Double.isFinite z = true := by
  have bounded : Wire.levelTrig.IsBounded := Wire.levelTrig_isBounded
  have valid : ofText .earlier Wire.levelTrig farText = .ok (.valid 1) := by decide +kernel
  obtain ⟨verdict, given, right⟩ := ofText_decides bounded .earlier farText
  cases valid.symm.trans given
  obtain ⟨s, read, _, one⟩ := (right.valid_iff 1).mp rfl
  obtain ⟨x, y, z, placed, _, _, finite⟩ := (right.exports s read).placed
  exact ⟨bounded, valid, s, x, y, z, read, one, placed, finite⟩

end Verdict

end RayScene
