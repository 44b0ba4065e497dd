import RayScene.Fault
import RayScene.Proofs.Scene.Camera
import RayScene.Proofs.Scene.Language
import RayScene.Proofs.Wire.RoundTrip
import RayScene.Scene.Source

/-!
# What keeps a scene from compiling

An accepted scene keeps to the preconditions of the renderer and its camera has a place, so it does
not compile exactly when a net names no object. All that the nets of a scene name that compiles are
objects, so such a scene can be stored.
-/

namespace RayScene

theorem Scene.check_unbroken : Check.Gives Scene.check fun s => s.brokenPrecondition? = none := by
  apply Check.closedObject_gives
  intro fields s h
  obtain ⟨_, nets, rfl, h, _⟩ := Collected.app_ok h
  obtain ⟨_, objects, rfl, h, hObjects⟩ := Collected.app_ok h
  obtain ⟨_, lights, rfl, h, hLights⟩ := Collected.app_ok h
  obtain ⟨_, angles, rfl, h, _⟩ := Collected.app_ok h
  obtain ⟨_, position, rfl, h, _⟩ := Collected.app_ok h
  cases h
  obtain ⟨few, _⟩ := Check.required_gives SceneObject.checkAllIn_gives hObjects
  obtain ⟨⟨least, most⟩, _⟩ :=
    Check.required_gives (Check.boundedList_gives Light.checkIn_finite) hLights
  unfold brokenPrecondition?
  rw [if_neg (not_lt.mpr few), if_neg (not_not.mpr (Nat.le_antisymm most least))]

/-- What keeps an accepted scene from compiling is a net. -/
theorem Scene.unresolved_of_compile_error {v : Json} {s : Scene} {trig : Trig} {e : CompileError}
    (accepted : Scene.check v = .ok s) (h : s.compile trig = .error e) :
    ∃ u, Net.resolve s = .error u ∧ e = .unresolved u := by
  obtain ⟨p, found⟩ := Camera.position_ok (Scene.check_converts accepted) trig
  unfold Scene.compile at h
  rw [found, Scene.check_unbroken accepted] at h
  cases resolved : Net.resolve s with
  | error u =>
    rw [resolved] at h
    cases h
    exact ⟨u, rfl, rfl⟩
  | ok nets =>
    rw [resolved] at h
    cases h

theorem Scene.compile_error_of_check {v : Json} {s : Scene} {trig : Trig} {e : CompileError}
    (accepted : Scene.check v = .ok s) (h : s.compileText trig = .error e) :
    s.compile trig = .error e := by
  cases compiled : s.compile trig with
  | error e' =>
    cases (Scene.compileText_refused compiled).symm.trans h
    rfl
  | ok w =>
    rw [Scene.compileText_of_compile compiled, Scene.text?_of_check accepted compiled] at h
    cases h

/-- What is wrong with an accepted scene that does not compile can be mended by its author. -/
theorem Scene.fault_of_compile_error {v : Json} {s : Scene} {trig : Trig} {e : CompileError}
    (accepted : Scene.check v = .ok s) (h : s.compileText trig = .error e) :
    ∃ f, Failure.ofCompile e = .fault f := by
  obtain ⟨u, _, rfl⟩ :=
    Scene.unresolved_of_compile_error accepted (Scene.compile_error_of_check accepted h)
  exact ⟨_, rfl⟩

/-- Which scenes are accepted does not depend on the order of reports. -/
theorem Scene.check_of_checkIn {order : Check.Order} {v : Json} {s : Scene}
    (h : Scene.checkIn order v = .ok s) : Scene.check v = .ok s :=
  ((Scene.check_decides v).ok_iff s).mpr (((Scene.checkIn_decides order v).ok_iff s).mp h)

theorem Scene.check_of_ofText {e : Edition} {text : LooseText} {s : Scene}
    (h : Scene.ofText e text = .ok s) : ∃ v, Scene.check v = .ok s := by
  unfold Scene.ofText at h
  split at h
  · split at h
    · exact ⟨_, Scene.check_of_checkIn h⟩
    · cases h
  · cases h

theorem Scene.isStorable_of_compile {s : Scene} {trig : Trig} {wire : Wire}
    (h : s.compile trig = .ok wire) : s.isStorable = true := by
  obtain ⟨_, _, nets, _, resolved, _, _⟩ := Scene.compile_ok h
  refine List.all_eq_true.mpr fun net member => List.all_eq_true.mpr fun name inner => ?_
  obtain ⟨o, _, rfl⟩ := Net.exists_resolve_iff.mp ⟨nets, resolved⟩ net member name inner
  rfl

end RayScene
