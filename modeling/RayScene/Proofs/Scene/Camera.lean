import RayScene.Proofs.Number.Sum
import RayScene.Proofs.Scene.Accepted

/-!
# The camera of an accepted scene

If all numbers of a camera become finite floats, so do its angles in radians and the camera has a
place (`Camera.position_ok`). If besides sine and cosine lie between -1 and 1, the place is finite:
even from the greatest float it is only 200 units away (`Camera.position_finite`). All numbers of an
accepted scene are finite floats (`Scene.check_converts`).
-/

namespace RayScene

def Number.Converts (n : Number) : Prop := ∃ x, n.toFloat? = some x ∧ Double.isFinite x = true

theorem Number.IsFiniteFloat.converts {n : Number} (h : n.IsFiniteFloat) : n.Converts := by
  obtain ⟨x, rfl, finite⟩ := h
  exact ⟨x, rfl, finite⟩

/-- All numbers of the camera become finite floats. -/
structure Scene.CameraConverts (s : Scene) : Prop where
  x : s.cameraPosition.x.Converts
  y : s.cameraPosition.y.Converts
  z : s.cameraPosition.z.Converts
  pitch : s.cameraAngles.pitch.Converts
  yaw : s.cameraAngles.yaw.Converts

theorem Scene.check_converts : Check.Gives Scene.check Scene.CameraConverts := by
  intro v s accepted
  obtain ⟨⟨x, y, z⟩, ⟨pitch, yaw⟩, _, _⟩ := Scene.checkIn_finite accepted
  exact ⟨x.converts, y.converts, z.converts, pitch.converts, yaw.converts⟩

namespace Camera

theorem isFinite_radians {x : Float} (finite : Double.isFinite x = true) :
    Double.isFinite (x * degree) = true :=
  Double.isFinite_mul finite (by decide +kernel)

theorem float_of_toFloat? {n : Number} {x : Float} (h : n.toFloat? = some x) : float n = .ok x := by
  rw [float, h]

theorem ahead_of_toFloat? {n : Number} {x : Float} (h : n.toFloat? = some x) (component : Float) :
    ahead n component = .ok (x + Double.ofInt offset * component) := by
  rw [ahead, float_of_toFloat? h]
  rfl

theorem position_eq {s : Scene} {x y z pitch yaw : Float} (trig : Trig)
    (isX : s.cameraPosition.x.toFloat? = some x) (isY : s.cameraPosition.y.toFloat? = some y)
    (isZ : s.cameraPosition.z.toFloat? = some z)
    (isPitch : s.cameraAngles.pitch.toFloat? = some pitch)
    (isYaw : s.cameraAngles.yaw.toFloat? = some yaw)
    (pitchFinite : Double.isFinite pitch = true) (yawFinite : Double.isFinite yaw = true) :
    position trig s = .ok
      (x + Double.ofInt offset * (trig.cos (pitch * degree) * trig.sin (yaw * degree)),
        y + Double.ofInt offset * -trig.sin (pitch * degree),
        z + Double.ofInt offset * (trig.cos (pitch * degree) * trig.cos (yaw * degree))) := by
  have pitchRadians := Double.isInfinite_of_isFinite (isFinite_radians pitchFinite)
  have yawRadians := Double.isInfinite_of_isFinite (isFinite_radians yawFinite)
  unfold position
  simp only [float_of_toFloat? isPitch, float_of_toFloat? isYaw, ahead_of_toFloat? isX,
    ahead_of_toFloat? isY, ahead_of_toFloat? isZ, pitchRadians, yawRadians, bind, Except.bind,
    Bool.or_self, Bool.false_eq_true, if_false]
  rfl

theorem position_ok {s : Scene} (converts : s.CameraConverts) (trig : Trig) :
    ∃ p, position trig s = .ok p := by
  obtain ⟨⟨x, isX, _⟩, ⟨y, isY, _⟩, ⟨z, isZ, _⟩, ⟨pitch, isPitch, pitchFinite⟩,
    ⟨yaw, isYaw, yawFinite⟩⟩ := converts
  exact ⟨_, position_eq trig isX isY isZ isPitch isYaw pitchFinite yawFinite⟩

end Camera

def Double.IsUnit (x : Float) : Prop := ∃ q, Double.value x = .finite q ∧ -1 ≤ q ∧ q ≤ 1

/-- Sine and cosine of a finite double lie between -1 and 1. -/
def Trig.IsBounded (trig : Trig) : Prop :=
  ∀ x, Double.isFinite x = true → Double.IsUnit (trig.sin x) ∧ Double.IsUnit (trig.cos x)

namespace Camera

theorem isFinite_ahead {x component : Float} (finite : Double.isFinite x = true)
    (small : Double.field component ≤ 1025) :
    Double.isFinite (x + Double.ofInt offset * component) = true := by
  have unit : Double.field (Double.ofInt offset) = 1030 := by decide +kernel
  have offsetFinite : Double.isFinite (Double.ofInt offset) = true :=
    Double.isFinite_iff_field.mpr (by omega)
  have componentFinite : Double.isFinite component = true :=
    Double.isFinite_iff_field.mpr (by omega)
  refine Double.isFinite_add finite ?_
  exact (Double.field_mul offsetFinite componentFinite (n := 1034) (by omega) (by omega)
    (by omega)).trans (by omega)

theorem field_mul_of_isUnit {c d : Float} (hc : Double.IsUnit c) (hd : Double.IsUnit d) :
    Double.field (c * d) ≤ 1025 := by
  obtain ⟨_, value, low, high⟩ := hc
  obtain ⟨_, value', low', high'⟩ := hd
  obtain ⟨finite, small⟩ := Double.field_of_value value low high
  obtain ⟨finite', small'⟩ := Double.field_of_value value' low' high'
  exact Double.field_mul finite finite' (by omega) (by omega) (by omega)

theorem field_neg_of_isUnit {c : Float} (hc : Double.IsUnit c) : Double.field (-c) ≤ 1025 := by
  obtain ⟨_, value, low, high⟩ := hc
  obtain ⟨finite, small⟩ := Double.field_of_value value low high
  exact (Double.field_neg finite).trans (by omega)

theorem position_finite {s : Scene} {trig : Trig} (converts : s.CameraConverts)
    (bounded : trig.IsBounded) :
    ∃ x y z, position trig s = .ok (x, y, z) ∧ Double.isFinite x = true ∧
      Double.isFinite y = true ∧ Double.isFinite z = true := by
  obtain ⟨⟨x, isX, xFinite⟩, ⟨y, isY, yFinite⟩, ⟨z, isZ, zFinite⟩, ⟨pitch, isPitch, pitchFinite⟩,
    ⟨yaw, isYaw, yawFinite⟩⟩ := converts
  obtain ⟨sinPitch, cosPitch⟩ := bounded _ (isFinite_radians pitchFinite)
  obtain ⟨sinYaw, cosYaw⟩ := bounded _ (isFinite_radians yawFinite)
  exact ⟨_, _, _, position_eq trig isX isY isZ isPitch isYaw pitchFinite yawFinite,
    isFinite_ahead xFinite (field_mul_of_isUnit cosPitch sinYaw),
    isFinite_ahead yFinite (field_neg_of_isUnit sinPitch),
    isFinite_ahead zFinite (field_mul_of_isUnit cosPitch cosYaw)⟩

end Camera

end RayScene
