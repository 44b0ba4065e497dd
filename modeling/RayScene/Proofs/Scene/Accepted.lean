import RayScene.Proofs.Outcome
import RayScene.Proofs.Wire.Written
import RayScene.Scene.Schema

/-!
# Accepted scenes

What a check lets through. All numbers of an accepted scene are finite floats, so the wire carries
them (`Scene.checkIn_finite`, `Scene.check_gives`), and the scene has exactly one light and at most
`maxObjects` objects.
-/

namespace RayScene

namespace Check

variable {α β : Type}

/-- Everything that passes the check has the property. -/
def Gives (check : Json → Checked α) (P : α → Prop) : Prop := ∀ {v a}, check v = .ok a → P a

variable {P : α → Prop} {check : Json → Checked α}

theorem required_gives (gives : Gives check P) {fields : Fields} {key : LooseText} {a : α}
    (h : required fields key check = .ok a) : P a := by
  unfold required at h
  split at h
  · exact gives (Collected.relabel_ok h)
  · cases h

theorem optional_gives (gives : Gives check P) {fields : Fields} {key : LooseText} {r : Option α}
    (h : optional fields key check = .ok r) : ∀ a ∈ r, P a := by
  unfold optional at h
  split at h
  · cases h
    intro a member
    cases member
  · cases h
    intro a member
    cases member
  · obtain ⟨b, passed, rfl⟩ := Outcome.map_ok h
    intro a member
    cases member
    exact gives (Collected.relabel_ok passed)

theorem closedObject_gives {order : Order} {kind : Kind} {known : List String}
    {read : Fields → Checked α} (gives : ∀ {fields a}, read fields = .ok a → P a) :
    Gives (closedObject order kind known read) P := by
  intro v a h
  unfold closedObject object at h
  split at h
  · dsimp only at h
    split at h
    · exact gives (Collected.rejecting_ok h)
    · cases h
  · cases h

theorem items_gives (gives : Gives check P) :
    ∀ {vs : List Json} {i : Nat} {as : List α}, items check i vs = .ok as → ∀ a ∈ as, P a
  | [], _, as, h => by
    cases h
    exact fun a member => absurd member List.not_mem_nil
  | v :: vs, i, as, h => by
    obtain ⟨cons, others, rfl, first, rest⟩ := Collected.app_ok h
    obtain ⟨b, passed, rfl⟩ := Outcome.map_ok first
    intro a member
    rcases List.mem_cons.mp member with rfl | member
    · exact gives (Collected.relabel_ok passed)
    · exact items_gives gives rest a member

theorem items_length :
    ∀ {vs : List Json} {i : Nat} {as : List α}, items check i vs = .ok as → as.length = vs.length
  | [], _, as, h => by
    cases h
    rfl
  | v :: vs, i, as, h => by
    obtain ⟨cons, others, rfl, first, rest⟩ := Collected.app_ok h
    obtain ⟨b, _, rfl⟩ := Outcome.map_ok first
    rw [List.length_cons, List.length_cons, items_length rest]

theorem boundedList_gives (gives : Gives check P) {least most : Nat} :
    Gives (boundedList least most check) fun as =>
      (least ≤ as.length ∧ as.length ≤ most) ∧ ∀ a ∈ as, P a := by
  intro v as h
  unfold boundedList at h
  split at h
  · rename_i vs
    split at h
    · cases h
    split at h
    · cases h
    · rename_i notLong notShort
      rw [← items_length h] at notLong notShort
      exact ⟨⟨not_lt.mp notShort, not_lt.mp notLong⟩, items_gives gives h⟩
  · cases h

theorem number_gives : Gives number fun x => Double.isFinite x = true := by
  intro v x h
  unfold number at h
  split at h
  · dsimp only at h
    split at h
    · rename_i finite
      cases h
      exact finite
    · cases h
  · split at h
    · rename_i finite
      cases h
      exact finite
    · cases h
  · cases h

end Check

def Number.IsFiniteFloat (n : Number) : Prop := ∃ x, n = .float x ∧ Double.isFinite x = true

theorem Number.IsFiniteFloat.isCarried {n : Number} (h : n.IsFiniteFloat) : n.IsCarried := by
  obtain ⟨x, rfl, _⟩ := h
  trivial

namespace Check

theorem anyNumber_gives : Gives anyNumber Number.IsFiniteFloat := by
  intro v n h
  obtain ⟨x, passed, rfl⟩ := Outcome.map_ok h
  exact ⟨x, rfl, number_gives passed⟩

theorem numberIn_gives (least most : Int) : Gives (numberIn least most) Number.IsFiniteFloat := by
  intro v n h
  obtain ⟨x, passed, h⟩ := Outcome.bind_ok h
  split at h
  · cases h
  split at h
  · cases h
  · cases h
    exact ⟨x, rfl, number_gives passed⟩

end Check

def Vec3.IsFinite (v : Vec3) : Prop :=
  v.x.IsFiniteFloat ∧ v.y.IsFiniteFloat ∧ v.z.IsFiniteFloat

def Angles.IsFinite (d : Angles) : Prop := d.pitch.IsFiniteFloat ∧ d.yaw.IsFiniteFloat

structure Color.IsFinite (c : Color) : Prop where
  red : c.red.IsFiniteFloat
  green : c.green.IsFiniteFloat
  blue : c.blue.IsFiniteFloat

structure Light.IsFinite (l : Light) : Prop where
  angles : l.angles.IsFinite
  intensity : l.intensity.IsFiniteFloat

structure SceneObject.IsFinite (o : SceneObject) : Prop where
  param : o.param.IsFinite
  position : o.position.IsFinite
  direction : o.direction.IsFiniteFloat
  color : o.color.IsFinite
  rotation : ∀ v ∈ o.rotation, v.IsFinite
  diffuse : ∀ x ∈ o.diffuse, x.IsFiniteFloat
  highlight : ∀ x ∈ o.highlight, x.IsFiniteFloat

structure Scene.IsFinite (s : Scene) : Prop where
  position : s.cameraPosition.IsFinite
  angles : s.cameraAngles.IsFinite
  lights : ∀ l ∈ s.lights, l.IsFinite
  objects : ∀ o ∈ s.objects, o.IsFinite

theorem Vec3.IsFinite.isCarried {v : Vec3} (h : v.IsFinite) : v.IsCarried :=
  ⟨h.1.isCarried, h.2.1.isCarried, h.2.2.isCarried⟩

theorem Angles.IsFinite.isCarried {d : Angles} (h : d.IsFinite) : d.IsCarried :=
  ⟨h.1.isCarried, h.2.isCarried⟩

theorem Color.IsFinite.isCarried {c : Color} (h : c.IsFinite) : c.IsCarried :=
  ⟨h.red.isCarried, h.green.isCarried, h.blue.isCarried⟩

theorem Light.IsFinite.isCarried {l : Light} (h : l.IsFinite) : l.IsCarried :=
  ⟨h.angles.isCarried, h.intensity.isCarried⟩

theorem SceneObject.IsFinite.isCarried {o : SceneObject} (h : o.IsFinite) : o.IsCarried where
  param := h.param.isCarried
  position := h.position.isCarried
  direction := h.direction.isCarried
  color := h.color.isCarried
  rotation v member := (h.rotation v member).isCarried
  diffuse x member := (h.diffuse x member).isCarried
  highlight x member := (h.highlight x member).isCarried

theorem Scene.IsFinite.isCarried {s : Scene} (h : s.IsFinite) : s.IsCarried where
  angles := h.angles.isCarried
  lights l member := (h.lights l member).isCarried
  objects o member := (h.objects o member).isCarried

/-! ### Parts of a scene -/

variable {order : Check.Order}

theorem Vec3.checkIn_finite : Check.Gives (Vec3.checkIn order) Vec3.IsFinite := by
  apply Check.closedObject_gives
  intro fields v h
  obtain ⟨_, z, rfl, h, hz⟩ := Collected.app_ok h
  obtain ⟨_, y, rfl, h, hy⟩ := Collected.app_ok h
  obtain ⟨_, x, rfl, h, hx⟩ := Collected.app_ok h
  cases h
  exact ⟨Check.required_gives Check.anyNumber_gives hx,
    Check.required_gives Check.anyNumber_gives hy, Check.required_gives Check.anyNumber_gives hz⟩

theorem Angles.checkIn_finite : Check.Gives (Angles.checkIn order) Angles.IsFinite := by
  apply Check.closedObject_gives
  intro fields d h
  obtain ⟨_, yaw, rfl, h, hYaw⟩ := Collected.app_ok h
  obtain ⟨_, pitch, rfl, h, hPitch⟩ := Collected.app_ok h
  cases h
  exact ⟨Check.required_gives (Check.numberIn_gives _ _) hPitch,
    Check.required_gives (Check.numberIn_gives _ _) hYaw⟩

theorem Color.checkIn_finite : Check.Gives (Color.checkIn order) Color.IsFinite := by
  apply Check.closedObject_gives
  intro fields c h
  obtain ⟨_, blue, rfl, h, hBlue⟩ := Collected.app_ok h
  obtain ⟨_, green, rfl, h, hGreen⟩ := Collected.app_ok h
  obtain ⟨_, red, rfl, h, hRed⟩ := Collected.app_ok h
  cases h
  exact ⟨Check.required_gives (Check.numberIn_gives _ _) hRed,
    Check.required_gives (Check.numberIn_gives _ _) hGreen,
    Check.required_gives (Check.numberIn_gives _ _) hBlue⟩

theorem Light.checkIn_finite : Check.Gives (Light.checkIn order) Light.IsFinite := by
  apply Check.closedObject_gives
  intro fields l h
  obtain ⟨_, intensity, rfl, h, hIntensity⟩ := Collected.app_ok h
  obtain ⟨_, angles, rfl, h, hAngles⟩ := Collected.app_ok h
  cases h
  exact ⟨Check.required_gives Angles.checkIn_finite hAngles,
    Check.required_gives (Check.numberIn_gives _ _) hIntensity⟩

theorem SceneObject.checkIn_finite :
    Check.Gives (SceneObject.checkIn order) SceneObject.IsFinite := by
  apply Check.closedObject_gives
  intro fields o h
  obtain ⟨_, highlight, rfl, h, hHighlight⟩ := Collected.app_ok h
  obtain ⟨_, diffuse, rfl, h, hDiffuse⟩ := Collected.app_ok h
  obtain ⟨_, rotation, rfl, h, hRotation⟩ := Collected.app_ok h
  obtain ⟨_, reflection, rfl, h, _⟩ := Collected.app_ok h
  obtain ⟨_, texture, rfl, h, _⟩ := Collected.app_ok h
  obtain ⟨_, color, rfl, h, hColor⟩ := Collected.app_ok h
  obtain ⟨_, direction, rfl, h, hDirection⟩ := Collected.app_ok h
  obtain ⟨_, position, rfl, h, hPosition⟩ := Collected.app_ok h
  obtain ⟨_, param, rfl, h, hParam⟩ := Collected.app_ok h
  obtain ⟨_, shape, rfl, h, _⟩ := Collected.app_ok h
  obtain ⟨_, name, rfl, h, _⟩ := Collected.app_ok h
  cases h
  exact {
    param := Check.required_gives Vec3.checkIn_finite hParam
    position := Check.required_gives Vec3.checkIn_finite hPosition
    direction := Check.required_gives Check.anyNumber_gives hDirection
    color := Check.required_gives Color.checkIn_finite hColor
    rotation := Check.optional_gives Vec3.checkIn_finite hRotation
    diffuse := Check.optional_gives (Check.numberIn_gives _ _) hDiffuse
    highlight := Check.optional_gives (Check.numberIn_gives _ _) hHighlight }

theorem SceneObject.checkAllIn_gives :
    Check.Gives (SceneObject.checkAllIn order) fun os =>
      os.length ≤ maxObjects ∧ ∀ o ∈ os, o.IsFinite := by
  intro v os h
  obtain ⟨passed, bounded, h⟩ := Outcome.bind_ok h
  split at h
  · cases h
  · cases h
    obtain ⟨⟨_, few⟩, finite⟩ := Check.boundedList_gives SceneObject.checkIn_finite bounded
    exact ⟨few, finite⟩

theorem Scene.checkIn_finite : Check.Gives (Scene.checkIn order) Scene.IsFinite := by
  apply Check.closedObject_gives
  intro fields s h
  obtain ⟨_, nets, rfl, h, _⟩ := Collected.app_ok h
  obtain ⟨_, objects, rfl, h, hObjects⟩ := Collected.app_ok h
  obtain ⟨_, lights, rfl, h, hLights⟩ := Collected.app_ok h
  obtain ⟨_, angles, rfl, h, hAngles⟩ := Collected.app_ok h
  obtain ⟨_, position, rfl, h, hPosition⟩ := Collected.app_ok h
  cases h
  exact {
    position := Check.required_gives Vec3.checkIn_finite hPosition
    angles := Check.required_gives Angles.checkIn_finite hAngles
    lights := (Check.required_gives (Check.boundedList_gives Light.checkIn_finite) hLights).2
    objects := (Check.required_gives SceneObject.checkAllIn_gives hObjects).2 }

theorem Scene.check_gives : Check.Gives Scene.check Scene.IsCarried :=
  fun accepted => (Scene.checkIn_finite accepted).isCarried

end RayScene
