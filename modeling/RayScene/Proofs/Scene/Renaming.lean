import Mathlib.Logic.Equiv.Basic
import RayScene.Proofs.Scene.Refusals

/-!
# Names are labels

What a scene is compiled to does not depend on its names, only on which of them are the same: an
injective renaming of all objects and all net members changes no wire, and of the reports only the
name in them (`Scene.compile_renamed`).
-/

namespace RayScene

def CompileError.rename (r : LooseText → LooseText) : CompileError → CompileError
  | .unresolved u => .unresolved ⟨u.net, r u.name⟩
  | e => e

namespace Scene

/-- `t` is `s` with all names replaced, those of objects, which stay proper text, and those in
nets. -/
structure IsRenamed (r : LooseText → LooseText) (s t : Scene) : Prop where
  objects : List.Forall₂ (fun o o' : SceneObject =>
    o' = { o with name := o'.name } ∧ LooseText.proper o'.name = r o.name) s.objects t.objects
  nets : t.nets = s.nets.map fun net => net.map r
  others : t = { s with objects := t.objects, nets := t.nets }

namespace IsRenamed

variable {r : LooseText → LooseText} {s t : Scene} {name : LooseText} {i : Nat} {trig : Trig}

theorem name_at (renamed : s.IsRenamed r t) (h : i < s.objects.length)
    (h' : i < t.objects.length) : LooseText.proper t.objects[i].name = r s.objects[i].name :=
  (renamed.objects.get h h').2

theorem isLast (renamed : s.IsRenamed r t) (injective : Function.Injective r)
    (h : s.IsLast name i) : t.IsLast (r name) i := by
  have sameLength := renamed.objects.length_eq
  refine ⟨sameLength ▸ h.within, ?_, fun j inside same => ?_⟩
  · rw [renamed.name_at h.within, h.named]
  · have inside' : j < s.objects.length := sameLength ▸ inside
    rw [renamed.name_at inside'] at same
    exact h.last j inside' (injective same)

theorem names_iff (renamed : s.IsRenamed r t) (injective : Function.Injective r) :
    t.Names (r name) ↔ s.Names name := by
  constructor
  · rintro ⟨o', member, named⟩
    have backwards := List.Forall₂.flip renamed.objects
    obtain ⟨o, original, _, same⟩ := Net.exists_matched backwards o' member
    exact ⟨o, original, injective (same.symm.trans named)⟩
  · rintro ⟨o, member, rfl⟩
    obtain ⟨o', image, _, same⟩ := Net.exists_matched renamed.objects o member
    exact ⟨o', image, same⟩

theorem isFirstUnknown (renamed : s.IsRenamed r t) (injective : Function.Injective r)
    {u : Net.Unresolved} (h : s.IsFirstUnknown u) : t.IsFirstUnknown ⟨u.net, r u.name⟩ := by
  obtain ⟨earlier, known, others, later, split, place, earlierKnown, allKnown, unknown⟩ := h
  refine ⟨earlier.map fun net => net.map r, known.map r, others.map r,
    later.map fun net => net.map r, ?_, ?_, ?_, ?_, ?_⟩
  · simp [renamed.nets, split]
  · simp [place]
  · simpa [renamed.names_iff injective] using earlierKnown
  · simpa [renamed.names_iff injective] using allKnown
  · simpa [renamed.names_iff injective] using unknown

theorem resolve_ok (renamed : s.IsRenamed r t) (injective : Function.Injective r)
    {nets : List (List Nat)} (resolved : Net.resolve s = .ok nets) : Net.resolve t = .ok nets := by
  rw [Net.resolve_ok_iff] at resolved ⊢
  rw [renamed.nets, List.forall₂_map_left_iff]
  refine resolved.imp fun net indices matched => ?_
  rw [List.forall₂_map_left_iff]
  exact matched.imp fun name i => renamed.isLast injective

theorem brokenPrecondition?_eq (renamed : s.IsRenamed r t) :
    t.brokenPrecondition? = s.brokenPrecondition? := by
  have sameLights := congrArg Scene.lights renamed.others
  unfold brokenPrecondition?
  rw [renamed.objects.length_eq, sameLights]

theorem position_eq (renamed : s.IsRenamed r t) (trig : Trig) :
    Camera.position trig t = Camera.position trig s := by
  rw [renamed.others]
  rfl

theorem records_eq (renamed : s.IsRenamed r t) :
    t.objects.map Wire.Record.ofObject = s.objects.map Wire.Record.ofObject := by
  have related := renamed.objects
  generalize s.objects = before, t.objects = after at related
  induction related with
  | nil => rfl
  | cons first _ ih =>
    rw [List.map_cons, List.map_cons, ih, first.1]
    rfl

theorem ofScene_eq (renamed : s.IsRenamed r t) (camera : Float × Float × Float)
    (nets : List (List ℤ)) : Wire.ofScene t camera nets = Wire.ofScene s camera nets := by
  rw [Wire.ofScene, renamed.records_eq, renamed.others]
  rfl

end IsRenamed

/-- A renamed scene compiles to the wire, and so to the text, that the scene compiles to. If the
scene is refused, so is the renamed one, and a report differs in the name only. -/
theorem compile_renamed {r : LooseText → LooseText} (injective : Function.Injective r)
    {s t : Scene} (renamed : s.IsRenamed r t) (trig : Trig) :
    t.compile trig = (s.compile trig).mapError (CompileError.rename r) ∧
      t.compileText trig = (s.compileText trig).mapError (CompileError.rename r) := by
  have same : t.compile trig = (s.compile trig).mapError (CompileError.rename r) := by
    have unbroken := renamed.brokenPrecondition?_eq
    have position := renamed.position_eq trig
    cases broken : s.brokenPrecondition? with
    | some p =>
      rw [compile_broken broken, compile_broken (unbroken.trans broken)]
      rfl
    | none =>
      rw [broken] at unbroken
      cases resolved : Net.resolve s with
      | error u =>
        have unknown := renamed.isFirstUnknown injective (Net.resolve_error_iff.mp resolved)
        rw [compile_unresolved broken resolved,
          compile_unresolved unbroken (Net.resolve_error_iff.mpr unknown)]
        rfl
      | ok nets =>
        have resolved' := renamed.resolve_ok injective resolved
        cases placed : Camera.position trig s with
        | error f =>
          rw [compile_misplaced broken resolved placed,
            compile_misplaced unbroken resolved' (position.trans placed)]
          rfl
        | ok camera =>
          rw [compile_resolved broken resolved placed,
            compile_resolved unbroken resolved' (position.trans placed), renamed.ofScene_eq,
            ← renamed.objects.length_eq]
          rfl
  refine ⟨same, ?_⟩
  cases compiled : s.compile trig with
  | error e =>
    rw [compileText_refused compiled, compileText_refused (same.trans (by rw [compiled]; rfl))]
    rfl
  | ok w =>
    have compiled' : t.compile trig = .ok w := same.trans (by rw [compiled]; rfl)
    rw [compileText_of_compile compiled, compileText_of_compile compiled']
    cases w.text? <;> rfl

theorem isRenamed_twins {r : LooseText → LooseText} {a b : String} (image : r a = b)
    (nets : List (List LooseText)) :
    (twins a nets).IsRenamed r (twins b (nets.map fun net => net.map r)) :=
  ⟨.cons ⟨rfl, image.symm⟩ (.cons ⟨rfl, image.symm⟩ .nil), rfl, rfl⟩

/-- A name that looks like the end of a section is as good as any other, also where two objects
have it. -/
theorem compile_renamed_twins :
    (∃ w, (twins "a" [["a"], [], ["a", "a"]]).compile Wire.levelTrig = .ok w ∧
      (twins "-1\n99" [["-1\n99"], [], ["-1\n99", "-1\n99"]]).compile Wire.levelTrig = .ok w) ∧
    (twins "a" [["a", "-1\n99"]]).compile Wire.levelTrig = .error (.unresolved ⟨0, "-1\n99"⟩) ∧
    (twins "-1\n99" [["-1\n99", "a"]]).compile Wire.levelTrig = .error (.unresolved ⟨0, "a"⟩) := by
  let r := Equiv.swap (LooseText.proper "a") (LooseText.proper "-1\n99")
  have image : r "a" = "-1\n99" := Equiv.swap_apply_left _ _
  have compared (nets : List (List LooseText)) :=
    (compile_renamed r.injective (isRenamed_twins image nets) Wire.levelTrig).1
  refine ⟨⟨_, rfl, ?_⟩, rfl, ?_⟩
  · exact compared [["a"], [], ["a", "a"]]
  · exact compared [["a", "-1\n99"]]

end Scene

end RayScene
