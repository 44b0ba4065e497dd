import Mathlib.Data.Fin.Basic
import Mathlib.Data.Set.List
import Mathlib.Logic.Equiv.Basic
import RayScene.Proofs.Scene.Nets
import RayScene.Proofs.Scene.Refusals

/-!
# The order of objects

Objects are known to the renderer by their places. Putting the objects of an accepted scene in
another order moves the lines of the objects and replaces each place in the nets by the new one;
the objects that are in no net are then listed in the new order (`Scene.compile_reorder`).
-/

namespace RayScene

namespace Net

variable {count : Nat} {nets : List (List ℤ)} {groups : List (List (Fin count))}
  {alone : List (Fin count)}

def places (group : List (Fin count)) : List ℤ := group.map fun i => (i.val : ℤ)

/-- The nets of the renderer are these groups of objects and then, ascending, one net for each
object that is in no group. -/
structure Lists (nets : List (List ℤ)) (groups : List (List (Fin count)))
    (alone : List (Fin count)) : Prop where
  nets_eq : nets = (groups ++ alone.map fun i => [i]).map places
  ascending : alone.Pairwise (· < ·)
  outside (i : Fin count) : i ∈ alone ↔ ∀ group ∈ groups, i ∉ group

theorem exists_lists (groups : List (List (Fin count))) :
    ∃ alone, Lists (complete ((groups.map (List.map Fin.val)).map fun net => net.map Int.ofNat)
      count) groups alone := by
  generalize given : (groups.map (List.map Fin.val)).map (fun net => net.map Int.ofNat) = nets
  have given' : nets = groups.map places := by simp [← given, places, Function.comp_def]
  obtain ⟨alone, same⟩ : ∃ alone : List (Fin count), alone.map Fin.val = uncovered nets count :=
    CanLift.prf _ fun i member => (mem_uncovered.mp member).1
  refine ⟨alone, ?_, ?_, fun i => ?_⟩
  · rw [complete, ← same, given']
    simp [places, Function.comp_def]
  · have ascending := ascending_uncovered nets count
    rwa [← same, List.pairwise_map] at ascending
  · rw [← List.mem_map_of_injective Fin.val_injective, same, mem_uncovered, given']
    simp [places, Fin.val_inj]

namespace Lists

theorem take (h : Lists nets groups alone) : nets.take groups.length = groups.map places := by
  simp [h.nets_eq]

theorem drop (h : Lists nets groups alone) :
    nets.drop groups.length = (alone.map fun i => [i]).map places := by
  simp [h.nets_eq]

theorem length_eq (h : Lists nets groups alone) :
    nets.length = groups.length + alone.length := by
  simp [h.nets_eq]

theorem perm {nets' : List (List ℤ)} {alone' : List (Fin count)} (h : Lists nets groups alone)
    (p : Equiv.Perm (Fin count)) (h' : Lists nets' (groups.map (List.map p)) alone') :
    alone'.Perm (alone.map p) := by
  have distinct : alone.Nodup := h.ascending.imp Fin.ne_of_lt
  have distinct' : alone'.Nodup := h'.ascending.imp Fin.ne_of_lt
  refine (List.perm_ext_iff_of_nodup distinct' (distinct.map p.injective)).mpr fun i => ?_
  obtain ⟨k, rfl⟩ := p.surjective i
  rw [List.mem_map_of_injective p.injective, h.outside, h'.outside]
  simp

end Lists

end Net

namespace Wire

def members (w : Wire) (net : List ℤ) : List (Option Record) :=
  net.map fun i => w.records[i.toNat]?

variable {count : Nat} {w w' : Wire} {p : Equiv.Perm (Fin count)}
  {groups : List (List (Fin count))} {alone alone' : List (Fin count)}

theorem members_places (moved : ∀ i : Fin count, w'.records[(p i).val]? = w.records[i.val]?)
    (group : List (Fin count)) :
    w'.members (Net.places (group.map p)) = w.members (Net.places group) := by
  simp [members, Net.places, moved]

/-- Read as objects, the groups have stayed as they are. -/
theorem members_take (moved : ∀ i : Fin count, w'.records[(p i).val]? = w.records[i.val]?)
    (lists : Net.Lists w.nets groups alone)
    (lists' : Net.Lists w'.nets (groups.map (List.map p)) alone') :
    (w'.nets.take groups.length).map w'.members = (w.nets.take groups.length).map w.members := by
  have first' := lists'.take
  rw [List.length_map] at first'
  rw [lists.take, first']
  simp only [List.map_map]
  exact List.map_congr_left fun group _ => members_places moved group

/-- Read as objects, the nets of one object have stayed as they are but for their order. -/
theorem members_drop (moved : ∀ i : Fin count, w'.records[(p i).val]? = w.records[i.val]?)
    (lists : Net.Lists w.nets groups alone)
    (lists' : Net.Lists w'.nets (groups.map (List.map p)) alone') :
    ((w'.nets.drop groups.length).map w'.members).Perm
      ((w.nets.drop groups.length).map w.members) := by
  have rest' := lists'.drop
  rw [List.length_map] at rest'
  rw [lists.drop, rest']
  simp only [List.map_map]
  refine ((lists.perm p lists').map _).trans (List.Perm.of_eq ?_)
  rw [List.map_map]
  exact List.map_congr_left fun i _ => members_places moved [i]

def netText (net : List ℤ) : String := String.intercalate " " ((netLine net).map toString)

/-- The wire is written as these lines, then a line for each object, then a line for each net, and
then these lines; an end comes after the objects and after the nets. -/
structure Sections (w : Wire) (text : String) (before objects after : List String) : Prop where
  written : w.text? = some text
  records : w.records.mapM (fun r => lineText? r.line) = some objects
  lines : HasLines text
    (before ++ (objects ++ ["-1"]) ++ (w.nets.map netText ++ ["-1"]) ++ after)

theorem sections_of_lines {text : String} {before after : List Line}
    (lines : w.lines = before ++ closed (w.records.map fun r => .numbers r.line) ++
      closed (w.nets.map fun net => .indices (netLine net)) ++ after)
    (written : w.text? = some text) :
    w.Sections text (before.map Line.spelled) (w.records.map fun r => lineSpelled r.line)
      (after.map Line.spelled) where
  written := written
  records := by
    have writable (r : Record) (member : r ∈ w.records) : ∀ x ∈ r.line, x.IsWritable := by
      refine ((text?_eq_some_iff w text).mp written).1 (.numbers r.line) ?_
      simp [lines, Wire.closed, List.mem_map_of_mem member]
    exact (mapM_eq_some_iff (fun r => lineText?_eq_some_iff (Record.line r)) w.records _).mpr
      ⟨writable, rfl⟩
  lines := by
    have spellRecord (r : Record) : (Line.numbers r.line).spelled = lineSpelled r.line :=
      Line.spelled_numbers _
    have spellNet (net : List ℤ) : (Line.indices (netLine net)).spelled = netText net := rfl
    have spellEnd : (Line.indices [sentinel]).spelled = "-1" := by decide +kernel
    have whole := hasLines_text written
    simpa only [lines, Wire.closed, List.map_append, List.map_map, List.map_cons, List.map_nil,
      Function.comp_def, spellRecord, spellNet, spellEnd] using whole

end Wire

namespace Scene

/-- The scene with its objects in another order: the one at place `i` moves to place `p i`. -/
def reorder (s : Scene) (p : Equiv.Perm (Fin s.objects.length)) : Scene :=
  { s with objects := List.ofFn fun i => s.objects[p.symm i] }

variable {s : Scene} (p : Equiv.Perm (Fin s.objects.length)) {name : LooseText}

theorem length_reorder : (s.reorder p).objects.length = s.objects.length :=
  List.length_ofFn

theorem within_reorder (i : Fin s.objects.length) : (p i).val < (s.reorder p).objects.length :=
  (p i).isLt.trans_eq (length_reorder p).symm

theorem object_reorder (i : Fin s.objects.length)
    (inside : (p i).val < (s.reorder p).objects.length) :
    (s.reorder p).objects[(p i).val] = s.objects[i.val] := by
  simp [reorder]

theorem mem_reorder {o : SceneObject} : o ∈ (s.reorder p).objects ↔ o ∈ s.objects := by
  constructor
  · intro member
    obtain ⟨i, rfl⟩ := List.mem_ofFn.mp member
    exact List.getElem_mem _
  · intro member
    obtain ⟨i, inside, rfl⟩ := List.getElem_of_mem member
    have moved := object_reorder p ⟨i, inside⟩ (within_reorder p ⟨i, inside⟩)
    exact moved ▸ List.getElem_mem _

theorem names_reorder : (s.reorder p).Names name ↔ s.Names name := by
  simp only [Names, mem_reorder]

/-- If no name is repeated, a name has one place, and after reordering it has the new place. -/
theorem isLast_reorder (distinct : (s.objects.map SceneObject.name).Nodup)
    {i : Fin s.objects.length} (h : s.IsLast name i) : (s.reorder p).IsLast name (p i) := by
  refine ⟨within_reorder p i, ?_, fun j inside same => ?_⟩
  · rw [object_reorder]
    exact h.named
  · obtain ⟨k, moved⟩ := p.surjective ⟨j, inside.trans_eq (length_reorder p)⟩
    obtain rfl : (p k).val = j := congrArg Fin.val moved
    rw [object_reorder] at same
    have sameName := LooseText.proper.inj (same.trans h.named.symm)
    rw [Fin.ext (place_unique distinct k.isLt h.within sameName)]

theorem unresolved_reorder {u : Net.Unresolved} (unresolved : Net.resolve s = .error u) :
    Net.resolve (s.reorder p) = .error u := by
  rw [Net.resolve_error_iff] at unresolved ⊢
  simp only [IsFirstUnknown, names_reorder]
  exact unresolved

theorem resolve_reorder (distinct : (s.objects.map SceneObject.name).Nodup)
    {groups : List (List (Fin s.objects.length))}
    (resolved : Net.resolve s = .ok (groups.map (List.map Fin.val))) :
    Net.resolve (s.reorder p) = .ok ((groups.map (List.map p)).map (List.map Fin.val)) := by
  rw [Net.resolve_ok_iff] at resolved ⊢
  simp only [List.forall₂_map_right_iff] at resolved ⊢
  exact resolved.imp fun _ _ matched => matched.imp fun _ _ => isLast_reorder p distinct

theorem brokenPrecondition?_reorder :
    (s.reorder p).brokenPrecondition? = s.brokenPrecondition? := by
  unfold brokenPrecondition?
  rw [length_reorder]
  rfl

/-- The wire `w'` is the wire `w` with the objects of the scene in another order. -/
structure Reordered (s : Scene) (p : Equiv.Perm (Fin s.objects.length)) (w w' : Wire) : Prop where
  others : w' = { w with records := w'.records, nets := w'.nets }
  lines : ∃ before after,
    w.lines = before ++ Wire.closed (w.records.map fun r => .numbers r.line) ++
      Wire.closed (w.nets.map fun net => .indices (Wire.netLine net)) ++ after ∧
    w'.lines = before ++ Wire.closed (w'.records.map fun r => .numbers r.line) ++
      Wire.closed (w'.nets.map fun net => .indices (Wire.netLine net)) ++ after
  /-- both can be written, and of their texts the lines of the objects have moved and those of the
  nets are written anew -/
  texts : ∃ text text' before objects objects' after, w.Sections text before objects after ∧
    w'.Sections text' before objects' after ∧ objects.length = s.objects.length ∧
    objects'.length = s.objects.length ∧
    ∀ i : Fin s.objects.length, objects'[(p i).val]? = objects[i.val]?
  count : w.records.length = s.objects.length ∧ w'.records.length = s.objects.length
  records (i : Fin s.objects.length) : w'.records[(p i).val]? = w.records[i.val]?
  nets : ∃ groups alone alone', Net.resolve s = .ok (groups.map (List.map Fin.val)) ∧
    Net.Lists w.nets groups alone ∧ Net.Lists w'.nets (groups.map (List.map p)) alone' ∧
    alone'.Perm (alone.map p)
  named : (w'.nets.take s.nets.length).map w'.members = (w.nets.take s.nets.length).map w.members
  unnamed : ((w'.nets.drop s.nets.length).map w'.members).Perm
    ((w.nets.drop s.nets.length).map w.members)

theorem isCarried_reorder (h : s.IsCarried) : (s.reorder p).IsCarried where
  angles := h.angles
  lights := h.lights
  objects o member := h.objects o ((mem_reorder p).mp member)

theorem reordered {groups : List (List (Fin s.objects.length))}
    {alone alone' : List (Fin s.objects.length)} {nets nets' : List (List ℤ)}
    (carried : s.IsCarried) (resolved : Net.resolve s = .ok (groups.map (List.map Fin.val)))
    (lists : Net.Lists nets groups alone)
    (lists' : Net.Lists nets' (groups.map (List.map p)) alone') (camera : Float × Float × Float) :
    Reordered s p (Wire.ofScene s camera nets) (Wire.ofScene (s.reorder p) camera nets') := by
  have moved := lists.perm p lists'
  have sameGroups : groups.length = s.nets.length := by
    simpa using (Net.resolve_ok_iff.mp resolved).length_eq.symm
  have sameLength : nets'.length = nets.length := by
    rw [lists.length_eq, lists'.length_eq, List.length_map, moved.length_eq, List.length_map]
  have records (i : Fin s.objects.length) :
      (Wire.ofScene (s.reorder p) camera nets').records[(p i).val]? =
        (Wire.ofScene s camera nets).records[i.val]? := by
    simp [Wire.ofScene, reorder]
  have count : (Wire.ofScene s camera nets).records.length = s.objects.length := List.length_map _
  have count' : (Wire.ofScene (s.reorder p) camera nets').records.length = s.objects.length :=
    (List.length_map _).trans (length_reorder p)
  obtain ⟨before, after, lines, lines'⟩ : ∃ before after,
      (Wire.ofScene s camera nets).lines = before ++
        Wire.closed ((Wire.ofScene s camera nets).records.map fun r => .numbers r.line) ++
        Wire.closed (nets.map fun net => .indices (Wire.netLine net)) ++ after ∧
      (Wire.ofScene (s.reorder p) camera nets').lines = before ++
        Wire.closed ((Wire.ofScene (s.reorder p) camera nets').records.map fun r =>
          .numbers r.line) ++
        Wire.closed (nets'.map fun net => .indices (Wire.netLine net)) ++ after := by
    refine ⟨_, _, rfl, ?_⟩
    simp only [Wire.lines, Wire.ofScene, sameLength]
    rfl
  have texts := Wire.sections_of_lines lines (Wire.text?_ofScene carried camera nets)
  have texts' := Wire.sections_of_lines lines'
    (Wire.text?_ofScene (isCarried_reorder p carried) camera nets')
  exact {
    others := rfl
    lines := ⟨before, after, lines, lines'⟩
    texts := ⟨_, _, _, _, _, _, texts, texts', (List.length_map _).trans count,
      (List.length_map _).trans count', fun i => by simp only [List.getElem?_map, records]⟩
    count := ⟨count, count'⟩
    records
    nets := ⟨groups, alone, alone', resolved, lists, lists', moved⟩
    named := sameGroups ▸ Wire.members_take records lists lists'
    unnamed := sameGroups ▸ Wire.members_drop records lists lists' }

/-- An accepted scene and the scene with its objects in another order both compile, or both are
refused for the same name in the same net. If they compile, both are written, the lines of the
objects have moved and the nets list the objects at their new places. -/
theorem compile_reorder {v : Json} (accepted : Scene.check v = .ok s)
    (p : Equiv.Perm (Fin s.objects.length)) (trig : Trig) :
    ((∃ w', (s.reorder p).compile trig = .ok w') ↔ ∃ w, s.compile trig = .ok w) ∧
      ((∃ text', (s.reorder p).compileText trig = .ok text') ↔
        ∃ text, s.compileText trig = .ok text) ∧
      (∀ e, (s.reorder p).compile trig = .error e ↔ s.compile trig = .error e) ∧
      (∀ e, (s.reorder p).compileText trig = .error e ↔ s.compileText trig = .error e) ∧
      (∀ e, s.compile trig = .error e → ∃ u, e = .unresolved u) ∧
      ∀ {w w'}, s.compile trig = .ok w → (s.reorder p).compile trig = .ok w' →
        s.Reordered p w w' := by
  have unbroken := Scene.check_unbroken accepted
  have unbroken' : (s.reorder p).brokenPrecondition? = none :=
    (brokenPrecondition?_reorder p).trans unbroken
  have carried := check_gives accepted
  cases resolved : Net.resolve s with
  | error u =>
    have refused : s.compile trig = _ := compile_unresolved unbroken resolved
    have refused' : (s.reorder p).compile trig = _ :=
      compile_unresolved unbroken' (unresolved_reorder p resolved)
    rw [compileText_refused refused, compileText_refused refused', refused, refused']
    exact ⟨by simp, by simp, fun e => Iff.rfl, fun e => Iff.rfl,
      fun e same => ⟨u, (Except.error.inj same).symm⟩, nofun⟩
  | ok nets =>
    have within := Net.within_of_resolve resolved
    lift nets to List (List (Fin s.objects.length)) using within with groups
    have resolved' := resolve_reorder p (check_distinct accepted) resolved
    obtain ⟨camera, placed⟩ := Camera.position_ok (check_converts accepted) trig
    have placed' : Camera.position trig (s.reorder p) = .ok camera := placed
    have compiled : s.compile trig = _ := compile_resolved unbroken resolved placed
    have compiled' : (s.reorder p).compile trig = _ := compile_resolved unbroken' resolved' placed'
    have written := compileText_written compiled fun x member =>
      (carried.numbers x member).isWritable
    have written' := compileText_written compiled' fun x member =>
      ((isCarried_reorder p carried).numbers x member).isWritable
    rw [written, written', compiled, compiled']
    refine ⟨⟨fun _ => ⟨_, rfl⟩, fun _ => ⟨_, rfl⟩⟩, ⟨fun _ => ⟨_, rfl⟩, fun _ => ⟨_, rfl⟩⟩,
      fun e => ⟨nofun, nofun⟩, fun e => ⟨nofun, nofun⟩, nofun, ?_⟩
    rintro _ _ ⟨⟩ ⟨⟩
    rw [length_reorder]
    obtain ⟨alone, lists⟩ := Net.exists_lists groups
    obtain ⟨alone', lists'⟩ := Net.exists_lists (groups.map (List.map p))
    exact reordered p carried resolved lists lists' camera

def tableFirst : Equiv.Perm (Fin Example.bowl.scene.objects.length) :=
  Equiv.swap ⟨0, by decide⟩ ⟨3, by decide⟩

theorem compile_reorder_bowl :
    ∃ w w', Scene.check Example.bowl.scene.toJson = .ok Example.bowl.scene ∧
      Example.bowl.scene.compile Wire.levelTrig = .ok w ∧
      (Example.bowl.scene.reorder tableFirst).compile Wire.levelTrig = .ok w' ∧
      w.nets = [[0, 1, 2], [3]] ∧ w'.nets = [[3, 1, 2], [0]] ∧
      Example.bowl.scene.Reordered tableFirst w w' := by
  have accepted : Scene.check Example.bowl.scene.toJson = .ok Example.bowl.scene := by
    decide +kernel
  obtain ⟨_, _, _, _, _, moved⟩ := compile_reorder accepted tableFirst Wire.levelTrig
  refine ⟨_, _, accepted, rfl, rfl, ?_, ?_, moved rfl rfl⟩
  · decide
  · decide

end Scene

end RayScene
