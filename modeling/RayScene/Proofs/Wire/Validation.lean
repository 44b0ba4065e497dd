import RayScene.Proofs.Scene.Compiling
import RayScene.Verdict

/-!
# What validation promises the renderer

A valid text compiles, but the renderer need not find in the result what was written: an empty net
looks like the end of all nets. The renderer is served by a valid scene if and only if no net of it
is empty (`serves_iff_of_valid`).
-/

namespace RayScene

/-- Scenes that are valid are accepted and compile, and the verdict counts their objects. -/
theorem Verdict.ofText_valid {e : Edition} {trig : Trig} {text : LooseText} {n : Nat}
    (h : ofText e trig text = .ok (.valid n)) :
    ∃ v s w, Scene.check v = .ok s ∧ Scene.ofText e text = .ok s ∧ s.compile trig = .ok w ∧
      s.objects.length = n := by
  unfold ofText at h
  split at h
  · cases h
  · rename_i s read
    split at h
    · rename_i compiled
      cases h
      obtain ⟨v, accepted⟩ := Scene.check_of_ofText read
      obtain ⟨w, compiled, _⟩ := Scene.compileText_ok_iff.mp compiled
      exact ⟨v, s, w, accepted, read, compiled, rfl⟩
    · split at h
      · cases h
      · cases h

namespace Wire

/-- What is read of a wire serves the renderer of these many objects. -/
structure Serves (w : Wire) (objects : Nat) (r : Reading) : Prop where
  /-- the first line of the net section that is a bare sentinel ends the section -/
  terminator : ∀ net ∈ w.nets, netLine net ≠ [sentinel]
  /-- the one group of nets lists as many indices as there are nets, and each of them is a net -/
  allNets : ∃ indices, r.orNets = [Wire.allNets :: indices] ∧ indices.length = r.nets.length ∧
    ∀ k ∈ indices, 0 ≤ k ∧ k < r.nets.length
  /-- each object is in a net -/
  objects : ∀ i < objects, ∃ net ∈ r.nets, (i : ℤ) ∈ net

theorem netLine_ne_sentinel {net : List ℤ} (h : net ≠ []) : netLine net ≠ [sentinel] := by
  intro same
  have length := congrArg List.length same
  rw [netLine, List.length_append] at length
  exact h (List.length_eq_zero_iff.mp (Nat.add_right_cancel length))

theorem serves_ofScene (s : Scene) (camera : Float × Float × Float) (nets : List (List ℤ))
    (full : [] ∉ Net.complete nets s.objects.length) :
    Serves (ofScene s camera (Net.complete nets s.objects.length)) s.objects.length
      (Reading.ofScene s camera (Net.complete nets s.objects.length)) where
  terminator net member := netLine_ne_sentinel fun isEmpty => full (isEmpty ▸ member)
  allNets := by
    refine ⟨_, rfl, ?_, ?_⟩
    · rw [List.length_map, List.length_range]
      rfl
    · intro k member
      obtain ⟨i, inRange, rfl⟩ := List.mem_map.mp member
      exact ⟨Int.natCast_nonneg i, Int.ofNat_lt.mpr (List.mem_range.mp inRange)⟩
  objects i h := Net.exists_mem_complete nets h

/-- What is read of an accepted scene serves the renderer if and only if no net is empty. -/
theorem exists_serves_iff {trig : Trig} {v : Json} {s : Scene} {w : Wire}
    (accepted : Scene.check v = .ok s) (compiled : s.compile trig = .ok w) :
    (∃ r, read w.spelled = some r ∧ w.Serves s.objects.length r) ↔ ∀ net ∈ s.nets, net ≠ [] := by
  obtain ⟨_, _, nets, camera, resolved, _, rfl⟩ := Scene.compile_ok compiled
  have inner {net : List ℤ} (member : net ∈ Net.complete (nets.map fun net => net.map Int.ofNat)
    s.objects.length) : sentinel ∉ net := sentinel_notMem_complete member
  have back := read_ofScene (Scene.check_gives accepted) camera fun net => inner
  have empty := nil_mem_compiled resolved s.objects.length
  constructor
  · rintro ⟨r, served, _⟩ net member isEmpty
    rw [back, if_pos (empty.mpr (isEmpty ▸ member))] at served
    cases served
  · intro full
    have noGap : [] ∉ Net.complete (nets.map fun net => net.map Int.ofNat) s.objects.length :=
      fun member => full [] (empty.mp member) rfl
    rw [if_neg noGap] at back
    exact ⟨_, back, serves_ofScene s camera _ noGap⟩

/-- In the text of a valid scene the renderer reads every net, every index of the group of all nets
names a net, every object is in a net and nothing is left over, if and only if the author left no
net empty. -/
theorem serves_iff_of_valid {e : Edition} {trig : Trig} {text : LooseText} {n : Nat}
    (valid : Verdict.ofText e trig text = .ok (.valid n)) :
    ∃ s w written, Scene.ofText e text = .ok s ∧ s.compile trig = .ok w ∧
      s.compileText trig = .ok written ∧ w.text? = some written ∧ s.objects.length = n ∧
      ((∃ r, read written = some r ∧ w.Serves n r) ↔ ∀ net ∈ s.nets, net ≠ []) := by
  obtain ⟨v, s, w, accepted, parsed, compiled, rfl⟩ := Verdict.ofText_valid valid
  have written := Scene.text?_of_check accepted compiled
  exact ⟨s, w, _, parsed, compiled, Scene.compileText_ok_iff.mpr ⟨w, compiled, written⟩, written,
    rfl, exists_serves_iff accepted compiled⟩

def emptyText (nets : String) : String :=
  "\x7b\"camera_position\":\x7b\"x\":0,\"y\":0,\"z\":0\x7d," ++
  "\"camera_angle\":\x7b\"a\":0,\"b\":0\x7d," ++
  "\"lights\":[\x7b\"angle\":\x7b\"a\":0,\"b\":0\x7d,\"intensity\":0\x7d],\"objects\":[]," ++
  "\"and_nets\":" ++ nets ++ "\x7d"

theorem serves_emptyText :
    Verdict.ofText .earlier levelTrig (emptyText "[]") = .ok (.valid 0) ∧
      ∃ w : Wire, ∃ text r, w.text? = some text ∧ read text = some r ∧ w.Serves 0 r := by
  have valid : Verdict.ofText .earlier levelTrig (emptyText "[]") = .ok (.valid 0) := by
    decide +kernel
  obtain ⟨s, w, text, parsed, _, _, written, _, served⟩ := serves_iff_of_valid valid
  have without : (Scene.ofText .earlier (emptyText "[]")).map Scene.nets = .ok [] := by
    decide +kernel
  rw [parsed] at without
  obtain ⟨r, back, serves⟩ := served.mpr (by
    rw [Except.ok.inj without]
    exact fun net member => absurd member List.not_mem_nil)
  exact ⟨valid, w, text, r, written, back, serves⟩

/-- A text with an empty net is valid, and nothing that is read of its wire serves the renderer. -/
theorem not_serves_emptyText :
    Verdict.ofText .earlier levelTrig (emptyText "[[]]") = .ok (.valid 0) ∧
      ∃ s w text, Scene.ofText .earlier (emptyText "[[]]") = .ok s ∧
        s.compile levelTrig = .ok w ∧ w.text? = some text ∧
        ¬ ∃ r, read text = some r ∧ w.Serves 0 r := by
  have valid : Verdict.ofText .earlier levelTrig (emptyText "[[]]") = .ok (.valid 0) := by
    decide +kernel
  obtain ⟨v, s, w, accepted, parsed, compiled, count⟩ := Verdict.ofText_valid valid
  have gap : (Scene.ofText .earlier (emptyText "[[]]")).map Scene.nets = .ok [[]] := by
    decide +kernel
  rw [parsed] at gap
  refine ⟨valid, s, w, _, parsed, compiled, Scene.text?_of_check accepted compiled, ?_⟩
  rw [← count, exists_serves_iff accepted compiled, Except.ok.inj gap]
  exact fun full => full [] (List.mem_singleton_self []) rfl

end Wire

end RayScene
