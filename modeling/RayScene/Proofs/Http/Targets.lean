import Mathlib.Data.List.TakeWhile
import RayScene.Http.Route
import RayScene.Proofs.Files.Path
import RayScene.Proofs.Studio.Artifacts
import RayScene.Proofs.Text.Utf8

/-!
# Targets that are taken as they are

A target without marks, escapes and dots to resolve is its own path, and the path of an artifact
with a valid name is found: `Route.find_image`.
-/

namespace RayScene

theorem Utf8.decodeLossy_encode (s : String) : decodeLossy (encode s) = s := by
  unfold decodeLossy
  rw [scan_encode, List.map_map]
  exact (congrArg String.ofList (List.map_id s.toList)).trans String.ofList_toList

namespace Percent

theorem unescape_cons {c : Char} (h : c ≠ '%') (rest : List Char) :
    unescape (c :: rest) = String.utf8EncodeChar c ++ unescape rest := by
  rw [unescape]
  exact fun high low after same _ => h same

theorem unescape_of_notMem {cs : List Char} (h : '%' ∉ cs) :
    unescape cs = cs.flatMap String.utf8EncodeChar := by
  induction cs with
  | nil =>
    rw [unescape]
    rfl
  | cons c cs ih =>
    obtain ⟨here, later⟩ := not_or.mp (mt List.mem_cons.mpr h)
    rw [unescape_cons (Ne.symm here), ih later, List.flatMap_cons]

theorem decode_of_notMem {s : String} (h : '%' ∉ s.toList) : decode s = s := by
  unfold decode
  rw [unescape_of_notMem h]
  exact Utf8.decodeLossy_encode s

end Percent

namespace Http

namespace Target

theorem cut_of_notMem {mark : Char} {cs : List Char} (h : mark ∉ cs) : cut mark cs = (cs, none) := by
  have nothing : cs.dropWhile (· ≠ mark) = [] := by
    refine List.dropWhile_eq_nil_iff.mpr fun c member => decide_eq_true ?_
    rintro rfl
    exact h member
  unfold cut
  rw [nothing]

theorem resolveDots_of_plain {kept parts : List String}
    (plain : ∀ part ∈ parts, Files.IsPlain part) :
    resolveDots kept parts = kept.reverse ++ parts := by
  induction parts generalizing kept with
  | nil => rw [resolveDots, List.append_nil]
  | cons part rest ih =>
    obtain ⟨stays, up⟩ := plain part List.mem_cons_self
    unfold resolveDots
    rw [if_neg stays, if_neg up,
      ih fun other member => plain other (List.mem_cons_of_mem part member), List.reverse_cons,
      List.append_assoc, List.singleton_append]

theorem normalize_of_plain {c : Char} {cs : List Char} (one : c ≠ '/')
    (plain : ∀ part ∈ Path.split ('/' :: c :: cs), Files.IsPlain (String.ofList part)) :
    normalize ('/' :: c :: cs) = String.ofList ('/' :: c :: cs) := by
  have noAuthority : dropAuthority ('/' :: c :: cs) = '/' :: c :: cs := by
    unfold dropAuthority
    split
    · rename_i rest same
      exact absurd (List.cons.inj (List.cons.inj same).2).1 one
    · rfl
  have absolute : '/' :: ('/' :: c :: cs).dropWhile (· = '/') = '/' :: c :: cs := by
    rw [List.dropWhile_cons_of_pos rfl]
    exact congrArg _ (List.dropWhile_cons_of_neg fun slash => one (of_decide_eq_true slash))
  have parted : ∀ part ∈ (Path.split ('/' :: c :: cs)).map String.ofList, Files.IsPlain part := by
    intro part member
    obtain ⟨piece, inside, rfl⟩ := List.mem_map.mp member
    exact plain piece inside
  unfold normalize
  rw [noAuthority, absolute]
  dsimp only
  rw [resolveDots_of_plain parted]
  apply String.toList_injective
  rw [List.reverse_nil, List.nil_append, String.toList_intercalate, String.toList_ofList,
    List.map_map]
  have same : (String.toList ∘ String.ofList) = id := funext fun s => String.toList_ofList
  rw [same, List.map_id, Path.split_eq, String.toList_ofList]
  exact List.intercalate_splitOn '/'

/-- A target from the root that nothing is taken away from is its own path. -/
theorem ofText_of_plain {s : String} {c : Char} {cs : List Char} (rooted : s.toList = '/' :: c :: cs)
    (one : c ≠ '/') (noMark : ∀ mark ∈ ['#', '?', '%'], mark ∉ s.toList)
    (plain : ∀ part ∈ Path.split s.toList, Files.IsPlain (String.ofList part)) :
    ofText s = ⟨s, none⟩ := by
  have number : '#' ∉ s.toList := noMark '#' (by decide)
  have question : '?' ∉ s.toList := noMark '?' (by decide)
  have percent : '%' ∉ s.toList := noMark '%' (by decide)
  have normal : normalize s.toList = s := by
    rw [rooted] at plain ⊢
    rw [normalize_of_plain one plain, ← rooted, String.ofList_toList]
  unfold ofText
  rw [cut_of_notMem number]
  dsimp only
  rw [cut_of_notMem question]
  dsimp only
  rw [normal, Percent.decode_of_notMem percent, Percent.decode_of_notMem percent]
  rfl

end Target

def imageTarget (name : String) : String := "/api/images/" ++ name

theorem toList_imageTarget (name : String) :
    (imageTarget name).toList = "/api/images/".toList ++ name.toList := String.toList_append

theorem isPrefixOf_imageTarget (name : String) :
    "/api/images/".toList.isPrefixOf (imageTarget name).toList = true := by
  rw [toList_imageTarget, List.isPrefixOf_iff_prefix]
  exact List.prefix_append _ _

section Image

variable {name : String} (valid : ArtifactName.isValid name = true)

include valid

theorem split_imageTarget : Path.split (imageTarget name).toList =
    [[], "api".toList, "images".toList, name.toList] := by
  have joined : (imageTarget name).toList =
      ['/'].intercalate [[], "api".toList, "images".toList, name.toList] := by
    rw [toList_imageTarget]
    simp [List.intercalate]
  rw [joined, Path.split_eq, List.splitOn_intercalate]
  · intro part member
    simp only [List.mem_cons, List.not_mem_nil, or_false] at member
    rcases member with rfl | rfl | rfl | rfl
    · decide
    · decide
    · decide
    · exact ArtifactName.not_mem_of_isValid valid rfl
  · exact List.cons_ne_nil _ _

theorem Target.ofText_imageTarget : Target.ofText (imageTarget name) = ⟨imageTarget name, none⟩ := by
  have characters := toList_imageTarget name
  refine Target.ofText_of_plain characters (by decide) ?_ ?_
  · intro mark member
    have other : mark ∉ "/api/images/".toList ∧ ArtifactName.isPart mark = false := by
      simp only [List.mem_cons, List.not_mem_nil, or_false] at member
      rcases member with rfl | rfl | rfl
      · decide
      · decide
      · decide
    rw [characters, List.mem_append, not_or]
    exact ⟨other.1, ArtifactName.not_mem_of_isValid valid other.2⟩
  · rw [split_imageTarget valid]
    intro part member
    simp only [List.mem_cons, List.not_mem_nil, or_false] at member
    rcases member with rfl | rfl | rfl | rfl
    · exact ⟨by decide, by decide⟩
    · exact ⟨by decide, by decide⟩
    · exact ⟨by decide, by decide⟩
    · rw [String.ofList_toList]
      exact ArtifactName.isPlain_of_isValid valid

theorem Endpoint.nameAfter?_imageTarget :
    nameAfter? "/api/images/" (imageTarget name) = some name := by
  have starts := isPrefixOf_imageTarget name
  have rest : (imageTarget name).toList.drop "/api/images/".length = name.toList := by
    rw [toList_imageTarget]
    exact List.drop_left
  obtain ⟨c, cs, characters, _, _⟩ := ArtifactName.isValid_iff.mp valid
  have noSlash : name.toList.contains '/' = false := by
    rw [Bool.eq_false_iff]
    exact fun slash =>
      ArtifactName.not_mem_of_isValid valid rfl (List.contains_iff_mem.mp slash)
  have nonempty : name.toList.isEmpty = false := by
    rw [characters]
    rfl
  unfold nameAfter?
  rw [if_pos starts, rest]
  dsimp only
  rw [noSlash, nonempty, String.ofList_toList]
  rfl

theorem Endpoint.ofPath?_imageTarget :
    Endpoint.ofPath? (imageTarget name) = some (.image name) := by
  -- No other path starts like that of an image.
  have others : fixedPaths.all (fun entry =>
      !"/api/images/".toList.isPrefixOf entry.1.toList &&
        !"/api/images/".toList.isPrefixOf (entry.1 ++ "\n").toList) = true := by
    decide +kernel
  have starts := isPrefixOf_imageTarget name
  have notScene : nameAfter? "/api/scenes/" (imageTarget name) = none := by
    have differs : "/api/scenes/".toList.isPrefixOf (imageTarget name).toList = false := by
      rw [toList_imageTarget]
      rfl
    unfold nameAfter?
    rw [differs]
    rfl
  unfold ofPath?
  generalize found : fixedPaths.find? _ = hit
  cases hit with
  | some entry =>
    have other := List.all_eq_true.mp others entry (List.mem_of_find?_eq_some found)
    simp only [Bool.and_eq_true, Bool.not_eq_true'] at other
    have matched := List.find?_some found
    rcases Bool.or_eq_true_iff.mp matched with same | same
    · rw [← eq_of_beq same, starts] at other
      cases other.1
    · rw [← eq_of_beq same, starts] at other
      cases other.2
  | none =>
    dsimp only [namedPaths]
    rw [List.findSome?_cons, notScene]
    dsimp only [Option.map_none]
    rw [List.findSome?_cons, nameAfter?_imageTarget valid]
    rfl

theorem Route.find_image (method : String) :
    Route.find method (Target.ofText (imageTarget name)).path =
      if "GET" = method then .endpoint (.image name) else .wrongMethod "GET" := by
  rw [Target.ofText_imageTarget valid, Route.find, Endpoint.ofPath?_imageTarget valid]
  rfl

end Image

end Http

end RayScene
