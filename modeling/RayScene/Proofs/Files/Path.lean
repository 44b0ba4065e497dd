import Mathlib.Init
import RayScene.Files.Path

/-!
# Paths and their texts

A path that was read from a text, and the path of an entry below it, is read back from its own text:
`ofText_text`.
-/

namespace RayScene.Path

def IsPart (part : String) : Prop := part ≠ "" ∧ part ≠ "." ∧ '/' ∉ part.toList

structure IsRead (p : Path) : Prop where
  root : p.root = "" ∨ p.root = "/" ∨ p.root = "//"
  parts : ∀ part ∈ p.parts, IsPart part

theorem split_ne_nil (cs : List Char) : split cs ≠ [] := by
  cases cs with
  | nil => exact List.cons_ne_nil _ _
  | cons c cs =>
    unfold split
    rw [List.foldr_cons]
    split
    · exact List.cons_ne_nil _ _
    · exact List.cons_ne_nil _ _
    · exact List.cons_ne_nil _ _

theorem split_cons (c : Char) (cs : List Char) :
    split (c :: cs) = if c = '/' then [] :: split cs else (split cs).modifyHead (c :: ·) := by
  have nonempty := split_ne_nil cs
  unfold split at nonempty ⊢
  rw [List.foldr_cons]
  split
  · rfl
  · rename_i part rest notSlash parts
    rw [if_neg notSlash, parts]
    rfl
  · rename_i notSlash parts
    exact absurd parts nonempty

theorem split_eq (cs : List Char) : split cs = cs.splitOn '/' := by
  induction cs with
  | nil => rfl
  | cons c cs ih =>
    rw [split_cons, List.splitOn_cons_eq_if_modifyHead, ih]
    simp only [beq_iff_eq]

theorem mem_split {cs part : List Char} (h : part ∈ split cs) : ∀ c ∈ part, c ∈ cs ∧ c ≠ '/' := by
  induction cs generalizing part with
  | nil =>
    rw [List.mem_singleton.mp h]
    exact fun c member => absurd member List.not_mem_nil
  | cons d ds ih =>
    have later {part : List Char} (member : part ∈ split ds) : ∀ c ∈ part, c ∈ d :: ds ∧ c ≠ '/' :=
      fun c inside => (ih member c inside).imp_left (List.mem_cons_of_mem d)
    rw [split_cons] at h
    split at h
    · rcases List.mem_cons.mp h with rfl | member
      · exact fun c inside => absurd inside List.not_mem_nil
      · exact later member
    · rename_i notSlash
      cases parts : split ds with
      | nil =>
        rw [parts] at h
        exact absurd h List.not_mem_nil
      | cons first rest =>
        rw [parts] at h
        rcases List.mem_cons.mp h with rfl | member
        · intro c inside
          rcases List.mem_cons.mp inside with rfl | inside
          · exact ⟨List.mem_cons_self, notSlash⟩
          · exact later (by rw [parts]; exact List.mem_cons_self) c inside
        · exact later (by rw [parts]; exact List.mem_cons_of_mem _ member)

theorem mem_partsOf {cs : List Char} {part : String} (h : part ∈ partsOf cs) :
    IsPart part ∧ ∀ c ∈ part.toList, c ∈ cs := by
  obtain ⟨named, notPoint⟩ := List.mem_filter.mp h
  obtain ⟨member, nonempty⟩ := List.mem_filter.mp named
  obtain ⟨piece, inside, rfl⟩ := List.mem_map.mp member
  rw [IsPart, String.toList_ofList]
  have characters := mem_split inside
  refine ⟨⟨of_decide_eq_true nonempty, of_decide_eq_true notPoint, ?_⟩, ?_⟩
  · exact fun slash => (characters '/' slash).2 rfl
  · exact fun c member => (characters c member).1

theorem isRead_ofText (s : String) : IsRead (ofText s) := by
  refine ⟨?_, fun part member => (mem_partsOf member).1⟩
  unfold ofText
  dsimp only
  split
  · exact .inr (.inl rfl)
  · exact .inr (.inr rfl)
  · exact .inr (.inr rfl)
  · exact .inr (.inl rfl)
  · exact .inl rfl

theorem IsRead.child {p : Path} (h : IsRead p) {name : String} (part : IsPart name) :
    IsRead (p.child name) := by
  refine ⟨h.root, fun other member => ?_⟩
  rcases List.mem_append.mp member with before | last
  · exact h.parts other before
  · rw [List.mem_singleton.mp last]
    exact part

theorem hasNullCharacter_ofText {s : String} (h : '\x00' ∉ s.toList) :
    (ofText s).hasNullCharacter = false := by
  rw [hasNullCharacter, List.any_eq_false]
  intro part member null
  exact h ((mem_partsOf member).2 _ (List.contains_iff_mem.mp null))

theorem hasNullCharacter_child (p : Path) (name : String) :
    (p.child name).hasNullCharacter = (p.hasNullCharacter || name.toList.contains '\x00') := by
  unfold hasNullCharacter child
  rw [List.any_append, List.any_cons, List.any_nil, Bool.or_false]

/-! ### Reading back -/

def joined (parts : List String) : List Char := ['/'].intercalate (parts.map String.toList)

theorem toList_text {p : Path} (h : p.root ++ String.intercalate "/" p.parts ≠ "") :
    p.text.toList = p.root.toList ++ joined p.parts := by
  unfold text
  rw [if_neg (by rwa [String.isEmpty_iff]), String.toList_append, String.toList_intercalate]
  rfl

theorem namesOf_joined {parts : List String} (h : ∀ part ∈ parts, IsPart part) :
    namesOf (joined parts) = parts := by
  unfold namesOf joined
  cases parts with
  | nil => rfl
  | cons first rest =>
    rw [split_eq, List.splitOn_intercalate]
    · rw [List.map_map]
      have same : (String.ofList ∘ String.toList) = id := funext fun s => String.ofList_toList
      rw [same, List.map_id]
      exact List.filter_eq_self.mpr fun part member => decide_eq_true (h part member).1
    · intro part member
      obtain ⟨name, inside, rfl⟩ := List.mem_map.mp member
      exact (h name inside).2.2
    · exact List.cons_ne_nil _ _

theorem namesOf_slash (cs : List Char) : namesOf ('/' :: cs) = namesOf cs := by
  unfold namesOf
  rw [split_cons, if_pos rfl]
  rfl

theorem partsOf_of_joined {cs : List Char} {parts : List String} (h : ∀ part ∈ parts, IsPart part)
    (same : namesOf cs = namesOf (joined parts)) : partsOf cs = parts := by
  unfold partsOf
  rw [same, namesOf_joined h]
  exact List.filter_eq_self.mpr fun part member => decide_eq_true (h part member).2.1

theorem joined_cons {parts : List String} (h : ∀ part ∈ parts, IsPart part)
    (nonempty : parts ≠ []) : ∃ c cs, joined parts = c :: cs ∧ c ≠ '/' := by
  cases parts with
  | nil => exact absurd rfl nonempty
  | cons first rest =>
    obtain ⟨notEmpty, _, noSlash⟩ := h first List.mem_cons_self
    cases characters : first.toList with
    | nil => exact absurd (String.toList_eq_nil_iff.mp characters) notEmpty
    | cons c cs =>
      rw [characters] at noSlash
      refine ⟨c, ?_, ?_, fun slash => noSlash (slash ▸ List.mem_cons_self)⟩
      · exact (joined (first :: rest)).tail
      · unfold joined
        rw [List.map_cons, characters]
        cases rest with
        | nil => rfl
        | cons second rest => rfl

theorem ofText_text {p : Path} (h : IsRead p) : ofText p.text = p := by
  obtain ⟨root, parts⟩ := p
  have parted := h.parts
  by_cases none : parts = []
  · subst none
    rcases h.root with rfl | rfl | rfl
    · rfl
    · rfl
    · rfl
  obtain ⟨c, cs, first, notSlash⟩ := joined_cons parted none
  have nonempty : root ++ String.intercalate "/" parts ≠ "" := by
    intro empty
    have characters := congrArg String.toList empty
    rw [String.toList_append, String.toList_intercalate] at characters
    have all : root.toList ++ joined parts = [] := characters
    rw [first] at all
    exact absurd (List.append_eq_nil_iff.mp all).2 (List.cons_ne_nil _ _)
  have written := toList_text (p := ⟨root, parts⟩) nonempty
  unfold ofText
  rw [written]
  rcases h.root with rfl | rfl | rfl
  · have slashes : namesOf ("".toList ++ joined parts) = namesOf (joined parts) := rfl
    rw [partsOf_of_joined parted slashes, first]
    have root : "".toList ++ c :: cs = c :: cs := rfl
    rw [root]
    split <;> grind
  · have slashes : namesOf ("/".toList ++ joined parts) = namesOf (joined parts) := namesOf_slash _
    rw [partsOf_of_joined parted slashes, first]
    have root : "/".toList ++ c :: cs = '/' :: c :: cs := rfl
    rw [root]
    split <;> grind
  · have slashes : namesOf ("//".toList ++ joined parts) = namesOf (joined parts) :=
      (namesOf_slash _).trans (namesOf_slash _)
    rw [partsOf_of_joined parted slashes, first]
    have root : "//".toList ++ c :: cs = '/' :: '/' :: c :: cs := rfl
    rw [root]
    split <;> grind

/-- The text of an entry of a directory is not shorter than that of the directory. -/
theorem size_text_child (p : Path) (name : String) :
    p.text.utf8ByteSize ≤ (p.child name).text.utf8ByteSize := by
  obtain ⟨root, parts⟩ := p
  have written (q : Path) : q.text.utf8ByteSize =
      max 1 (q.root.utf8ByteSize + (String.intercalate "/" q.parts).utf8ByteSize) := by
    unfold text
    by_cases empty : q.root ++ String.intercalate "/" q.parts = ""
    · have size := congrArg String.utf8ByteSize empty
      rw [String.utf8ByteSize_append] at size
      rw [if_pos (by rwa [String.isEmpty_iff]), size]
      rfl
    · have size := mt String.utf8ByteSize_eq_zero_iff.mp empty
      rw [if_neg (by rwa [String.isEmpty_iff]), ← String.utf8ByteSize_append]
      omega
  have longer : (String.intercalate "/" parts).utf8ByteSize ≤
      (String.intercalate "/" (parts ++ [name])).utf8ByteSize := by
    by_cases none : parts = []
    · subst none
      exact Nat.zero_le _
    · rw [String.intercalate_append_of_ne_nil none (List.cons_ne_nil _ _),
        String.utf8ByteSize_append, String.utf8ByteSize_append]
      omega
  rw [written, written]
  show max 1 (root.utf8ByteSize + _) ≤ max 1 (root.utf8ByteSize + _)
  dsimp only [child]
  omega

end RayScene.Path
