import RayScene.Json.Body
import RayScene.Proofs.Json.Reading
import RayScene.Proofs.Text.Utf8

/-!
# Reading bodies

A text of the grammar that is sent as UTF-8 is read as what it spells (`Json.parseBody_of_spells`):
its first two bytes are not zero, so that no other encoding is taken for it.
-/

namespace RayScene

theorem Utf8.ne_zero_of_mem_encodeChar {c : Char} {b : UInt8} (notNull : c ≠ '\x00')
    (h : b ∈ String.utf8EncodeChar c) : b ≠ 0 := by
  have number : c.val.toNat = c.toNat := rfl
  have positive : c.toNat ≠ 0 := fun zero => notNull (by rw [← Char.ofNat_toNat c, zero])
  have byte : ∀ {k : Nat}, 0 < k → k < 256 → UInt8.ofNat k ≠ 0 := by
    intro k least most zero
    have value := toNat_byte most
    rw [zero] at value
    exact least.ne value
  unfold String.utf8EncodeChar at h
  dsimp only at h
  rw [number] at h
  split at h
  · cases List.mem_singleton.mp h
    exact byte (by omega) (by omega)
  split at h
  · simp only [List.mem_cons, List.not_mem_nil, or_false] at h
    rcases h with rfl | rfl
    all_goals exact byte (by omega) (by omega)
  split at h
  · simp only [List.mem_cons, List.not_mem_nil, or_false] at h
    rcases h with rfl | rfl | rfl
    all_goals exact byte (by omega) (by omega)
  · simp only [List.mem_cons, List.not_mem_nil, or_false] at h
    rcases h with rfl | rfl | rfl | rfl
    all_goals exact byte (by omega) (by omega)

namespace Encoding

theorem detect_of_take {bytes : Bytes} (h : ∀ b ∈ bytes.take 2, b ≠ 0) : detect bytes = .utf8 := by
  match bytes with
  | [] => rfl
  | [a] => rfl
  | [a, b] =>
    rw [detect, if_neg (h a List.mem_cons_self), if_neg (h b (.tail a List.mem_cons_self))]
  | [a, b, c] => rfl
  | a :: b :: c :: d :: rest =>
    rw [detect, if_neg (h a List.mem_cons_self), if_neg (h b (.tail a List.mem_cons_self))]

/-- The first two bytes of a text belong to its first two characters. -/
theorem detect_encode {text : String} (h : ∀ c ∈ text.toList.take 2, c ≠ '\x00') :
    detect (Utf8.encode text) = .utf8 := by
  have first : ∀ {c : Char} {n : Nat} {rest : Bytes} {b : UInt8},
      b ∈ (String.utf8EncodeChar c ++ rest).take (n + 1) →
        b ∈ String.utf8EncodeChar c ∨ b ∈ rest.take n := by
    intro c n rest b member
    have positive : 0 < (String.utf8EncodeChar c).length :=
      String.length_utf8EncodeChar c ▸ c.utf8Size_pos
    rw [List.take_append] at member
    rcases List.mem_append.mp member with inside | after
    · exact .inl (List.mem_of_mem_take inside)
    · exact .inr (List.take_subset_take_left rest (by omega) after)
  refine detect_of_take fun b member => ?_
  unfold Utf8.encode at member
  generalize text.toList = cs at h member
  cases cs with
  | nil => cases member
  | cons c cs =>
    rcases first member with isFirst | member
    · exact Utf8.ne_zero_of_mem_encodeChar (h c List.mem_cons_self) isFirst
    cases cs with
    | nil => cases member
    | cons d cs =>
      rcases first member with isSecond | nowhere
      · exact Utf8.ne_zero_of_mem_encodeChar (h d (.tail c List.mem_cons_self)) isSecond
      · cases nowhere

end Encoding

namespace Json

namespace Machine

variable {limits : Limits}

theorem feed_points (s : State) (cs : List Char) :
    feed (stepPoint limits) s (cs.map .char) = feed (step limits) s cs := by
  unfold feed
  rw [List.foldlM_map]
  rfl

theorem step_initial_null : step limits initial '\x00' = none := by
  show openValue? limits [] '\x00' = none
  unfold openValue?
  split
  · rfl
  · rfl

theorem step_initial_mark : step limits initial '\uFEFF' = none := by
  show openValue? limits [] '\uFEFF' = none
  unfold openValue?
  split
  · rfl
  · rfl

theorem step_number_null (n : Numeral) : step limits ⟨[], .number n⟩ '\x00' = none := by
  have pushed : n.push? limits '\x00' = none := by
    unfold Numeral.push?
    cases n.part <;> rfl
  unfold step
  dsimp only
  rw [pushed]
  cases n.value? limits with
  | none => exact if_neg fun wrong => absurd wrong.2 (by decide)
  | some v => rfl

/-- No value goes on with U+0000 after its first character. -/
theorem step_null {s : State} {c : Char} (h : step limits initial c = some s) :
    step limits s '\x00' = none := by
  change stepBetween limits initial c = some s at h
  unfold stepBetween at h
  split at h
  · cases h
    exact step_initial_null
  change openValue? limits [] c = some s at h
  unfold openValue? at h
  split at h
  · cases h
  split at h
  · cases h
    rfl
  split at h
  · cases h
    show openValue? limits [.list []] '\x00' = none
    unfold openValue?
    split <;> rfl
  split at h
  · cases h
    rfl
  split at h
  · cases h
    exact step_number_null _
  · rename_i word meaning found
    cases h
    unfold word? at found
    repeat'
      split at found
      · cases found
        rfl
    cases found
  · cases h

/-- The first two characters of a text that is read are not U+0000. -/
theorem ne_null_of_feed {cs : List Char} {s : State} (h : feed (step limits) initial cs = some s) :
    ∀ c ∈ cs.take 2, c ≠ '\x00' := by
  rintro c member rfl
  cases cs with
  | nil => cases member
  | cons d cs =>
    unfold feed at h
    rw [List.foldlM_cons] at h
    obtain ⟨s', first, h⟩ := Option.bind_eq_some_iff.mp h
    rcases List.mem_cons.mp member with rfl | member
    · cases step_initial_null.symm.trans first
    cases cs with
    | nil => cases member
    | cons e cs =>
      cases List.mem_singleton.mp member
      rw [List.foldlM_cons, step_null first] at h
      cases h

theorem dropMark_of_feed {cs : List Char} {s : State}
    (h : feed (step limits) initial cs = some s) : dropMark (cs.map .char) = cs.map .char := by
  unfold dropMark
  split
  · rename_i rest same
    cases cs with
    | nil => cases same
    | cons c cs =>
      cases same
      unfold feed at h
      rw [List.foldlM_cons, step_initial_mark] at h
      cases h
  · rfl

end Machine

theorem parseBody_of_spells {text : String} {v : Json} (h : Grammar.Spells bodyLimits text v) :
    parseBody (Utf8.encode text) = .ok v.once := by
  have result := Machine.result?_of_spells h
  obtain ⟨s, read, _⟩ := Option.bind_eq_some_iff.mp result
  have decoded : Encoding.utf8.decode? (Utf8.encode text) = some (text.toList.map .char) := by
    rw [Encoding.decode?, Utf8.decode_encode]
    rfl
  unfold parseBody parsePoints
  rw [Encoding.detect_encode (Machine.ne_null_of_feed read), decoded]
  dsimp only
  rw [Machine.dropMark_of_feed read, Machine.feed_points, result]

end Json

end RayScene
