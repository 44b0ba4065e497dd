import RayScene.Json.Syntax
import RayScene.Proofs.Json.Strings

/-!
# Reading values, one character at a time

The machine reads every text of the grammar, and reads it as the value that it spells
(`parse_of_spells`). Between the containers the state is known up to what it does next: it
awaits a value, or a value has ended in it.
-/

namespace RayScene.Json

open Grammar

namespace Machine

variable {limits : Limits} {s : State} {frames : List Frame}

/-- A value may start, and then stands in these containers. -/
structure Awaits (limits : Limits) (s : State) (frames : List Frame) : Prop where
  blank : ∀ c, isSpace c = true → step limits s c = some s
  goes : ∀ c s', openValue? limits frames c = some s' → step limits s c = some s'

/-- A value in these containers has ended, if what comes next cannot belong to it. -/
structure Ends (limits : Limits) (s : State) (frames : List Frame) (v : Json) : Prop where
  goes : ∀ c, isSpace c = true ∨ c ∈ [',', ']', '\x7d'] →
    step limits s c = stepBetween limits (complete v frames) c
  result : frames = [] → result? limits s = some v

theorem isSpace_iff (c : Char) : isSpace c = true ↔ c ∈ [' ', '\t', '\n', '\r'] := by
  simp [isSpace, or_assoc]

theorem feed_blank (still : ∀ c, isSpace c = true → step limits s c = some s) {cs rest : List Char}
    (h : Blank cs rest) : feed (step limits) s cs = feed (step limits) s rest := by
  induction h with
  | none => rfl
  | some space _ ih => rw [feed_cons (still _ ((isSpace_iff _).mpr space)), ih]

theorem stepBetween_space {c : Char} (h : isSpace c = true) (s : State) :
    stepBetween limits s c = some s := if_pos h

theorem step_complete (v : Json) (frames : List Frame) (c : Char) :
    step limits (complete v frames) c = stepBetween limits (complete v frames) c := by
  match frames with
  | [] => rfl
  | .list items :: frames => rfl
  | .member fields key :: frames => rfl

theorem ends_complete (v : Json) (frames : List Frame) :
    Ends limits (complete v frames) frames v where
  goes c _ := step_complete v frames c
  result top := by
    rw [top]
    rfl

/-- White space after a value makes it complete, if it was not. -/
theorem Ends.feed_blank {v : Json} (h : Ends limits s frames v) {cs rest : List Char}
    (blank : Blank cs rest) :
    ∃ s', feed (step limits) s cs = feed (step limits) s' rest ∧ Ends limits s' frames v := by
  cases blank with
  | none => exact ⟨s, rfl, h⟩
  | some space blank =>
    have isSpace := (isSpace_iff _).mpr space
    have next := (h.goes _ (.inl isSpace)).trans (stepBetween_space isSpace _)
    refine ⟨complete v frames, ?_, ends_complete v frames⟩
    rw [feed_cons next, Machine.feed_blank (fun c isSpace => ?_) blank]
    rw [step_complete, stepBetween_space isSpace]

/-- After a value, white space and a character, all is as if the value were complete. -/
theorem Ends.feed_close {v : Json} (h : Ends limits s frames v) {cs rest : List Char} {c : Char}
    (blank : Blank cs (c :: rest)) (closing : c ∈ [',', ']', '\x7d']) {s' : State}
    (next : stepBetween limits (complete v frames) c = some s') :
    feed (step limits) s cs = feed (step limits) s' rest := by
  obtain ⟨s₁, read, ended⟩ := h.feed_blank blank
  rw [read, feed_cons ((ended.goes c (.inr closing)).trans next)]

theorem openValue?_space {c : Char} (h : isSpace c = true ∨ c = ']') (frames : List Frame) :
    openValue? limits frames c = none := by
  unfold openValue?
  split
  · rfl
  · rw [isSpace_iff] at h
    simp only [List.mem_cons, List.not_mem_nil, or_false] at h
    rcases h with (rfl | rfl | rfl | rfl) | rfl <;> rfl

theorem awaits_value (frames : List Frame) : Awaits limits ⟨frames, .value⟩ frames where
  blank c space := stepBetween_space space _
  goes c s' opens := by
    have noSpace : ¬ isSpace c = true := fun space => by
      rw [openValue?_space (.inl space)] at opens
      cases opens
    exact (if_neg noSpace).trans opens

theorem awaits_firstItem (frames : List Frame) :
    Awaits limits ⟨frames, .firstItem⟩ (.list [] :: frames) where
  blank c space := stepBetween_space space _
  goes c s' opens := by
    have noSpace : ¬ isSpace c = true := fun space => by
      rw [openValue?_space (.inl space)] at opens
      cases opens
    have noEnd : c ≠ ']' := fun bracket => by
      rw [openValue?_space (.inr bracket)] at opens
      cases opens
    exact (if_neg noSpace).trans ((if_neg noEnd).trans opens)

theorem Awaits.feed (h : Awaits limits s frames) {c : Char} {s' : State}
    (opens : openValue? limits frames c = some s') (cs : List Char) :
    Machine.feed (step limits) s (c :: cs) = Machine.feed (step limits) s' cs :=
  feed_cons (h.goes c s' opens) cs

theorem openValue?_eq (within : frames.length < limits.depth) (c : Char) :
    openValue? limits frames c =
      if c = '"' then some ⟨frames, .string .value [] .outside⟩
      else if c = '[' then some ⟨frames, .firstItem⟩
      else if c = '\x7b' then some ⟨frames, .firstKey⟩
      else match Numeral.start? c, word? c with
        | some n, _ => some ⟨frames, .number n⟩
        | none, some (word, meaning) =>
          some ⟨frames, .word word.toList (word.toList.drop 1) meaning⟩
        | none, none => none :=
  if_neg (Nat.not_le.mpr within)

theorem openValue?_number (within : frames.length < limits.depth) {c : Char} {n : Numeral}
    (h : Numeral.start? c = some n) : openValue? limits frames c = some ⟨frames, .number n⟩ := by
  have other : ∀ d, Numeral.start? d = none → c ≠ d := by
    rintro d refused rfl
    cases h.symm.trans refused
  rw [openValue?_eq within, if_neg (other '"' rfl), if_neg (other '[' rfl),
    if_neg (other '\x7b' rfl), h]

/-- A number that has a value does not go on with what comes after values. -/
theorem push?_eq_none {n : Numeral} {v : Json} (h : n.value? limits = some v) {c : Char}
    (closing : isSpace c = true ∨ c ∈ [',', ']', '\x7d']) : n.push? limits c = none := by
  have chars : c ∈ [' ', '\t', '\n', '\r', ',', ']', '\x7d'] := by
    rcases closing with space | closing
    · exact List.mem_append_left [',', ']', '\x7d'] ((isSpace_iff c).mp space)
    · exact List.mem_append_right [' ', '\t', '\n', '\r'] closing
  simp only [List.mem_cons, List.not_mem_nil, or_false] at chars
  have noDigit : digit? c = none := by
    rcases chars with rfl | rfl | rfl | rfl | rfl | rfl | rfl <;> rfl
  have noMark : n.mark? c = none := by
    rcases chars with rfl | rfl | rfl | rfl | rfl | rfl | rfl <;> rfl
  unfold Numeral.value? at h
  unfold Numeral.push?
  cases part : n.part with
  | minus | point | exponentMark | exponentSign =>
    rw [part] at h
    cases h
  | leadingZero | whole | fraction =>
    rw [noDigit]
    exact noMark
  | exponent => rw [noDigit]

theorem ends_number {n : Numeral} {v : Json} (h : n.value? limits = some v) (frames : List Frame) :
    Ends limits ⟨frames, .number n⟩ frames v where
  goes c closing := by
    unfold step
    dsimp only
    rw [push?_eq_none h closing, h]
  result top := by
    rw [top]
    exact h

theorem feed_word {whole ws : List Char} (nonempty : ws ≠ []) (v : Json) (rest : List Char) :
    feed (step limits) ⟨frames, .word whole ws v⟩ (ws ++ rest) =
      feed (step limits) (complete v frames) rest := by
  induction ws with
  | nil => exact absurd rfl nonempty
  | cons c ws ih =>
    cases ws with
    | nil =>
      have next : step limits ⟨frames, .word whole [c] v⟩ c = some (complete v frames) := if_pos rfl
      exact feed_cons next rest
    | cons d ws =>
      have next : step limits ⟨frames, .word whole (c :: d :: ws) v⟩ c =
          some ⟨frames, .word whole (d :: ws) v⟩ := if_pos rfl
      rw [List.cons_append, feed_cons next, ih (List.cons_ne_nil d ws)]

theorem Awaits.feed_word (h : Awaits limits s frames) (within : frames.length < limits.depth)
    {w : String} {v : Json} (member : (w, v) ∈ words) (rest : List Char) :
    Machine.feed (step limits) s (w.toList ++ rest) =
      Machine.feed (step limits) (complete v frames) rest := by
  have word : ∀ c ws whole, w.toList = c :: ws → ws ≠ [] → c ≠ '"' → c ≠ '[' → c ≠ '\x7b' →
      Numeral.start? c = none → word? c = some (whole, v) → whole.toList.drop 1 = ws →
      Machine.feed (step limits) s (w.toList ++ rest) =
        Machine.feed (step limits) (complete v frames) rest := by
    intro c ws whole spelled nonempty h₁ h₂ h₃ notNumber isWord others
    have opens : openValue? limits frames c = some ⟨frames, .word whole.toList ws v⟩ := by
      rw [openValue?_eq within, if_neg h₁, if_neg h₂, if_neg h₃, notNumber, isWord, ← others]
    rw [spelled, List.cons_append, h.feed opens, Machine.feed_word nonempty]
  simp only [words, List.mem_cons, Prod.mk.injEq, List.not_mem_nil, or_false] at member
  rcases member with ⟨rfl, rfl⟩ | ⟨rfl, rfl⟩ | ⟨rfl, rfl⟩ | ⟨rfl, rfl⟩ | ⟨rfl, rfl⟩ | ⟨rfl, rfl⟩
  · exact word 't' _ _ rfl (by decide) (by decide) (by decide) (by decide) rfl rfl rfl
  · exact word 'f' _ _ rfl (by decide) (by decide) (by decide) (by decide) rfl rfl rfl
  · exact word 'n' _ _ rfl (by decide) (by decide) (by decide) (by decide) rfl rfl rfl
  · exact word 'N' _ _ rfl (by decide) (by decide) (by decide) (by decide) rfl rfl rfl
  · exact word 'I' _ _ rfl (by decide) (by decide) (by decide) (by decide) rfl rfl rfl
  · -- The minus sign starts a number until the next character says otherwise.
    have minus := openValue?_number within (by rfl : Numeral.start? '-' = some _)
    have next : step limits ⟨frames, .number ⟨true, .minus, 0, 0, false, 0, 0⟩⟩ 'I' =
        some (minusInfinity frames) := rfl
    rw [show "-Infinity".toList = '-' :: 'I' :: "nfinity".toList from rfl, List.cons_append,
      h.feed minus, List.cons_append, feed_cons next]
    exact Machine.feed_word (by decide) _ rest

theorem feed_key {fields : Fields} {key : LooseText} {cs rest : List Char}
    (h : Key limits cs key rest)
    (between : ∀ c, step limits s c = stepBetween limits s c)
    (opens : stepBetween limits s '"' = some ⟨frames, .string (.key fields) [] .outside⟩) :
    feed (step limits) s cs =
      feed (step limits) ⟨.member fields key :: frames, .value⟩ rest := by
  cases h with
  | spelled blank characters colon =>
    rename_i start mid ps
    have spaces : ∀ c, isSpace c = true →
        step limits ⟨frames, .colon fields (.ofPoints ps)⟩ c =
          some ⟨frames, .colon fields (.ofPoints ps)⟩ := fun c space => if_pos space
    have next : step limits ⟨frames, .colon fields (.ofPoints ps)⟩ ':' =
        some ⟨.member fields (.ofPoints ps) :: frames, .value⟩ := rfl
    rw [feed_blank (fun c space => (between c).trans (stepBetween_space space s)) blank,
      feed_cons ((between '"').trans opens), feed_characters characters, completeText,
      List.append_nil, List.reverse_reverse, feed_blank spaces colon, feed_cons next]

/-! ### Values -/

mutual

theorem feed_value {depth : Nat} {cs rest : List Char} {v : Json} {s : State}
    {frames : List Frame} :
    Grammar.Value limits depth cs v rest → depth < limits.depth → frames.length = depth →
      Awaits limits s frames →
      ∃ s', feed (step limits) s cs = feed (step limits) s' rest ∧ Ends limits s' frames v
  | .word rest member, within, inside, awaits =>
    ⟨_, awaits.feed_word (inside ▸ within) member rest, ends_complete _ frames⟩
  | .number number, within, inside, awaits => by
    obtain ⟨c, cs', start, n, rfl, starts, read, value⟩ := feed_number number frames
    refine ⟨_, ?_, ends_number value frames⟩
    rw [awaits.feed (openValue?_number (inside ▸ within) starts), read]
  | .string characters, within, inside, awaits => by
    have opens : openValue? limits frames '"' = some ⟨frames, .string .value [] .outside⟩ :=
      openValue?_eq (inside ▸ within) '"'
    refine ⟨_, ?_, ends_complete _ frames⟩
    rw [awaits.feed opens, feed_characters characters, completeText, List.append_nil,
      List.reverse_reverse]
  | .emptyList blank, within, inside, awaits => by
    have opens : openValue? limits frames '[' = some ⟨frames, .firstItem⟩ :=
      openValue?_eq (inside ▸ within) '['
    have ends : step limits ⟨frames, .firstItem⟩ ']' = some (complete (.arr []) frames) := rfl
    refine ⟨_, ?_, ends_complete _ frames⟩
    rw [awaits.feed opens, feed_blank (awaits_firstItem frames).blank blank, feed_cons ends]
  | .list items, within, inside, awaits => by
    have opens : openValue? limits frames '[' = some ⟨frames, .firstItem⟩ :=
      openValue?_eq (inside ▸ within) '['
    refine ⟨_, ?_, ends_complete _ frames⟩
    rw [awaits.feed opens]
    exact feed_items items (congrArg Nat.succ inside) (awaits_firstItem frames)
  | .emptyObject blank, within, inside, awaits => by
    have opens : openValue? limits frames '\x7b' = some ⟨frames, .firstKey⟩ :=
      openValue?_eq (inside ▸ within) '\x7b'
    have ends : step limits ⟨frames, .firstKey⟩ '\x7d' = some (complete (.obj []) frames) := rfl
    refine ⟨_, ?_, ends_complete _ frames⟩
    have spaces : ∀ c, isSpace c = true →
        step limits ⟨frames, .firstKey⟩ c = some ⟨frames, .firstKey⟩ := fun c space => if_pos space
    rw [awaits.feed opens, feed_blank spaces blank, feed_cons ends]
  | .object members, within, inside, awaits => by
    have opens : openValue? limits frames '\x7b' = some ⟨frames, .firstKey⟩ :=
      openValue?_eq (inside ▸ within) '\x7b'
    refine ⟨_, ?_, ends_complete _ frames⟩
    rw [awaits.feed opens]
    exact feed_members members (congrArg Nat.succ inside) (fun _ => rfl) rfl

theorem feed_part {depth : Nat} {cs rest : List Char} {v : Json} {c : Char} {s s' : State}
    {frames : List Frame} : Grammar.Part limits depth cs v c rest → Awaits limits s frames →
      frames.length = depth → c ∈ [',', ']', '\x7d'] →
      stepBetween limits (complete v frames) c = some s' →
      feed (step limits) s cs = feed (step limits) s' rest
  | .spelled within before value after, awaits, inside, closing, next => by
    obtain ⟨s₁, read, ended⟩ := feed_value value within inside awaits
    rw [feed_blank awaits.blank before, read, ended.feed_close after closing next]

theorem feed_items {depth : Nat} {cs rest : List Char} {before vs : List Json} {s : State}
    {frames : List Frame} : Items limits depth cs vs rest → frames.length + 1 = depth →
      Awaits limits s (.list before :: frames) →
      feed (step limits) s cs =
        feed (step limits) (complete (.arr (before.reverse ++ vs)) frames) rest
  | .last part, inside, awaits => by
    rename_i v
    have next : stepBetween limits (complete v (.list before :: frames)) ']' =
        some (complete (.arr (v :: before).reverse) frames) := rfl
    rw [feed_part part awaits inside (by decide) next, List.reverse_cons]
  | .more part items, inside, awaits => by
    rename_i v vs
    have next : stepBetween limits (complete v (.list before :: frames)) ',' =
        some ⟨.list (v :: before) :: frames, .value⟩ := rfl
    rw [feed_part part awaits inside (by decide) next, feed_items items inside (awaits_value _),
      List.reverse_cons, List.append_assoc, List.singleton_append]

theorem feed_members {depth : Nat} {cs rest : List Char} {before fields : Fields} {s : State}
    {frames : List Frame} : Members limits depth before cs fields rest →
      frames.length + 1 = depth → (∀ c, step limits s c = stepBetween limits s c) →
      stepBetween limits s '"' = some ⟨frames, .string (.key before) [] .outside⟩ →
      feed (step limits) s cs = feed (step limits) (complete (.obj fields) frames) rest
  | .last key part, inside, between, opens => by
    rename_i k v
    have next : stepBetween limits (complete v (.member before k :: frames)) '\x7d' =
        some (complete (.obj (before.put k v)) frames) := rfl
    rw [feed_key key between opens,
      feed_part part (awaits_value (.member before k :: frames)) inside (by decide) next]
  | .more key part members, inside, between, opens => by
    rename_i k v
    have next : stepBetween limits (complete v (.member before k :: frames)) ',' =
        some ⟨frames, .nextKey (before.put k v)⟩ := rfl
    rw [feed_key key between opens,
      feed_part part (awaits_value (.member before k :: frames)) inside (by decide) next,
      feed_members members inside (fun _ => rfl) rfl]

end

/-- Every text of the grammar is read as what it spells. -/
theorem result?_of_spells {text : String} {v : Json} (h : Spells limits text v) :
    (feed (step limits) initial text.toList).bind (result? limits) = some v := by
  obtain ⟨within, start, rest, before, value, after⟩ := h
  obtain ⟨s, read, ended⟩ := feed_value value within rfl (awaits_value [])
  obtain ⟨s', read', ended'⟩ := ended.feed_blank after
  rw [initial, feed_blank (awaits_value []).blank before, read, read']
  exact ended'.result rfl

end Machine

theorem parse_of_spells {limits : Machine.Limits} {text : String} {v : Json}
    (h : Spells limits text v) : parse limits text = .ok v := by
  unfold parse
  dsimp only
  rw [Machine.result?_of_spells h]

end RayScene.Json
