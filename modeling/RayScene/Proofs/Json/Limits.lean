import RayScene.Proofs.Json.Reading

/-!
# Limits

What is read within narrow limits is read alike within wider ones (`Machine.step_below`), so that a
text is refused or read as what it spells in the wider grammar (`parse_unique`). A whole part
with too many digits is refused (`Machine.feed_beyond`).
-/

namespace RayScene.Json

/-- What one result is, if there is one, the other one is too. -/
def Below {α : Type} (a b : Option α) : Prop := ∀ x, a = some x → b = some x

namespace Below

variable {α β : Type} {a a' b b' : Option α}

theorem refl (a : Option α) : Below a a := fun _ same => same

theorem none (a : Option α) : Below .none a := by
  intro x wrong
  cases wrong

theorem ite {p : Prop} [Decidable p] (h : Below a a') (h' : Below b b') :
    Below (if p then a else b) (if p then a' else b') := by
  split
  · exact h
  · exact h'

theorem guard {p q : Bool} (implies : p = true → q = true) (h : Below a b) :
    Below (if p then a else .none) (if q then b else .none) := by
  cases p with
  | false => exact .none _
  | true =>
    rw [implies rfl]
    exact h

theorem map (h : Below a b) (f : α → β) : Below (a.map f) (b.map f) := by
  intro y same
  obtain ⟨x, found, rfl⟩ := Option.map_eq_some_iff.mp same
  rw [h x found, Option.map_some]

theorem bind {f g : α → Option β} (h : Below a b) (h' : ∀ x, Below (f x) (g x)) :
    Below (a.bind f) (b.bind g) := by
  intro y same
  obtain ⟨x, found, next⟩ := Option.bind_eq_some_iff.mp same
  rw [h x found, Option.bind_some, h' x y next]

end Below

namespace Machine

structure Limits.Within (limits wide : Limits) : Prop where
  depth : limits.depth ≤ wide.depth
  wholeDigits : ∀ negative n, isWithin limits.wholeDigits (limits.span negative n) = true →
    isWithin wide.wholeDigits (wide.span negative n) = true
  integerDigits : ∀ negative n, isWithin limits.integerDigits (limits.span negative n) = true →
    isWithin wide.integerDigits (wide.span negative n) = true
  surrogates : limits.surrogates = true → wide.surrogates = true

variable {limits : Limits} {frames : List Frame}

theorem stepBetween_digit {d : Char} (isDigit : d.isDigit = true) (v : Json) (frames : List Frame) :
    stepBetween limits (complete v frames) d = none := by
  have other : ∀ c, c.isDigit = false → d ≠ c := by
    rintro c notDigit rfl
    cases isDigit.symm.trans notDigit
  have notSpace : isSpace d = false := by
    refine eq_false_of_ne_true fun space => ?_
    have member := (isSpace_iff d).mp space
    simp only [List.mem_cons, List.not_mem_nil, or_false] at member
    rcases member with rfl | rfl | rfl | rfl <;> cases isDigit
  unfold stepBetween
  rw [notSpace]
  cases frames with
  | nil => rfl
  | cons frame frames =>
    cases frame with
    | list items => exact (if_neg (other ',' rfl)).trans (if_neg (other ']' rfl))
    | member fields key => exact (if_neg (other ',' rfl)).trans (if_neg (other '\x7d' rfl))

/-- A whole part with too many digits is refused, whatever comes after it. -/
theorem feed_beyond {most : Nat} (bound : limits.wholeDigits = some most) {ds : List Char}
    (digits : Decimal.AllDigits ds) {n : Numeral} (part : n.part = .whole)
    (within : limits.span n.negative n.width ≤ most)
    (beyond : most < limits.span n.negative (n.width + ds.length)) (rest : List Char) :
    feed (step limits) ⟨frames, .number n⟩ (ds ++ rest) = none := by
  induction ds generalizing n with
  | nil => exact absurd beyond (Nat.not_lt.mpr within)
  | cons d ds ih =>
    have isDigit := digits d List.mem_cons_self
    rw [List.length_cons, Nat.add_comm ds.length, ← Nat.add_assoc] at beyond
    by_cases room : limits.span n.negative (n.width + 1) ≤ most
    · have pushed : n.push? limits d = some (n.pushWhole (d.toNat - '0'.toNat) .whole) := by
        unfold Numeral.push?
        rw [part, digit?_of_isDigit isDigit, bound]
        exact if_pos (decide_eq_true room)
      rw [List.cons_append, feed_push pushed]
      exact ih (fun c member => digits c (.tail d member)) rfl room beyond
    · have refused : n.push? limits d = none := by
        unfold Numeral.push?
        rw [part, digit?_of_isDigit isDigit, bound]
        exact if_neg fun wrong => room (of_decide_eq_true wrong)
      have stuck : step limits ⟨frames, .number n⟩ d = none := by
        unfold step
        dsimp only
        rw [refused]
        cases n.value? limits with
        | none =>
          refine if_neg fun wrong => ?_
          rw [part] at wrong
          cases wrong.1
        | some v => exact stepBetween_digit isDigit v frames
      unfold feed
      rw [List.cons_append, List.foldlM_cons, stuck]
      rfl

section
variable {wide : Limits} (h : limits.Within wide)
include h

theorem pushUnit?_below (text : List CodePoint) (unit : Nat) :
    Below (pushUnit? limits text unit) (pushUnit? wide text unit) :=
  .ite (.refl _) (.ite (.guard h.surrogates (.refl _)) (.refl _))

theorem pushText?_below (text : List CodePoint) (escape : Escape) (c : Char) :
    Below (pushText? limits text escape c) (pushText? wide text escape c) := by
  cases escape with
  | outside => exact .refl _
  | backslash => exact .refl _
  | unit digits value =>
    unfold pushText?
    dsimp only
    cases Text.hexValue? c with
    | none => exact .none _
    | some d => exact .ite (.refl _) (pushUnit?_below h _ _)
  | leading unit => exact .ite (.refl _) (.guard h.surrogates (.refl _))
  | leadingBackslash unit => exact .ite (.refl _) (.guard h.surrogates (.refl _))
  | trailing first digits value =>
    unfold pushText?
    dsimp only
    cases Text.hexValue? c with
    | none => exact .none _
    | some d =>
      exact .ite (.refl _) (.ite (.refl _) (.guard h.surrogates (pushUnit?_below h _ _)))

theorem closedText?_below (text : List CodePoint) (escape : Escape) :
    Below (closedText? limits text escape) (closedText? wide text escape) := by
  cases escape with
  | leading unit => exact .guard h.surrogates (.refl _)
  | _ => exact .refl _

omit h in
/-- A quote that does not close a string does not go on with it either. -/
theorem pushText?_quote {text : List CodePoint} {escape : Escape} {closed : List CodePoint}
    (isOpen : closedText? limits text escape = none)
    (isClosed : closedText? wide text escape = some closed) :
    pushText? limits text escape '"' = none := by
  cases escape with
  | leading unit =>
    have noSurrogates : ¬ limits.surrogates = true := fun surrogates => by
      rw [closedText?, if_pos surrogates] at isOpen
      cases isOpen
    have noEscape : ¬ '"' = '\\' := by decide
    rw [pushText?, if_neg noEscape, if_neg noSurrogates]
  | outside => cases isOpen
  | _ => cases isClosed

theorem value?_below (n : Numeral) : Below (n.value? limits) (n.value? wide) := by
  unfold Numeral.value?
  dsimp only
  cases n.part with
  | leadingZero | whole => exact .guard (h.integerDigits _ _) (.refl _)
  | _ => exact .refl _

theorem push?_below (n : Numeral) (c : Char) : Below (n.push? limits c) (n.push? wide c) := by
  unfold Numeral.push?
  cases n.part with
  | whole =>
    cases digit? c with
    | none => exact .refl _
    | some d => exact .guard (h.wholeDigits _ _) (.refl _)
  | _ => cases digit? c <;> exact .refl _

omit h in
/-- A character that only wider limits let a number go on with is a digit. -/
theorem isDigit_of_push? {n n' : Numeral} {c : Char} (ends : n.push? limits c = none)
    (goes : n.push? wide c = some n') : c.isDigit = true := by
  unfold Numeral.push? at ends goes
  cases found : digit? c with
  | some d =>
    unfold digit? at found
    split at found
    · rename_i digit
      exact Bool.and_eq_true_iff.mpr ⟨decide_eq_true digit.1, decide_eq_true digit.2⟩
    · cases found
  | none =>
    rw [found] at ends goes
    cases part : n.part <;> rw [part] at ends goes <;> cases ends.symm.trans goes

/-! ### Steps -/

theorem openValue?_below (frames : List Frame) (c : Char) :
    Below (openValue? limits frames c) (openValue? wide frames c) := by
  unfold openValue?
  by_cases deep : limits.depth ≤ frames.length
  · rw [if_pos deep]
    exact .none _
  · rw [if_neg deep, if_neg fun wrong => deep (h.depth.trans wrong)]
    exact .refl _

theorem stepBetween_below (s : State) (c : Char) :
    Below (stepBetween limits s c) (stepBetween wide s c) := by
  unfold stepBetween
  refine .ite (.refl _) ?_
  cases s.mode with
  | value => exact openValue?_below h _ _
  | firstItem => exact .ite (.refl _) (openValue?_below h _ _)
  | _ => exact .refl _

theorem step_string_below (frames : List Frame) (role : Role) (text : List CodePoint)
    (escape : Escape) (c : Char) :
    Below (step limits ⟨frames, .string role text escape⟩ c)
      (step wide ⟨frames, .string role text escape⟩ c) := by
  have pushed := pushText?_below h text escape c
  by_cases quote : c = '"'
  · cases quote
    cases closed : closedText? limits text escape with
    | some text' =>
      rw [step_closingQuote closed, step_closingQuote (closedText?_below h _ _ _ closed)]
      exact .refl _
    | none =>
      rw [step_pushText (.inl closed)]
      cases closed' : closedText? wide text escape with
      | some text' =>
        rw [pushText?_quote closed closed']
        exact .none _
      | none =>
        rw [step_pushText (.inl closed')]
        exact pushed.map _
  · rw [step_pushText (.inr quote), step_pushText (.inr quote)]
    exact pushed.map _

theorem step_number_below (frames : List Frame) (n : Numeral) (c : Char) :
    Below (step limits ⟨frames, .number n⟩ c) (step wide ⟨frames, .number n⟩ c) := by
  unfold step
  dsimp only
  cases pushed : n.push? limits c with
  | some n' =>
    rw [push?_below h n c n' pushed]
    exact .refl _
  | none =>
    cases value : n.value? limits with
    | some v =>
      cases goes : n.push? wide c with
      | some n' =>
        -- The number ends for want of room only, and no digit comes after a value.
        have stuck : stepBetween limits (complete v frames) c = none :=
          stepBetween_digit (isDigit_of_push? pushed goes) v frames
        dsimp only
        rw [stuck]
        exact .none _
      | none =>
        rw [value?_below h n v value]
        exact stepBetween_below h _ c
    | none =>
      dsimp only
      by_cases infinity : n.part = .minus ∧ c = 'I'
      · obtain ⟨minus, rfl⟩ := infinity
        have ends : n.push? wide 'I' = none := by
          unfold Numeral.push?
          rw [minus]
          rfl
        have noValue : n.value? wide = none := by
          unfold Numeral.value?
          rw [minus]
        rw [ends, noValue]
        exact .refl _
      · rw [if_neg infinity]
        exact .none _

theorem step_below (s : State) (c : Char) : Below (step limits s c) (step wide s c) := by
  obtain ⟨frames, mode⟩ := s
  cases mode with
  | string role text escape => exact step_string_below h frames role text escape c
  | number n => exact step_number_below h frames n c
  | word whole rest meaning => cases rest <;> exact .refl _
  | _ => exact stepBetween_below h _ c

theorem feed_below (s : State) (cs : List Char) :
    Below (feed (step limits) s cs) (feed (step wide) s cs) := by
  unfold feed
  induction cs generalizing s with
  | nil => exact .refl _
  | cons c cs ih =>
    rw [List.foldlM_cons, List.foldlM_cons]
    exact (step_below h s c).bind ih

theorem result?_below (s : State) : Below (result? limits s) (result? wide s) := by
  unfold result?
  cases s.frames with
  | cons _ _ => exact .refl _
  | nil =>
    cases s.mode with
    | number n => exact value?_below h n
    | _ => exact .refl _

end

end Machine

/-- A text of the grammar is read as nothing else within narrower limits. -/
theorem parse_unique {limits wide : Machine.Limits} (h : limits.Within wide) {text : String}
    {v v' : Json} (spelled : Grammar.Spells wide text v) (read : parse limits text = .ok v') :
    v' = v := by
  have narrow : (Machine.feed (Machine.step limits) Machine.initial text.toList).bind
      (Machine.result? limits) = some v' := by
    unfold parse at read
    dsimp only at read
    split at read
    · rename_i result
      cases read
      exact result
    · cases read
  have below := (Machine.feed_below h Machine.initial text.toList).bind (Machine.result?_below h)
  exact Option.some.inj ((below v' narrow).symm.trans (Machine.result?_of_spells spelled))

end RayScene.Json
