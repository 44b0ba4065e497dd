import RayScene.Proofs.Json.Grammar

/-!
# Reading numbers, one character at a time

From a state in which a number may start, the machine reads every number of the grammar and is then
in a state whose number has the value that was spelled (`Grammar.Number.feeds`).
-/

namespace RayScene.Json

open Grammar

namespace Machine

variable {limits : Limits} {frames : List Frame}

theorem feed_cons {s s' : State} {c : Char} (h : step limits s c = some s') (cs : List Char) :
    feed (step limits) s (c :: cs) = feed (step limits) s' cs := by
  unfold feed
  rw [List.foldlM_cons, h]
  rfl

theorem feed_push {n n' : Numeral} {c : Char} (h : n.push? limits c = some n') (cs : List Char) :
    feed (step limits) ⟨frames, .number n⟩ (c :: cs) =
      feed (step limits) ⟨frames, .number n'⟩ cs := by
  refine feed_cons ?_ cs
  unfold step
  dsimp only
  rw [h]

theorem digit?_of_isDigit {c : Char} (h : c.isDigit = true) :
    digit? c = some (c.toNat - '0'.toNat) := by
  obtain ⟨least, most⟩ := Bool.and_eq_true_iff.mp h
  exact if_pos ⟨of_decide_eq_true least, of_decide_eq_true most⟩

theorem isWithin_of_le {bound : Option Nat} {n m : Nat} (h : isWithin bound m = true)
    (le : n ≤ m) : isWithin bound n = true := by
  cases bound with
  | none => rfl
  | some most => exact decide_eq_true (le.trans (of_decide_eq_true h))

theorem Limits.span_le_span (limits : Limits) (negative : Bool) {n m : Nat} (le : n ≤ m) :
    limits.span negative n ≤ limits.span negative m :=
  Nat.add_le_add_right le _

/-- A run of digits is read if each digit is taken, whatever comes after it in the run. -/
theorem feed_run (ok : Numeral → List Char → Prop) (after : Numeral → List Char → Numeral)
    (stays : ∀ n, ok n [] → after n [] = n)
    (goes : ∀ n d ds, d.isDigit = true → ok n (d :: ds) →
      ∃ n', n.push? limits d = some n' ∧ ok n' ds ∧ after n' ds = after n (d :: ds))
    {ds : List Char} (digits : Decimal.AllDigits ds) (rest : List Char) {n : Numeral}
    (h : ok n ds) :
    feed (step limits) ⟨frames, .number n⟩ (ds ++ rest) =
      feed (step limits) ⟨frames, .number (after n ds)⟩ rest := by
  induction ds generalizing n with
  | nil => rw [stays n h, List.nil_append]
  | cons d ds ih =>
    obtain ⟨n', next, h', same⟩ := goes n d ds (digits d List.mem_cons_self) h
    rw [List.cons_append, feed_push next, ih (fun c member => digits c (.tail d member)) h', same]

def Numeral.wholeRun (n : Numeral) (ds : List Char) : Numeral :=
  { n with
    part := .whole, digits := Nat.ofDigitChars 10 ds n.digits, width := n.width + ds.length }

def Numeral.placesRun (n : Numeral) (ds : List Char) : Numeral :=
  { n with
    part := .fraction, digits := Nat.ofDigitChars 10 ds n.digits, places := n.places + ds.length }

def Numeral.exponentRun (n : Numeral) (ds : List Char) : Numeral :=
  { n with part := .exponent, exponentDigits := Nat.ofDigitChars 10 ds n.exponentDigits }

theorem feed_wholeRun {ds : List Char} (digits : Decimal.AllDigits ds) (rest : List Char)
    {n : Numeral} (part : n.part = .whole)
    (width : isWithin limits.wholeDigits (limits.span n.negative (n.width + ds.length)) = true) :
    feed (step limits) ⟨frames, .number n⟩ (ds ++ rest) =
      feed (step limits) ⟨frames, .number (n.wholeRun ds)⟩ rest := by
  refine feed_run
    (fun n ds => n.part = .whole ∧
      isWithin limits.wholeDigits (limits.span n.negative (n.width + ds.length)) = true)
    Numeral.wholeRun ?_ ?_ digits rest ⟨part, width⟩
  · rintro ⟨⟩ ⟨rfl, _⟩
    rfl
  · rintro n d ds isDigit ⟨part, width⟩
    have sum : n.width + (d :: ds).length = n.width + 1 + ds.length := by
      rw [List.length_cons]
      omega
    rw [sum] at width
    refine ⟨n.pushWhole (d.toNat - '0'.toNat) .whole, ?_, ⟨rfl, width⟩, ?_⟩
    · unfold Numeral.push?
      rw [part, digit?_of_isDigit isDigit]
      exact if_pos (isWithin_of_le width (limits.span_le_span _ (Nat.le_add_right _ _)))
    · unfold Numeral.wholeRun
      rw [Nat.ofDigitChars_cons, sum]
      rfl

theorem feed_placesRun {ds : List Char} (digits : Decimal.AllDigits ds) (rest : List Char)
    {n : Numeral} (part : n.part = .fraction) :
    feed (step limits) ⟨frames, .number n⟩ (ds ++ rest) =
      feed (step limits) ⟨frames, .number (n.placesRun ds)⟩ rest := by
  refine feed_run (fun n _ => n.part = .fraction) Numeral.placesRun ?_ ?_ digits rest part
  · rintro ⟨⟩ rfl
    rfl
  · intro n d ds isDigit part
    refine ⟨n.pushFraction (d.toNat - '0'.toNat), ?_, rfl, ?_⟩
    · unfold Numeral.push?
      rw [part, digit?_of_isDigit isDigit]
    · unfold Numeral.placesRun
      rw [Nat.ofDigitChars_cons, List.length_cons, Nat.add_comm ds.length, ← Nat.add_assoc]
      rfl

theorem feed_exponentRun {ds : List Char} (digits : Decimal.AllDigits ds) (rest : List Char)
    {n : Numeral} (part : n.part = .exponent) :
    feed (step limits) ⟨frames, .number n⟩ (ds ++ rest) =
      feed (step limits) ⟨frames, .number (n.exponentRun ds)⟩ rest := by
  refine feed_run (fun n _ => n.part = .exponent) Numeral.exponentRun ?_ ?_ digits rest part
  · rintro ⟨⟩ rfl
    rfl
  · intro n d ds isDigit part
    refine ⟨n.pushExponent (d.toNat - '0'.toNat), ?_, rfl, ?_⟩
    · unfold Numeral.push?
      rw [part, digit?_of_isDigit isDigit]
    · unfold Numeral.exponentRun
      rw [Nat.ofDigitChars_cons]
      rfl

def Numeral.ofWhole (negative : Bool) (ds : List Char) : Numeral :=
  ⟨negative, if ds = ['0'] then .leadingZero else .whole, Nat.ofDigitChars 10 ds 0, 0, false, 0,
    ds.length⟩

theorem feed_ofWhole {negative : Bool} {d : Char} {ds : List Char}
    (h : Whole limits negative (d :: ds)) (rest : List Char) :
    feed (step limits) ⟨frames, .number (Numeral.ofWhole negative [d])⟩ (ds ++ rest) =
      feed (step limits) ⟨frames, .number (Numeral.ofWhole negative (d :: ds))⟩ rest := by
  by_cases zero : d = '0'
  · subst zero
    cases h.leading rfl
    rfl
  · have other : ∀ ds, (d :: ds) ≠ ['0'] := fun ds same => zero (List.cons.inj same).1
    have part : (Numeral.ofWhole negative [d]).part = .whole := if_neg (other [])
    have width := h.width
    rw [List.length_cons, Nat.add_comm] at width
    have same : Numeral.ofWhole negative (d :: ds) =
        (Numeral.ofWhole negative [d]).wholeRun ds := by
      rw [Numeral.ofWhole, if_neg (other ds), Nat.ofDigitChars_cons, List.length_cons,
        Nat.add_comm ds.length]
      rfl
    rw [feed_wholeRun (fun c member => h.digits c (.tail d member)) rest part width, same]

def Numeral.withPlaces (n : Numeral) (ds : List Char) : Numeral :=
  if ds = [] then n else n.placesRun ds

theorem feed_fraction {cs places rest : List Char} (h : Fraction cs places rest) {n : Numeral}
    (part : n.part = .leadingZero ∨ n.part = .whole) :
    feed (step limits) ⟨frames, .number n⟩ cs =
      feed (step limits) ⟨frames, .number (n.withPlaces places)⟩ rest := by
  cases h with
  | none => rfl
  | places digits nonempty =>
    obtain ⟨d, ds, rfl⟩ := List.exists_cons_of_ne_nil nonempty
    have point : n.push? limits '.' = some { n with part := .point } := by
      unfold Numeral.push? Numeral.mark?
      rcases part with part | part
      · rw [part]
        rfl
      · rw [part]
        rfl
    have first : Numeral.push? limits { n with part := .point } d =
        some (n.pushFraction (d.toNat - '0'.toNat)) := by
      unfold Numeral.push?
      rw [digit?_of_isDigit (digits d List.mem_cons_self)]
      rfl
    rw [feed_push point, List.cons_append, feed_push first,
      feed_placesRun (fun c member => digits c (.tail d member)) rest rfl, Numeral.withPlaces,
      if_neg nonempty]
    unfold Numeral.placesRun
    rw [Nat.ofDigitChars_cons, List.length_cons, Nat.add_comm ds.length, ← Nat.add_assoc]
    rfl

/-- Where a number may end and a fraction or an exponent may follow. -/
def Numeral.IsOpen (n : Numeral) : Prop :=
  n.exponentNegative = false ∧ n.exponentDigits = 0 ∧
    (n.part = .leadingZero ∨ n.part = .whole ∨ n.part = .fraction)

theorem feed_exponentStart {n : Numeral}
    (part : n.part = .exponentMark ∨ n.part = .exponentSign) {ds : List Char}
    (digits : Decimal.AllDigits ds) (nonempty : ds ≠ []) (rest : List Char) :
    feed (step limits) ⟨frames, .number n⟩ (ds ++ rest) =
      feed (step limits) ⟨frames, .number (n.exponentRun ds)⟩ rest := by
  obtain ⟨d, ds, rfl⟩ := List.exists_cons_of_ne_nil nonempty
  have first : n.push? limits d = some (n.pushExponent (d.toNat - '0'.toNat)) := by
    unfold Numeral.push?
    rw [digit?_of_isDigit (digits d List.mem_cons_self)]
    rcases part with part | part
    · rw [part]
    · rw [part]
  rw [List.cons_append, feed_push first,
    feed_exponentRun (fun c member => digits c (.tail d member)) rest rfl]
  unfold Numeral.exponentRun
  rw [Nat.ofDigitChars_cons]
  rfl

theorem feed_exponent {cs rest : List Char} {e : ℤ} (h : Exponent cs e rest) {n : Numeral}
    (isOpen : n.IsOpen) (more : cs ≠ rest ∨ n.part = .fraction) :
    ∃ n', feed (step limits) ⟨frames, .number n⟩ cs = feed (step limits) ⟨frames, .number n'⟩ rest ∧
      n'.value? limits = some (.float (Decimal.toFloat ⟨n.negative, n.digits, e - n.places⟩)) := by
  obtain ⟨negative, part, value, places, under, exponent, width⟩ := n
  obtain ⟨plus, zero, isOpen⟩ := isOpen
  cases plus
  cases zero
  have mark : ∀ c, c = 'e' ∨ c = 'E' →
      Numeral.push? limits ⟨negative, part, value, places, false, 0, width⟩ c =
        some ⟨negative, .exponentMark, value, places, false, 0, width⟩ := by
    intro c isMark
    have noDigit : digit? c = none := by
      rcases isMark with rfl | rfl <;> rfl
    unfold Numeral.push? Numeral.mark?
    rcases isOpen with part | part | part <;> cases part <;> rw [noDigit] <;> exact if_pos isMark
  cases h with
  | none =>
    rcases more with absurdly | fraction
    · exact absurd rfl absurdly
    · cases fraction
      exact ⟨_, rfl, rfl⟩
  | unsigned isMark digits nonempty =>
    exact ⟨_, (feed_push (mark _ isMark) _).trans
      (feed_exponentStart (.inl rfl) digits nonempty rest), rfl⟩
  | plus isMark digits nonempty =>
    have sign : Numeral.push? limits ⟨negative, .exponentMark, value, places, false, 0, width⟩ '+' =
        some ⟨negative, .exponentSign, value, places, false, 0, width⟩ := rfl
    exact ⟨_, (feed_push (mark _ isMark) _).trans ((feed_push sign _).trans
      (feed_exponentStart (.inr rfl) digits nonempty rest)), rfl⟩
  | minus isMark digits nonempty =>
    have sign : Numeral.push? limits ⟨negative, .exponentMark, value, places, false, 0, width⟩ '-' =
        some ⟨negative, .exponentSign, value, places, true, 0, width⟩ := rfl
    exact ⟨_, (feed_push (mark _ isMark) _).trans ((feed_push sign _).trans
      (feed_exponentStart (.inr rfl) digits nonempty rest)), rfl⟩

/-! ### Numbers -/

theorem withPlaces_ofWhole (negative : Bool) (ds places : List Char) :
    ((Numeral.ofWhole negative ds).withPlaces places).negative = negative ∧
      ((Numeral.ofWhole negative ds).withPlaces places).digits =
        Nat.ofDigitChars 10 (ds ++ places) 0 ∧
      ((Numeral.ofWhole negative ds).withPlaces places).places = places.length := by
  unfold Numeral.withPlaces
  split
  · rename_i none
    rw [none, List.append_nil]
    exact ⟨rfl, rfl, rfl⟩
  · refine ⟨rfl, ?_, Nat.zero_add _⟩
    rw [Nat.ofDigitChars_append]
    rfl

theorem part_ofWhole (negative : Bool) (ds : List Char) :
    (Numeral.ofWhole negative ds).part = .leadingZero ∨
      (Numeral.ofWhole negative ds).part = .whole := by
  unfold Numeral.ofWhole
  dsimp only
  split
  · exact .inl rfl
  · exact .inr rfl

theorem isOpen_withPlaces (negative : Bool) (ds places : List Char) :
    ((Numeral.ofWhole negative ds).withPlaces places).IsOpen := by
  unfold Numeral.withPlaces
  split
  · exact ⟨rfl, rfl, (part_ofWhole negative ds).imp_right .inl⟩
  · exact ⟨rfl, rfl, .inr (.inr rfl)⟩

/-- From the first digit on a number is read up to a numeral that has its value. -/
theorem feed_magnitude {negative : Bool} {cs rest : List Char} {v : Json}
    (h : Magnitude limits negative cs v rest) (frames : List Frame) :
    ∃ d cs' n, cs = d :: cs' ∧ d.isDigit = true ∧
      feed (step limits) ⟨frames, .number (Numeral.ofWhole negative [d])⟩ cs' =
        feed (step limits) ⟨frames, .number n⟩ rest ∧
      n.value? limits = some v := by
  cases h with
  | integer whole width =>
    rename_i ds
    obtain ⟨d, ds, rfl⟩ := List.exists_cons_of_ne_nil whole.nonempty
    refine ⟨d, ds ++ rest, _, rfl, whole.digits d List.mem_cons_self,
      feed_ofWhole whole rest, ?_⟩
    unfold Numeral.value?
    rcases part_ofWhole negative (d :: ds) with part | part <;> rw [part] <;> exact if_pos width
  | decimal whole fraction exponent more =>
    rename_i ds cs places mid e
    obtain ⟨negative', digits', places'⟩ := withPlaces_ofWhole negative ds places
    -- Without an exponent there is a fraction.
    have ends : mid ≠ rest ∨
        ((Numeral.ofWhole negative ds).withPlaces places).part = .fraction := by
      cases fraction with
      | none => exact .inl more
      | places _ nonempty =>
        right
        rw [Numeral.withPlaces, if_neg nonempty]
        rfl
    obtain ⟨n, read, value⟩ := feed_exponent exponent (isOpen_withPlaces negative ds places) ends
    rw [negative', digits', places'] at value
    obtain ⟨d, ds, rfl⟩ := List.exists_cons_of_ne_nil whole.nonempty
    refine ⟨d, ds ++ cs, n, rfl, whole.digits d List.mem_cons_self, ?_, value⟩
    rw [feed_ofWhole whole cs, feed_fraction fraction (part_ofWhole negative _), read]

theorem ofWhole_digit {d : Char} (isDigit : d.isDigit = true) (negative : Bool) :
    Numeral.ofWhole negative [d] =
      ⟨negative, if d.toNat - '0'.toNat = 0 then .leadingZero else .whole, d.toNat - '0'.toNat, 0,
        false, 0, 1⟩ := by
  have zero : [d] = ['0'] ↔ d.toNat - '0'.toNat = 0 := by
    constructor
    · intro same
      cases same
      rfl
    · intro zero
      obtain ⟨least, _⟩ := Bool.and_eq_true_iff.mp isDigit
      have least : '0'.toNat ≤ d.toNat := of_decide_eq_true least
      rw [show d = '0' from Char.toNat_inj.mp (by omega)]
  unfold Numeral.ofWhole
  rw [Nat.ofDigitChars_cons, Nat.ofDigitChars_nil, Nat.mul_zero, Nat.zero_add]
  congr 1
  exact if_congr zero rfl rfl

/-- A number is read from its first character on, up to a numeral that has its value. -/
theorem feed_number {cs rest : List Char} {v : Json} (h : Grammar.Number limits cs v rest)
    (frames : List Frame) :
    ∃ c cs' start n, cs = c :: cs' ∧ Numeral.start? c = some start ∧
      feed (step limits) ⟨frames, .number start⟩ cs' =
        feed (step limits) ⟨frames, .number n⟩ rest ∧
      n.value? limits = some v := by
  cases h with
  | plain magnitude =>
    obtain ⟨d, cs', n, same, isDigit, read, value⟩ := feed_magnitude magnitude frames
    refine ⟨d, cs', _, n, same, ?_, read, value⟩
    have noSign : d ≠ '-' := by
      rintro rfl
      cases isDigit
    rw [Numeral.start?, if_neg noSign, digit?_of_isDigit isDigit, ofWhole_digit isDigit]
    rfl
  | negative magnitude =>
    obtain ⟨d, cs', n, rfl, isDigit, read, value⟩ := feed_magnitude magnitude frames
    have first : Numeral.push? limits ⟨true, .minus, 0, 0, false, 0, 0⟩ d =
        some (Numeral.ofWhole true [d]) := by
      unfold Numeral.push? Numeral.pushWhole
      rw [digit?_of_isDigit isDigit, ofWhole_digit isDigit]
      dsimp only
      rw [Nat.mul_zero, Nat.zero_add]
    exact ⟨'-', _, _, n, rfl, rfl, (feed_push first cs').trans read, value⟩

end Machine

end RayScene.Json
