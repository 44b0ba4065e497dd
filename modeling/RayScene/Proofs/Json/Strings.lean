import RayScene.Proofs.Json.Numerals

/-!
# Reading strings, one character at a time

After its opening quote the machine reads every string of the grammar up to the closing quote, and
takes it for the code points that were spelled (`Machine.feed_characters`).
-/

namespace RayScene.Json.Machine

open Grammar

variable {limits : Limits} {frames : List Frame} {role : Role}

theorem step_pushText {text : List CodePoint} {escape : Escape} {c : Char}
    (inside : closedText? limits text escape = none ∨ c ≠ '"') :
    step limits ⟨frames, .string role text escape⟩ c =
      (pushText? limits text escape c).map fun (text, escape) =>
        ⟨frames, .string role text escape⟩ := by
  unfold step
  dsimp only
  rcases inside with still | other
  · rw [still]
  · rw [decide_eq_false other]
    cases closedText? limits text escape <;> rfl

theorem step_closingQuote {text text' : List CodePoint} {escape : Escape}
    (h : closedText? limits text escape = some text') :
    step limits ⟨frames, .string role text escape⟩ '"' = some (completeText frames role text') := by
  unfold step
  dsimp only
  rw [h]
  rfl

theorem feed_pushText {text text' : List CodePoint} {escape escape' : Escape} {c : Char}
    (inside : closedText? limits text escape = none ∨ c ≠ '"')
    (h : pushText? limits text escape c = some (text', escape')) (cs : List Char) :
    feed (step limits) ⟨frames, .string role text escape⟩ (c :: cs) =
      feed (step limits) ⟨frames, .string role text' escape'⟩ cs := by
  refine feed_cons ?_ cs
  rw [step_pushText inside, h]
  rfl

theorem feed_closingQuote {text text' : List CodePoint} {escape : Escape}
    (h : closedText? limits text escape = some text') (cs : List Char) :
    feed (step limits) ⟨frames, .string role text escape⟩ ('"' :: cs) =
      feed (step limits) (completeText frames role text') cs :=
  feed_cons (step_closingQuote h) cs

theorem simpleEscape?_of_mem {c e : Char} (h : (c, e) ∈ escapes) : simpleEscape? c = some e := by
  simp only [escapes, List.mem_cons, Prod.mk.injEq, List.not_mem_nil, or_false] at h
  rcases h with ⟨rfl, rfl⟩ | ⟨rfl, rfl⟩ | ⟨rfl, rfl⟩ | ⟨rfl, rfl⟩ | ⟨rfl, rfl⟩ | ⟨rfl, rfl⟩ |
    ⟨rfl, rfl⟩ | ⟨rfl, rfl⟩ <;> rfl

theorem pushEscaped?_of_mem {c e : Char} (h : (c, e) ∈ escapes) (text : List CodePoint) :
    pushEscaped? text c = some (.char e :: text, .outside) := by
  rw [pushEscaped?, if_neg (ne_of_mem_escapes h), simpleEscape?_of_mem h]
  rfl

/-- Four digits are counted and collected by `place`, and the last one has an effect of its own. -/
theorem feed_digits (place : Nat → Nat → Escape) {text text' : List CodePoint}
    {start escape' : Escape} {unit : Nat} {cs rest : List Char} (h : Unit cs unit rest)
    (inside : ∀ n value, closedText? limits text (place n value) = none)
    (outside : closedText? limits text start = none)
    (starts : pushText? limits text start 'u' = some (text, place 0 0))
    (goes : ∀ {c w} n value, Text.hexValue? c = some w → n < 3 →
      pushText? limits text (place n value) c = some (text, place (n + 1) (16 * value + w)))
    (ends : ∀ {c w} value, Text.hexValue? c = some w → 16 * value + w = unit →
      pushText? limits text (place 3 value) c = some (text', escape')) :
    feed (step limits) ⟨frames, .string role text start⟩ cs =
      feed (step limits) ⟨frames, .string role text' escape'⟩ rest := by
  cases h with
  | digits rest ha hb hc hd =>
    rename_i a b c d i j k l
    have first : 16 * 0 + i = i := Nat.zero_add i
    calc feed (step limits) ⟨frames, .string role text start⟩ ('u' :: a :: b :: c :: d :: rest)
        = feed (step limits) ⟨frames, .string role text (place 0 0)⟩ (a :: b :: c :: d :: rest) :=
          feed_pushText (.inl outside) starts _
      _ = feed (step limits) ⟨frames, .string role text (place 1 i)⟩ (b :: c :: d :: rest) :=
          feed_pushText (.inl (inside _ _)) (first ▸ goes 0 0 ha (by decide)) _
      _ = feed (step limits) ⟨frames, .string role text (place 2 (16 * i + j))⟩ (c :: d :: rest) :=
          feed_pushText (.inl (inside _ _)) (goes 1 _ hb (by decide)) _
      _ = feed (step limits) ⟨frames, .string role text (place 3 (16 * (16 * i + j) + k))⟩
            (d :: rest) := feed_pushText (.inl (inside _ _)) (goes 2 _ hc (by decide)) _
      _ = feed (step limits) ⟨frames, .string role text' escape'⟩ rest :=
          feed_pushText (.inl (inside _ _)) (ends _ hd rfl) _

theorem feed_unit {text text' : List CodePoint} {escape' : Escape} {unit : Nat}
    {cs rest : List Char} (h : Unit cs unit rest)
    (pushed : pushUnit? limits text unit = some (text', escape')) :
    feed (step limits) ⟨frames, .string role text .backslash⟩ cs =
      feed (step limits) ⟨frames, .string role text' escape'⟩ rest := by
  refine feed_digits .unit h (fun _ _ => rfl) rfl rfl ?_ ?_
  · intro c w n value hex less
    rw [pushText?, hex]
    exact if_pos less
  · intro c w value hex same
    rw [pushText?, hex]
    dsimp only
    rw [same]
    exact pushed

/-- A unit after a leading one makes up a character with it, or lets it stand by itself. -/
theorem feed_secondUnit {text text' : List CodePoint} {escape' : Escape} {first unit : Nat}
    {cs rest : List Char} (h : Unit cs unit rest)
    (pushed : (if Surrogate.isTrailing unit then
        some (.char (Surrogate.join first unit) :: text, .outside)
      else if limits.surrogates then pushUnit? limits (.surrogate first :: text) unit
      else none) = some (text', escape')) :
    feed (step limits) ⟨frames, .string role text (.leading first)⟩ ('\\' :: cs) =
      feed (step limits) ⟨frames, .string role text' escape'⟩ rest := by
  have mark : pushText? limits text (.leading first) '\\' =
      some (text, .leadingBackslash first) := rfl
  rw [feed_pushText (.inr (by decide)) mark]
  refine feed_digits (.trailing first) h (fun _ _ => rfl) rfl rfl ?_ ?_
  · intro c w n value hex less
    rw [pushText?, hex]
    exact if_pos less
  · intro c w value hex same
    rw [pushText?, hex]
    dsimp only
    rw [same]
    exact pushed

theorem feed_backslash (text : List CodePoint) (cs : List Char) :
    feed (step limits) ⟨frames, .string role text .outside⟩ ('\\' :: cs) =
      feed (step limits) ⟨frames, .string role text .backslash⟩ cs :=
  feed_pushText (.inr (by decide)) rfl cs

theorem pushPlain?_eq {c : Char} (noEscape : c ≠ '\\') (printed : 0x20 ≤ c.toNat)
    (text : List CodePoint) : pushPlain? text c = some (.char c :: text, .outside) := by
  rw [pushPlain?, if_neg noEscape, if_neg (Nat.not_lt.mpr printed)]

theorem feed_plain {c : Char} (noQuote : c ≠ '"') (noEscape : c ≠ '\\') (printed : 0x20 ≤ c.toNat)
    (text : List CodePoint) (cs : List Char) :
    feed (step limits) ⟨frames, .string role text .outside⟩ (c :: cs) =
      feed (step limits) ⟨frames, .string role (.char c :: text) .outside⟩ cs := by
  have pushed : pushText? limits text .outside c = some (.char c :: text, .outside) :=
    pushPlain?_eq noEscape printed text
  exact feed_pushText (.inr noQuote) pushed cs

theorem feed_escape {c e : Char} (h : (c, e) ∈ escapes) (text : List CodePoint) (cs : List Char) :
    feed (step limits) ⟨frames, .string role text .outside⟩ ('\\' :: c :: cs) =
      feed (step limits) ⟨frames, .string role (.char e :: text) .outside⟩ cs := by
  have pushed : pushText? limits text .backslash c = some (.char e :: text, .outside) :=
    pushEscaped?_of_mem h text
  rw [feed_backslash, feed_pushText (.inl rfl) pushed]

theorem not_isLeading_of_isTrailing {unit : Nat} (h : Surrogate.isTrailing unit = true) :
    Surrogate.isLeading unit = false := by
  obtain ⟨least, _⟩ := Bool.and_eq_true_iff.mp h
  have least : 0xDC00 ≤ unit := of_decide_eq_true least
  rw [Surrogate.isLeading, decide_eq_false (Nat.not_lt.mpr least), Bool.and_false]

theorem pushUnit?_char {unit : Nat} (notLeading : Surrogate.isLeading unit = false)
    (notTrailing : Surrogate.isTrailing unit = false) (text : List CodePoint) :
    pushUnit? limits text unit = some (.char (Char.ofNat unit) :: text, .outside) := by
  rw [pushUnit?, notLeading, notTrailing]
  rfl

theorem pushUnit?_trailing (surrogates : limits.surrogates = true) {unit : Nat}
    (isTrailing : Surrogate.isTrailing unit = true) (text : List CodePoint) :
    pushUnit? limits text unit = some (.surrogate unit :: text, .outside) := by
  rw [pushUnit?, not_isLeading_of_isTrailing isTrailing, isTrailing, surrogates]
  rfl

theorem pushUnit?_other (limits : Limits) {unit : Nat}
    (notTrailing : Surrogate.isTrailing unit = false) (text : List CodePoint) :
    ∃ text' escape', pushUnit? limits text unit = some (text', escape') := by
  unfold pushUnit?
  rw [notTrailing]
  split
  · exact ⟨_, _, rfl⟩
  · exact ⟨_, _, rfl⟩

/-- A leading unit that none follows stands by itself. -/
theorem feed_leading (surrogates : limits.surrogates = true) {unit : Nat} {cs rest : List Char}
    {ps : List CodePoint} (alone : NoTrailing cs) (h : Characters limits cs ps rest)
    (text : List CodePoint) :
    feed (step limits) ⟨frames, .string role text (.leading unit)⟩ cs =
      feed (step limits) ⟨frames, .string role (.surrogate unit :: text) .outside⟩ cs := by
  have second : ∀ {cs rest : List Char} {next : Nat}, Unit cs next rest →
      Surrogate.isTrailing next = false →
      feed (step limits) ⟨frames, .string role text (.leading unit)⟩ ('\\' :: cs) =
        feed (step limits) ⟨frames, .string role (.surrogate unit :: text) .outside⟩
          ('\\' :: cs) := by
    intro cs rest next isUnit notTrailing
    obtain ⟨text', escape', pushed⟩ :=
      pushUnit?_other limits notTrailing (.surrogate unit :: text)
    rw [feed_backslash, feed_unit isUnit pushed]
    refine feed_secondUnit isUnit ?_
    rw [if_neg (by rw [notTrailing]; decide), if_pos surrogates, pushed]
  have apart : ∀ {cs rest : List Char} {next : Nat}, NoTrailing ('\\' :: cs) → Unit cs next rest →
      Surrogate.isTrailing next = false :=
    fun alone isUnit => alone _ _ _ rfl isUnit
  cases h with
  | close rest =>
    have closed : closedText? limits text (.leading unit) = some (.surrogate unit :: text) :=
      if_pos surrogates
    exact (feed_closingQuote closed rest).trans (feed_closingQuote rfl rest).symm
  | plain noQuote noEscape printed _ =>
    have pushed : pushText? limits text (.leading unit) _ =
        some (.char _ :: .surrogate unit :: text, .outside) :=
      (if_neg noEscape).trans ((if_pos surrogates).trans (pushPlain?_eq noEscape printed _))
    rw [feed_plain noQuote noEscape printed, feed_pushText (.inr noQuote) pushed]
  | escape isEscape _ =>
    have first : pushText? limits text (.leading unit) '\\' = some (text, .leadingBackslash unit) :=
      rfl
    have pushed : pushText? limits text (.leadingBackslash unit) _ =
        some (.char _ :: .surrogate unit :: text, .outside) :=
      (if_neg (ne_of_mem_escapes isEscape)).trans
        ((if_pos surrogates).trans (pushEscaped?_of_mem isEscape _))
    rw [feed_escape isEscape, feed_pushText (.inr (by decide)) first,
      feed_pushText (.inl rfl) pushed]
  | unit isUnit _ notTrailing _ => exact second isUnit notTrailing
  | pair isUnit _ _ _ _ => exact second isUnit (apart alone isUnit)
  | trailing _ isUnit isTrailing _ =>
    rw [apart alone isUnit] at isTrailing
    cases isTrailing
  | leading _ isUnit _ _ _ => exact second isUnit (apart alone isUnit)

theorem feed_characters {cs rest : List Char} {ps : List CodePoint}
    (h : Characters limits cs ps rest) (text : List CodePoint) :
    feed (step limits) ⟨frames, .string role text .outside⟩ cs =
      feed (step limits) (completeText frames role (ps.reverse ++ text)) rest := by
  induction h generalizing text with
  | close rest => exact feed_closingQuote rfl rest
  | plain noQuote noEscape printed _ ih =>
    rw [feed_plain noQuote noEscape printed, ih, List.reverse_cons, List.append_assoc]
    rfl
  | escape isEscape _ ih =>
    rw [feed_escape isEscape, ih, List.reverse_cons, List.append_assoc]
    rfl
  | unit isUnit notLeading notTrailing _ ih =>
    rw [feed_backslash, feed_unit isUnit (pushUnit?_char notLeading notTrailing text), ih,
      List.reverse_cons, List.append_assoc]
    rfl
  | pair isUnit isLeading isUnit' isTrailing _ ih =>
    rw [feed_backslash, feed_unit isUnit (if_pos isLeading), feed_secondUnit isUnit'
      (if_pos isTrailing), ih, List.reverse_cons, List.append_assoc]
    rfl
  | trailing surrogates isUnit isTrailing _ ih =>
    rw [feed_backslash, feed_unit isUnit (pushUnit?_trailing surrogates isTrailing text), ih,
      List.reverse_cons, List.append_assoc]
    rfl
  | leading surrogates isUnit isLeading alone characters ih =>
    rw [feed_backslash, feed_unit isUnit (if_pos isLeading),
      feed_leading surrogates alone characters, ih, List.reverse_cons, List.append_assoc]
    rfl

end RayScene.Json.Machine
