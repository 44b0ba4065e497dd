import RayScene.Json.Writer
import RayScene.Proofs.Json.Grammar
import RayScene.Proofs.Json.Keys

/-!
# Written values are spelled

The text of a value, one item per line, spells the value (`spells_indented`), if the value is within
the limits, its floats are finite and no key comes twice in an object.
-/

namespace RayScene.Json

open Grammar
open Machine (Limits isWithin)

variable {limits : Limits}

theorem head?_toDigits {n : Nat} (positive : 0 < n) : (Nat.toDigits 10 n).head? ≠ some '0' := by
  induction n using Nat.strong_induction_on with
  | _ n ih =>
    rw [Nat.toDigits_eq_if (by decide)]
    split
    · rename_i small
      have digit : ∀ k < 10, 0 < k → [Nat.digitChar k].head? ≠ some '0' := by decide
      exact digit n small positive
    · rename_i large
      rw [List.head?_append_of_ne_nil _ Nat.toDigits_ne_nil]
      exact ih (n / 10) (by omega) (by omega)

variable {negative : Bool}

theorem whole_of_head? {ds : List Char} (digits : Decimal.AllDigits ds) (nonempty : ds ≠ [])
    (head : ds.head? ≠ some '0')
    (width : isWithin limits.wholeDigits (limits.span negative ds.length) = true) :
    Whole limits negative ds :=
  ⟨digits, nonempty, fun zero => absurd zero head, width⟩

theorem whole_zero (width : isWithin limits.wholeDigits (limits.span negative 1) = true) :
    Whole limits negative ['0'] :=
  ⟨Decimal.allDigits_zero, List.cons_ne_nil _ _, fun _ => rfl, width⟩

theorem whole_toDigits {n : Nat}
    (width : isWithin limits.wholeDigits (limits.span negative (Nat.toDigits 10 n).length) = true) :
    Whole limits negative (Nat.toDigits 10 n) := by
  rcases Nat.eq_zero_or_pos n with rfl | positive
  · exact whole_zero width
  · exact whole_of_head? (Decimal.allDigits_toDigits n) Nat.toDigits_ne_nil
      (head?_toDigits positive) width

/-- What the digits and the sign of an integer count for. -/
def intSpan (limits : Limits) (n : ℤ) : Nat :=
  limits.span (decide (n < 0)) (Nat.toDigits 10 n.natAbs).length

theorem number_intChars {n : ℤ} (wholeDigits : isWithin limits.wholeDigits (intSpan limits n) = true)
    (integerDigits : isWithin limits.integerDigits (intSpan limits n) = true) (rest : List Char) :
    Grammar.Number limits (intChars n ++ rest) (.int n) rest := by
  have magnitude : Magnitude limits (decide (n < 0)) (Nat.toDigits 10 n.natAbs ++ rest) _ rest :=
    .integer (whole_toDigits wholeDigits) integerDigits
  rw [Nat.ofDigitChars_ten_toDigits] at magnitude
  unfold intChars
  split
  · rename_i below
    rw [decide_eq_true below, if_pos rfl, show -(n.natAbs : ℤ) = n by omega] at magnitude
    exact .negative magnitude
  · rename_i notBelow
    rw [decide_eq_false notBelow, if_neg (by decide), show (n.natAbs : ℤ) = n by omega]
      at magnitude
    exact .plain magnitude

theorem exponent_exponentText (style : FloatStyle) (e : ℤ) (rest : List Char) :
    Exponent ('e' :: (style.exponentText e ++ rest)) e rest := by
  have digits := Decimal.allDigits_append
    (Decimal.allDigits_zeros (style.exponentWidth - (Nat.toDigits 10 e.natAbs).length))
    (Decimal.allDigits_toDigits e.natAbs)
  have nonempty : FloatStyle.zeros (style.exponentWidth - (Nat.toDigits 10 e.natAbs).length) ++
      Nat.toDigits 10 e.natAbs ≠ [] :=
    fun empty => Nat.toDigits_ne_nil (List.append_eq_nil_iff.mp empty).2
  have value : Nat.ofDigitChars 10
      (FloatStyle.zeros (style.exponentWidth - (Nat.toDigits 10 e.natAbs).length) ++
        Nat.toDigits 10 e.natAbs) 0 = e.natAbs := by
    rw [Nat.ofDigitChars_append, FloatStyle.zeros, Nat.ofDigitChars_replicate_zero, Nat.mul_zero,
      Nat.ofDigitChars_ten_toDigits]
  unfold FloatStyle.exponentText
  dsimp only
  split
  · have spelled : Exponent _ _ rest := .minus (.inl rfl) digits nonempty
    rw [value, show -(e.natAbs : ℤ) = e by omega] at spelled
    exact spelled
  · have spelled : Exponent _ _ rest := .plus (.inl rfl) digits nonempty
    rw [value, show (e.natAbs : ℤ) = e by omega] at spelled
    exact spelled

/-- The text of an exponent, or no text. -/
structure IsExponent (text : List Char) (e : ℤ) : Prop where
  stop : text.takeWhile Char.isDigit = []
  read : Decimal.exponent? text = some e
  spelled : ∀ rest, Exponent (text ++ rest) e rest

theorem isExponent_nil : IsExponent [] 0 := ⟨rfl, rfl, .none⟩

theorem isExponent_text (style : FloatStyle) (e : ℤ) :
    IsExponent ('e' :: style.exponentText e) e :=
  ⟨rfl, Decimal.exponent?_text style e, exponent_exponentText style e⟩

def IsMagnitude (limits : Limits) (negative : Bool) (text : List Char) : Prop :=
  ∀ (d : Nat) (e : ℤ), Decimal.unsigned? text = some (d, e) → ∀ rest,
    Magnitude limits negative (text ++ rest) (.float (Decimal.toFloat ⟨negative, d, e⟩)) rest

theorem isMagnitude_point {whole places text : List Char} {e : ℤ}
    (isWhole : Whole limits negative whole) (digits : Decimal.AllDigits places)
    (nonempty : places ≠ []) (exponent : IsExponent text e) :
    IsMagnitude limits negative (whole ++ '.' :: (places ++ text)) := by
  intro d e' h rest
  have read := Decimal.unsigned?_point whole places text isWhole.digits digits isWhole.nonempty
    exponent.stop exponent.read
  cases h.symm.trans read
  rw [List.append_assoc, List.cons_append, List.append_assoc]
  refine .decimal isWhole (.places digits nonempty) (exponent.spelled rest) fun same => ?_
  have length := congrArg List.length same
  simp only [List.length_cons, List.length_append] at length
  omega

theorem isMagnitude_places {whole places : List Char} (isWhole : Whole limits negative whole)
    (digits : Decimal.AllDigits places) (nonempty : places ≠ []) :
    IsMagnitude limits negative (whole ++ '.' :: places) := by
  have spelled := isMagnitude_point isWhole digits nonempty isExponent_nil
  rwa [List.append_nil] at spelled

theorem isMagnitude_plain {whole text : List Char} {e : ℤ} (isWhole : Whole limits negative whole)
    (nonempty : text ≠ []) (noPoint : Decimal.fraction text = ([], text))
    (exponent : IsExponent text e) : IsMagnitude limits negative (whole ++ text) := by
  intro d e' h rest
  have read := Decimal.unsigned?_plain whole text isWhole.digits isWhole.nonempty noPoint
    exponent.stop exponent.read
  cases h.symm.trans read
  rw [List.append_assoc]
  have magnitude : Magnitude limits negative (whole ++ (text ++ rest)) _ rest :=
    .decimal isWhole (.none (text ++ rest)) (exponent.spelled rest) fun same =>
      nonempty (List.append_left_eq_self.mp same)
  rw [List.append_nil, List.length_nil, Nat.cast_zero, sub_zero] at magnitude
  exact magnitude

/-- Whole parts of so many digits are within the limits: as many as stored floats have. -/
def Roomy (limits : Limits) : Prop :=
  ∀ negative, ∀ width ≤ 16, isWithin limits.wholeDigits (limits.span negative width) = true

section Layouts

variable (roomy : Roomy limits) {ds : List Char} (digits : Decimal.AllDigits ds)
  (nonempty : ds ≠ []) (head : ds.head? ≠ some '0')

include roomy digits nonempty

theorem isMagnitude_small (zeros : Nat) :
    IsMagnitude limits negative ('0' :: '.' :: (FloatStyle.zeros zeros ++ ds)) :=
  isMagnitude_places (whole_zero (roomy negative 1 (by decide)))
    (Decimal.allDigits_append (Decimal.allDigits_zeros zeros) digits)
    fun empty => nonempty (List.append_eq_nil_iff.mp empty).2

include head

theorem isMagnitude_large {zeros : Nat} (few : ds.length + zeros ≤ 16) :
    IsMagnitude limits negative (ds ++ FloatStyle.zeros zeros ++ ['.', '0']) := by
  have isWhole : Whole limits negative (ds ++ FloatStyle.zeros zeros) := by
    refine whole_of_head? (Decimal.allDigits_append digits (Decimal.allDigits_zeros _))
      (fun empty => nonempty (List.append_eq_nil_iff.mp empty).1) ?_ (roomy negative _ ?_)
    · rw [List.head?_append_of_ne_nil _ nonempty]
      exact head
    · rwa [List.length_append, FloatStyle.zeros, List.length_replicate]
  exact isMagnitude_places isWhole Decimal.allDigits_zero (List.cons_ne_nil _ _)

theorem isMagnitude_between {whole : Nat} (positive : 0 < whole) (inside : whole < ds.length)
    (few : whole ≤ 16) :
    IsMagnitude limits negative (ds.take whole ++ '.' :: ds.drop whole) := by
  have isWhole : Whole limits negative (ds.take whole) := by
    refine whole_of_head? (fun c member => digits c (List.mem_of_mem_take member)) ?_ ?_
      (roomy negative _ ?_)
    · intro empty
      exact (List.take_eq_nil_iff.mp empty).elim positive.ne' nonempty
    · rw [List.head?_take, if_neg positive.ne']
      exact head
    · exact (List.length_take_le whole ds).trans few
  refine isMagnitude_places isWhole (fun c member => digits c (List.mem_of_mem_drop member)) ?_
  intro empty
  exact absurd (List.drop_eq_nil_iff.mp empty) (not_le.mpr inside)

theorem isMagnitude_positional {whole : ℤ} (few : whole ≤ 16) :
    IsMagnitude limits negative (FloatStyle.positional ds whole) := by
  unfold FloatStyle.positional
  split
  · exact isMagnitude_small roomy digits nonempty _
  split
  · exact isMagnitude_large roomy digits nonempty head (by omega)
  · exact isMagnitude_between roomy digits nonempty head (by omega) (by omega) (by omega)

theorem isMagnitude_scientific (style : FloatStyle) (e : ℤ) :
    IsMagnitude limits negative (style.scientific ds e) := by
  obtain ⟨c, others, rfl⟩ := List.exists_cons_of_ne_nil nonempty
  have isWhole : Whole limits negative [c] := by
    refine whole_of_head? (fun c' member => digits c' ?_) (List.cons_ne_nil _ _) head
      (roomy negative 1 (by decide))
    rw [List.mem_singleton.mp member]
    exact List.mem_cons_self
  have exponent := isExponent_text style e
  cases others with
  | nil => exact isMagnitude_plain isWhole (List.cons_ne_nil _ _) rfl exponent
  | cons c' others =>
    exact isMagnitude_point isWhole (fun d member => digits d (.tail c member))
      (List.cons_ne_nil c' others) exponent

end Layouts

theorem isMagnitude_unsigned (roomy : Roomy limits) (n : Nat) (place : ℤ) :
    IsMagnitude limits negative (FloatStyle.stored.unsigned n place) := by
  have digits := Decimal.allDigits_toDigits n
  have nonempty : Nat.toDigits 10 n ≠ [] := Nat.toDigits_ne_nil
  unfold FloatStyle.unsigned
  dsimp only
  split
  · exact isMagnitude_places (whole_zero (roomy negative 1 (by decide))) Decimal.allDigits_zero
      (List.cons_ne_nil _ _)
  rename_i positive
  have head := head?_toDigits (Nat.pos_of_ne_zero positive)
  split
  · rename_i positional
    exact isMagnitude_positional roomy digits nonempty head (Int.add_le_add_right positional.2 1)
  · exact isMagnitude_scientific roomy digits nonempty head _ _

theorem number_floatChars (roomy : Roomy limits) {x : Float} (finite : Double.isFinite x = true)
    (rest : List Char) :
    Grammar.Number limits (floatChars .stored x ++ rest) (.float x) rest := by
  obtain ⟨d, e, read, same⟩ := Decimal.unsigned_reads .stored (Decimal.shortest x).digits
    (Decimal.shortest x).exponent
  have value : Decimal.toFloat ⟨Double.isNegative x, d, e⟩ = x := by
    rw [Decimal.toFloat, Decimal.nearest_congr same, Decimal.shortest_reads finite,
      Double.ofMagnitude_magnitude]
  have spelled : Magnitude limits (Double.isNegative x) _ _ rest :=
    isMagnitude_unsigned roomy _ _ _ _ read rest
  rw [value] at spelled
  unfold floatChars FloatStyle.write
  rw [if_pos finite, if_pos finite]
  dsimp only
  rw [String.toList_ofList]
  split
  · rename_i negative
    rw [negative] at spelled
    exact .negative spelled
  · rename_i notNegative
    rw [eq_false_of_ne_true notNegative] at spelled
    exact .plain spelled

/-! ### Strings -/

theorem hexValue?_digitChar {k : Nat} (h : k < 16) : Text.hexValue? (Nat.digitChar k) = some k := by
  have each : ∀ k < 16, Text.hexValue? (Nat.digitChar k) = some k := by decide
  exact each k h

theorem unit_hexDigits {unit : Nat} (h : unit < 0x10000) (rest : List Char) :
    Unit ('u' :: (Text.hexDigits unit 4 ++ rest)) unit rest := by
  have digit : ∀ n, Text.hexValue? (Nat.digitChar (n % 16)) = some (n % 16) := fun n =>
    hexValue?_digitChar (Nat.mod_lt n (by decide))
  have spelled := Unit.digits rest (digit (unit / 16 / 16 / 16)) (digit (unit / 16 / 16))
    (digit (unit / 16)) (digit unit)
  have value : 16 * (16 * (16 * (unit / 16 / 16 / 16 % 16) + unit / 16 / 16 % 16) +
      unit / 16 % 16) + unit % 16 = unit := by omega
  rw [value] at spelled
  exact spelled

theorem unit_unique {unit unit' : Nat} {cs rest rest' : List Char} (h : Unit cs unit rest)
    (h' : Unit cs unit' rest') : unit = unit' := by
  cases h with
  | digits _ ha hb hc hd =>
    cases h' with
    | digits _ ha' hb' hc' hd' =>
      cases ha.symm.trans ha'
      cases hb.symm.trans hb'
      cases hc.symm.trans hc'
      cases hd.symm.trans hd'
      rfl

/-- The surrogates are surrogates and allowed, and no two neighbours make up a character. -/
inductive Apart (limits : Limits) : List CodePoint → Prop where
  | nil : Apart limits []
  | char {c : Char} {ps : List CodePoint} : Apart limits ps → Apart limits (.char c :: ps)
  | surrogate {unit : Nat} {ps : List CodePoint} : limits.surrogates = true →
      Surrogate.isLeading unit = true ∨ Surrogate.isTrailing unit = true →
      (Surrogate.isLeading unit = true →
        ∀ next, ps.head? = some (.surrogate next) → Surrogate.isTrailing next = false) →
      Apart limits ps → Apart limits (.surrogate unit :: ps)

theorem apart_chars (cs : List Char) : Apart limits (cs.map .char) := by
  induction cs with
  | nil => exact .nil
  | cons c cs ih => exact .char ih

theorem lt_of_isSurrogate {unit : Nat}
    (h : Surrogate.isLeading unit = true ∨ Surrogate.isTrailing unit = true) : unit < 0x10000 := by
  rcases h with h | h
  · have most := of_decide_eq_true (Bool.and_eq_true_iff.mp h).2
    omega
  · have most := of_decide_eq_true (Bool.and_eq_true_iff.mp h).2
    omega

/-- Characters below U+0020 are no surrogates. -/
theorem not_surrogate_of_control {unit : Nat} (h : unit < 0x20) :
    Surrogate.isLeading unit = false ∧ Surrogate.isTrailing unit = false := by
  constructor
  · rw [Surrogate.isLeading, decide_eq_false (by omega), Bool.false_and]
  · rw [Surrogate.isTrailing, decide_eq_false (by omega), Bool.false_and]

/-- A character is written with an escape of its own, as a unit, or as it is. -/
theorem escapeChar_cases (c : Char) :
    (∃ d, (d, c) ∈ escapes ∧ escapeChar c = ['\\', d]) ∨
      (c.toNat < 0x20 ∧ escapeChar c = '\\' :: 'u' :: Text.hexDigits c.toNat 4) ∨
      (c ≠ '"' ∧ c ≠ '\\' ∧ 0x20 ≤ c.toNat ∧ escapeChar c = [c]) := by
  by_cases special : c ∈ ['"', '\\', '\x08', '\t', '\n', '\x0c', '\r']
  · left
    simp only [List.mem_cons, List.not_mem_nil, or_false] at special
    rcases special with rfl | rfl | rfl | rfl | rfl | rfl | rfl
    all_goals
      refine ⟨_, ?_, rfl⟩
      decide
  · right
    simp only [List.mem_cons, List.not_mem_nil, or_false, not_or] at special
    obtain ⟨quote, backslash, backspace, tab, newline, formFeed, return'⟩ := special
    rw [escapeChar, if_neg quote, if_neg backslash, if_neg backspace, if_neg tab, if_neg newline,
      if_neg formFeed, if_neg return']
    split
    · rename_i control
      exact .inl ⟨control, rfl⟩
    · rename_i printed
      exact .inr ⟨quote, backslash, Nat.not_lt.mp printed, rfl⟩

theorem characters_escapeChar (c : Char) {cs rest : List Char} {ps : List CodePoint}
    (h : Characters limits cs ps rest) :
    Characters limits (escapeChar c ++ cs) (.char c :: ps) rest := by
  rcases escapeChar_cases c with ⟨d, member, same⟩ | ⟨control, same⟩ |
    ⟨noQuote, noBackslash, printed, same⟩
  · rw [same]
    exact .escape member h
  · obtain ⟨notLeading, notTrailing⟩ := not_surrogate_of_control control
    have spelled := Characters.unit (unit_hexDigits (control.trans (by decide)) cs) notLeading
      notTrailing h
    rw [Char.ofNat_toNat] at spelled
    rw [same]
    exact spelled
  · rw [same]
    exact .plain noQuote noBackslash printed h

/-- What is written after a surrogate does not make up a character with it. -/
theorem noTrailing_escaped {ps : List CodePoint}
    (h : ∀ next, ps.head? = some (.surrogate next) →
      (Surrogate.isLeading next = true ∨ Surrogate.isTrailing next = true) ∧
        Surrogate.isTrailing next = false) (rest : List Char) :
    NoTrailing (ps.flatMap escapePoint ++ '"' :: rest) := by
  intro mid unit after same isUnit
  cases ps with
  | nil =>
    cases same
  | cons p ps =>
    rw [List.flatMap_cons, List.append_assoc] at same
    cases p with
    | char c =>
      rw [escapePoint] at same
      rcases escapeChar_cases c with ⟨d, member, written⟩ | ⟨control, written⟩ |
        ⟨_, noBackslash, _, written⟩
      · rw [written] at same
        cases same
        exact absurd (head_of_unit isUnit) (ne_of_mem_escapes member)
      · rw [written] at same
        cases same
        rw [unit_unique isUnit (unit_hexDigits (control.trans (by decide)) _)]
        exact (not_surrogate_of_control control).2
      · rw [written] at same
        exact absurd (List.cons.inj same).1 noBackslash
    | surrogate next =>
      obtain ⟨isSurrogate, notTrailing⟩ := h next rfl
      cases same
      rw [unit_unique isUnit (unit_hexDigits (lt_of_isSurrogate isSurrogate) _)]
      exact notTrailing

theorem characters_escaped {ps : List CodePoint} (h : Apart limits ps) (rest : List Char) :
    Characters limits (ps.flatMap escapePoint ++ '"' :: rest) ps rest := by
  induction h with
  | nil => exact .close rest
  | char _ ih =>
    rw [List.flatMap_cons, List.append_assoc]
    exact characters_escapeChar _ ih
  | surrogate surrogates isSurrogate apart others ih =>
    rename_i unit ps
    rw [List.flatMap_cons, List.append_assoc]
    have spelled := unit_hexDigits (lt_of_isSurrogate isSurrogate)
      (ps.flatMap escapePoint ++ '"' :: rest)
    by_cases isLeading : Surrogate.isLeading unit = true
    · refine .leading surrogates spelled isLeading (noTrailing_escaped ?_ rest) ih
      intro next head
      refine ⟨?_, apart isLeading next head⟩
      cases others with
      | nil => cases head
      | char _ => cases head
      | surrogate _ isSurrogate _ _ =>
        cases head
        exact isSurrogate
    · exact .trailing surrogates spelled (isSurrogate.resolve_left isLeading) ih

/-! ### Values -/

mutual

/-- A value inside `depth` containers can be written: it is within the limits, its floats are finite
and no key comes twice in an object. -/
def Writable (limits : Limits) : Nat → Json → Prop
  | _, null => True
  | _, bool _ => True
  | _, int n => isWithin limits.wholeDigits (intSpan limits n) = true ∧
      isWithin limits.integerDigits (intSpan limits n) = true
  | _, float x => Double.isFinite x = true
  | _, str s => Apart limits s.points
  | depth, arr items => ItemsWritable limits (depth + 1) items
  | depth, obj fields =>
    FieldsWritable limits (depth + 1) fields ∧ (Fields.keys fields).Nodup

def ItemsWritable (limits : Limits) (depth : Nat) : List Json → Prop
  | [] => True
  | v :: rest => depth < limits.depth ∧ Writable limits depth v ∧ ItemsWritable limits depth rest

def FieldsWritable (limits : Limits) (depth : Nat) : Fields → Prop
  | [] => True
  | (k, v) :: rest => Apart limits k.points ∧ depth < limits.depth ∧ Writable limits depth v ∧
      FieldsWritable limits depth rest

end

mutual

theorem Writable.hasDistinctKeys : ∀ {v : Json} {depth : Nat}, Writable limits depth v →
    v.HasDistinctKeys
  | null, _, _ | bool _, _, _ | int _, _, _ | float _, _, _ | str _, _, _ => trivial
  | arr items, _, writable => by
    rw [HasDistinctKeys]
    exact ItemsWritable.haveDistinctKeys writable
  | obj fields, _, ⟨writable, distinct⟩ => by
    rw [HasDistinctKeys]
    exact ⟨distinct, FieldsWritable.haveDistinctKeys writable⟩

theorem ItemsWritable.haveDistinctKeys : ∀ {items : List Json} {depth : Nat},
    ItemsWritable limits depth items → itemsHaveDistinctKeys items
  | [], _, _ => trivial
  | _ :: _, _, ⟨_, writable, others⟩ =>
    ⟨writable.hasDistinctKeys, ItemsWritable.haveDistinctKeys others⟩

theorem FieldsWritable.haveDistinctKeys : ∀ {fields : Fields} {depth : Nat},
    FieldsWritable limits depth fields → fieldsHaveDistinctKeys fields
  | [], _, _ => trivial
  | _ :: _, _, ⟨_, _, writable, others⟩ =>
    ⟨writable.hasDistinctKeys, FieldsWritable.haveDistinctKeys others⟩

end

theorem blank_newLine (depth : Nat) {cs rest : List Char} (h : Blank cs rest) :
    Blank (newLine depth ++ cs) rest := by
  have spaces : ∀ n, Blank (List.replicate n ' ' ++ cs) rest := by
    intro n
    induction n with
    | zero => exact h
    | succ n ih => exact .some (by decide) ih
  exact .some (by decide) (spaces _)

theorem put_new {fields : Fields} {key : LooseText} (fresh : key ∉ Fields.keys fields) (v : Json) :
    fields.put key v = fields ++ [(key, v)] := by
  refine congrArg (· ++ [(key, v)]) ?_
  refine (List.map_congr_left ?_).trans (List.map_id fields)
  rintro ⟨k, old⟩ member
  exact if_neg fun same => fresh (List.mem_map.mpr ⟨(k, old), member, same⟩)

theorem characters_quoteChars {s : LooseText} (h : Apart limits s.points) (rest : List Char) :
    ∃ cs, quoteChars s ++ rest = '"' :: cs ∧ Characters limits cs s.points rest := by
  refine ⟨s.points.flatMap escapePoint ++ '"' :: rest, ?_, characters_escaped h rest⟩
  simp only [quoteChars, List.cons_append, List.append_assoc, List.nil_append]

theorem key_quoteChars {key : LooseText} (h : Apart limits key.points) (line : Nat)
    (rest : List Char) :
    Key limits (newLine line ++ (quoteChars key ++ ':' :: rest)) key rest := by
  obtain ⟨cs, quoted, spelled⟩ := characters_quoteChars h (':' :: rest)
  have isKey : Key limits (newLine line ++ '"' :: cs) (.ofPoints key.points) rest :=
    .spelled (blank_newLine line (.none _)) spelled (.none _)
  rw [LooseText.ofPoints_points] at isKey
  rw [quoted]
  exact isKey

theorem value_quoteChars {depth : Nat} {s : LooseText} (h : Apart limits s.points)
    (rest : List Char) : Grammar.Value limits depth (quoteChars s ++ rest) (str s) rest := by
  obtain ⟨cs, quoted, spelled⟩ := characters_quoteChars h rest
  have isValue : Grammar.Value limits depth ('"' :: cs) (str (.ofPoints s.points)) rest :=
    .string spelled
  rw [LooseText.ofPoints_points] at isValue
  rw [quoted]
  exact isValue

theorem part_line {depth line : Nat} {v : Json} {c : Char} {after rest : List Char}
    (within : depth < limits.depth)
    (h : Grammar.Value limits depth (indentedChars line v ++ after) v after)
    (follows : Blank after (c :: rest)) :
    Part limits depth (newLine line ++ (indentedChars line v ++ after)) v c rest :=
  .spelled within (blank_newLine line (.none _)) h follows

theorem part_colon {depth line : Nat} {v : Json} {c : Char} {after rest : List Char}
    (within : depth < limits.depth)
    (h : Grammar.Value limits depth (indentedChars line v ++ after) v after)
    (follows : Blank after (c :: rest)) :
    Part limits depth (' ' :: (indentedChars line v ++ after)) v c rest :=
  .spelled within (.some (by decide) (.none _)) h follows

theorem keys_append (before fields : Fields) :
    Fields.keys (before ++ fields) = before.keys ++ Fields.keys fields :=
  List.map_append

/-- What comes first of distinct keys is not among the ones before. -/
theorem not_mem_keys {before fields : Fields} {k : LooseText} {v : Json}
    (h : (Fields.keys (before ++ (k, v) :: fields)).Nodup) : k ∉ before.keys := by
  rw [keys_append] at h
  intro member
  exact (List.nodup_append.mp h).2.2 k member k List.mem_cons_self rfl

mutual

theorem value_indented (roomy : Roomy limits) {depth : Nat} :
    ∀ {v : Json}, Writable limits depth v → ∀ (line : Nat) (rest : List Char),
      Grammar.Value limits depth (indentedChars line v ++ rest) v rest
  | null, _, _, rest => .word (w := "null") rest (by simp [words])
  | bool true, _, _, rest => .word (w := "true") rest (by simp [words])
  | bool false, _, _, rest => .word (w := "false") rest (by simp [words])
  | int n, ⟨wholeDigits, integerDigits⟩, _, rest =>
    .number (number_intChars wholeDigits integerDigits rest)
  | float x, finite, _, rest => .number (number_floatChars roomy finite rest)
  | str s, apart, _, rest => value_quoteChars apart rest
  | arr [], _, _, rest => .emptyList (.none _)
  | arr (v :: items), writable, line, rest => by
    have spelled := items_indented roomy writable (List.cons_ne_nil _ _) (line + 1) line rest
    simp only [itemsIndented, indentedChars, List.cons_append, List.append_assoc,
      List.tail_cons, List.nil_append] at spelled ⊢
    exact .list spelled
  | obj [], _, _, rest => .emptyObject (.none _)
  | obj ((k, v) :: fields), ⟨writable, distinct⟩, line, rest => by
    have spelled := members_indented roomy writable (List.cons_ne_nil _ _) [] distinct (line + 1)
      line rest
    simp only [fieldsIndented, indentedChars, List.cons_append, List.append_assoc,
      List.tail_cons, List.nil_append] at spelled ⊢
    exact .object spelled

theorem items_indented (roomy : Roomy limits) {depth : Nat} :
    ∀ {items : List Json}, ItemsWritable limits depth items → items ≠ [] → ∀ (line closing : Nat)
      (rest : List Char), Items limits depth
        ((itemsIndented line items).tail ++ (newLine closing ++ ']' :: rest)) items rest
  | [], _, nonempty, _, _, _ => absurd rfl nonempty
  | [v], ⟨within, writable, _⟩, _, line, closing, rest => by
    have part := part_line within
      (value_indented roomy writable line (newLine closing ++ ']' :: rest))
      (blank_newLine closing (.none _))
    simp only [itemsIndented, List.cons_append, List.append_assoc, List.tail_cons, List.nil_append]
    exact .last part
  | v :: w :: items, ⟨within, writable, others⟩, _, line, closing, rest => by
    have spelled := items_indented roomy others (List.cons_ne_nil _ _) line closing rest
    obtain ⟨following, written⟩ : ∃ cs, itemsIndented line (w :: items) = ',' :: cs := ⟨_, rfl⟩
    rw [written, List.tail_cons] at spelled
    have part := part_line within (value_indented roomy writable line
      (',' :: (following ++ (newLine closing ++ ']' :: rest)))) (.none _)
    rw [itemsIndented, written]
    simp only [List.cons_append, List.append_assoc, List.tail_cons]
    exact .more part spelled

theorem members_indented (roomy : Roomy limits) {depth : Nat} :
    ∀ {fields : Fields}, FieldsWritable limits depth fields → fields ≠ [] → ∀ (before : Fields),
      (Fields.keys (before ++ fields)).Nodup → ∀ (line closing : Nat) (rest : List Char),
      Members limits depth before
        ((fieldsIndented line fields).tail ++ (newLine closing ++ '\x7d' :: rest))
        (before ++ fields) rest
  | [], _, nonempty, _, _, _, _, _ => absurd rfl nonempty
  | [(k, v)], ⟨apart, within, writable, _⟩, _, before, distinct, line, closing, rest => by
    have part := part_colon within
      (value_indented roomy writable line (newLine closing ++ '\x7d' :: rest))
      (blank_newLine closing (.none _))
    have spelled : Members limits depth before _ (before.put k v) rest :=
      .last (key_quoteChars apart line _) part
    rw [put_new (not_mem_keys distinct)] at spelled
    simp only [fieldsIndented, List.cons_append, List.append_assoc, List.tail_cons, List.nil_append]
    exact spelled
  | (k, v) :: field :: fields, ⟨apart, within, writable, others⟩, _, before, distinct, line,
      closing, rest => by
    have same : before ++ (k, v) :: field :: fields = before ++ [(k, v)] ++ field :: fields :=
      List.append_cons ..
    have spelled := members_indented roomy others (List.cons_ne_nil _ _) (before ++ [(k, v)])
      (same ▸ distinct) line closing rest
    obtain ⟨following, written⟩ : ∃ cs, fieldsIndented line (field :: fields) = ',' :: cs :=
      ⟨_, rfl⟩
    rw [written, List.tail_cons] at spelled
    have part := part_colon within (value_indented roomy writable line
      (',' :: (following ++ (newLine closing ++ '\x7d' :: rest)))) (.none _)
    rw [same, fieldsIndented, written]
    rw [← put_new (not_mem_keys distinct)] at spelled ⊢
    simp only [List.cons_append, List.append_assoc, List.tail_cons, List.nil_append]
    exact .more (key_quoteChars apart line _) part spelled

end

/-- A value that is within the limits is spelled by its text with one item per line. -/
theorem spells_indented (roomy : Roomy limits) (within : 0 < limits.depth) {v : Json}
    (h : Writable limits 0 v) : Spells limits v.indented v := by
  have spelled := value_indented roomy h 0 []
  rw [List.append_nil] at spelled
  refine ⟨within, v.indented.toList, [], .none _, ?_, .none _⟩
  rw [indented, String.toList_ofList]
  exact spelled

end RayScene.Json
