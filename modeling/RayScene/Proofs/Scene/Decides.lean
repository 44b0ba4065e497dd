import Mathlib.Data.List.Forall2
import Mathlib.Data.List.Nodup
import RayScene.Proofs.Number.Reading
import RayScene.Proofs.Outcome
import RayScene.Scene.Schema

/-!
# Checks that decide a form

A form relates JSON values to what they spell. A check decides a form if it reads every value of the
form as what it spells and finds at least one violation in all other values. The forms here belong
to the parts that checks are put together from: fields, objects, lists, numbers and strings.
-/

namespace RayScene

namespace Collected

variable {ε δ α β : Type}

/-- The result is what has the property. Where nothing has it there is some error. -/
structure Decides (c : Collected ε α) (P : α → Prop) : Prop where
  ok_iff : ∀ a, c = .ok a ↔ P a
  complains : c ≠ .error []

namespace Decides

variable {c : Collected ε α} {P Q : α → Prop}

theorem congr (h : c.Decides P) (same : ∀ a, P a ↔ Q a) : c.Decides Q :=
  ⟨fun a => (h.ok_iff a).trans (same a), h.complains⟩

theorem error {es : List ε} (nonempty : es ≠ []) (nothing : ∀ a, ¬ P a) :
    Decides (.error es : Collected ε α) P where
  ok_iff a := by
    refine ⟨fun h => ?_, fun h => absurd h (nothing a)⟩
    cases h
  complains h := nonempty (Except.error.inj h)

theorem ok {a : α} (same : ∀ b, P b ↔ a = b) : Decides (.ok a : Collected ε α) P where
  ok_iff b := by
    rw [same, Except.ok.injEq]
  complains h := by cases h

theorem app {f : Collected ε (α → β)} {F : (α → β) → Prop} (hf : f.Decides F)
    (hc : c.Decides P) : (f.app c).Decides fun b => ∃ g a, F g ∧ P a ∧ g a = b where
  ok_iff b := by
    constructor
    · intro h
      obtain ⟨g, a, rfl, ok, ok'⟩ := app_ok h
      exact ⟨g, a, (hf.ok_iff g).mp ok, (hc.ok_iff a).mp ok', rfl⟩
    · rintro ⟨g, a, isF, isP, rfl⟩
      rw [(hf.ok_iff g).mpr isF, (hc.ok_iff a).mpr isP]
      rfl
  complains h := by
    cases f with
    | error es => exact hf.complains (congrArg _ (List.append_eq_nil_iff.mp (Except.error.inj h)).1)
    | ok g =>
      cases c with
      | error es => exact hc.complains (congrArg _ (Except.error.inj h))
      | ok a => cases h

theorem relabel (h : c.Decides P) (f : ε → δ) : (c.relabel f).Decides P where
  ok_iff a := by
    rw [← h.ok_iff a]
    refine ⟨relabel_ok, fun ok => ?_⟩
    rw [ok]
    rfl
  complains wrong := by
    cases c with
    | ok a => cases wrong
    | error es => exact h.complains (congrArg _ (List.map_eq_nil_iff.mp (Except.error.inj wrong)))

theorem map (h : c.Decides P) (f : α → β) :
    Decides (Except.map f c) fun b => ∃ a, P a ∧ f a = b where
  ok_iff b := by
    constructor
    · intro ok
      obtain ⟨a, ok, same⟩ := Outcome.map_ok ok
      exact ⟨a, (h.ok_iff a).mp ok, same⟩
    · rintro ⟨a, isP, rfl⟩
      rw [(h.ok_iff a).mpr isP]
      rfl
  complains wrong := by
    cases c with
    | ok a => cases wrong
    | error es => exact h.complains (congrArg _ (Except.error.inj wrong))

theorem bind {next : α → Collected ε β} {Q : α → β → Prop} (h : c.Decides P)
    (then' : ∀ a, P a → (next a).Decides (Q a)) :
    Decides (c >>= next) fun b => ∃ a, P a ∧ Q a b where
  ok_iff b := by
    constructor
    · intro ok
      obtain ⟨a, ok, ok'⟩ := Outcome.bind_ok ok
      have isP := (h.ok_iff a).mp ok
      exact ⟨a, isP, ((then' a isP).ok_iff b).mp ok'⟩
    · rintro ⟨a, isP, isQ⟩
      rw [(h.ok_iff a).mpr isP]
      exact ((then' a isP).ok_iff b).mpr isQ
  complains wrong := by
    cases given : c with
    | ok a =>
      rw [given] at wrong
      exact (then' a ((h.ok_iff a).mp given)).complains wrong
    | error es =>
      rw [given] at wrong
      exact h.complains (given.trans (congrArg _ (Except.error.inj wrong)))

theorem rejecting (h : c.Decides P) (before : Bool) (es : List ε) :
    (c.rejecting before es).Decides fun a => P a ∧ es = [] := by
  cases es with
  | cons e es =>
    have rejected : c.rejecting before (e :: es) =
        .error (if before then e :: es ++ c.errors else c.errors ++ e :: es) := by
      cases c <;> rfl
    rw [rejected]
    refine error ?_ ?_
    · cases before
      · exact List.append_ne_nil_of_right_ne_nil _ (List.cons_ne_nil e es)
      · exact List.cons_ne_nil e _
    · rintro a ⟨_, wrong⟩
      cases wrong
  | nil =>
    have same : c.rejecting before [] = c := by
      cases c with
      | ok a => rfl
      | error es =>
        cases before
        · exact congrArg _ (List.append_nil es)
        · rfl
    rw [same]
    exact h.congr fun a => (and_iff_left rfl).symm

end Decides

def DecidesParts {τ : Type} (c : Collected ε α) (make : τ → α) (P : τ → Prop) : Prop :=
  c.Decides fun a => ∃ t, P t ∧ make t = a

namespace DecidesParts

variable {τ : Type} {c : Collected ε α} {make : τ → α} {P : τ → Prop}

theorem pure (a : α) :
    DecidesParts (Collected.pure a : Collected ε α) (fun _ : Unit => a) fun _ => True :=
  .ok fun _ => ⟨fun ⟨_, _, same⟩ => same, fun same => ⟨(), trivial, same⟩⟩

/-- One more part. -/
theorem app {f : Collected ε (α → β)} {make : τ → α → β} (hf : f.DecidesParts make P)
    {Q : α → Prop} (hc : c.Decides Q) :
    (f.app c).DecidesParts (fun t : τ × α => make t.1 t.2) fun t => P t.1 ∧ Q t.2 := by
  refine (Decides.app hf hc).congr fun b => ?_
  constructor
  · rintro ⟨_, a, ⟨t, isP, rfl⟩, isQ, rfl⟩
    exact ⟨(t, a), ⟨isP, isQ⟩, rfl⟩
  · rintro ⟨⟨t, a⟩, ⟨isP, isQ⟩, rfl⟩
    exact ⟨_, a, ⟨t, isP, rfl⟩, isQ, rfl⟩

/-- Everything is made of some parts, and has the property if and only if they have theirs. -/
theorem decides (h : c.DecidesParts make P) {Q : α → Prop} (parts : α → τ)
    (made : ∀ a, make (parts a) = a) (same : ∀ t, P t ↔ Q (make t)) : c.Decides Q :=
  h.congr fun a => ⟨fun ⟨t, isP, made⟩ => made ▸ (same t).mp isP,
    fun isQ => ⟨parts a, (same _).mpr ((made a).symm ▸ isQ), made a⟩⟩

end DecidesParts

end Collected

/-! ### Forms -/

abbrev Form (α : Type) := Json → α → Prop

namespace Form

variable {α : Type}

def Field (form : Form α) (key : String) (fields : Fields) (a : α) : Prop :=
  ∃ v, Fields.get? fields key = some v ∧ form v a

/-- The field may be absent or null. -/
def OptionalField (form : Form α) (key : String) (fields : Fields) : Option α → Prop
  | none => ∀ v, Fields.get? fields key = some v → v = .null
  | some a => ∃ v, Fields.get? fields key = some v ∧ v ≠ .null ∧ form v a

/-- An object all of whose keys are known. -/
def Object (known : List String) (fits : Fields → α → Prop) : Form α := fun v a =>
  ∃ fields, v = .obj fields ∧ (∀ key ∈ Fields.keys fields, ∃ k ∈ known, key = .proper k) ∧
    fits fields a

/-- A list of as many items as there are values, in the same order. -/
def Items (form : Form α) : Form (List α) := fun v as =>
  ∃ vs, v = .arr vs ∧ List.Forall₂ form vs as

inductive AsFloat : Form Float where
  | int (n : ℤ) : AsFloat (.int n) (Double.ofInt n)
  | float (x : Float) : AsFloat (.float x) x

def AnyNumber : Form Number := fun v n =>
  ∃ x q, AsFloat v x ∧ Double.value x = .finite q ∧ n = .float x

def NumberIn (least most : ℤ) : Form Number := fun v n =>
  ∃ x q, AsFloat v x ∧ Double.value x = .finite q ∧ (least ≤ q ∧ q ≤ most) ∧ n = .float x

def Text : Form LooseText := fun v s => v = .str s

/-- A string of characters, at least one. -/
def Name : Form String := fun v s => v = .str s ∧ s ≠ ""

def OneOf (table : List (String × α)) : Form α := fun v a =>
  ∃ s : String, v = .str s ∧ (s, a) ∈ table

end Form

namespace Check

variable {α : Type} {check : Json → Checked α} {form : Form α}

theorem required_decides (h : ∀ v, (check v).Decides (form v)) (fields : Fields) (key : String) :
    (required fields key check).Decides (form.Field key fields) := by
  unfold required
  split
  · rename_i v present
    refine ((h v).relabel _).congr fun a => ?_
    constructor
    · exact fun spells => ⟨v, present, spells⟩
    · rintro ⟨_, present', spells⟩
      cases present.symm.trans present'
      exact spells
  · rename_i absent
    refine .error (List.cons_ne_nil _ _) ?_
    rintro a ⟨_, present, _⟩
    cases absent.symm.trans present

theorem optional_decides (h : ∀ v, (check v).Decides (form v)) (fields : Fields) (key : String) :
    (optional fields key check).Decides (form.OptionalField key fields) := by
  -- What is read without a look at the field is nothing.
  have left : ∀ r : Option α, (∀ v, Fields.get? fields key = some v → v = .null) →
      (form.OptionalField key fields r ↔ none = r) := by
    intro r null
    cases r with
    | none => exact ⟨fun _ => rfl, fun _ => null⟩
    | some a =>
      constructor
      · rintro ⟨v, present, given, _⟩
        exact absurd (null v present) given
      · intro wrong
        cases wrong
  unfold optional
  split
  · rename_i absent
    refine .ok fun r => left r fun v present => ?_
    cases absent.symm.trans present
  · rename_i isNull
    refine .ok fun r => left r fun v present => ?_
    cases isNull.symm.trans present
    rfl
  · rename_i v isNull present
    have given : v ≠ .null := isNull
    refine (((h v).relabel _).map some).congr fun r => ?_
    cases r with
    | none =>
      constructor
      · rintro ⟨_, _, wrong⟩
        cases wrong
      · exact fun null => absurd (null v present) given
    | some a =>
      constructor
      · rintro ⟨_, spells, same⟩
        cases same
        exact ⟨v, present, given, spells⟩
      · rintro ⟨_, present', _, spells⟩
        cases present.symm.trans present'
        exact ⟨a, spells, rfl⟩

theorem extras_eq_nil_iff (known : List String) (fields : Fields) :
    extras known fields = [] ↔ ∀ key ∈ Fields.keys fields, ∃ k ∈ known, key = .proper k := by
  unfold extras
  rw [List.map_eq_nil_iff, List.filter_eq_nil_iff]
  refine forall₂_congr fun key _ => ?_
  rw [Bool.not_eq_true', Bool.not_eq_false, List.contains_iff_mem, List.mem_map]
  exact exists_congr fun k => and_congr_right fun _ => eq_comm

theorem closedObject_decides {read : Fields → Checked α} {fits : Fields → α → Prop}
    (h : ∀ fields, (read fields).Decides (fits fields)) (order : Order) (kind : Kind)
    (known : List String) (v : Json) :
    (closedObject order kind known read v).Decides (Form.Object known fits v) := by
  unfold closedObject object
  split
  · rename_i fields
    dsimp only
    split
    · refine ((h fields).rejecting _ _).congr fun a => ?_
      rw [extras_eq_nil_iff]
      constructor
      · rintro ⟨reads, closed⟩
        exact ⟨fields, rfl, closed, reads⟩
      · rintro ⟨_, same, closed, reads⟩
        cases same
        exact ⟨reads, closed⟩
    · rename_i improper
      refine .error (List.cons_ne_nil _ _) ?_
      rintro a ⟨_, same, closed, _⟩
      cases same
      refine improper (List.all_eq_true.mpr fun key member => ?_)
      obtain ⟨k, _, rfl⟩ := closed key member
      rfl
  · rename_i other
    refine .error (List.cons_ne_nil _ _) ?_
    rintro a ⟨fields, same, _⟩
    exact other fields same

theorem items_decides (h : ∀ v, (check v).Decides (form v)) :
    ∀ (vs : List Json) (i : Nat), (items check i vs).Decides (List.Forall₂ form vs)
  | [], _ => .ok fun as => by rw [List.forall₂_nil_left_iff, eq_comm]
  | v :: vs, i => by
    refine ((((h v).relabel _).map List.cons).app (items_decides h vs (i + 1))).congr fun as => ?_
    rw [List.forall₂_cons_left_iff]
    constructor
    · rintro ⟨_, rest, ⟨a, spells, rfl⟩, others, rfl⟩
      exact ⟨a, rest, spells, others, rfl⟩
    · rintro ⟨a, rest, spells, others, rfl⟩
      exact ⟨_, rest, ⟨a, spells, rfl⟩, others, rfl⟩

theorem items_form {vs : List Json} {as : List α} :
    form.Items (.arr vs) as ↔ List.Forall₂ form vs as := by
  constructor
  · rintro ⟨_, same, each⟩
    cases same
    exact each
  · exact fun each => ⟨vs, rfl, each⟩

theorem list_decides (h : ∀ v, (check v).Decides (form v)) (v : Json) :
    (list check v).Decides (form.Items v) := by
  unfold list
  split
  · exact (items_decides h _ 0).congr fun as => items_form.symm
  · rename_i other
    refine .error (List.cons_ne_nil _ _) ?_
    rintro as ⟨vs, same, _⟩
    exact other vs same

theorem boundedList_decides (h : ∀ v, (check v).Decides (form v)) (least most : Nat) (v : Json) :
    (boundedList least most check v).Decides fun as =>
      form.Items v as ∧ least ≤ as.length ∧ as.length ≤ most := by
  unfold boundedList
  split
  · rename_i vs
    split
    · rename_i long
      refine .error (List.cons_ne_nil _ _) ?_
      rintro as ⟨each, _, bound⟩
      have length := (items_form.mp each).length_eq
      omega
    split
    · rename_i short
      refine .error (List.cons_ne_nil _ _) ?_
      rintro as ⟨each, bound, _⟩
      have length := (items_form.mp each).length_eq
      omega
    · refine (items_decides h vs 0).congr fun as => ?_
      rw [items_form]
      refine ⟨fun each => ⟨each, ?_⟩, And.left⟩
      have length := each.length_eq
      omega
  · rename_i other
    refine .error (List.cons_ne_nil _ _) ?_
    rintro as ⟨⟨vs, same, _⟩, _⟩
    exact other vs same

theorem string_decides (v : Json) : (string v).Decides (Form.Text v) := by
  unfold string
  split
  · exact .ok fun s => Json.str.injEq _ _ ▸ Iff.rfl
  · rename_i other
    exact .error (List.cons_ne_nil _ _) fun s same => other s same

theorem properString_decides (v : Json) : (properString v).Decides fun s => v = .str s := by
  unfold properString
  refine ((string_decides v).bind (Q := fun t s => t = .proper s) fun t _ => ?_).congr fun s => ?_
  · cases t with
    | proper s => exact .ok fun b => ⟨LooseText.proper.inj, congrArg _⟩
    | broken before unit after =>
      refine .error (List.cons_ne_nil _ _) fun s wrong => ?_
      cases wrong
  constructor
  · rintro ⟨_, same, rfl⟩
    exact same
  · exact fun same => ⟨_, same, rfl⟩

theorem nonEmptyString_decides (v : Json) : (nonEmptyString v).Decides (Form.Name v) := by
  have step : ∀ s : String, v = .str s →
      Collected.Decides (if s.isEmpty then Checked.fail .nonEmpty else (return s : Checked String))
        fun b => s = b ∧ s ≠ "" := by
    intro s _
    split
    · rename_i empty
      exact .error (List.cons_ne_nil _ _) fun b h => h.2 (String.isEmpty_iff.mp empty)
    · rename_i nonempty
      exact .ok fun b => and_iff_left fun empty => nonempty (String.isEmpty_iff.mpr empty)
  refine ((properString_decides v).bind step).congr fun s => ?_
  constructor
  · rintro ⟨_, same, rfl, nonempty⟩
    exact ⟨same, nonempty⟩
  · exact fun ⟨same, nonempty⟩ => ⟨s, same, rfl, nonempty⟩

theorem ofName?_eq_some_iff {α : Type} [Named α] (distinct : (Named.names α).Nodup) {s : String}
    {a : α} : Named.ofName? s = some a ↔ a ∈ Named.all ∧ Named.name a = s := by
  unfold Named.names at distinct
  unfold Named.ofName?
  constructor
  · intro found
    have same := List.find?_some found
    exact ⟨List.mem_of_find?_eq_some found, beq_iff_eq.mp same⟩
  · rintro ⟨member, rfl⟩
    cases found : List.find? (fun b : α => Named.name b == Named.name a) Named.all with
    | none => exact absurd (beq_self_eq_true _) (List.find?_eq_none.mp found a member)
    | some b =>
      have same := List.find?_some found
      rw [List.inj_on_of_nodup_map distinct (List.mem_of_find?_eq_some found) member
        (beq_iff_eq.mp same)]

theorem choice_decides (α : Type) [Named α] {table : List (String × α)}
    (isTable : table = Named.all.map fun a => (Named.name a, a))
    (distinct : (Named.names α).Nodup) (v : Json) :
    (choice α v).Decides (Form.OneOf table v) := by
  have row : ∀ {s : String} {a : α}, (s, a) ∈ table ↔ Named.ofName? s = some a := by
    intro s a
    rw [ofName?_eq_some_iff distinct, isTable, List.mem_map]
    constructor
    · rintro ⟨b, member, same⟩
      cases same
      exact ⟨member, rfl⟩
    · rintro ⟨member, rfl⟩
      exact ⟨a, member, rfl⟩
  unfold choice
  split
  · rename_i s
    split
    · rename_i a found
      refine .ok fun b => ?_
      constructor
      · rintro ⟨_, same, member⟩
        cases same
        exact Option.some.inj (found.symm.trans (row.mp member))
      · rintro rfl
        exact ⟨s, rfl, row.mpr found⟩
    · rename_i unknown
      refine .error (List.cons_ne_nil _ _) ?_
      rintro b ⟨_, same, member⟩
      cases same
      cases unknown.symm.trans (row.mp member)
  · refine .error (List.cons_ne_nil _ _) ?_
    rintro b ⟨_, same, _⟩
    cases same
  · rename_i other _
    refine .error (List.cons_ne_nil _ _) ?_
    rintro b ⟨s, same, _⟩
    exact other s same

/-! ### Numbers -/

theorem isFinite_iff (x : Float) : Double.isFinite x = true ↔ ∃ q, Double.value x = .finite q := by
  unfold Double.value
  split
  · rename_i finite
    exact ⟨fun _ => ⟨_, rfl⟩, fun _ => finite⟩
  · rename_i infinite
    refine ⟨fun finite => absurd finite infinite, fun ⟨q, wrong⟩ => ?_⟩
    split at wrong <;> cases wrong

theorem number_decides (v : Json) :
    (number v).Decides fun x => Form.AsFloat v x ∧ ∃ q, Double.value x = .finite q := by
  have each : ∀ {x : Float} {rule : Rule}, Form.AsFloat v x →
      Collected.Decides (if Double.isFinite x then .ok x else Checked.fail rule)
        fun y => Form.AsFloat v y ∧ ∃ q, Double.value y = .finite q := by
    intro x rule spells
    have unique : ∀ {y}, Form.AsFloat v y → x = y := by
      intro y other
      cases spells <;> cases other <;> rfl
    split
    · rename_i finite
      refine .ok fun y => ⟨fun h => unique h.1, ?_⟩
      rintro rfl
      exact ⟨spells, (isFinite_iff x).mp finite⟩
    · rename_i infinite
      refine .error (List.cons_ne_nil _ _) ?_
      rintro y ⟨other, finite⟩
      rw [← unique other] at finite
      exact infinite ((isFinite_iff x).mpr finite)
  unfold number
  split
  · exact each (.int _)
  · exact each (.float _)
  · rename_i notInt notFloat
    refine .error (List.cons_ne_nil _ _) ?_
    rintro y ⟨spells, _⟩
    cases spells with
    | int n => exact notInt n rfl
    | float x => exact notFloat y rfl

theorem anyNumber_decides (v : Json) : (anyNumber v).Decides (Form.AnyNumber v) := by
  refine ((number_decides v).map Number.float).congr fun n => ?_
  constructor
  · rintro ⟨x, ⟨spells, q, finite⟩, rfl⟩
    exact ⟨x, q, spells, finite, rfl⟩
  · rintro ⟨x, q, spells, finite, rfl⟩
    exact ⟨x, ⟨spells, q, finite⟩, rfl⟩

theorem compare_scaled (a n : ℤ) {den : Nat} (positive : 0 < den) :
    compare a (n * den) = compare ((a : ℚ) / den) n := by
  have positive' : (0 : ℚ) < den := by exact_mod_cast positive
  rcases lt_trichotomy a (n * den) with less | same | greater
  · have less' : (a : ℚ) < n * den := by exact_mod_cast less
    rw [compare_lt_iff_lt.mpr less, compare_lt_iff_lt.mpr ((div_lt_iff₀ positive').mpr less')]
  · have same' : (a : ℚ) = n * den := by exact_mod_cast same
    rw [compare_eq_iff_eq.mpr same, compare_eq_iff_eq.mpr ((div_eq_iff positive'.ne').mpr same')]
  · have greater' : (n : ℚ) * den < a := by exact_mod_cast greater
    rw [compare_gt_iff_gt.mpr greater, compare_gt_iff_gt.mpr ((lt_div_iff₀ positive').mpr greater')]

theorem compareInt_eq {x : Float} {q : ℚ} (h : Double.value x = .finite q) (n : ℤ) :
    Double.compareInt x n = compare q (n : ℚ) := by
  have finite : Double.isFinite x = true := (isFinite_iff x).mpr ⟨q, h⟩
  obtain ⟨positive, same⟩ := Double.quotient_ratio (Double.magnitude x)
  rw [Double.value, if_pos finite, ← same] at h
  cases h
  unfold Double.compareInt
  dsimp only
  rw [compare_scaled _ n positive]
  split
  · rw [Int.cast_neg, Int.cast_natCast, neg_div]
  · rw [Int.cast_natCast]

theorem numberIn_decides (least most : ℤ) (v : Json) :
    (numberIn least most v).Decides (Form.NumberIn least most v) := by
  have step : ∀ x : Float, (Form.AsFloat v x ∧ ∃ q, Double.value x = .finite q) →
      Collected.Decides (if Double.compareInt x least == .lt then Checked.fail (.atLeast least)
          else if Double.compareInt x most == .gt then Checked.fail (.atMost most)
          else (return .float x : Checked Number))
        fun n => ∃ q, Double.value x = .finite q ∧ (least ≤ q ∧ q ≤ most) ∧ n = .float x := by
    rintro x ⟨_, q, finite⟩
    have value : ∀ {q'}, Double.value x = .finite q' → q = q' := fun other =>
      Value.finite.inj (finite.symm.trans other)
    have low : (Double.compareInt x least == .lt) = true ↔ q < least := by
      rw [compareInt_eq finite, beq_iff_eq, compare_lt_iff_lt]
    have high : (Double.compareInt x most == .gt) = true ↔ most < q := by
      rw [compareInt_eq finite, beq_iff_eq, compare_gt_iff_gt]
    split
    · rename_i below
      refine .error (List.cons_ne_nil _ _) ?_
      rintro n ⟨q', other, bounds, _⟩
      rw [← value other] at bounds
      exact absurd (low.mp below) (not_lt.mpr bounds.1)
    split
    · rename_i above
      refine .error (List.cons_ne_nil _ _) ?_
      rintro n ⟨q', other, bounds, _⟩
      rw [← value other] at bounds
      exact absurd (high.mp above) (not_lt.mpr bounds.2)
    · rename_i notBelow notAbove
      have bounds : (least : ℚ) ≤ q ∧ q ≤ most :=
        ⟨not_lt.mp fun h => notBelow (low.mpr h), not_lt.mp fun h => notAbove (high.mpr h)⟩
      refine .ok fun n => ⟨fun ⟨_, _, _, same⟩ => same.symm, fun same => ?_⟩
      exact ⟨q, finite, bounds, same.symm⟩
  refine ((number_decides v).bind step).congr fun n => ?_
  constructor
  · rintro ⟨x, ⟨spells, _⟩, q, finite, bounds, same⟩
    exact ⟨x, q, spells, finite, bounds, same⟩
  · rintro ⟨x, q, spells, finite, bounds, same⟩
    exact ⟨x, ⟨spells, q, finite⟩, q, finite, bounds, same⟩

end Check

end RayScene
