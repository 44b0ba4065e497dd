import Mathlib.Data.List.Flatten
import RayScene.Proofs.Scene.Places

/-!
# Checks that explain a schema

A check explains a schema if it reports exactly the places where a value offends the schema, apart
from those that are masked, each of them once and in order. The checks of the parts that a check is
put together from explain the parts of its schema.
-/

namespace RayScene

namespace Collected

variable {ε δ α β : Type}

@[simp] theorem errors_pure (a : α) : (pure a : Collected ε α).errors = [] := rfl

@[simp] theorem errors_app (f : Collected ε (α → β)) (a : Collected ε α) :
    (f.app a).errors = f.errors ++ a.errors := by
  cases f with
  | error es => rfl
  | ok f =>
    cases a with
    | error es => rfl
    | ok a => rfl

theorem errors_rejecting (before : Bool) (a : Collected ε α) (es : List ε) :
    (a.rejecting before es).errors = if before then es ++ a.errors else a.errors ++ es := by
  cases a with
  | error more => rfl
  | ok a =>
    cases es with
    | nil => cases before <;> rfl
    | cons e es => rfl

theorem errors_relabel (f : ε → δ) (a : Collected ε α) :
    (a.relabel f).errors = a.errors.map f := by
  cases a with
  | error es => rfl
  | ok a => rfl

theorem errors_map (f : α → β) (a : Collected ε α) :
    errors (Except.map f a) = a.errors := by
  cases a with
  | error es => rfl
  | ok a => rfl

end Collected

namespace Schema

structure Explains (s : Schema) (v : Json) (vs : List Violation) : Prop where
  sound : ∀ x ∈ vs, s.Offends v x
  complete : ∀ x, s.Offends v x → x ∈ vs ∨ ∃ y ∈ vs, y.Masks x
  apart : ∀ x ∈ vs, ∀ y ∈ vs, ¬ y.Masks x
  ordered : v.HasDistinctKeys →
    vs.Pairwise fun x y => s.Precedes v x.path y.path ∧ x.path ≠ y.path

end Schema

namespace Violation

variable {x y : Violation} {g : Segment}

theorem not_masks_of_path {y : Violation} (x : Violation) (h : x.path = []) : ¬ y.Masks x := by
  rintro ⟨-, g, rest, same⟩
  rw [h] at same
  exact List.append_ne_nil_of_right_ne_nil _ (List.cons_ne_nil g rest) same.symm

theorem Masks.same_segment {g' : Segment} (h : (y.under g).Masks (x.under g')) : g' = g := by
  obtain ⟨-, _, _, same⟩ := h
  exact (List.cons.inj same).1

theorem masks_under : (y.under g).Masks (x.under g) ↔ y.Masks x := by
  unfold Masks under
  simp only [List.cons_append, List.cons.injEq, true_and]

end Violation

namespace Schema

variable {s : Schema} {v : Json}

theorem Explains.nothing (h : ∀ x, ¬ s.Offends v x) : s.Explains v [] where
  sound _ member := absurd member List.not_mem_nil
  complete x offends := absurd offends (h x)
  apart _ member := absurd member List.not_mem_nil
  ordered _ := .nil

/-- Only the value itself is reported. What offends inside is masked. -/
theorem Explains.here {rule : Rule} (sound : s.Offends v ⟨[], rule⟩)
    (complete : ∀ x, s.Offends v x → x = ⟨[], rule⟩ ∨ (⟨[], rule⟩ : Violation).Masks x) :
    s.Explains v [⟨[], rule⟩] where
  sound := by
    intro x member
    rw [List.mem_singleton.mp member]
    exact sound
  complete := by
    intro x offends
    rcases complete x offends with rfl | masked
    · exact .inl (List.mem_singleton.mpr rfl)
    · exact .inr ⟨_, List.mem_singleton.mpr rfl, masked⟩
  apart := by
    intro x member y _
    rw [List.mem_singleton.mp member]
    exact Violation.not_masks_of_path _ rfl
  ordered _ := List.pairwise_singleton _ _

theorem Explains.value {rule : Rule} (offends : ∀ x, s.Offends v x ↔ Here (s.Breaks v) x)
    (h : ∀ other, s.Breaks v other ↔ other = rule) : s.Explains v [⟨[], rule⟩] := by
  refine .here ((offends _).mpr (.intro ((h rule).mpr rfl))) fun x wrong => .inl ?_
  obtain ⟨breaks⟩ := (offends x).mp wrong
  rw [(h _).mp breaks]

theorem Explains.valid (offends : ∀ x, s.Offends v x ↔ Here (s.Breaks v) x)
    (h : ∀ rule, ¬ s.Breaks v rule) : s.Explains v [] := by
  refine .nothing fun x wrong => ?_
  obtain ⟨breaks⟩ := (offends x).mp wrong
  exact h _ breaks

section Numbers

variable {range : Option (ℤ × ℤ)} {x : Float} {q : ℚ}

theorem asFloat_unique {y : Float} (h : Form.AsFloat v x) (h' : Form.AsFloat v y) : y = x := by
  cases h with
  | int n =>
    cases h'
    rfl
  | float x =>
    cases h'
    rfl

/-- Of a finite number only the bounds may fail. -/
theorem breaks_of_finite {rule : Rule} (spells : Form.AsFloat v x)
    (finite : Double.value x = .finite q) :
    (number range).Breaks v rule ↔ ∃ least most, range = some (least, most) ∧
      (q < least ∧ rule = .atLeast least ∨ least ≤ q ∧ most < q ∧ rule = .atMost most) := by
  constructor
  · intro breaks
    cases breaks with
    | notNumber none => exact absurd spells (none x)
    | beyondFloats infinite =>
      cases spells
      exact absurd finite (infinite q)
    | notFinite infinite =>
      cases spells
      exact absurd finite (infinite q)
    | tooSmall spells' finite' small =>
      rw [asFloat_unique spells spells', finite] at finite'
      cases finite'
      exact ⟨_, _, rfl, .inl ⟨small, rfl⟩⟩
    | tooLarge spells' finite' least large =>
      rw [asFloat_unique spells spells', finite] at finite'
      cases finite'
      exact ⟨_, _, rfl, .inr ⟨least, large, rfl⟩⟩
  · rintro ⟨least, most, rfl, ⟨small, rfl⟩ | ⟨notSmall, large, rfl⟩⟩
    · exact .tooSmall spells finite small
    · exact .tooLarge spells finite notSmall large

theorem number_cases (v : Json) :
    (∃ x q, Form.AsFloat v x ∧ Double.value x = .finite q ∧ Check.number v = .ok x) ∨
      ∃ rule, Check.number v = .fail rule ∧
        ∀ range other, (number range).Breaks v other ↔ other = rule := by
  have infinite : ∀ {x : Float}, ¬ Double.isFinite x = true → ∀ q, Double.value x ≠ .finite q :=
    fun not q value => not ((Check.isFinite_iff _).mpr ⟨q, value⟩)
  cases v with
  | int n =>
    by_cases finite : Double.isFinite (Double.ofInt n) = true
    · obtain ⟨q, value⟩ := (Check.isFinite_iff _).mp finite
      exact .inl ⟨_, q, .int n, value, by rw [Check.number, if_pos finite]⟩
    · refine .inr ⟨.floatRange, by rw [Check.number, if_neg finite], fun range other => ?_⟩
      constructor
      · intro breaks
        cases breaks with
        | notNumber none => exact absurd (.int n) (none _)
        | beyondFloats _ => rfl
        | tooSmall spells value _ =>
          cases spells
          exact absurd value (infinite finite _)
        | tooLarge spells value _ _ =>
          cases spells
          exact absurd value (infinite finite _)
      · rintro rfl
        exact .beyondFloats (infinite finite)
  | float x =>
    by_cases finite : Double.isFinite x = true
    · obtain ⟨q, value⟩ := (Check.isFinite_iff _).mp finite
      exact .inl ⟨_, q, .float x, value, by rw [Check.number, if_pos finite]⟩
    · refine .inr ⟨.finite, by rw [Check.number, if_neg finite], fun range other => ?_⟩
      constructor
      · intro breaks
        cases breaks with
        | notNumber none => exact absurd (.float x) (none _)
        | notFinite _ => rfl
        | tooSmall spells value _ =>
          cases spells
          exact absurd value (infinite finite _)
        | tooLarge spells value _ _ =>
          cases spells
          exact absurd value (infinite finite _)
      · rintro rfl
        exact .notFinite (infinite finite)
  | null | bool _ | str _ | arr _ | obj _ =>
    refine .inr ⟨.number, rfl, fun range other => ?_⟩
    constructor
    · intro breaks
      cases breaks with
      | notNumber _ => rfl
      | tooSmall spells _ _ => cases spells
      | tooLarge spells _ _ _ => cases spells
    · rintro rfl
      refine .notNumber fun x spells => ?_
      cases spells

theorem anyNumber_explains (v : Json) : (number none).Explains v (Check.anyNumber v).errors := by
  unfold Check.anyNumber
  rw [Collected.errors_map]
  rcases number_cases v with ⟨x, q, spells, finite, read⟩ | ⟨rule, read, breaks⟩
  · rw [read]
    refine .valid (fun _ => Iff.rfl) fun rule wrong => ?_
    obtain ⟨_, _, bounded, _⟩ := (breaks_of_finite spells finite).mp wrong
    cases bounded
  · rw [read]
    exact .value (fun _ => Iff.rfl) (breaks none)

theorem numberIn_explains (least most : ℤ) (v : Json) :
    (number (some (least, most))).Explains v (Check.numberIn least most v).errors := by
  unfold Check.numberIn
  rcases number_cases v with ⟨x, q, spells, finite, read⟩ | ⟨rule, read, breaks⟩
  · have low : (Double.compareInt x least == .lt) = true ↔ q < least := by
      rw [Check.compareInt_eq finite, beq_iff_eq, compare_lt_iff_lt]
    have high : (Double.compareInt x most == .gt) = true ↔ most < q := by
      rw [Check.compareInt_eq finite, beq_iff_eq, compare_gt_iff_gt]
    have breaks {rule : Rule} (wrong : (number (some (least, most))).Breaks v rule) :
        q < least ∧ rule = .atLeast least ∨ least ≤ q ∧ most < q ∧ rule = .atMost most := by
      obtain ⟨_, _, same, breaks⟩ := (breaks_of_finite spells finite).mp wrong
      cases same
      exact breaks
    rw [read]
    dsimp only [bind, Except.bind]
    split
    · rename_i below
      have small := low.mp below
      refine .value (fun _ => Iff.rfl) fun other => ⟨fun wrong => ?_, ?_⟩
      · rcases breaks wrong with ⟨_, same⟩ | ⟨notSmall, _⟩
        · exact same
        · exact absurd small (not_lt.mpr notSmall)
      · rintro rfl
        exact .tooSmall spells finite small
    split
    · rename_i notBelow above
      have notSmall : (least : ℚ) ≤ q := not_lt.mp fun small => notBelow (low.mpr small)
      refine .value (fun _ => Iff.rfl) fun other => ⟨fun wrong => ?_, ?_⟩
      · rcases breaks wrong with ⟨small, _⟩ | ⟨_, _, same⟩
        · exact absurd small (not_lt.mpr notSmall)
        · exact same
      · rintro rfl
        exact .tooLarge spells finite notSmall (high.mp above)
    · rename_i notBelow notAbove
      refine .valid (fun _ => Iff.rfl) fun rule wrong => ?_
      rcases breaks wrong with ⟨small, _⟩ | ⟨_, large, _⟩
      · exact notBelow (low.mpr small)
      · exact notAbove (high.mpr large)
  · rw [read]
    exact .value (fun _ => Iff.rfl) (breaks _)

end Numbers

theorem string_explains (v : Json) : string.Explains v (Check.string v).errors := by
  cases v with
  | str t =>
    refine .valid (fun _ => Iff.rfl) fun rule wrong => ?_
    cases wrong with
    | notString other => exact other t rfl
  | null | bool _ | int _ | float _ | arr _ | obj _ =>
    refine .value (fun _ => Iff.rfl) fun other => ⟨fun wrong => ?_, ?_⟩
    · cases wrong
      rfl
    · rintro rfl
      refine .notString fun t same => ?_
      cases same

theorem name_explains (v : Json) : name.Explains v (Check.nonEmptyString v).errors := by
  cases v with
  | str t =>
    cases t with
    | proper s =>
      by_cases empty : s = ""
      · subst empty
        refine .value (fun _ => Iff.rfl) fun other => ⟨fun wrong => ?_, ?_⟩
        · cases wrong with
          | notName improper => exact absurd rfl (improper _)
          | brokenName broken => cases broken
          | emptyName => rfl
        · rintro rfl
          exact .emptyName
      · have read : Check.nonEmptyString (.str (.proper s)) = .ok s := by
          show (if s.isEmpty then Checked.fail .nonEmpty else .ok s) = _
          rw [if_neg fun h => empty (String.isEmpty_iff.mp h)]
        rw [read]
        refine .valid (fun _ => Iff.rfl) fun rule wrong => ?_
        cases wrong with
        | notName improper => exact improper _ rfl
        | brokenName broken => cases broken
        | emptyName => exact empty rfl
    | broken before unit after =>
      refine .value (fun _ => Iff.rfl) fun other => ⟨fun wrong => ?_, ?_⟩
      · cases wrong with
        | notName none => exact absurd rfl (none _)
        | brokenName _ => rfl
      · rintro rfl
        exact .brokenName rfl
  | null | bool _ | int _ | float _ | arr _ | obj _ =>
    refine .value (fun _ => Iff.rfl) fun other => ⟨fun wrong => ?_, ?_⟩
    · cases wrong
      rfl
    · rintro rfl
      refine .notName fun t same => ?_
      cases same

theorem choice_explains (α : Type) [Named α] (v : Json) :
    (oneOf (Named.names α)).Explains v (Check.choice α v).errors := by
  have known (s : String) : (Named.ofName? (α := α) s).isSome = true ↔ s ∈ Named.names α := by
    unfold Named.ofName? Named.names
    rw [List.find?_isSome, List.mem_map]
    exact exists_congr fun a => and_congr_right fun _ => beq_iff_eq
  cases v with
  | str t =>
    cases t with
    | proper s =>
      cases found : Named.ofName? (α := α) s with
      | some a =>
        have read : Check.choice α (.str (.proper s)) = .ok a := by rw [Check.choice, found]
        have isKnown := (known s).mp (by rw [found]; rfl)
        rw [read]
        refine .valid (fun _ => Iff.rfl) fun rule wrong => ?_
        cases wrong with
        | brokenChoice broken => cases broken
        | notChoice none =>
          obtain ⟨_, unknown, same⟩ := none _ rfl
          cases same
          exact unknown isKnown
      | none =>
        have read : Check.choice α (.str (.proper s)) = .fail (.oneOf (Named.names α)) := by
          rw [Check.choice, found]
        have unknown : s ∉ Named.names α := by
          rw [← known, found]
          exact Bool.false_ne_true
        rw [read]
        refine .value (fun _ => Iff.rfl) fun other => ⟨fun wrong => ?_, ?_⟩
        · cases wrong with
          | brokenChoice broken => cases broken
          | notChoice _ => rfl
        · rintro rfl
          refine .notChoice fun t same => ?_
          cases same
          exact ⟨s, unknown, rfl⟩
    | broken before unit after =>
      refine .value (fun _ => Iff.rfl) fun other => ⟨fun wrong => ?_, ?_⟩
      · cases wrong with
        | brokenChoice _ => rfl
        | notChoice none =>
          obtain ⟨_, _, same⟩ := none _ rfl
          cases same
      · rintro rfl
        exact .brokenChoice rfl
  | null | bool _ | int _ | float _ | arr _ | obj _ =>
    refine .value (fun _ => Iff.rfl) fun other => ⟨fun wrong => ?_, ?_⟩
    · cases wrong
      rfl
    · rintro rfl
      refine .notChoice fun t same => ?_
      cases same

/-! ### Lists -/

section Lists

variable {least : ℕ} {most : Option ℕ} {item : Schema} {α : Type} {check : Json → Checked α}
  {vs : List Json}

theorem errors_items (vs : List Json) (i : ℕ) :
    (Check.items check i vs).errors =
      (vs.zipIdx i).flatMap fun p => (check p.1).errors.map (Violation.under (.index p.2)) := by
  induction vs generalizing i with
  | nil => rfl
  | cons v rest ih =>
    rw [Check.items, Collected.errors_app, Collected.errors_map, ih, List.zipIdx_cons,
      List.flatMap_cons]
    exact congrArg (· ++ _) (Collected.errors_relabel _ _)

theorem mem_errors_items {x : Violation} :
    x ∈ (Check.items check 0 vs).errors ↔ InItem (fun v x => x ∈ (check v).errors) (.arr vs) x := by
  rw [errors_items, List.mem_flatMap]
  constructor
  · rintro ⟨⟨v, i⟩, there, member⟩
    obtain ⟨y, inside, rfl⟩ := List.mem_map.mp member
    exact .intro (List.mem_zipIdx_iff_getElem?.mp there) inside
  · intro member
    obtain ⟨there, inside⟩ := member
    exact ⟨(_, _), List.mem_zipIdx_iff_getElem?.mpr there, List.mem_map_of_mem inside⟩

theorem items_explain (h : ∀ v, item.Explains v (check v).errors)
    (keeps : ∀ rule, ¬ (list least most item).Breaks (.arr vs) rule) :
    (list least most item).Explains (.arr vs) (Check.items check 0 vs).errors where
  sound := by
    intro x member
    obtain ⟨there, inside⟩ := mem_errors_items.mp member
    exact .inr (.intro there ((h _).sound _ inside))
  complete := by
    rintro x (own | part)
    · obtain ⟨breaks⟩ := own
      exact absurd breaks (keeps _)
    · obtain ⟨there, offends⟩ := part
      rcases (h _).complete _ offends with inside | ⟨y, inside, masks⟩
      · exact .inl (mem_errors_items.mpr (.intro there inside))
      · exact .inr ⟨_, mem_errors_items.mpr (.intro there inside), Violation.masks_under.mpr masks⟩
  apart := by
    intro x memberX y memberY masks
    obtain ⟨thereX, insideX⟩ := mem_errors_items.mp memberX
    obtain ⟨thereY, insideY⟩ := mem_errors_items.mp memberY
    obtain rfl := Segment.index.inj masks.same_segment
    cases thereX.symm.trans thereY
    exact (h _).apart _ insideX _ insideY (Violation.masks_under.mp masks)
  ordered := by
    intro distinct
    rw [errors_items, List.pairwise_flatMap]
    constructor
    · rintro ⟨v, i⟩ there
      have there := List.mem_zipIdx_iff_getElem?.mp there
      rw [List.pairwise_map]
      refine ((h v).ordered (distinct.getElem? there)).imp fun ⟨precedes, different⟩ => ?_
      exact ⟨.item there precedes, fun same => different (List.cons.inj same).2⟩
    · have ascending : ((vs.zipIdx 0).map Prod.snd).Pairwise (· < ·) := by
        rw [List.zipIdx_map_snd]
        exact List.pairwise_lt_range' 1
      refine (List.pairwise_map.mp ascending).imp fun {a b} less x memberX y memberY => ?_
      obtain ⟨x, _, rfl⟩ := List.mem_map.mp memberX
      obtain ⟨y, _, rfl⟩ := List.mem_map.mp memberY
      refine ⟨.items less, fun same => ?_⟩
      exact less.ne (Segment.index.inj (List.cons.inj same).1)

theorem notList_explains {v : Json} (other : ∀ vs, v ≠ .arr vs) :
    (list least most item).Explains v [⟨[], .list⟩] := by
  refine .here (.inl (.intro (.notList other))) ?_
  rintro x (own | part)
  · obtain ⟨breaks⟩ := own
    cases breaks with
    | notList _ => exact .inl rfl
    | tooLong _ => exact absurd rfl (other _)
    | tooShort _ _ => exact absurd rfl (other _)
  · obtain ⟨_, _⟩ := part
    exact absurd rfl (other _)

theorem list_explains (h : ∀ v, item.Explains v (check v).errors) (v : Json) :
    (list 0 none item).Explains v (Check.list check v).errors := by
  cases v with
  | arr vs =>
    refine items_explain h fun rule wrong => ?_
    cases wrong with
    | notList other => exact other vs rfl
    | tooShort _ short => exact Nat.not_lt_zero _ short
  | null | bool _ | int _ | float _ | str _ | obj _ =>
    refine notList_explains fun vs same => ?_
    cases same

theorem boundedList_explains (h : ∀ v, item.Explains v (check v).errors) {least most : ℕ}
    (small : least ≤ 1) (v : Json) :
    (list least (some most) item).Explains v (Check.boundedList least most check v).errors := by
  cases v with
  | arr vs =>
    unfold Check.boundedList
    dsimp only
    split
    · rename_i long
      refine .here (.inl (.intro (.tooLong long))) ?_
      rintro x (own | part)
      · obtain ⟨breaks⟩ := own
        cases breaks with
        | notList other => exact absurd rfl (other vs)
        | tooLong _ => exact .inl rfl
        | tooShort notLong _ => exact absurd long (not_lt.mpr (notLong most rfl))
      · obtain ⟨there, offends⟩ := part
        exact .inr ⟨.inl ⟨_, _, rfl⟩, _, _, rfl⟩
    rename_i notLong
    split
    · rename_i short
      refine .here (.inl (.intro (.tooShort ?_ short))) ?_
      · rintro _ ⟨⟩
        exact not_lt.mp notLong
      rintro x (own | part)
      · obtain ⟨breaks⟩ := own
        cases breaks with
        | notList other => exact absurd rfl (other vs)
        | tooLong long => exact absurd long notLong
        | tooShort _ _ => exact .inl rfl
      · obtain ⟨there, offends⟩ := part
        have empty : vs = [] := List.eq_nil_of_length_eq_zero (by omega)
        rw [empty] at there
        cases there
    · rename_i notShort
      refine items_explain h fun rule wrong => ?_
      cases wrong with
      | notList other => exact other vs rfl
      | tooLong long => exact notLong long
      | tooShort _ short => exact notShort short
  | null | bool _ | int _ | float _ | str _ | obj _ =>
    refine notList_explains fun vs same => ?_
    cases same

end Lists

/-! ### Objects -/

section Objects

def requiredErrors (errs : String → Json → List Violation) (fields : Fields) (k : String) :
    List Violation :=
  match Fields.get? fields k with
  | some v => (errs k v).map (Violation.under (.key k))
  | none => [⟨[.key k], .required⟩]

/-- The violations of a field that may be absent or null. -/
def optionalErrors (errs : String → Json → List Violation) (fields : Fields) (k : String) :
    List Violation :=
  match Fields.get? fields k with
  | none | some .null => []
  | some v => (errs k v).map (Violation.under (.key k))

@[simp] theorem errors_required {α : Type} (check : Json → Checked α) (fields : Fields)
    (k : String) :
    (Check.required fields k check).errors =
      requiredErrors (fun _ v => (check v).errors) fields k := by
  unfold Check.required requiredErrors
  cases Fields.get? fields k with
  | none => rfl
  | some v => exact Collected.errors_relabel _ _

@[simp] theorem errors_optional {α : Type} (check : Json → Checked α) (fields : Fields)
    (k : String) :
    (Check.optional fields k check).errors =
      optionalErrors (fun _ v => (check v).errors) fields k := by
  unfold Check.optional optionalErrors
  cases Fields.get? fields k with
  | none => rfl
  | some v =>
    cases v with
    | null => rfl
    | bool _ | int _ | float _ | str _ | arr _ | obj _ =>
      exact (Collected.errors_map _ _).trans (Collected.errors_relabel _ _)

variable {kind : Kind} {required optional : List String} {field : String → Schema}
  {errs : String → Json → List Violation} {fields : Fields}

/-- The violations in an object all of whose keys are proper. -/
def fieldErrors (required optional : List String) (errs : String → Json → List Violation)
    (fields : Fields) : List Violation :=
  required.flatMap (requiredErrors errs fields) ++ optional.flatMap (optionalErrors errs fields) ++
    Check.extras (required ++ optional) fields

theorem mem_extras {known : List String} {x : Violation} :
    x ∈ Check.extras known fields ↔ ∃ key ∈ Fields.keys fields,
      (∀ k ∈ known, key ≠ .proper k) ∧ ⟨[.key key], .noExtra⟩ = x := by
  unfold Check.extras
  rw [List.mem_map]
  refine exists_congr fun key => ?_
  rw [List.mem_filter, and_assoc, Bool.not_eq_true', ← Bool.not_eq_true, List.contains_iff_mem,
    List.mem_map]
  refine and_congr_right fun _ => and_congr_left fun _ => ?_
  constructor
  · exact fun absent k known same => absent ⟨k, known, same.symm⟩
  · rintro unknown ⟨k, known, same⟩
    exact unknown k known same.symm

theorem mem_fieldErrors {x : Violation} :
    x ∈ fieldErrors required optional errs fields ↔
      InField required optional (fun k v x => x ∈ errs k v) (.obj fields) x := by
  unfold fieldErrors
  rw [List.mem_append, List.mem_append, List.mem_flatMap, List.mem_flatMap, mem_extras]
  constructor
  · rintro ((⟨k, declared, member⟩ | ⟨k, declared, member⟩) | ⟨key, there, unknown, rfl⟩)
    · unfold requiredErrors at member
      split at member
      · rename_i v there
        obtain ⟨y, inside, rfl⟩ := List.mem_map.mp member
        exact .required declared there inside
      · rename_i absent
        rw [List.mem_singleton.mp member]
        exact .missing declared absent
    · unfold optionalErrors at member
      split at member
      · cases member
      · cases member
      · rename_i v isNull there
        obtain ⟨y, inside, rfl⟩ := List.mem_map.mp member
        exact .optional declared there (fun null => isNull null) inside
    · exact .unknown there unknown
  · intro h
    cases h with
    | missing declared absent =>
      refine .inl (.inl ⟨_, declared, ?_⟩)
      rw [requiredErrors, absent]
      exact List.mem_singleton.mpr rfl
    | unknown there unknown => exact .inr ⟨_, there, unknown, rfl⟩
    | required declared there inside =>
      refine .inl (.inl ⟨_, declared, ?_⟩)
      rw [requiredErrors, there]
      exact List.mem_map_of_mem inside
    | optional declared there given inside =>
      refine .inl (.inr ⟨_, declared, ?_⟩)
      unfold optionalErrors
      rw [there]
      split
      · rename_i wrong
        cases wrong
      · rename_i wrong
        exact absurd (Option.some.inj wrong) given
      · rename_i u _ same
        cases same
        exact List.mem_map_of_mem inside

/-- A violation in an object is in the value of a field, or it is one of the field itself. -/
theorem InField.part {x : Violation}
    (h : InField required optional (fun k v x => x ∈ errs k v) (.obj fields) x) :
    ∃ key y, x = y.under (.key key) ∧
      (y.path = [] ∧ (y.rule = .required ∨ y.rule = .noExtra) ∨
        ∃ k ∈ required ++ optional, ∃ v, key = .proper k ∧ Fields.get? fields k = some v ∧
          y ∈ errs k v) := by
  cases h with
  | missing _ _ => exact ⟨_, ⟨[], .required⟩, rfl, .inl ⟨rfl, .inl rfl⟩⟩
  | unknown _ _ => exact ⟨_, ⟨[], .noExtra⟩, rfl, .inl ⟨rfl, .inr rfl⟩⟩
  | required declared there inside =>
    exact ⟨_, _, rfl, .inr ⟨_, List.mem_append_left _ declared, _, rfl, there, inside⟩⟩
  | optional declared there _ inside =>
    exact ⟨_, _, rfl, .inr ⟨_, List.mem_append_right _ declared, _, rfl, there, inside⟩⟩

theorem path_of_required {k : String} {x : Violation}
    (member : x ∈ requiredErrors errs fields k) : ∃ p, x.path = .key k :: p := by
  unfold requiredErrors at member
  split at member
  · obtain ⟨y, _, rfl⟩ := List.mem_map.mp member
    exact ⟨_, rfl⟩
  · rw [List.mem_singleton.mp member]
    exact ⟨_, rfl⟩

theorem path_of_optional {k : String} {x : Violation}
    (member : x ∈ optionalErrors errs fields k) : ∃ p, x.path = .key k :: p := by
  unfold optionalErrors at member
  split at member
  · cases member
  · cases member
  · obtain ⟨y, _, rfl⟩ := List.mem_map.mp member
    exact ⟨_, rfl⟩

theorem nodup_keyOrder {known : List String} (declared : known.Nodup)
    (distinct : (Fields.keys fields).Nodup) : (keyOrder known fields).Nodup := by
  refine List.Nodup.append ?_ (distinct.filter _) ?_
  · exact declared.map fun _ _ => LooseText.proper.inj
  · intro key member unknown
    have absent := (List.mem_filter.mp unknown).2
    rw [Bool.not_eq_true', ← Bool.not_eq_true, List.contains_iff_mem] at absent
    exact absent member

theorem pairwise_keyOrder {R : LooseText → LooseText → Prop}
    (ordered : (keyOrder (required ++ optional) fields).Pairwise R) :
    (required.Pairwise (fun k k' : String => R k k') ∧
        optional.Pairwise (fun k k' : String => R k k') ∧
        ∀ k ∈ required, ∀ k' ∈ optional, R k k') ∧
      (unknownKeys (required ++ optional) fields).Pairwise R ∧
        ∀ k ∈ required ++ optional, ∀ key ∈ unknownKeys (required ++ optional) fields, R k key := by
  unfold keyOrder at ordered
  rw [List.pairwise_append, List.pairwise_map, List.pairwise_append] at ordered
  obtain ⟨known, unknown, across⟩ := ordered
  exact ⟨known, unknown, fun k declared => across k (List.mem_map_of_mem declared)⟩

variable (h : ∀ k ∈ required ++ optional, ∀ v, (field k).Explains v (errs k v))

include h

theorem fieldErrors_ordered (declared : (required ++ optional).Nodup)
    (distinct : Json.HasDistinctKeys (.obj fields)) :
    (fieldErrors required optional errs fields).Pairwise fun x y =>
      (object kind required optional field).Precedes (.obj fields) x.path y.path ∧
        x.path ≠ y.path := by
  let order := keyOrder (required ++ optional) fields
  have ordered : order.Pairwise fun key key' => [key, key'].Sublist order ∧ key ≠ key' := by
    rw [List.pairwise_iff_forall_sublist]
    intro key key' sublist
    refine ⟨sublist, ?_⟩
    have distinct := sublist.nodup (nodup_keyOrder declared distinct.keys)
    exact fun same => (List.nodup_cons.mp distinct).1 (List.mem_singleton.mpr same)
  -- Two violations are in different fields, or both in one.
  have across {key key' : LooseText} {x y : Violation}
      (before : [key, key'].Sublist order ∧ key ≠ key')
      (pathX : ∃ p, x.path = .key key :: p) (pathY : ∃ p, y.path = .key key' :: p) :
      (object kind required optional field).Precedes (.obj fields) x.path y.path ∧
        x.path ≠ y.path := by
    obtain ⟨p, pathX⟩ := pathX
    obtain ⟨p', pathY⟩ := pathY
    rw [pathX, pathY]
    exact ⟨.fields before.1, fun same => before.2 (Segment.key.inj (List.cons.inj same).1)⟩
  have within {k : String} {v : Json} (member : k ∈ required ++ optional)
      (there : Fields.get? fields k = some v) :
      ((errs k v).map (Violation.under (.key k))).Pairwise fun x y =>
        (object kind required optional field).Precedes (.obj fields) x.path y.path ∧
          x.path ≠ y.path := by
    rw [List.pairwise_map]
    refine ((h k member v).ordered (distinct.get? there)).imp fun ⟨precedes, different⟩ => ?_
    exact ⟨.field there precedes, fun same => different (List.cons.inj same).2⟩
  obtain ⟨⟨inRequired, inOptional, acrossKnown⟩, inUnknown, acrossUnknown⟩ :=
    pairwise_keyOrder ordered
  unfold fieldErrors
  rw [List.pairwise_append, List.pairwise_append, List.pairwise_flatMap, List.pairwise_flatMap]
  refine ⟨⟨⟨fun k member => ?_, ?_⟩, ⟨fun k member => ?_, ?_⟩, ?_⟩, ?_, ?_⟩
  · unfold requiredErrors
    split
    · rename_i v there
      exact within (List.mem_append_left _ member) there
    · exact List.pairwise_singleton _ _
  · exact inRequired.imp fun before x memberX y memberY =>
      across before (path_of_required memberX) (path_of_required memberY)
  · unfold optionalErrors
    split
    · exact .nil
    · exact .nil
    · rename_i v _ there
      exact within (List.mem_append_right _ member) there
  · exact inOptional.imp fun before x memberX y memberY =>
      across before (path_of_optional memberX) (path_of_optional memberY)
  · intro x memberX y memberY
    obtain ⟨k, declared, memberX⟩ := List.mem_flatMap.mp memberX
    obtain ⟨k', declared', memberY⟩ := List.mem_flatMap.mp memberY
    exact across (acrossKnown k declared k' declared') (path_of_required memberX)
      (path_of_optional memberY)
  · exact List.pairwise_map.mpr (inUnknown.imp fun before => across before ⟨_, rfl⟩ ⟨_, rfl⟩)
  · intro x memberX y memberY
    obtain ⟨key', unknown, rfl⟩ := List.mem_map.mp memberY
    have known : ∃ k ∈ required ++ optional, ∃ p, x.path = .key k :: p := by
      rcases List.mem_append.mp memberX with memberX | memberX
      · obtain ⟨k, declared, memberX⟩ := List.mem_flatMap.mp memberX
        exact ⟨k, List.mem_append_left _ declared, path_of_required memberX⟩
      · obtain ⟨k, declared, memberX⟩ := List.mem_flatMap.mp memberX
        exact ⟨k, List.mem_append_right _ declared, path_of_optional memberX⟩
    obtain ⟨k, declared, pathX⟩ := known
    exact across (acrossUnknown k declared key' unknown) pathX ⟨_, rfl⟩

theorem fields_explain (declared : (required ++ optional).Nodup)
    (proper : ∀ key ∈ Fields.keys fields, key.isProper = true) :
    (object kind required optional field).Explains (.obj fields)
      (fieldErrors required optional errs fields) where
  sound := by
    intro x member
    refine .inr ?_
    cases mem_fieldErrors.mp member with
    | missing declared absent => exact .missing declared absent
    | unknown there unknown => exact .unknown there unknown
    | required declared there inside =>
      exact .required declared there ((h _ (List.mem_append_left _ declared) _).sound _ inside)
    | optional declared there given inside =>
      exact .optional declared there given
        ((h _ (List.mem_append_right _ declared) _).sound _ inside)
  complete := by
    rintro x (own | part)
    · obtain ⟨breaks⟩ := own
      cases breaks with
      | notObject other => exact absurd rfl (other fields)
      | brokenKey there broken => cases (proper _ there).symm.trans broken
    · cases part with
      | missing declared absent => exact .inl (mem_fieldErrors.mpr (.missing declared absent))
      | unknown there unknown => exact .inl (mem_fieldErrors.mpr (.unknown there unknown))
      | required declared there offends =>
        rcases (h _ (List.mem_append_left _ declared) _).complete _ offends with
          inside | ⟨y, inside, masks⟩
        · exact .inl (mem_fieldErrors.mpr (.required declared there inside))
        · exact .inr ⟨_, mem_fieldErrors.mpr (.required declared there inside),
            Violation.masks_under.mpr masks⟩
      | optional declared there given offends =>
        rcases (h _ (List.mem_append_right _ declared) _).complete _ offends with
          inside | ⟨y, inside, masks⟩
        · exact .inl (mem_fieldErrors.mpr (.optional declared there given inside))
        · exact .inr ⟨_, mem_fieldErrors.mpr (.optional declared there given inside),
            Violation.masks_under.mpr masks⟩
  apart := by
    intro x memberX y memberY masks
    obtain ⟨key, x, rfl, partX⟩ := (mem_fieldErrors.mp memberX).part
    obtain ⟨key', y, rfl, partY⟩ := (mem_fieldErrors.mp memberY).part
    obtain rfl := Segment.key.inj masks.same_segment
    replace masks := Violation.masks_under.mp masks
    rcases partX with ⟨here, _⟩ | ⟨k, declared, v, rfl, there, insideX⟩
    · exact Violation.not_masks_of_path _ here masks
    rcases partY with ⟨_, rule⟩ | ⟨k', _, v', same, there', insideY⟩
    · rcases masks.1 with ⟨most, actual, long⟩ | broken
      · rcases rule with rule | rule
        · cases long.symm.trans rule
        · cases long.symm.trans rule
      · rcases rule with rule | rule
        · cases broken.symm.trans rule
        · cases broken.symm.trans rule
    · cases same
      cases there.symm.trans there'
      exact (h k declared v).apart _ insideX _ insideY masks
  ordered := fieldErrors_ordered h declared

omit h in
theorem closedObject_explains {α : Type} {read : Fields → Checked α}
    (errs : String → Json → List Violation) (declared : (required ++ optional).Nodup)
    (h : ∀ k ∈ required ++ optional, ∀ v, (field k).Explains v (errs k v))
    (reads : ∀ fields, (read fields).errors = required.flatMap (requiredErrors errs fields) ++
      optional.flatMap (optionalErrors errs fields)) (v : Json) :
    (object kind required optional field).Explains v
      (Check.closedObject .unknownLast kind (required ++ optional) read v).errors := by
  cases v with
  | obj fields =>
    unfold Check.closedObject Check.object
    dsimp only
    split
    · rename_i proper
      rw [Collected.errors_rejecting, if_neg (by decide), reads]
      exact fields_explain h declared (List.all_eq_true.mp proper)
    · rename_i improper
      rw [List.all_eq_true] at improper
      push Not at improper
      obtain ⟨key, there, broken⟩ := improper
      refine .here (.inl (.intro (.brokenKey there (eq_false_of_ne_true broken)))) ?_
      rintro x (own | part)
      · obtain ⟨breaks⟩ := own
        cases breaks with
        | notObject other => exact absurd rfl (other fields)
        | brokenKey _ _ => exact .inl rfl
      · refine .inr ⟨.inr rfl, ?_⟩
        cases part with
        | missing _ _ => exact ⟨_, _, rfl⟩
        | unknown _ _ => exact ⟨_, _, rfl⟩
        | required _ _ _ => exact ⟨_, _, rfl⟩
        | optional _ _ _ _ => exact ⟨_, _, rfl⟩
  | null | bool _ | int _ | float _ | str _ | arr _ =>
    refine .here (.inl (.intro (.notObject fun fields same => ?_))) ?_
    · cases same
    · rintro x (own | part)
      · obtain ⟨breaks⟩ := own
        cases breaks
        exact .inl rfl
      · cases part

end Objects

end Schema

/-! ### Names -/

namespace IsFirstRepeated

variable {names : List String} {name : String}

theorem not_nodup (h : IsFirstRepeated names name) : ¬ names.Nodup := by
  obtain ⟨before, after, rfl, -, again⟩ := h
  intro distinct
  exact List.disjoint_of_nodup_append distinct again List.mem_cons_self

theorem unique {other : String} (h : IsFirstRepeated names name)
    (h' : IsFirstRepeated names other) : other = name := by
  obtain ⟨before, after, rfl, distinct, again⟩ := h
  obtain ⟨before', after', same, distinct', again'⟩ := h'
  rcases List.append_eq_append_iff.mp same with ⟨more, rfl, rest⟩ | ⟨more, rfl, rest⟩
  · cases more with
    | nil => exact (List.cons.inj rest).1.symm
    | cons first more =>
      cases rest
      exact absurd List.mem_cons_self (List.disjoint_of_nodup_append distinct' again)
  · cases more with
    | nil => exact (List.cons.inj rest).1
    | cons first more =>
      cases rest
      exact absurd List.mem_cons_self (List.disjoint_of_nodup_append distinct again')

end IsFirstRepeated

theorem SceneObject.isFirstRepeated_of_firstRepeated {seen : List String} {os : List SceneObject}
    {name : String} (distinct : seen.Nodup) (h : firstRepeated seen os = some name) :
    IsFirstRepeated (seen.reverse ++ os.map SceneObject.name) name := by
  induction os generalizing seen with
  | nil => cases h
  | cons o rest ih =>
    unfold firstRepeated at h
    split at h
    · rename_i isSeen
      cases h
      exact ⟨seen.reverse, rest.map SceneObject.name, rfl, List.nodup_reverse.mpr distinct,
        List.mem_reverse.mpr (List.contains_iff_mem.mp isSeen)⟩
    · rename_i notSeen
      have fresh : o.name ∉ seen := fun isSeen => notSeen (List.contains_iff_mem.mpr isSeen)
      have later := ih (List.nodup_cons.mpr ⟨fresh, distinct⟩) h
      rw [List.reverse_cons, List.append_assoc] at later
      exact later

namespace Schema

variable {items : Schema}

/-- Of items with other violations the names do not matter. -/
theorem named_explains_wrong {v : Json} {vs : List Violation} (h : items.Explains v vs)
    (wrong : vs ≠ []) : (named items).Explains v vs where
  sound x member := .inl (h.sound x member)
  complete := by
    rintro x (offends | ⟨nothing, _⟩)
    · exact h.complete x offends
    · obtain ⟨y, member⟩ := List.exists_mem_of_ne_nil vs wrong
      exact absurd (h.sound y member) (nothing y)
  apart := h.apart
  ordered distinct := (h.ordered distinct).imp fun ⟨precedes, different⟩ =>
    ⟨.named precedes, different⟩

variable {us : List Json} (h : items.Explains (.arr us) [])

include h

theorem Explains.nothing_offends (x : Violation) : ¬ items.Offends (.arr us) x := by
  intro offends
  rcases h.complete x offends with member | ⟨y, member, _⟩
  · cases member
  · cases member

theorem named_explains_repeated {name : String}
    (first : IsFirstRepeated (us.filterMap Json.itemName?) name) :
    (named items).Explains (.arr us) [⟨[], .uniqueNames name⟩] := by
  refine .here (.inr ⟨h.nothing_offends, .intro first⟩) ?_
  rintro x (offends | ⟨_, repeats⟩)
  · exact absurd offends (h.nothing_offends x)
  · obtain ⟨other⟩ := repeats
    rw [first.unique other]
    exact .inl rfl

theorem named_explains_distinct (distinct : (us.filterMap Json.itemName?).Nodup) :
    (named items).Explains (.arr us) [] := by
  refine .nothing ?_
  rintro x (offends | ⟨_, repeats⟩)
  · exact h.nothing_offends x offends
  · obtain ⟨first⟩ := repeats
    exact first.not_nodup distinct

end Schema

end RayScene
