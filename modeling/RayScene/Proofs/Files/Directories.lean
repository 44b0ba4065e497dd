import RayScene.Proofs.Files.Tree

/-!
# Making directories

After a directory was made it is there (`isDirectory_makeDirectories`), one that is there is not
made again (`makeDirectories_of_isDirectory`), and what was made on a way that failed halfway is all
that another attempt would make (`makeDirectories_again`).
-/

namespace RayScene.Files

theorem makeDirectory_ok {fs fs' : Files} {p : Path} (h : fs.makeDirectory p = .ok fs') :
    ∃ l, fs.locate p = .ok l ∧ fs.at? l = none ∧ fs' = fs.set l .directory := by
  unfold makeDirectory at h
  cases located : fs.locate p with
  | error problem =>
    rw [located] at h
    cases h
  | ok l =>
    rw [located] at h
    dsimp only at h
    split at h
    case h_1 free =>
      cases h
      exact ⟨l, rfl, free, rfl⟩
    case h_2 => cases h

theorem leadsTo_makeDirectory {fs fs' : Files} {p : Path} (h : fs.makeDirectory p = .ok fs') :
    ∃ l, fs'.LeadsTo p l := by
  obtain ⟨l, located, free, rfl⟩ := makeDirectory_ok h
  have noDirectory := at?_ne_directory free
  exact ⟨l, locate_set _ noDirectory located, at?_set_same (isGround_of_at? noDirectory) _⟩

theorem makeDirectory_of_leadsTo {fs : Files} {p : Path} {l : Location} (h : fs.LeadsTo p l) :
    fs.makeDirectory p = .error .exists := by
  unfold makeDirectory
  rw [h.1]
  dsimp only
  rw [h.2]

theorem settle_ok {fs : Files} {p : Path} {problem : FileProblem}
    (h : fs.settle p problem = .ok ()) : fs.isDirectory p = .ok true := by
  unfold settle at h
  split at h
  case isTrue there =>
    cases directory : fs.isDirectory p with
    | error e =>
      rw [directory] at there
      cases there.2
    | ok b =>
      rw [directory] at there
      exact congrArg _ (Option.some.inj there.2)
  case isFalse => cases h

theorem settle_of_isDirectory {fs : Files} {p : Path} (h : fs.isDirectory p = .ok true) :
    fs.settle p .exists = .ok () := by
  have found : FileProblem.exists ≠ .notFound := fun same => by cases same
  unfold settle
  rw [h, if_pos ⟨found, rfl⟩]

section From

variable {fs fs' : Files} {root : String} {parts : List String}

theorem makeDirectoriesFrom_made (h : fs.makeDirectory ⟨root, parts.reverse⟩ = .ok fs') :
    fs.makeDirectoriesFrom root parts = (fs', .ok ()) := by
  cases parts with
  | nil =>
    have path : fs.makeDirectory ⟨root, []⟩ = .ok fs' := h
    rw [makeDirectoriesFrom, path]
  | cons last before =>
    rw [makeDirectoriesFrom, h]

theorem makeDirectoriesFrom_refused {problem : FileProblem}
    (h : fs.makeDirectory ⟨root, parts.reverse⟩ = .error problem)
    (other : problem = .notFound → parts = []) :
    fs.makeDirectoriesFrom root parts = (fs, fs.settle ⟨root, parts.reverse⟩ problem) := by
  cases parts with
  | nil =>
    have path : fs.makeDirectory ⟨root, []⟩ = .error problem := h
    rw [makeDirectoriesFrom, path]
    rfl
  | cons last before =>
    rw [makeDirectoriesFrom, h]
    cases problem with
    | notFound => exact absurd (other rfl) (List.cons_ne_nil _ _)
    | «exists» => rfl
    | notDirectory => rfl
    | isDirectory => rfl
    | nameTooLong => rfl

theorem makeDirectoriesFrom_above {last : String} {before : List String}
    (h : fs.makeDirectory ⟨root, (last :: before).reverse⟩ = .error .notFound) :
    fs.makeDirectoriesFrom root (last :: before) =
      match fs.makeDirectoriesFrom root before with
      | (fs', .error e) => (fs', .error e)
      | (fs', .ok ()) =>
        match fs'.makeDirectory ⟨root, (last :: before).reverse⟩ with
        | .ok fs'' => (fs'', .ok ())
        | .error problem => (fs', fs'.settle ⟨root, (last :: before).reverse⟩ problem) := by
  rcases above : fs.makeDirectoriesFrom root before with ⟨fs₁, e | done⟩
  · simp only [makeDirectoriesFrom, h, above]
  · cases retry : fs₁.makeDirectory ⟨root, (last :: before).reverse⟩ with
    | ok fs₂ => simp only [makeDirectoriesFrom, h, above, retry]
    | error problem => simp only [makeDirectoriesFrom, h, above, retry]

theorem makeDirectoriesFrom_of_isDirectory (h : fs.isDirectory ⟨root, parts.reverse⟩ = .ok true) :
    fs.makeDirectoriesFrom root parts = (fs, .ok ()) := by
  obtain ⟨_, l, leads⟩ := isDirectory_true.mp h
  rw [makeDirectoriesFrom_refused (makeDirectory_of_leadsTo leads) (fun same => by cases same),
    settle_of_isDirectory h]

theorem isDirectory_makeDirectoriesFrom
    (noNull : Path.hasNullCharacter ⟨root, parts.reverse⟩ = false)
    (h : fs.makeDirectoriesFrom root parts = (fs', .ok ())) :
    fs'.isDirectory ⟨root, parts.reverse⟩ = .ok true := by
  have made {fs₁ fs₂ : Files} (h : fs₁.makeDirectory ⟨root, parts.reverse⟩ = .ok fs₂) :
      fs₂.isDirectory ⟨root, parts.reverse⟩ = .ok true :=
    isDirectory_true.mpr ⟨noNull, leadsTo_makeDirectory h⟩
  cases attempt : fs.makeDirectory ⟨root, parts.reverse⟩ with
  | ok fs₁ =>
    rw [makeDirectoriesFrom_made attempt] at h
    cases h
    exact made attempt
  | error problem =>
    by_cases other : problem = .notFound → parts = []
    · rw [makeDirectoriesFrom_refused attempt other] at h
      obtain ⟨rfl, settled⟩ := Prod.mk.inj h
      exact settle_ok settled
    obtain ⟨rfl, nonempty⟩ := Classical.not_imp.mp other
    obtain ⟨last, before, rfl⟩ := List.exists_cons_of_ne_nil nonempty
    rw [makeDirectoriesFrom_above attempt] at h
    split at h
    case h_1 => cases h
    case h_2 fs₁ above =>
      cases again : fs₁.makeDirectory ⟨root, (last :: before).reverse⟩ with
      | ok fs₂ =>
        rw [again] at h
        cases h
        exact made again
      | error problem =>
        rw [again] at h
        obtain ⟨rfl, settled⟩ := Prod.mk.inj h
        exact settle_ok settled

section Again

variable {last : String} {before : List String} {e : AccessError}

theorem child_reverse :
    (⟨root, (last :: before).reverse⟩ : Path) = Path.child ⟨root, before.reverse⟩ last := by
  rw [Path.child, List.reverse_cons]

/-- Where the directory above cannot be made, nothing is made below it. -/
theorem makeDirectoriesFrom_below
    (noNull : Path.hasNullCharacter ⟨root, (last :: before).reverse⟩ = false)
    (above : fs.makeDirectoriesFrom root before = (fs, .error e)) :
    ∃ e', fs.makeDirectoriesFrom root (last :: before) = (fs, .error e') := by
  have nowhere (l : Location) : fs.locate ⟨root, (last :: before).reverse⟩ ≠ .ok l := by
    intro located
    rw [child_reverse] at located noNull
    rw [makeDirectoriesFrom_of_isDirectory (isDirectory_of_locate_child noNull located)] at above
    cases (Prod.mk.inj above).2
  cases attempt : fs.makeDirectory ⟨root, (last :: before).reverse⟩ with
  | ok fs' =>
    obtain ⟨l, located, _⟩ := makeDirectory_ok attempt
    exact absurd located (nowhere l)
  | error problem =>
    by_cases missing : problem = .notFound
    · subst missing
      exact ⟨e, by rw [makeDirectoriesFrom_above attempt, above]⟩
    rw [makeDirectoriesFrom_refused attempt (fun same => absurd same missing)]
    cases settled : fs.settle ⟨root, (last :: before).reverse⟩ problem with
    | error e' => exact ⟨e', rfl⟩
    | ok done =>
      obtain ⟨_, l, located, _⟩ := isDirectory_true.mp (settle_ok settled)
      exact absurd located (nowhere l)

theorem makeDirectoriesFrom_last {problem : FileProblem}
    (above : fs.makeDirectoriesFrom root before = (fs, .ok ()))
    (attempt : fs.makeDirectory ⟨root, (last :: before).reverse⟩ = .error problem) :
    fs.makeDirectoriesFrom root (last :: before) =
      (fs, fs.settle ⟨root, (last :: before).reverse⟩ problem) := by
  by_cases missing : problem = .notFound
  · subst missing
    rw [makeDirectoriesFrom_above attempt, above]
    dsimp only
    rw [attempt]
  · exact makeDirectoriesFrom_refused attempt (fun same => absurd same missing)

/-- An attempt that failed fails again, and makes nothing more. -/
theorem makeDirectoriesFrom_again
    (noNull : Path.hasNullCharacter ⟨root, parts.reverse⟩ = false)
    (h : fs.makeDirectoriesFrom root parts = (fs', .error e)) :
    ∃ e', fs'.makeDirectoriesFrom root parts = (fs', .error e') := by
  induction parts generalizing fs fs' e with
  | nil =>
    cases attempt : fs.makeDirectory ⟨root, [].reverse⟩ with
    | ok fs₁ =>
      rw [makeDirectoriesFrom_made attempt] at h
      cases h
    | error problem =>
      have refused := h
      rw [makeDirectoriesFrom_refused attempt (fun _ => rfl)] at refused
      obtain ⟨rfl, _⟩ := Prod.mk.inj refused
      exact ⟨e, h⟩
  | cons last before ih =>
    have noNullAbove : Path.hasNullCharacter ⟨root, before.reverse⟩ = false := by
      rw [child_reverse, Path.hasNullCharacter_child, Bool.or_eq_false_iff] at noNull
      exact noNull.1
    cases attempt : fs.makeDirectory ⟨root, (last :: before).reverse⟩ with
    | ok fs₁ =>
      rw [makeDirectoriesFrom_made attempt] at h
      cases h
    | error problem =>
      by_cases other : problem = .notFound → last :: before = []
      · have refused := h
        rw [makeDirectoriesFrom_refused attempt other] at refused
        obtain ⟨rfl, _⟩ := Prod.mk.inj refused
        exact ⟨e, h⟩
      obtain ⟨rfl, _⟩ := Classical.not_imp.mp other
      rw [makeDirectoriesFrom_above attempt] at h
      rcases upper : fs.makeDirectoriesFrom root before with ⟨fs₁, e₁ | done⟩
      · rw [upper] at h
        cases h
        obtain ⟨e', upperAgain⟩ := ih noNullAbove upper
        exact makeDirectoriesFrom_below noNull upperAgain
      · have upperAgain := makeDirectoriesFrom_of_isDirectory
          (isDirectory_makeDirectoriesFrom noNullAbove upper)
        rw [upper] at h
        dsimp only at h
        cases retry : fs₁.makeDirectory ⟨root, (last :: before).reverse⟩ with
        | ok fs₂ =>
          rw [retry] at h
          cases h
        | error problem =>
          rw [retry] at h
          obtain ⟨rfl, settled⟩ := Prod.mk.inj h
          exact ⟨e, by rw [makeDirectoriesFrom_last upperAgain retry, settled]⟩

end Again

/-- What making any of the directories on the way keeps, making them all keeps. -/
theorem makeDirectoriesFrom_preserves {P : Files → Prop} {parts : List String}
    (step : ∀ {fs fs' : Files} {before : List String}, before <:+ parts → P fs →
      fs.makeDirectory ⟨root, before.reverse⟩ = .ok fs' → P fs') (h : P fs) :
    P (fs.makeDirectoriesFrom root parts).1 := by
  induction parts generalizing fs with
  | nil =>
    cases attempt : fs.makeDirectory ⟨root, [].reverse⟩ with
    | ok fs₁ =>
      rw [makeDirectoriesFrom_made attempt]
      exact step List.suffix_rfl h attempt
    | error problem =>
      rw [makeDirectoriesFrom_refused attempt (fun _ => rfl)]
      exact h
  | cons last before ih =>
    cases attempt : fs.makeDirectory ⟨root, (last :: before).reverse⟩ with
    | ok fs₁ =>
      rw [makeDirectoriesFrom_made attempt]
      exact step List.suffix_rfl h attempt
    | error problem =>
      by_cases other : problem = .notFound → last :: before = []
      · rw [makeDirectoriesFrom_refused attempt other]
        exact h
      obtain ⟨rfl, _⟩ := Classical.not_imp.mp other
      have above := ih (fun shorter => step (shorter.trans (List.suffix_cons last before))) h
      rw [makeDirectoriesFrom_above attempt]
      rcases upper : fs.makeDirectoriesFrom root before with ⟨fs₁, e | done⟩
      · rwa [upper] at above
      · rw [upper] at above
        dsimp only
        cases retry : fs₁.makeDirectory ⟨root, (last :: before).reverse⟩ with
        | ok fs₂ => exact step List.suffix_rfl above retry
        | error problem => exact above

end From

variable {fs : Files} {p : Path}

theorem makeDirectories_preserves {P : Files → Prop}
    (step : ∀ {fs fs' : Files} {before : List String}, before <+: p.parts → P fs →
      fs.makeDirectory ⟨p.root, before⟩ = .ok fs' → P fs') (h : P fs) :
    P (fs.makeDirectories p).1 := by
  unfold makeDirectories
  split
  · exact h
  refine makeDirectoriesFrom_preserves (fun {_ _ before} shorter kept made => ?_) h
  have start : before.reverse <+: p.parts := by
    rwa [← List.reverse_suffix, List.reverse_reverse]
  exact step start kept made

/-- On a path of plain names nothing is made that is deeper than the path. -/
theorem makeDirectories_deeper (plain : ∀ name ∈ p.parts, IsPlain name) {l : Location}
    (deeper : (start p.root ++ p.parts).length < l.length)
    (there : l ∈ (fs.makeDirectories p).1.locations) : l ∈ fs.locations := by
  refine makeDirectories_preserves (P := fun made => l ∈ made.locations → l ∈ fs.locations) ?_ id
    there
  intro before after names shorter kept made member
  obtain ⟨location, located, _, rfl⟩ := makeDirectory_ok made
  have straight := locate_plain (fun name part => plain name (shorter.subset part)) located
  rw [locations_set] at member
  split at member
  case isTrue => exact kept member
  case isFalse =>
    rcases List.mem_append.mp member with old | new
    · exact kept old
    · have same : l = start p.root ++ names := (List.mem_singleton.mp new).trans straight
      have notLonger := shorter.length_le
      rw [same, List.length_append, List.length_append] at deeper
      omega

theorem makeDirectories_of_isDirectory (h : fs.isDirectory p = .ok true) :
    fs.makeDirectories p = (fs, .ok ()) := by
  obtain ⟨root, parts⟩ := p
  obtain ⟨noNull, _⟩ := isDirectory_true.mp h
  unfold makeDirectories
  rw [noNull, if_neg Bool.false_ne_true]
  exact makeDirectoriesFrom_of_isDirectory (by rwa [List.reverse_reverse])

theorem isDirectory_makeDirectories (h : (fs.makeDirectories p).2 = .ok ()) :
    (fs.makeDirectories p).1.isDirectory p = .ok true := by
  obtain ⟨root, parts⟩ := p
  unfold makeDirectories at h ⊢
  cases noNull : Path.hasNullCharacter ⟨root, parts⟩ with
  | true =>
    rw [noNull, if_pos rfl] at h
    cases h
  | false =>
    rw [noNull, if_neg Bool.false_ne_true] at h
    rw [← List.reverse_reverse parts] at noNull
    have there := isDirectory_makeDirectoriesFrom noNull (Prod.ext rfl h)
    rw [if_neg Bool.false_ne_true]
    rwa [List.reverse_reverse] at there

theorem makeDirectories_again_error {e : AccessError} (h : (fs.makeDirectories p).2 = .error e) :
    ∃ e', (fs.makeDirectories p).1.makeDirectories p = ((fs.makeDirectories p).1, .error e') := by
  obtain ⟨root, parts⟩ := p
  unfold makeDirectories at h ⊢
  cases noNull : Path.hasNullCharacter ⟨root, parts⟩ with
  | true => exact ⟨_, rfl⟩
  | false =>
    rw [noNull, if_neg Bool.false_ne_true] at h
    rw [← List.reverse_reverse parts] at noNull
    obtain ⟨e', again⟩ := makeDirectoriesFrom_again noNull (Prod.ext rfl h)
    rw [if_neg Bool.false_ne_true, if_neg Bool.false_ne_true]
    exact ⟨e', again⟩

/-- Making a directory once more makes nothing more, whether it was made or not. -/
theorem makeDirectories_again (fs : Files) (p : Path) :
    ((fs.makeDirectories p).1.makeDirectories p).1 = (fs.makeDirectories p).1 := by
  cases made : (fs.makeDirectories p).2 with
  | ok done => rw [makeDirectories_of_isDirectory (isDirectory_makeDirectories made)]
  | error e =>
    obtain ⟨e', again⟩ := makeDirectories_again_error made
    rw [again]

/-- If a directory is there after an attempt to make it, the attempt succeeded. -/
theorem makeDirectories_ok (h : (fs.makeDirectories p).1.isDirectory p = .ok true) :
    (fs.makeDirectories p).2 = .ok () := by
  cases made : (fs.makeDirectories p).2 with
  | ok done => rfl
  | error e =>
    obtain ⟨e', again⟩ := makeDirectories_again_error made
    rw [makeDirectories_of_isDirectory h] at again
    cases again

/-- Nothing is made of a path that cannot be looked at. -/
theorem makeDirectories_of_isDirectory_error {e : SystemError} (h : fs.isDirectory p = .error e) :
    (fs.makeDirectories p).1 = fs := by
  obtain ⟨root, parts⟩ := p
  unfold isDirectory at h
  unfold makeDirectories
  cases noNull : Path.hasNullCharacter ⟨root, parts⟩ with
  | true => rfl
  | false =>
    rw [noNull, if_neg Bool.false_ne_true] at h
    rw [if_neg Bool.false_ne_true]
    have long : fs.locate ⟨root, parts⟩ = .error .nameTooLong := by
      split at h
      case h_1 => cases h
      case h_2 long => exact long
      case h_3 => cases h
    have refused : fs.makeDirectory ⟨root, parts.reverse.reverse⟩ = .error .nameTooLong := by
      rw [List.reverse_reverse, makeDirectory, long]
    rw [makeDirectoriesFrom_refused refused (fun same => by cases same)]

end RayScene.Files
