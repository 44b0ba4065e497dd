import RayScene.Proofs.Files.Directories

/-!
# What a path depends on

What is read at a path depends only on the entries that the path passes (`read_sameAlong`), and
making directories changes nothing but free places, which the path or one above it leads to then
(`at?_makeDirectories`).
-/

namespace RayScene.Files

variable {fs fs' : Files}

/-- The way along names from a location passes another one, or ends there. -/
def Passes (fs : Files) (l : Location) (names : List String) (l' : Location) : Prop :=
  ∃ before, before <+: names ∧ fs.walk l before = .ok l'

/-- Another tree has the same entries wherever the path passes in this one. -/
def SameAlong (fs fs' : Files) (p : Path) : Prop :=
  ∀ l, fs.Passes (start p.root) p.parts l → fs'.at? l = fs.at? l

theorem walk_cons (fs : Files) (l : Location) (name : String) (rest : List String) :
    fs.walk l (name :: rest) = (fs.walk l [name]).bind fun l' => fs.walk l' rest :=
  walk_append fs l [name] rest

theorem passes_start (fs : Files) (l : Location) (names : List String) : fs.Passes l names l :=
  ⟨[], List.nil_prefix, rfl⟩

theorem passes_end {l l' : Location} {names : List String} (h : fs.walk l names = .ok l') :
    fs.Passes l names l' :=
  ⟨names, List.prefix_rfl, h⟩

theorem Passes.cons {l l₁ l' : Location} {name : String} {rest : List String}
    (first : fs.walk l [name] = .ok l₁) (h : fs.Passes l₁ rest l') :
    fs.Passes l (name :: rest) l' := by
  obtain ⟨before, shorter, walked⟩ := h
  refine ⟨name :: before, List.prefix_cons_inj name |>.mpr shorter, ?_⟩
  rw [walk_cons, first]
  exact walked

/-- One name depends on nothing but the entry that it is looked for in. -/
theorem walk_one {l : Location} (same : fs'.at? l = fs.at? l) (name : String) :
    fs'.walk l [name] = fs.walk l [name] := by
  simp only [walk, same]

theorem walk_same {l : Location} {names : List String}
    (same : ∀ l', fs.Passes l names l' → fs'.at? l' = fs.at? l') :
    fs'.walk l names = fs.walk l names := by
  induction names generalizing l with
  | nil => rfl
  | cons name rest ih =>
    rw [walk_cons, walk_cons fs, walk_one (same l (passes_start fs l _))]
    cases first : fs.walk l [name] with
    | error problem => rfl
    | ok l₁ =>
      apply ih
      intro l' passed
      exact same l' (passed.cons first)

variable {p : Path}

theorem locate_sameAlong (same : SameAlong fs fs' p) : fs'.locate p = fs.locate p := by
  unfold locate
  rw [walk_same same]

theorem read_sameAlong (same : SameAlong fs fs' p) : fs'.read p = fs.read p := by
  have accessed : fs'.access p = fs.access p := by
    unfold access
    rw [locate_sameAlong same]
  unfold read
  rw [accessed]
  cases found : fs.access p with
  | error e => rfl
  | ok l =>
    have located := (access_ok.mp found).2
    simp only [same l (passes_end (locate_ok.mp located).2)]

/-! ### Making directories -/

def LeadsThrough (fs : Files) (p : Path) (l : Location) : Prop :=
  ∃ before, before <+: p.parts ∧ fs.LeadsTo ⟨p.root, before⟩ l

theorem LeadsThrough.set {l location : Location} (h : fs.LeadsThrough p l) (entry : Entry)
    (free : fs.at? location ≠ some .directory) : (fs.set location entry).LeadsThrough p l := by
  obtain ⟨before, shorter, leads⟩ := h
  exact ⟨before, shorter, leads.set entry free⟩

/-- Making a directory leaves every entry as it is, and makes directories only on its way. -/
theorem at?_makeDirectories (fs : Files) (p : Path) (l : Location) :
    (fs.makeDirectories p).1.at? l = fs.at? l ∨
      fs.at? l = none ∧ (fs.makeDirectories p).1.at? l = some .directory ∧
        (fs.makeDirectories p).1.LeadsThrough p l := by
  refine makeDirectories_preserves (p := p) (P := fun made => made.at? l = fs.at? l ∨
    fs.at? l = none ∧ made.at? l = some .directory ∧ made.LeadsThrough p l) ?_ (.inl rfl)
  intro made made' before shorter kept once
  obtain ⟨new, leads⟩ := leadsTo_makeDirectory once
  obtain ⟨location, located, free, rfl⟩ := makeDirectory_ok once
  have noDirectory := at?_ne_directory free
  by_cases here : l = location
  · subst here
    have same : new = l :=
      Except.ok.inj (leads.1.symm.trans (locate_set _ noDirectory located))
    subst same
    refine .inr ⟨?_, leads.2, before, shorter, leads⟩
    rcases kept with same | ⟨_, there, _⟩
    · exact same.symm.trans free
    · exact absurd there noDirectory
  · rw [at?_set_other here]
    rcases kept with same | ⟨absent, there, through⟩
    · exact .inl same
    · exact .inr ⟨absent, there, through.set _ noDirectory⟩

end RayScene.Files
