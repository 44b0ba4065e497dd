import RayScene.Proofs.Files.Locality
import RayScene.Proofs.Studio.Calls

/-!
# What was stored over a tree

A tree that artifacts were stored in is the tree before with those artifacts over it. So it is known
entry by entry from what was stored last of each artifact, in whatever order that was
(`Overlays.agree`).
-/

namespace RayScene

namespace Files

def Alike (fs fs' : Files) : Prop := ∀ l, fs.at? l = fs'.at? l

def isExecutable (fs : Files) (l : Location) : Bool :=
  match fs.at? l with
  | some (.file _ executable) => executable
  | _ => false

def isWritable (fs : Files) (p : Path) : Bool := (fs.write p []).isOk

variable {fs fs' : Files} {p : Path} {l : Location} {content : Bytes}

theorem Alike.read (h : fs.Alike fs') (p : Path) : fs.read p = fs'.read p :=
  (read_sameAlong fun l _ => (h l).symm).symm

theorem write_of_access (accessed : fs.access p = .ok l) (free : fs.at? l ≠ some .directory)
    (content : Bytes) :
    fs.write p content = .ok (fs.set l (.file content (fs.isExecutable l))) := by
  unfold write isExecutable
  rw [accessed]
  dsimp only
  cases found : fs.at? l with
  | none => rfl
  | some entry =>
    cases entry with
    | directory => exact absurd found free
    | file old executable => rfl

theorem isWritable_iff :
    fs.isWritable p = true ↔ ∃ l, fs.access p = .ok l ∧ fs.at? l ≠ some .directory := by
  constructor
  · intro writable
    cases written : fs.write p [] with
    | error e =>
      rw [isWritable, written] at writable
      cases writable
    | ok fs' =>
      obtain ⟨l, _, accessed, free, _⟩ := write_ok written
      exact ⟨l, accessed, free⟩
  · rintro ⟨l, accessed, free⟩
    rw [isWritable, write_of_access accessed free]
    rfl

theorem isWritable_iff_write (content : Bytes) :
    fs.isWritable p = true ↔ ∃ fs', fs.write p content = .ok fs' := by
  rw [isWritable_iff]
  constructor
  · rintro ⟨l, accessed, free⟩
    exact ⟨_, write_of_access accessed free content⟩
  · rintro ⟨fs', written⟩
    obtain ⟨l, _, accessed, free, _⟩ := write_ok written
    exact ⟨l, accessed, free⟩

end Files

namespace Studio

/-- The place of an artifact in a directory, as far as its name is not too long. -/
def IsPlace (fs : Files) (directory : Path) (name : String) (artifact : Artifact) (l : Location) :
    Prop :=
  ∃ above, fs.LeadsTo directory above ∧ l = above ++ [artifact.file name]

variable {base fs fs' : Files} {directory : Path} {known known' : Known} {n m : String}
  {artifact other : Artifact} {l : Location} {content : Bytes}

theorem leadsTo_unique {above above' : Location} (h : fs.LeadsTo directory above)
    (h' : fs.LeadsTo directory above') : above' = above :=
  Except.ok.inj (h'.1.symm.trans h.1)

namespace IsPlace

theorem same_artifact (h : IsPlace fs directory n artifact l)
    (h' : IsPlace fs directory m other l) : m = n ∧ other = artifact := by
  obtain ⟨above, leads, rfl⟩ := h
  obtain ⟨above', leads', same⟩ := h'
  rw [leadsTo_unique leads leads'] at same
  obtain ⟨sameArtifact, sameName⟩ :=
    Artifact.file_injective (List.singleton_inj.mp (List.append_cancel_left same))
  exact ⟨sameName.symm, sameArtifact.symm⟩

theorem same_place {l' : Location} (h : IsPlace fs directory n artifact l)
    (h' : IsPlace fs directory n artifact l') : l' = l := by
  obtain ⟨above, leads, rfl⟩ := h
  obtain ⟨above', leads', rfl⟩ := h'
  rw [leadsTo_unique leads leads']

theorem of_access (valid : ArtifactName.isValid n = true)
    (h : fs.access (directory.child (artifact.file n)) = .ok l) :
    IsPlace fs directory n artifact l := by
  have located := (Files.access_ok.mp h).2
  obtain ⟨above, leads⟩ := Files.leadsTo_of_locate_child located
  exact ⟨above, leads, Files.location_of_child leads (Artifact.isPlain_file artifact valid) located⟩

end IsPlace

/-- A tree with what is known of artifacts over another one: their files, with the modes of the files
that were there before, and else the same. -/
structure Overlays (directory : Path) (base fs : Files) (known : Known) : Prop where
  leads {above : Location} : fs.LeadsTo directory above ↔ base.LeadsTo directory above
  covered {n : String} {artifact : Artifact} {l : Location} {content : Bytes} :
    IsPlace base directory n artifact l → known n artifact = some content →
    base.at? l ≠ some .directory ∧ fs.at? l = some (.file content (base.isExecutable l))
  elsewhere {l : Location} : (∀ n artifact, IsPlace base directory n artifact l →
    known n artifact = none) → fs.at? l = base.at? l

namespace Overlays

theorem refl (directory : Path) (fs : Files) : Overlays directory fs fs fun _ _ => none where
  leads := Iff.rfl
  covered := nofun
  elsewhere _ := rfl

theorem isPlace_iff (h : Overlays directory base fs known) :
    IsPlace fs directory n artifact l ↔ IsPlace base directory n artifact l := by
  constructor
  · rintro ⟨above, leads, same⟩
    exact ⟨above, h.leads.mp leads, same⟩
  · rintro ⟨above, leads, same⟩
    exact ⟨above, h.leads.mpr leads, same⟩

/-- Whatever was stored, a place has the mode that it had, and is a directory only if it was one. -/
theorem at_place (h : Overlays directory base fs known)
    (place : IsPlace base directory n artifact l) :
    fs.isExecutable l = base.isExecutable l ∧
      (fs.at? l = some .directory ↔ base.at? l = some .directory) := by
  cases something : known n artifact with
  | some content =>
    obtain ⟨free, stored⟩ := h.covered place something
    constructor
    · rw [Files.isExecutable, stored]
    · rw [stored]
      exact iff_of_false nofun free
  | none =>
    have same := h.elsewhere fun m other place' => by
      obtain ⟨rfl, rfl⟩ := place.same_artifact place'
      exact something
    constructor
    · rw [Files.isExecutable, Files.isExecutable, same]
    · rw [same]

theorem access_iff (h : Overlays directory base fs known)
    (valid : ArtifactName.isValid n = true) :
    fs.access (directory.child (artifact.file n)) = .ok l ↔
      base.access (directory.child (artifact.file n)) = .ok l := by
  have plain := Artifact.isPlain_file artifact valid
  rw [Files.access_ok, Files.access_ok]
  refine and_congr_right fun _ => ?_
  constructor
  · intro located
    obtain ⟨above, leads⟩ := Files.leadsTo_of_locate_child located
    rwa [Files.locate_child leads plain, ← Files.locate_child (h.leads.mp leads) plain] at located
  · intro located
    obtain ⟨above, leads⟩ := Files.leadsTo_of_locate_child located
    rwa [Files.locate_child leads plain, ← Files.locate_child (h.leads.mpr leads) plain] at located

theorem isWritable_iff (h : Overlays directory base fs known)
    (valid : ArtifactName.isValid n = true) :
    fs.isWritable (directory.child (artifact.file n)) = true ↔
      base.isWritable (directory.child (artifact.file n)) = true := by
  rw [Files.isWritable_iff, Files.isWritable_iff]
  refine exists_congr fun l => ?_
  rw [h.access_iff valid]
  refine and_congr_right fun accessed => not_congr ?_
  exact (h.at_place (IsPlace.of_access valid accessed)).2

theorem write (h : Overlays directory base fs known) (valid : ArtifactName.isValid n = true)
    (written : fs.write (directory.child (artifact.file n)) content = .ok fs') :
    Overlays directory base fs' (known.update n artifact content) := by
  obtain ⟨l, _, accessed, free, _⟩ := Files.write_ok written
  have place : IsPlace base directory n artifact l :=
    IsPlace.of_access valid ((h.access_iff valid).mp accessed)
  obtain ⟨mode, directoryIff⟩ := h.at_place place
  have same := Except.ok.inj ((Files.write_of_access accessed free content).symm.trans written)
  rw [mode] at same
  subst same
  obtain ⟨above, leads, here⟩ := place
  refine {
    leads := ?_
    covered := ?_
    elsewhere := ?_ }
  · have stays := (h.leads.mpr leads).set (.file content (base.isExecutable l)) free
    intro above'
    constructor
    · intro leads'
      rwa [leadsTo_unique stays leads']
    · exact fun leads' => (h.leads.mpr leads').set _ free
  · intro m other l' content' place' something
    by_cases same : m = n ∧ other = artifact
    · obtain ⟨rfl, rfl⟩ := same
      rw [Known.update_same] at something
      cases something
      have there : l' = l := IsPlace.same_place ⟨above, leads, here⟩ place'
      subst there
      exact ⟨mt directoryIff.mpr free, Files.at?_set_same (Files.isGround_of_at? free) _⟩
    · have apart : l' ≠ l := by
        rintro rfl
        exact same (IsPlace.same_artifact ⟨above, leads, here⟩ place')
      rw [Known.update, if_neg same] at something
      rw [Files.at?_set_other apart]
      exact h.covered place' something
  · intro l' nothing
    have apart : l' ≠ l := by
      rintro rfl
      have unknown := nothing n artifact ⟨above, leads, here⟩
      rw [Known.update_same] at unknown
      cases unknown
    rw [Files.at?_set_other apart]
    refine h.elsewhere fun m other place' => ?_
    have different : ¬ (m = n ∧ other = artifact) := by
      rintro ⟨rfl, rfl⟩
      exact apart (IsPlace.same_place ⟨above, leads, here⟩ place')
    have unknown := nothing m other place'
    rwa [Known.update, if_neg different] at unknown

/-- Two trees over the same one agree where the same is known. -/
theorem agree (h : Overlays directory base fs known) (h' : Overlays directory base fs' known')
    (same : ∀ n artifact, IsPlace base directory n artifact l →
      known n artifact = known' n artifact) : fs.at? l = fs'.at? l := by
  by_cases something : ∃ n artifact content, IsPlace base directory n artifact l ∧
      known n artifact = some content
  · obtain ⟨n, artifact, content, place, found⟩ := something
    rw [(h.covered place found).2, (h'.covered place ((same n artifact place).symm.trans found)).2]
  · have nothing (n : String) (artifact : Artifact) (place : IsPlace base directory n artifact l) :
        known n artifact = none :=
      Option.eq_none_iff_forall_ne_some.mpr fun content found =>
        something ⟨n, artifact, content, place, found⟩
    rw [h.elsewhere nothing, h'.elsewhere fun n artifact place =>
      (same n artifact place).symm.trans (nothing n artifact place)]

theorem alike (h : Overlays directory base fs known) (h' : Overlays directory base fs' known) :
    fs.Alike fs' :=
  fun _ => h.agree h' fun _ _ _ => rfl

theorem read (h : Overlays directory base fs known) (valid : ArtifactName.isValid n = true)
    (writable : base.isWritable (directory.child (artifact.file n)) = true)
    (something : known n artifact = some content) :
    fs.read (directory.child (artifact.file n)) = .ok content := by
  obtain ⟨l, accessed, _⟩ := Files.isWritable_iff.mp writable
  have stored := (h.covered (IsPlace.of_access valid accessed) something).2
  exact Files.read_ok.mpr ⟨l, _, (h.access_iff valid).mpr accessed, stored⟩

end Overlays

end Studio

end RayScene
