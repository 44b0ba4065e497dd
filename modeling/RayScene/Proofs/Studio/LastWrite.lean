import RayScene.Agent.Example
import RayScene.Scene.Schema
import RayScene.Proofs.Studio.EmptyStore
import RayScene.Proofs.Studio.Records
import RayScene.Proofs.Studio.Runs
import RayScene.Proofs.Text.Utf8

/-!
# The last write counts

After a run from an empty store, looking at an artifact gives what the latest call that stored it
under the name stored, and the scenes that are listed are those with a source: `answers_latest`.
-/

namespace RayScene.Studio

def answer {α : Type} (artifact : Artifact) (name : String) : Option α → Except Failure α
  | some content => .ok content
  | none => .error (.fault (.missing artifact name))

section Answers

variable {w : World} {known : Known} {given : LooseText} {n : String}

theorem hasNullCharacter_file (valid : ArtifactName.isValid n = true) (artifact : Artifact)
    (directory : Path) :
    (directory.child (artifact.file n)).hasNullCharacter = directory.hasNullCharacter := by
  have absent : (artifact.file n).toList.contains '\x00' = false := by
    rw [Bool.eq_false_iff]
    intro present
    exact ArtifactName.not_mem_of_isValid (Artifact.isValid_file artifact valid) rfl
      (List.contains_iff_mem.mp present)
  rw [Path.hasNullCharacter_child, absent, Bool.or_false]

theorem storedContent_known (noNull : w.settings.imagesDirectory.hasNullCharacter = false)
    (records : Records w.settings.imagesDirectory w.files known) (accepted : Accepts given n)
    (artifact : Artifact) :
    runIn w (storedContent given artifact) = (answer artifact n (known n artifact), w) := by
  have valid := accepted.2
  rw [storedContent_read accepted, ← records.stored_eq valid]
  cases found : w.files.read (w.settings.imagesDirectory.child (n ++ artifact.ending)) with
  | ok content =>
    rw [runIn_ofExcept_ok rfl, stored_eq_some.mpr found]
    rfl
  | error e =>
    rw [← hasNullCharacter_file valid artifact] at noNull
    obtain ⟨failed, rfl⟩ := Files.read_error noNull found
    have nothing : stored w.files w.settings.imagesDirectory n artifact = none := by
      cases some : stored w.files w.settings.imagesDirectory n artifact with
      | none => rfl
      | some content =>
        have read := stored_eq_some.mp some
        rw [Artifact.file, found] at read
        cases read
    rw [runIn_ofExcept_error rfl, nothing]
    rfl

theorem storedSource_known (noNull : w.settings.imagesDirectory.hasNullCharacter = false)
    (records : Records w.settings.imagesDirectory w.files known) (accepted : Accepts given n)
    {source : Option Scene} (encoded : known n .source =
      source.map fun s => Utf8.encode s.source) :
    runIn w (storedSource given) = (answer .source n (source.map Scene.source), w) := by
  have content := storedContent_known noNull records accepted .source
  rw [encoded] at content
  unfold storedSource
  cases source with
  | none => exact runIn_bind_error content _
  | some s =>
    rw [runIn_bind_ok content, runIn_ofExcept_ok (Utf8.decode_encode s.source)]
    rfl

theorem ascending_mergeSort {names : List String} (h : names.Nodup) :
    (names.mergeSort fun a b => a ≤ b).Pairwise (· < ·) := by
  have sorted : (names.mergeSort fun a b => a ≤ b).Pairwise
      fun a b => decide (a ≤ b) = true := by
    apply List.pairwise_mergeSort
    · intro a b c first second
      exact decide_eq_true (String.le_trans (of_decide_eq_true first) (of_decide_eq_true second))
    · intro a b
      rw [Bool.or_eq_true, decide_eq_true_eq, decide_eq_true_eq]
      exact String.le_total a b
  have distinct : (names.mergeSort fun a b => a ≤ b).Nodup :=
    (List.mergeSort_perm names _).nodup_iff.mpr h
  refine (sorted.and distinct).imp fun both => ?_
  exact String.not_le.mp fun back => both.2 (String.le_antisymm (of_decide_eq_true both.1) back)

theorem runIn_sceneNames {there : Bool}
    (h : w.files.isDirectory w.settings.imagesDirectory = .ok there) :
    runIn w sceneNames =
      (.ok (if there then (listed w.files w.settings.imagesDirectory).mergeSort fun a b => a ≤ b
        else []), w) := by
  unfold sceneNames
  rw [runIn_bind_ok (runIn_get w), runIn_bind_ok (runIn_ofExcept_ok h w)]
  cases there with
  | false => rfl
  | true => rfl

theorem runIn_sceneNames_error {e : SystemError}
    (h : w.files.isDirectory w.settings.imagesDirectory = .error e) :
    runIn w sceneNames = (.error (.system e), w) := by
  unfold sceneNames
  rw [runIn_bind_ok (runIn_get w)]
  exact runIn_bind_error (runIn_ofExcept_error h w) _

theorem sceneNames_known (records : Records w.settings.imagesDirectory w.files known)
    (lists : Lists w.settings.imagesDirectory w.files known) :
    ∃ names, runIn w sceneNames = (.ok names, w) ∧ names.Pairwise (· < ·) ∧
      ∀ name, name ∈ names ↔ (known name .source).isSome = true := by
  obtain ⟨⟨found, looked⟩, scenes⟩ := lists
  cases directory : w.files.isDirectory w.settings.imagesDirectory with
  | error e =>
    rw [Files.makeDirectories_of_isDirectory_error directory, directory] at looked
    cases looked
  | ok there =>
    cases there with
    | false =>
      refine ⟨[], runIn_sceneNames directory, List.Pairwise.nil, fun name => ?_⟩
      refine ⟨fun member => absurd member List.not_mem_nil, fun isKnown => ?_⟩
      obtain ⟨content, something⟩ := Option.isSome_iff_exists.mp isKnown
      rw [records.isDirectory something] at directory
      cases directory
    | true =>
      rw [Files.makeDirectories_of_isDirectory directory] at scenes
      obtain ⟨nodup, mem⟩ := scenes directory
      exact ⟨_, runIn_sceneNames directory, ascending_mergeSort nodup,
        fun name => List.mem_mergeSort.trans (mem name)⟩

end Answers

/-! ### Runs from an empty store -/

section Empty

variable {start : World}

theorem IsEmptyStore.hasNullCharacter (empty : IsEmptyStore start) (steps : List Step) :
    (runFrom start steps).settings.imagesDirectory.hasNullCharacter = false := by
  obtain ⟨text, noNull, same⟩ := empty.directory
  rw [imagesDirectory_runFrom, same]
  exact Path.hasNullCharacter_ofText noNull

theorem IsEmptyStore.isRead (empty : IsEmptyStore start) :
    Path.IsRead start.settings.imagesDirectory := by
  obtain ⟨text, _, same⟩ := empty.directory
  rw [same]
  exact Path.isRead_ofText text

theorem knownAfter_keeps {I : Files → Known → Prop} (empty : IsEmptyStore start)
    (survives : Survives start.settings.imagesDirectory I)
    (h : I start.files fun _ _ => none) (steps : List Step) :
    I (runFrom start steps).files (knownAfter start steps) := by
  have kept := runFrom_keeps survives empty.isRead h steps
  simp only [Option.or_none] at kept
  exact kept

theorem IsEmptyStore.records (empty : IsEmptyStore start) (steps : List Step) :
    Records (runFrom start steps).settings.imagesDirectory (runFrom start steps).files
      (knownAfter start steps) := by
  rw [imagesDirectory_runFrom]
  refine knownAfter_keeps empty (records_survive _) ⟨fun name artifact => ?_, ?_⟩ steps
  · split
    case isTrue valid => exact (empty.nothing name artifact valid).symm
    case isFalse => rfl
  · exact .inr fun _ _ => rfl

theorem IsListable.lists (empty : IsEmptyStore start) (listable : IsListable start)
    (steps : List Step) :
    Lists (runFrom start steps).settings.imagesDirectory (runFrom start steps).files
      (knownAfter start steps) := by
  obtain ⟨found, looked, nothing⟩ := listable
  rw [imagesDirectory_runFrom]
  refine knownAfter_keeps empty (lists_survive _) ⟨⟨found, looked⟩, fun there => ?_⟩ steps
  rw [looked] at there
  rw [nothing (Except.ok.inj there)]
  refine ⟨List.nodup_nil, fun name => ?_⟩
  exact ⟨fun member => absurd member List.not_mem_nil, fun isKnown => by cases isKnown⟩

theorem knownAfter_source (start : World) (steps : List Step) (n : String) :
    knownAfter start steps n .source =
      (latest (storedBy n) start steps).map fun s => Utf8.encode s.source :=
  latest_map _ _ start steps

theorem IsEmptyStore.storedSource_after (empty : IsEmptyStore start) {given : LooseText}
    {n : String} (accepted : Accepts given n) (steps : List Step) (around : World) :
    runIn (amid around (runFrom start steps)) (storedSource given) =
      (answer .source n ((latest (storedBy n) start steps).map Scene.source),
        amid around (runFrom start steps)) :=
  storedSource_known (w := amid around (runFrom start steps)) (empty.hasNullCharacter steps)
    (empty.records steps) accepted (knownAfter_source start steps n)

theorem IsEmptyStore.storedImage_after (empty : IsEmptyStore start) {given : LooseText}
    {n : String} (accepted : Accepts given n) (steps : List Step) (around : World) :
    runIn (amid around (runFrom start steps)) (storedImage given) =
      (answer .image n (latest (renderedBy n) start steps),
        amid around (runFrom start steps)) :=
  storedContent_known (w := amid around (runFrom start steps)) (empty.hasNullCharacter steps)
    (empty.records steps) accepted .image

/-- After a run the names with a source are listed, each once and ascending. -/
def ListsStored (start : World) (steps : List Step) (around : World) : Prop :=
  ∃ names, runIn (amid around (runFrom start steps)) sceneNames =
      (.ok names, amid around (runFrom start steps)) ∧ names.Pairwise (· < ·) ∧
    ∀ n, n ∈ names ↔ (latest (storedBy n) start steps).isSome = true

theorem IsListable.listsStored (empty : IsEmptyStore start) (listable : IsListable start)
    (steps : List Step) (around : World) : ListsStored start steps around := by
  obtain ⟨names, listing, ascending, mem⟩ :=
    sceneNames_known (w := amid around (runFrom start steps)) (empty.records steps)
      (listable.lists empty steps)
  refine ⟨names, listing, ascending, fun n => ?_⟩
  rw [mem, knownAfter_source, Option.isSome_map]

theorem latest_others {α : Type} {gives : World → Call → Option α} {n : String} {others : List Step}
    (nothing : ∀ (call : Call) (w : World), ¬ call.Renders n → gives w call = none)
    (h : ∀ step ∈ others, ¬ step.call.Renders n) (steps : List Step) :
    latest gives start (steps ++ others) = latest gives start steps := by
  rw [latest_append, latest_none _ fun step member w => nothing step.call w (h step member),
    Option.none_or]

def once (start : World) (n : String) : List Step :=
  [⟨start, .render Example.pillar.scene (.proper n)⟩]

theorem once_keeps (empty : IsEmptyStore start) {I : Files → Known → Prop}
    (survives : Survives start.settings.imagesDirectory I)
    (made : I (start.files.makeDirectories start.settings.imagesDirectory).1 fun _ _ => none)
    {n : String} (valid : ArtifactName.isValid n = true) :
    ∃ known, I (runFrom start (once start n)).files known :=
  ⟨_, leave_keeps_render (w := amid start start) ⟨rfl, valid⟩ survives empty.isRead made⟩

theorem isDirectory_once (empty : IsEmptyStore start) {n : String}
    (valid : ArtifactName.isValid n = true) :
    (runFrom start (once start n)).files.isDirectory start.settings.imagesDirectory =
      (start.files.makeDirectories start.settings.imagesDirectory).1.isDirectory
        start.settings.imagesDirectory := by
  obtain ⟨_, made⟩ := once_keeps empty (made_survives _) (Files.makeDirectories_again _ _) valid
  obtain ⟨_, same⟩ := once_keeps empty (isDirectory_survives _ _)
    (congrArg (fun fs => Files.isDirectory fs _) (Files.makeDirectories_again _ _)) valid
  rwa [made] at same

theorem listed_once (empty : IsEmptyStore start) {n : String}
    (valid : ArtifactName.isValid n = true) (scene : String)
    (h : scene ∈ listed (start.files.makeDirectories start.settings.imagesDirectory).1
      start.settings.imagesDirectory) :
    scene ∈ listed (runFrom start (once start n)).files start.settings.imagesDirectory := by
  obtain ⟨_, made⟩ := once_keeps empty (made_survives _) (Files.makeDirectories_again _ _) valid
  obtain ⟨_, kept⟩ := once_keeps empty (listed_survives _ scene)
    (by rwa [Files.makeDirectories_again]) valid
  rwa [made] at kept

/-- If rendering once shows nothing but its own name, nothing else was there to be listed. -/
theorem listed_of_listsStored (empty : IsEmptyStore start) {n : String}
    (valid : ArtifactName.isValid n = true) (h : ListsStored start (once start n) start) :
    ∃ found, (start.files.makeDirectories start.settings.imagesDirectory).1.isDirectory
        start.settings.imagesDirectory = .ok found ∧
      (found = true → ∀ scene ∈ listed
        (start.files.makeDirectories start.settings.imagesDirectory).1
        start.settings.imagesDirectory, scene = n) := by
  obtain ⟨names, listing, _, mem⟩ := h
  have looked := isDirectory_once empty valid
  have listedAfter := listed_once empty valid
  rw [← looked]
  rw [← imagesDirectory_runFrom start (once start n)] at listedAfter ⊢
  cases there : (runFrom start (once start n)).files.isDirectory
      (runFrom start (once start n)).settings.imagesDirectory with
  | error e =>
    rw [runIn_sceneNames_error (w := amid start (runFrom start (once start n))) there] at listing
    cases (Prod.mk.inj listing).1
  | ok found =>
    refine ⟨found, rfl, fun yes scene member => ?_⟩
    subst yes
    rw [runIn_sceneNames (w := amid start (runFrom start (once start n))) there] at listing
    have same := Except.ok.inj (Prod.mk.inj listing).1
    rw [if_pos rfl] at same
    have shown : scene ∈ names := same ▸ List.mem_mergeSort.mpr (listedAfter scene member)
    by_contra other
    have nothing : latest (storedBy scene) start (once start n) = none := by
      refine latest_none start fun step only w => storedBy_of_not_renders step.call w ?_
      rw [List.mem_singleton.mp only]
      exact fun accepts => other (accepts_unique ⟨rfl, valid⟩ accepts)
    rw [mem, nothing] at shown
    cases shown

/-- Where the names with a source are listed after every run, nothing else was there to be listed.
-/
theorem isListable_of_listsStored (empty : IsEmptyStore start)
    (h : ∀ steps around, ListsStored start steps around) : IsListable start := by
  obtain ⟨found, looked, onlyA⟩ :=
    listed_of_listsStored empty (n := "a") rfl (h (once start "a") start)
  obtain ⟨found', looked', onlyB⟩ :=
    listed_of_listsStored empty (n := "b") rfl (h (once start "b") start)
  have same : found' = found := Except.ok.inj (looked'.symm.trans looked)
  subst same
  refine ⟨found', looked, fun there => List.eq_nil_iff_forall_not_mem.mpr fun scene member => ?_⟩
  have both := (onlyA there scene member).symm.trans (onlyB there scene member)
  exact absurd both (by decide)

/-- In a run from an empty store, looking at a source gives that of the latest scene that was stored
under the name, looking at an image gives the latest one that was returned, a rejected name is
refused, and calls under other names change none of this. The names with a source are listed, each
once and ascending, provided that making the directory leaves nothing to be listed. -/
theorem answers_latest (empty : IsEmptyStore start) :
    (∀ steps around,
      let w := amid around (runFrom start steps)
      (∀ given, (∀ n, ¬ Accepts given n) →
        (∀ s, runIn w (renderAs s given) = (.error nameFailure, w)) ∧
        runIn w (storedSource given) = (.error nameFailure, w) ∧
        runIn w (storedImage given) = (.error nameFailure, w)) ∧
      (∀ given n, Accepts given n →
        runIn w (storedSource given) =
          (answer .source n ((latest (storedBy n) start steps).map Scene.source), w) ∧
        runIn w (storedImage given) = (answer .image n (latest (renderedBy n) start steps), w)) ∧
      ∀ n others, (∀ step ∈ others, ¬ step.call.Renders n) →
        let w' := amid around (runFrom start (steps ++ others))
        (∀ given, Accepts given n →
          (runIn w' (storedSource given)).1 = (runIn w (storedSource given)).1 ∧
          (runIn w' (storedImage given)).1 = (runIn w (storedImage given)).1) ∧
        (IsListable start → ∀ names names', (runIn w sceneNames).1 = .ok names →
          (runIn w' sceneNames).1 = .ok names' → (n ∈ names' ↔ n ∈ names))) ∧
    (IsListable start ↔ ∀ steps around, ListsStored start steps around) := by
  refine ⟨fun steps around => ?_, IsListable.listsStored empty, isListable_of_listsStored empty⟩
  intro w
  refine ⟨fun given rejected => ?_, fun given n accepted => ?_, fun n others other => ⟨?_, ?_⟩⟩
  · exact ⟨fun s => renderAs_rejected rejected w s, storedSource_rejected rejected w,
      storedContent_rejected rejected w .image⟩
  · exact ⟨empty.storedSource_after accepted steps around,
      empty.storedImage_after accepted steps around⟩
  · intro given accepted
    rw [empty.storedSource_after accepted, empty.storedSource_after accepted,
      latest_others storedBy_of_not_renders other, empty.storedImage_after accepted,
      empty.storedImage_after accepted, latest_others renderedBy_of_not_renders other]
    exact ⟨rfl, rfl⟩
  · intro listable names names' listing listing'
    obtain ⟨found, listed, _, mem⟩ := listable.listsStored empty steps around
    obtain ⟨found', listed', _, mem'⟩ := listable.listsStored empty (steps ++ others) around
    rw [listed] at listing
    rw [listed'] at listing'
    cases listing
    cases listing'
    rw [mem', latest_others storedBy_of_not_renders other, mem]

end Empty

def worldFor (directory : String) : World where
  files := .empty
  settings := { Settings.default with imagesDirectory := Path.ofText directory }
  programs := Path.ofText "bin"
  renderer := Script.silent.program
  converter := Script.silent.program
  runs := []
  client := none
  connectable := false
  canWait := Program.canWait
  trig := ⟨fun _ => 0, fun _ => 1⟩
  edition := .earlier

theorem isEmptyStore_worldFor {directory : String} (h : '\x00' ∉ directory.toList) :
    IsEmptyStore (worldFor directory) := by
  refine isEmptyStore_of_directories ⟨directory, h, rfl⟩ fun l content executable file => ?_
  unfold Files.at? at file
  split at file
  · cases file
  · cases file

theorem answers_latest_pillar :
    let w := amid (worldFor "images") (runFrom (worldFor "images") (once (worldFor "images") "b"))
    IsEmptyStore (worldFor "images") ∧ IsListable (worldFor "images") ∧
      runIn w (storedSource (.proper "b")) = (.ok Example.pillar.scene.source, w) ∧
      runIn w (storedImage (.proper "b")) = (.ok [], w) ∧
      runIn w (storedSource (.proper "a")) = (.error (.fault (.missing .source "a")), w) ∧
      ∃ names, runIn w sceneNames = (.ok names, w) ∧ "b" ∈ names ∧ "a" ∉ names := by
  have empty : IsEmptyStore (worldFor "images") := isEmptyStore_worldFor (by decide)
  have listable : IsListable (worldFor "images") := by
    have plain : (worldFor "images").settings.imagesDirectory.parts = ["images"] := by
      decide +kernel
    refine isListable_of_plain ?_ ?_ (by decide +kernel) fun file member => ?_
    · rw [plain]
      exact fun name member => List.mem_singleton.mp member ▸ ⟨by decide, by decide⟩
    · rw [plain]
      exact fun name member => List.mem_singleton.mp member ▸ by decide +kernel
    · exact absurd member List.not_mem_nil
  have stored : latest (storedBy "b") (worldFor "images") (once (worldFor "images") "b") =
      some Example.pillar.scene := by decide +kernel
  have drawn : latest (renderedBy "b") (worldFor "images") (once (worldFor "images") "b") =
      some [] := by decide +kernel
  have nothing : latest (storedBy "a") (worldFor "images") (once (worldFor "images") "b") =
      none := by decide +kernel
  intro w
  obtain ⟨everyRun, listing⟩ := answers_latest empty
  obtain ⟨_, answers, _⟩ := everyRun (once (worldFor "images") "b") (worldFor "images")
  obtain ⟨source, image⟩ := answers (.proper "b") "b" ⟨rfl, rfl⟩
  obtain ⟨other, _⟩ := answers (.proper "a") "a" ⟨rfl, rfl⟩
  obtain ⟨names, listed, _, mem⟩ :=
    listing.mp listable (once (worldFor "images") "b") (worldFor "images")
  rw [stored, Option.map_some, answer] at source
  rw [drawn, answer] at image
  rw [nothing, Option.map_none, answer] at other
  refine ⟨empty, listable, source, image, other, names, listed, (mem "b").mpr ?_, ?_⟩
  · rw [stored]
    rfl
  · rw [mem "a", nothing]
    exact Bool.false_ne_true

/-- A path back through a directory that is called like a source: making it lists a scene that was
never stored. -/
theorem sceneNames_way_back :
    let start := worldFor "images/a.json/.."
    let steps := once start "b"
    let w := amid start (runFrom start steps)
    IsEmptyStore start ∧ Scene.check Example.pillar.scene.toJson = .ok Example.pillar.scene ∧
      (runIn w sceneNames).1 = .ok ["a", "b"] ∧ latest (storedBy "a") start steps = none := by
  intro start steps w
  have there : w.files.isDirectory w.settings.imagesDirectory = .ok true := by decide +kernel
  have names : listed w.files w.settings.imagesDirectory = ["a", "b"] := by decide +kernel
  have sorted : ["a", "b"].mergeSort (fun a b => decide (a ≤ b)) = ["a", "b"] :=
    List.mergeSort_of_pairwise (by decide)
  have checked : Scene.check Example.pillar.scene.toJson = .ok Example.pillar.scene := by
    decide +kernel
  have nothing : latest (storedBy "a") start steps = none := by decide +kernel
  refine ⟨isEmptyStore_worldFor (by decide), checked, ?_, nothing⟩
  rw [runIn_sceneNames there, if_pos rfl, names, sorted]

end RayScene.Studio
