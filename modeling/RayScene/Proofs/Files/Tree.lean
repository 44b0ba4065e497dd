import Mathlib.Init
import RayScene.Files.Tree
import RayScene.Proofs.Files.Path

/-!
# Files and the way to them

What a path leads to, and what setting an entry leaves as it was: the way to a directory does not
depend on anything but directories, so setting an entry where no directory is never breaks it.
-/

namespace RayScene.Files

theorem find?_setIn (location other : Location) (entry : Entry)
    (entries : List (Location × Entry)) :
    find? other (setIn location entry entries) =
      if other = location then some entry else find? other entries := by
  induction entries with
  | nil =>
    show (if location = other then some entry else none) =
      if other = location then some entry else none
    simp only [eq_comm]
  | cons first rest ih =>
    obtain ⟨l, e⟩ := first
    rw [setIn]
    split
    case isTrue here =>
      subst here
      simp only [find?, eq_comm]
      split
      · rfl
      · rfl
    case isFalse elsewhere =>
      rw [find?, find?, ih]
      split
      case isTrue same =>
        subst same
        rw [if_neg elsewhere]
      case isFalse => rfl

theorem at?_set_same {fs : Files} {location : Location} (h : isGround location = false)
    (entry : Entry) : (fs.set location entry).at? location = some entry := by
  unfold at? set
  rw [h, if_neg Bool.false_ne_true, find?_setIn, if_pos rfl]

theorem at?_set_other {location other : Location} (h : other ≠ location) (fs : Files)
    (entry : Entry) : (fs.set location entry).at? other = fs.at? other := by
  unfold at? set
  rw [find?_setIn, if_neg h]

theorem at?_ne_directory {fs : Files} {location : Location} (h : fs.at? location = none) :
    fs.at? location ≠ some .directory := by
  rw [h]
  exact fun same => by cases same

theorem isGround_of_at? {fs : Files} {location : Location}
    (h : fs.at? location ≠ some .directory) : isGround location = false := by
  rw [Bool.eq_false_iff]
  intro ground
  unfold at? at h
  rw [if_pos ground] at h
  exact h rfl

def locations (fs : Files) : List Location := fs.entries.map Prod.fst

theorem map_fst_setIn (location : Location) (entry : Entry) (entries : List (Location × Entry)) :
    (setIn location entry entries).map Prod.fst =
      if location ∈ entries.map Prod.fst then entries.map Prod.fst
      else entries.map Prod.fst ++ [location] := by
  induction entries with
  | nil => rfl
  | cons first rest ih =>
    obtain ⟨l, e⟩ := first
    rw [setIn]
    split
    case isTrue here =>
      subst here
      rw [List.map_cons, List.map_cons, if_pos List.mem_cons_self]
    case isFalse elsewhere =>
      rw [List.map_cons, List.map_cons, ih]
      by_cases member : location ∈ rest.map Prod.fst
      · rw [if_pos member, if_pos (List.mem_cons_of_mem _ member)]
      · rw [if_neg member, if_neg, List.cons_append]
        intro listed
        rcases List.mem_cons.mp listed with same | later
        · exact elsewhere same.symm
        · exact member later

theorem locations_set (fs : Files) (location : Location) (entry : Entry) :
    (fs.set location entry).locations =
      if location ∈ fs.locations then fs.locations else fs.locations ++ [location] :=
  map_fst_setIn location entry fs.entries

/-! ### The way to a directory -/

theorem walk_append (fs : Files) (l : Location) (before after : List String) :
    fs.walk l (before ++ after) = (fs.walk l before).bind fun l' => fs.walk l' after := by
  induction before generalizing l with
  | nil => rfl
  | cons name rest ih =>
    rw [List.cons_append, walk, walk]
    split
    · rfl
    · rfl
    split
    · exact ih l
    split
    · exact ih (above l)
    split
    · rfl
    · exact ih (l ++ [name])

theorem at?_of_walk {fs : Files} {l l' : Location} {name : String} {rest : List String}
    (h : fs.walk l (name :: rest) = .ok l') : fs.at? l = some .directory := by
  rw [walk] at h
  split at h
  case h_1 => cases h
  case h_2 => cases h
  case h_3 there => exact there

/-- A way that leads somewhere still leads there when something is set where no directory is. -/
theorem walk_set {fs : Files} {l l' location : Location} {names : List String} (entry : Entry)
    (free : fs.at? location ≠ some .directory) (h : fs.walk l names = .ok l') :
    (fs.set location entry).walk l names = .ok l' := by
  induction names generalizing l with
  | nil => exact h
  | cons name rest ih =>
    have directory := at?_of_walk h
    have other : l ≠ location := fun same => free (same ▸ directory)
    rw [walk, directory] at h
    rw [walk, at?_set_other other, directory]
    dsimp only at h ⊢
    split
    case isTrue stays =>
      rw [if_pos stays] at h
      exact ih h
    case isFalse moves =>
      rw [if_neg moves] at h
      split
      case isTrue up =>
        rw [if_pos up] at h
        exact ih h
      case isFalse down =>
        rw [if_neg down] at h
        split
        case isTrue long =>
          rw [if_pos long] at h
          cases h
        case isFalse short =>
          rw [if_neg short] at h
          exact ih h

def LeadsTo (fs : Files) (p : Path) (location : Location) : Prop :=
  fs.locate p = .ok location ∧ fs.at? location = some .directory

theorem locate_ok {fs : Files} {p : Path} {location : Location} :
    fs.locate p = .ok location ↔
      p.text.utf8ByteSize ≤ maxPath ∧ fs.walk (start p.root) p.parts = .ok location := by
  unfold locate
  split
  case isTrue long =>
    refine ⟨fun h => ?_, fun h => absurd long (by omega)⟩
    cases h
  case isFalse short => exact ⟨fun h => ⟨by omega, h⟩, And.right⟩

theorem locate_set {fs : Files} {p : Path} {l location : Location} (entry : Entry)
    (free : fs.at? location ≠ some .directory) (h : fs.locate p = .ok l) :
    (fs.set location entry).locate p = .ok l := by
  obtain ⟨short, walked⟩ := locate_ok.mp h
  exact locate_ok.mpr ⟨short, walk_set entry free walked⟩

theorem LeadsTo.set {fs : Files} {p : Path} {l location : Location} (h : fs.LeadsTo p l)
    (entry : Entry) (free : fs.at? location ≠ some .directory) :
    (fs.set location entry).LeadsTo p l := by
  obtain ⟨located, directory⟩ := h
  have other : l ≠ location := fun same => free (same ▸ directory)
  exact ⟨locate_set entry free located, (at?_set_other other fs entry).trans directory⟩

theorem leadsTo_of_locate_child {fs : Files} {p : Path} {name : String} {location : Location}
    (h : fs.locate (p.child name) = .ok location) : ∃ l, fs.LeadsTo p l := by
  obtain ⟨short, walked⟩ := locate_ok.mp h
  have shorter := Path.size_text_child p name
  have split := walk_append fs (start p.root) p.parts [name]
  rw [show fs.walk (start p.root) (p.parts ++ [name]) = .ok location from walked] at split
  cases before : fs.walk (start p.root) p.parts with
  | error e =>
    rw [before] at split
    cases split
  | ok l =>
    rw [before] at split
    exact ⟨l, locate_ok.mpr ⟨by omega, before⟩, at?_of_walk split.symm⟩

/-- A name that does not stand for a place of its own. -/
def IsPlain (name : String) : Prop := name ≠ "." ∧ name ≠ ".."

theorem walk_plain {fs : Files} {l l' : Location} {names : List String}
    (plain : ∀ name ∈ names, IsPlain name) (h : fs.walk l names = .ok l') : l' = l ++ names := by
  induction names generalizing l with
  | nil =>
    cases h
    rw [List.append_nil]
  | cons name rest ih =>
    have straight := plain name List.mem_cons_self
    have directory := at?_of_walk h
    rw [walk, directory] at h
    dsimp only at h
    rw [if_neg straight.1, if_neg straight.2] at h
    split at h
    case isTrue => cases h
    case isFalse =>
      rw [ih (fun other member => plain other (List.mem_cons_of_mem name member)) h,
        List.append_assoc, List.singleton_append]

theorem locate_plain {fs : Files} {p : Path} {l : Location} (plain : ∀ name ∈ p.parts, IsPlain name)
    (h : fs.locate p = .ok l) : l = start p.root ++ p.parts :=
  walk_plain plain (locate_ok.mp h).2

theorem walk_short {fs : Files} {l : Location} {names : List String}
    (short : ∀ name ∈ names, name.utf8ByteSize ≤ maxName) :
    fs.walk l names ≠ .error .nameTooLong := by
  induction names generalizing l with
  | nil => exact fun h => by cases h
  | cons name rest ih =>
    have later {l : Location} : fs.walk l rest ≠ .error .nameTooLong :=
      ih fun other member => short other (List.mem_cons_of_mem name member)
    rw [walk]
    split
    · exact fun h => by cases h
    · exact fun h => by cases h
    split
    · exact later
    split
    · exact later
    split
    case isTrue long => exact absurd long (Nat.not_lt.mpr (short name List.mem_cons_self))
    case isFalse => exact later

theorem locate_child {fs : Files} {p : Path} {l : Location} (h : fs.LeadsTo p l) {name : String}
    (plain : IsPlain name) :
    fs.locate (p.child name) =
      if maxPath < (p.child name).text.utf8ByteSize then .error .nameTooLong
      else if maxName < name.utf8ByteSize then .error .nameTooLong
      else .ok (l ++ [name]) := by
  obtain ⟨located, directory⟩ := h
  have walked := (locate_ok.mp located).2
  unfold locate
  split
  · rfl
  show fs.walk (start p.root) (p.parts ++ [name]) = _
  rw [walk_append, walked]
  show fs.walk l [name] = _
  rw [walk, directory]
  dsimp only
  rw [if_neg plain.1, if_neg plain.2]
  rfl

/-- What is below a directory is one plain name further. -/
theorem location_of_child {fs : Files} {p : Path} {l location : Location} {name : String}
    (h : fs.LeadsTo p l) (plain : IsPlain name)
    (located : fs.locate (p.child name) = .ok location) : location = l ++ [name] := by
  rw [locate_child h plain] at located
  split at located
  · cases located
  split at located
  · cases located
  · exact (Except.ok.inj located).symm

/-! ### Reading and writing -/

theorem isDirectory_true {fs : Files} {p : Path} :
    fs.isDirectory p = .ok true ↔ p.hasNullCharacter = false ∧ ∃ l, fs.LeadsTo p l := by
  unfold isDirectory LeadsTo
  cases p.hasNullCharacter with
  | true => simp
  | false =>
    rw [if_neg Bool.false_ne_true]
    cases fs.locate p with
    | error problem => cases problem <;> simp
    | ok l => simp

theorem isDirectory_short {fs : Files} {p : Path} (shortText : p.text.utf8ByteSize ≤ maxPath)
    (short : ∀ name ∈ p.parts, name.utf8ByteSize ≤ maxName) :
    ∃ found, fs.isDirectory p = .ok found := by
  unfold isDirectory
  split
  · exact ⟨_, rfl⟩
  split
  case h_1 => exact ⟨_, rfl⟩
  case h_2 long =>
    rw [locate, if_neg (Nat.not_lt.mpr shortText)] at long
    exact absurd long (walk_short short)
  case h_3 => exact ⟨_, rfl⟩

/-- What is above a place that a path leads to is a directory. -/
theorem isDirectory_of_locate_child {fs : Files} {p : Path} {name : String} {l : Location}
    (noNull : (p.child name).hasNullCharacter = false) (h : fs.locate (p.child name) = .ok l) :
    fs.isDirectory p = .ok true := by
  rw [Path.hasNullCharacter_child, Bool.or_eq_false_iff] at noNull
  exact isDirectory_true.mpr ⟨noNull.1, leadsTo_of_locate_child h⟩

theorem access_ok {fs : Files} {p : Path} {l : Location} :
    fs.access p = .ok l ↔ p.hasNullCharacter = false ∧ fs.locate p = .ok l := by
  unfold access
  cases p.hasNullCharacter with
  | true => simp
  | false =>
    rw [if_neg Bool.false_ne_true]
    cases fs.locate p with
    | error problem => simp [failure]
    | ok l' => simp

theorem read_ok {fs : Files} {p : Path} {content : Bytes} :
    fs.read p = .ok content ↔
      ∃ l executable, fs.access p = .ok l ∧ fs.at? l = some (.file content executable) := by
  unfold read
  cases fs.access p with
  | error e =>
    refine ⟨fun h => ?_, ?_⟩
    · cases h
    · rintro ⟨l, executable, there, _⟩
      cases there
  | ok l =>
    dsimp only
    constructor
    · intro h
      split at h
      case h_1 => cases h
      case h_2 => cases h
      case h_3 other executable found =>
        cases h
        exact ⟨l, executable, rfl, found⟩
    · rintro ⟨l', executable, there, found⟩
      cases there
      rw [found]

theorem access_null {fs : Files} {p : Path} (null : p.hasNullCharacter = true) :
    fs.access p = .error .nullCharacter := if_pos null

theorem read_null {fs : Files} {p : Path} (null : p.hasNullCharacter = true) :
    fs.read p = .error .nullCharacter := by
  unfold read
  rw [access_null null]

theorem write_null {fs : Files} {p : Path} (null : p.hasNullCharacter = true) (content : Bytes) :
    fs.write p content = .error .nullCharacter := by
  unfold write
  rw [access_null null]

theorem read_error {fs : Files} {p : Path} {e : AccessError} (noNull : p.hasNullCharacter = false)
    (h : fs.read p = .error e) : ∃ failed, e = .system failed := by
  unfold read access at h
  rw [noNull, if_neg Bool.false_ne_true] at h
  cases located : fs.locate p with
  | error problem =>
    rw [located] at h
    cases h
    exact ⟨_, rfl⟩
  | ok l =>
    rw [located] at h
    dsimp only at h
    split at h
    case h_1 =>
      cases h
      exact ⟨_, rfl⟩
    case h_2 =>
      cases h
      exact ⟨_, rfl⟩
    case h_3 => cases h

theorem write_ok {fs fs' : Files} {p : Path} {content : Bytes} (h : fs.write p content = .ok fs') :
    ∃ l executable, fs.access p = .ok l ∧ fs.at? l ≠ some .directory ∧
      fs' = fs.set l (.file content executable) := by
  unfold write at h
  cases located : fs.access p with
  | error e =>
    rw [located] at h
    cases h
  | ok l =>
    rw [located] at h
    dsimp only at h
    split at h
    case h_1 free =>
      cases h
      exact ⟨l, false, rfl, at?_ne_directory free, rfl⟩
    case h_2 => cases h
    case h_3 old executable found =>
      cases h
      have noDirectory : fs.at? l ≠ some .directory := by
        rw [found]
        exact fun h => by cases h
      exact ⟨l, executable, rfl, noDirectory, rfl⟩

theorem read_write_same {fs fs' : Files} {p : Path} {content : Bytes}
    (h : fs.write p content = .ok fs') : fs'.read p = .ok content := by
  obtain ⟨l, executable, accessed, free, rfl⟩ := write_ok h
  obtain ⟨noNull, located⟩ := access_ok.mp accessed
  exact read_ok.mpr ⟨l, executable, access_ok.mpr ⟨noNull, locate_set _ free located⟩,
    at?_set_same (isGround_of_at? free) _⟩

theorem write_child {fs fs' : Files} {p : Path} {name : String} {content : Bytes}
    (plain : IsPlain name) (h : fs.write (p.child name) content = .ok fs') :
    ∃ l executable, fs.LeadsTo p l ∧ fs.at? (l ++ [name]) ≠ some .directory ∧
      fs' = fs.set (l ++ [name]) (.file content executable) := by
  obtain ⟨location, executable, accessed, free, rfl⟩ := write_ok h
  have located := (access_ok.mp accessed).2
  obtain ⟨l, leads⟩ := leadsTo_of_locate_child located
  cases location_of_child leads plain located
  exact ⟨l, executable, leads, free, rfl⟩

theorem read_write_other {fs fs' : Files} {p : Path} {name other : String} {content : Bytes}
    (plain : IsPlain name) (plainOther : IsPlain other) (different : other ≠ name)
    (h : fs.write (p.child name) content = .ok fs') :
    fs'.read (p.child other) = fs.read (p.child other) := by
  obtain ⟨l, executable, leads, free, rfl⟩ := write_child plain h
  have elsewhere : l ++ [other] ≠ l ++ [name] := by
    intro same
    exact different (List.cons.inj (List.append_cancel_left same)).1
  have located : (fs.set (l ++ [name]) (.file content executable)).locate (p.child other) =
      fs.locate (p.child other) := by
    rw [locate_child (leads.set _ free) plainOther, locate_child leads plainOther]
  have same : (fs.set (l ++ [name]) (.file content executable)).access (p.child other) =
      fs.access (p.child other) := by
    unfold access
    rw [located]
  unfold read
  rw [same]
  cases accessed : fs.access (p.child other) with
  | error e => rfl
  | ok location =>
    have place := (access_ok.mp accessed).2
    rw [locate_child leads plainOther] at place
    split at place
    · cases place
    split at place
    · cases place
    cases place
    dsimp only
    rw [at?_set_other elsewhere]

/-- The name that a location has in a directory. -/
def nameIn (directory l : Location) : Option String :=
  if l.dropLast == directory && l.length == directory.length + 1 then l.getLast? else none

theorem nameIn_eq_some {directory l : Location} {name : String} :
    nameIn directory l = some name ↔ l = directory ++ [name] := by
  unfold nameIn
  constructor
  · intro h
    split at h
    case isFalse => cases h
    case isTrue inside =>
      rw [Bool.and_eq_true, beq_iff_eq] at inside
      obtain ⟨before, rfl⟩ := List.getLast?_eq_some_iff.mp h
      rw [List.dropLast_concat] at inside
      rw [inside.1]
  · rintro rfl
    simp

theorem names_of_locate {fs : Files} {p : Path} {l : Location} (h : fs.locate p = .ok l) :
    fs.names p = fs.locations.filterMap (nameIn l) := by
  unfold names locations
  rw [h, List.filterMap_map]
  rfl

theorem mem_names {fs : Files} {p : Path} {l : Location} (h : fs.locate p = .ok l) {name : String} :
    name ∈ fs.names p ↔ l ++ [name] ∈ fs.locations := by
  rw [names_of_locate h, List.mem_filterMap]
  constructor
  · rintro ⟨location, member, named⟩
    rwa [nameIn_eq_some.mp named] at member
  · exact fun member => ⟨_, member, nameIn_eq_some.mpr rfl⟩

/-- Writing an entry of a directory lists it if it was not listed before, and changes nothing else.
-/
theorem names_write {fs fs' : Files} {p : Path} {name : String} {content : Bytes}
    (plain : IsPlain name) (h : fs.write (p.child name) content = .ok fs') :
    fs'.names p = if name ∈ fs.names p then fs.names p else fs.names p ++ [name] := by
  obtain ⟨l, executable, leads, free, rfl⟩ := write_child plain h
  have located := leads.1
  rw [names_of_locate (locate_set _ free located), locations_set]
  by_cases listed : name ∈ fs.names p
  · rw [if_pos ((mem_names located).mp listed), if_pos listed, names_of_locate located]
  · rw [if_neg (mt (mem_names located).mpr listed), if_neg listed, names_of_locate located,
      List.filterMap_append]
    exact congrArg _ (List.filterMap_cons_some (nameIn_eq_some.mpr rfl))

end RayScene.Files
