import RayScene.Files.Error
import RayScene.Files.Path
import RayScene.Text.Utf8

/-!
# File trees

A tree maps locations to files and directories. A location is a list of names below the current
directory, below `..` or below `/`; those three need no entry. Every operation first walks the
directories of its path.
-/

namespace RayScene

/-- Where an entry is: the names on the way to it. -/
abbrev Location := List String

inductive Entry where
  | file (content : Bytes) (executable : Bool)
  | directory
deriving DecidableEq

structure Files where
  entries : List (Location × Entry)
deriving DecidableEq

namespace Files

def empty : Files := ⟨[]⟩

def find? (location : Location) : List (Location × Entry) → Option Entry
  | [] => none
  | (l, e) :: rest => if l = location then some e else find? location rest

/-- The entries with one set: in its place if it is there, else at the end. -/
def setIn (location : Location) (entry : Entry) :
    List (Location × Entry) → List (Location × Entry)
  | [] => [(location, entry)]
  | (l, e) :: rest =>
    if l = location then (l, entry) :: rest else (l, e) :: setIn location entry rest

/-- The current directory, its ancestors and the root are directories without entries. -/
def isGround (location : Location) : Bool := location.all (· == "..") || location == ["/"]

def at? (fs : Files) (location : Location) : Option Entry :=
  if isGround location then some .directory else find? location fs.entries

def set (fs : Files) (location : Location) (entry : Entry) : Files :=
  ⟨setIn location entry fs.entries⟩

def above (location : Location) : Location :=
  if location == ["/"] then location
  else if location.all (· == "..") then ".." :: location
  else location.dropLast

/-- The longest name of an entry, in bytes. -/
def maxName : Nat := 255

/-- The longest path, in bytes. -/
def maxPath : Nat := 4095

/-- Goes from a location along names. All but the last place must be directories; `.` stays where it
is. -/
def walk (fs : Files) (location : Location) : List String → Except FileProblem Location
  | [] => .ok location
  | name :: rest =>
    match fs.at? location with
    | none => .error .notFound
    | some (.file ..) => .error .notDirectory
    | some .directory =>
      if name = "." then walk fs location rest
      else if name = ".." then walk fs (above location) rest
      else if maxName < name.utf8ByteSize then .error .nameTooLong
      else walk fs (location ++ [name]) rest

def start (root : String) : Location := if root.isEmpty then [] else ["/"]

/-- The location that a path leads to. -/
def locate (fs : Files) (p : Path) : Except FileProblem Location :=
  if maxPath < p.text.utf8ByteSize then .error .nameTooLong
  else walk fs (start p.root) p.parts

/-- The location that a path leads to as it is written, dots included. -/
def locateText (fs : Files) (text : String) : Except FileProblem Location :=
  if maxPath < text.utf8ByteSize then .error .nameTooLong
  else walk fs (start (Path.ofText text).root) (Path.namesOf text.toList)

/-- Whether a path leads to a directory. A name that is too long is an error; else what cannot be
reached is none. -/
def isDirectory (fs : Files) (p : Path) : Except SystemError Bool :=
  if p.hasNullCharacter then .ok false
  else match fs.locate p with
    | .ok location => .ok (fs.at? location == some .directory)
    | .error .nameTooLong => .error ⟨FileProblem.nameTooLong.number, p.text⟩
    | .error _ => .ok false

def failure {α : Type} (p : Path) (problem : FileProblem) : Except AccessError α :=
  .error (.system ⟨problem.number, p.text⟩)

/-- The location that a path leads to, for a call that is about it. -/
def access (fs : Files) (p : Path) : Except AccessError Location :=
  if p.hasNullCharacter then .error .nullCharacter
  else match fs.locate p with
    | .ok location => .ok location
    | .error problem => failure p problem

def read (fs : Files) (p : Path) : Except AccessError Bytes :=
  match fs.access p with
  | .error e => .error e
  | .ok location =>
    match fs.at? location with
    | none => failure p .notFound
    | some .directory => failure p .isDirectory
    | some (.file content _) => .ok content

/-- Replaces the content of a file, or makes a new one. All is written at once or nothing is: a
device that fails or fills up after the file was opened, and emptied, is left out. So are links and
permissions, here and in all of this tree; the only mode of a file is that of a program. -/
def write (fs : Files) (p : Path) (content : Bytes) : Except AccessError Files :=
  match fs.access p with
  | .error e => .error e
  | .ok location =>
    match fs.at? location with
    | none => .ok (fs.set location (.file content false))
    | some .directory => failure p .isDirectory
    | some (.file _ executable) => .ok (fs.set location (.file content executable))

/-- Makes one directory, whose place must be free. -/
def makeDirectory (fs : Files) (p : Path) : Except FileProblem Files :=
  match fs.locate p with
  | .error problem => .error problem
  | .ok location =>
    match fs.at? location with
    | none => .ok (fs.set location .directory)
    | some _ => .error .exists

/-- What a directory that was not made amounts to: nothing, if it is there already. -/
def settle (fs : Files) (p : Path) (problem : FileProblem) : Except AccessError Unit :=
  if problem ≠ .notFound ∧ (fs.isDirectory p).toOption = some true then .ok ()
  else failure p problem

/-- Makes the directory with these parts and all directories above it; the parts come last first.
The directories that were made before a failure stay. -/
def makeDirectoriesFrom (fs : Files) (root : String) :
    List String → Files × Except AccessError Unit
  | [] =>
    match fs.makeDirectory ⟨root, []⟩ with
    | .ok fs' => (fs', .ok ())
    | .error problem => (fs, fs.settle ⟨root, []⟩ problem)
  | last :: before =>
    let p : Path := ⟨root, (last :: before).reverse⟩
    match fs.makeDirectory p with
    | .ok fs' => (fs', .ok ())
    | .error .notFound =>
      match makeDirectoriesFrom fs root before with
      | (fs', .error e) => (fs', .error e)
      | (fs', .ok ()) =>
        match fs'.makeDirectory p with
        | .ok fs'' => (fs'', .ok ())
        | .error problem => (fs', fs'.settle p problem)
    | .error problem => (fs, fs.settle p problem)

/-- Makes a directory and all directories above it. -/
def makeDirectories (fs : Files) (p : Path) : Files × Except AccessError Unit :=
  if p.hasNullCharacter then (fs, .error .nullCharacter)
  else makeDirectoriesFrom fs p.root p.parts.reverse

def names (fs : Files) (p : Path) : List String :=
  match fs.locate p with
  | .error _ => []
  | .ok location =>
    fs.entries.filterMap fun (l, _) =>
      if l.dropLast == location && l.length == location.length + 1 then l.getLast? else none

/-- Marks a file as a program. -/
def makeExecutable (fs : Files) (p : Path) : Files :=
  match fs.locate p with
  | .error _ => fs
  | .ok location =>
    match fs.at? location with
    | some (.file content _) => fs.set location (.file content true)
    | _ => fs

def isProgram (fs : Files) : Except FileProblem Location → Bool
  | .ok location =>
    match fs.at? location with
    | some (.file _ executable) => executable
    | _ => false
  | .error _ => false

/-- Whether a command is found: by its path if it has a slash, else in the directory for
programs. -/
def hasCommand (fs : Files) (programs : Path) (command : String) : Bool :=
  match command.toList.getLast? with
  | none => false
  | some '/' => false
  | some _ =>
    if command.toList.contains '/' then fs.isProgram (fs.locateText command)
    else fs.isProgram (fs.locate (programs.child command))

/-- All entries below the current directory with their paths, in the order of the paths. -/
def listing (fs : Files) : List (String × Entry) :=
  let below := fs.entries.filter fun (l, _) => l.head? != some "/" && l.head? != some ".."
  (below.map fun (l, e) => (String.intercalate "/" l, e)).mergeSort fun a b => a.1 ≤ b.1

end Files

end RayScene
