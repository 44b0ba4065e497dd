/-!
# Paths

A path is a root and parts. Empty parts and `.` are dropped when a path is read; `..` stays, because
what it means depends on the files. Two slashes at the start are a root of their own, more are the
same as one.
-/

namespace RayScene

/-- A path; the root is empty for a path from the current directory. -/
structure Path where
  root : String
  parts : List String
deriving DecidableEq

namespace Path

def split (cs : List Char) : List (List Char) :=
  cs.foldr (fun c parts =>
    match c, parts with
    | '/', parts => [] :: parts
    | c, part :: rest => (c :: part) :: rest
    | c, [] => [[c]]) [[]]

def namesOf (cs : List Char) : List String :=
  ((split cs).map String.ofList).filter fun part => part ≠ ""

/-- The parts of a text that lead somewhere. -/
def partsOf (cs : List Char) : List String := (namesOf cs).filter fun part => part ≠ "."

def ofText (s : String) : Path :=
  let root := match s.toList with
    | '/' :: '/' :: '/' :: _ => "/"
    | ['/', '/'] => "//"
    | '/' :: '/' :: _ => "//"
    | '/' :: _ => "/"
    | _ => ""
  ⟨root, partsOf s.toList⟩

/-- Writes a path; the current directory is `.`. -/
def text (p : Path) : String :=
  let s := p.root ++ String.intercalate "/" p.parts
  if s.isEmpty then "." else s

def hasNullCharacter (p : Path) : Bool := p.parts.any fun part => part.toList.contains '\x00'

def child (p : Path) (name : String) : Path := { p with parts := p.parts ++ [name] }

end Path

end RayScene
