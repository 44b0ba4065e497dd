import RayScene.Http.Response
import RayScene.Text.Percent
import RayScene.Files.Path

/-!
# Routes

The target of a request is a path and a query. The path is taken apart before its escapes are
decoded, so that an escaped dot is no step up; routes are looked up with the decoded path, so that
an escaped slash still ends a name. Both the client and the server decode a path, so that what is
escaped twice is plain too.
-/

namespace RayScene.Http

structure Target where
  path : String
  query : Option String
deriving DecidableEq

namespace Target

/-- The characters before the first occurrence of a character, and those after it if it occurs. -/
def cut (mark : Char) (cs : List Char) : List Char × Option (List Char) :=
  match cs.dropWhile (· ≠ mark) with
  | [] => (cs, none)
  | _ :: rest => (cs.takeWhile (· ≠ mark), some rest)

/-- A path without the authority that two slashes announce. -/
def dropAuthority : List Char → List Char
  | '/' :: '/' :: rest => rest.dropWhile (· ≠ '/')
  | cs => cs

/-- Resolves the parts `.` and `..`; `kept` holds the parts so far, last first. -/
def resolveDots (kept : List String) : List String → List String
  | [] => kept.reverse
  | part :: rest =>
    if part = "." then resolveDots kept rest
    else if part = ".." then
      match kept with
      | [] | [""] => resolveDots kept rest
      | _ :: before => resolveDots before rest
    else resolveDots (part :: kept) rest

/-- A path that starts with one slash and has no dots to resolve. -/
def normalize (cs : List Char) : String :=
  let absolute := '/' :: (dropAuthority cs).dropWhile (· = '/')
  String.intercalate "/" (resolveDots [] ((Path.split absolute).map String.ofList))

/-- Reads a target; what follows a number sign is not sent. -/
def ofText (s : String) : Target :=
  let (path, query) := cut '?' (cut '#' s.toList).1
  ⟨Percent.decode (Percent.decode (normalize path)), query.map String.ofList⟩

end Target

inductive Endpoint where
  | health
  | validate
  | compile
  | render
  | scenes
  | scene (name : String)
  | image (name : String)
  | examples
  | agent
deriving DecidableEq

namespace Endpoint

def method : Endpoint → String
  | validate | compile | render | agent => "POST"
  | health | scenes | scene _ | image _ | examples => "GET"

def fixedPaths : List (String × Endpoint) :=
  [("/api/health", health), ("/api/validate", validate), ("/api/compile", compile),
    ("/api/render", render), ("/api/scenes", scenes), ("/api/examples", examples),
    ("/api/agent", agent)]

/-- The paths that go on with a name. -/
def namedPaths : List (String × (String → Endpoint)) :=
  [("/api/scenes/", scene), ("/api/images/", image)]

/-- The name with which a path goes on. -/
def nameAfter? (start path : String) : Option String :=
  if start.toList.isPrefixOf path.toList then
    let name := path.toList.drop start.length
    if name.isEmpty || name.contains '/' then none else some (String.ofList name)
  else none

/-- The endpoint at a path. A line feed at the end of a path without a name does not matter. -/
def ofPath? (path : String) : Option Endpoint :=
  match fixedPaths.find? fun (p, _) => path == p || path == p ++ "\n" with
  | some (_, e) => some e
  | none => namedPaths.findSome? fun (start, e) => (nameAfter? start path).map e

end Endpoint

inductive Route where
  | endpoint (e : Endpoint)
  | wrongMethod (allow : String)
  /-- the path without the slashes at its end is one of an endpoint -/
  | moved (path : String)
  | unknown
deriving DecidableEq

namespace Route

def withoutSlashes (path : String) : String :=
  String.ofList (path.toList.reverse.dropWhile (· = '/')).reverse

def find (method path : String) : Route :=
  match Endpoint.ofPath? path with
  | some e => if e.method = method then endpoint e else wrongMethod e.method
  | none =>
    let shorter := withoutSlashes path
    if shorter ≠ path ∧ (Endpoint.ofPath? shorter).isSome then moved shorter else unknown

/-- A path in an address, where a question mark or a number sign would end it. -/
def escapeMarks (path : String) : String :=
  String.ofList (path.toList.flatMap fun c =>
    if c = '?' ∨ c = '#' then Percent.escapeByte (UInt8.ofNat c.toNat) else [c])

/-- The address of a path, with the query if there is one. -/
def address (origin path : String) (query : Option String) : String :=
  Percent.encode (origin ++ escapeMarks path ++
    match query with
    | some q => if q.isEmpty then "" else "?" ++ q
    | none => "")

end Route

end RayScene.Http
