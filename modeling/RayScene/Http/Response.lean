import RayScene.Json.Writer
import RayScene.Text.Utf8

/-!
# Responses

What a request is answered with: a status, a content with its media type, and a few headers.
-/

namespace RayScene.Http

inductive Content where
  | nothing
  | json (v : Json)
  /-- JSON text that is passed on as it is -/
  | source (text : String)
  | text (text : String)
  | png (bytes : Bytes)

def Content.mediaType : Content → Option String
  | nothing => none
  | json _ | source _ => some "application/json"
  | text _ => some "text/plain; charset=utf-8"
  | png _ => some "image/png"

def Content.bytes : Content → Bytes
  | nothing => []
  | json v => Utf8.encode (v.inline .tight)
  | source s | text s => Utf8.encode s
  | png bytes => bytes

structure Response where
  status : Int
  content : Content
  /-- the methods that a path has -/
  allow : Option String
  /-- where a path has moved -/
  location : Option String
  disposition : Option String
  /-- whether the content is named but left out -/
  headOnly : Bool

namespace Response

def ofContent (status : Int) (content : Content) : Response :=
  ⟨status, content, none, none, none, false⟩

def ok (content : Content) : Response := ofContent 200 content

def detail (status : Int) (text : String) : Response :=
  ofContent status (.json (.obj [("detail", .str text)]))

def notFound : Response := detail 404 "Not Found"

/-- A path that does not have the method. -/
def wrongMethod (allow : String) : Response :=
  { detail 405 "Method Not Allowed" with allow := some allow }

/-- A path that is found elsewhere. -/
def moved (location : String) : Response :=
  { ofContent 307 .nothing with location := some location }

/-- A failure that users are told nothing about. -/
def internalError : Response := ofContent 500 (.text "Internal Server Error")

/-- A JSON value as far as it can be sent: infinite floats, NaN and surrogates cannot. -/
def strictJson (status : Int) (v : Json) : Response :=
  if v.isFinite && v.hasProperStrings && v.hasProperKeys then ofContent status (.json v)
  else internalError

/-- The greatest height of a result that is sent. -/
def maxHeight : Nat := 258

/-- A result as JSON. Infinite floats and NaN become null and keys are shown without surrogates, but
no other string may hold one, and values may not be inside each other without end. -/
def result (v : Json) : Response :=
  if v.hasProperStrings && v.height ≤ maxHeight then ok (.json v.finitePart.withShownKeys)
  else internalError

def body (r : Response) : Bytes := if r.headOnly then [] else r.content.bytes

end Response

end RayScene.Http
