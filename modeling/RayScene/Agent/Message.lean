import RayScene.Fault

/-!
# Messages

A conversation is a list of messages. A message is a JSON object with a role and a content, and
keeps whatever other fields it came with. Replies of the model are lists of blocks; text and calls
of tools are kept, other blocks are dropped.
-/

namespace RayScene

abbrev Message := Fields

def blockOfText (text : LooseText) : Json := .obj [("type", .str "text"), ("text", .str text)]

def blockOfImage (png : String) : Json :=
  .obj [("type", .str "image"), ("source", .obj [("type", .str "base64"),
    ("media_type", .str "image/png"), ("data", .str png)])]

namespace Message

def user (content : Json) : Message := [("role", .str "user"), ("content", content)]

def assistant (blocks : List Json) : Message :=
  [("role", .str "assistant"), ("content", .arr blocks)]

/-- The content of a message as blocks; the keys of an object count as its items. -/
def contentBlocks : Json → Except MessageDefect (List Json)
  | .str s => .ok [blockOfText s]
  | .arr items => .ok items
  | .obj fields => .ok ((Fields.keys fields).map .str)
  | v => .error (.content v.kind)

/-- A user message with one more text block. -/
def withText (m : Message) (text : LooseText) : Except MessageDefect Message :=
  match Fields.get? m "content" with
  | none => .error .noContent
  | some content => do
    let blocks ← contentBlocks content
    return Fields.set m "content" (.arr (blocks ++ [blockOfText text]))

end Message

/-- Adds text of the user: to the last message if that is a user's, else as a message of its
own. -/
def addUserText (text : LooseText) : List Message → Except MessageDefect (List Message)
  | [] => .ok [Message.user (.str text)]
  | [last] =>
    match Fields.get? last "role" with
    | none => .error .noRole
    | some role =>
      if role.isText "user" then (last.withText text).map fun m => [m]
      else .ok [last, Message.user (.str text)]
  | m :: rest => (addUserText text rest).map (m :: ·)

inductive Block where
  | text (text : Json)
  | toolUse (id name input : Json)
  | other

namespace Block

/-- A field that must be there. -/
def field (fields : Fields) (name : String) : Except String Json :=
  match Fields.get? fields name with
  | some v => .ok v
  | none => .error name

/-- Reads a block, or names the first field that it lacks. -/
def ofFields (fields : Fields) : Except String Block := do
  let kind ← field fields "type"
  if kind.isText "text" then return .text (← field fields "text")
  else if kind.isText "tool_use" then
    let id ← field fields "id"
    let name ← field fields "name"
    return .toolUse id name (← field fields "input")
  else return .other

/-- The block as a conversation keeps it, if it does. -/
def kept? : Block → Option Json
  | text t => some (.obj [("type", .str "text"), ("text", t)])
  | toolUse id name input =>
    some (.obj [("type", .str "tool_use"), ("id", id), ("name", name), ("input", input)])
  | other => none

def text? : Block → Option Json
  | text t => some t
  | _ => none

def isToolUse : Block → Bool
  | toolUse .. => true
  | _ => false

end Block

def readBlocks (blocks : List Fields) : Except String (List Block) := blocks.mapM Block.ofFields

/-- The text of a reply: its text blocks, one on each line. -/
def joinTexts (blocks : List Block) : Except Failure LooseText := do
  let texts := blocks.filterMap Block.text?
  let strings ← texts.zipIdx.mapM fun (t, i) =>
    match t with
    | .str s => Except.ok s
    | v => .error (Failure.noText i v.kind)
  return LooseText.intercalate "\n" strings

inductive Reply where
  | blocks (blocks : List Fields) (stopReason : Option String)
  | refused (text : String)

structure Request where
  model : LooseText
  maxTokens : Int
  messages : List Message

end RayScene
