import RayScene.Agent.Example
import RayScene.Agent.Prompt
import RayScene.Agent.Tool

/-!
# The agent

The agent sends the conversation to the model, calls the tools that the model asks for and sends the
results back, until the model answers without a call or the turns are used up.
-/

namespace RayScene

def Request.system : String := Prompt.system ++ "\n\n## Examples\n\n" ++ Example.allTexts

/-- How the model may call tools: as it likes, but one at a time. -/
def Request.toolChoice : Json :=
  .obj [("type", .str "auto"), ("disable_parallel_tool_use", .bool true)]

structure AgentResult where
  text : LooseText
  /-- the names of the scenes that were rendered -/
  rendered : List Json
  turns : Int
  stopReason : String
  messages : List Message

def AgentResult.toJson (r : AgentResult) : Json :=
  .obj [("text", .str r.text), ("rendered", .arr r.rendered), ("turns", .int r.turns),
    ("stop_reason", .str r.stopReason), ("messages", .arr (r.messages.map .obj))]

namespace Agent

/-- The connection to the model, made now if there is none yet. -/
def connect : Studio ModelClient := do
  let w ← get
  match w.client with
  | some client => return client
  | none =>
    unless w.connectable do throw .noConnection
    let client : ModelClient := ⟨w.settings.apiKey, Settings.maxRetries, [], []⟩
    set { w with client := some client }
    return client

/-- Sends a request. The next reply is used up, whatever it is. -/
def send (request : Request) : Studio (List Fields × Option String) := do
  let client ← connect
  let requests := client.requests ++ [request]
  let reply := client.replies.head?.getD (.refused "no more responses")
  let next := { client with replies := client.replies.drop 1, requests }
  modify fun w => { w with client := some next }
  match reply with
  | .blocks blocks stopReason => return (blocks, stopReason)
  | .refused text => throw (.model text)

/-- Whether a result belongs to a rendering that succeeded. -/
def isRendering (name : Json) (result : ToolResult) : Bool :=
  Tool.ofJson? name == some .render && !result.isError

def callTools : List Block → Studio (List Json × List Json)
  | [] => return ([], [])
  | .toolUse id name input :: rest => do
    let result ← Tool.callNamed name input
    let (rendered, results) ← callTools rest
    let names := if isRendering name result then (input.get? "name").toList else []
    return (names ++ rendered, result.block id :: results)
  | _ :: rest => callTools rest

/-- What does not change from turn to turn. -/
structure Session where
  model : LooseText
  maxTokens : Int
  maxTurns : Int

/-- Goes on with a conversation for `remaining` more turns after `turns` of them. -/
def converse (session : Session) (turns : Nat) (rendered : List Json) (messages : List Message) :
    (remaining : Nat) → Studio AgentResult
  | 0 => return ⟨"", rendered, session.maxTurns, "max_turns", messages⟩
  | remaining + 1 => do
    let (reply, stopReason) ← send ⟨session.model, session.maxTokens, messages⟩
    let blocks ← Studio.ofExcept .noField (readBlocks reply)
    let messages := messages ++ [Message.assistant (blocks.filterMap Block.kept?)]
    if stopReason == some "tool_use" && blocks.any Block.isToolUse then
      let (names, results) ← callTools blocks
      converse session (turns + 1) (rendered ++ names)
        (messages ++ [Message.user (.arr results)]) remaining
    else
      let text ← Studio.ofExcept id (joinTexts blocks)
      return ⟨text, rendered, turns + 1, stopReason.getD "", messages⟩

/-- A value that is given and not empty, or the default. -/
def givenOr {α : Type} (isEmpty : α → Bool) (fallback : α) : Option α → α
  | some a => if isEmpty a then fallback else a
  | none => fallback

/-- Holds a conversation that goes on from a history with a prompt. -/
def run (prompt : LooseText) (model : Option LooseText) (maxTurns : Option Int)
    (history : List Message) : Studio AgentResult := do
  let settings ← Studio.read World.settings
  let model := Settings.modelId (givenOr LooseText.isEmpty settings.defaultModel model)
  let maxTurns := givenOr (· == 0) settings.maxTurns maxTurns
  let _ ← connect
  let messages ← Studio.ofExcept .defective (addUserText prompt history)
  converse ⟨model, settings.maxTokens, maxTurns⟩ 0 [] messages maxTurns.toNat

end Agent

end RayScene
