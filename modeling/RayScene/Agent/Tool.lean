import RayScene.Agent.Message
import RayScene.Agent.ToolSchema
import RayScene.Json.Display
import RayScene.Studio.Store

/-!
# Tools

The tools that the model may call. A call that ends in a fault is answered with the text of the
fault, so that the model can try again; any other failure ends the action.
-/

namespace RayScene

inductive Tool where
  | render
  | readSource
  | readImage
deriving DecidableEq

instance : Named Tool where
  all := [.render, .readSource, .readImage]
  name
    | .render => "render"
    | .readSource => "read_source"
    | .readImage => "read_image"

structure RenderArguments where
  name : LooseText
  scene : Scene

/-- Reads the arguments of rendering; unknown fields do not matter. -/
def RenderArguments.check : Json → Checked RenderArguments :=
  Check.object .renderArguments fun fields =>
    Collected.pure RenderArguments.mk
      |>.app (Check.required fields "name" Check.string)
      |>.app (Check.required fields "content" Scene.check)

/-- Reads the name of a stored scene; unknown fields do not matter. -/
def checkNameArgument : Json → Checked LooseText :=
  Check.object .nameArguments fun fields => Check.required fields "name" Check.string

structure ToolResult where
  content : List Json
  isError : Bool

namespace ToolResult

def error (text : LooseText) : ToolResult := ⟨[blockOfText text], true⟩

def image (text : LooseText) (png : Bytes) : ToolResult :=
  ⟨[blockOfText text, blockOfImage (Base64.encode png)], false⟩

/-- The answer to the call with this id, as a block. -/
def block (id : Json) (r : ToolResult) : Json :=
  .obj [("type", .str "tool_result"), ("tool_use_id", id), ("content", .arr r.content),
    ("is_error", .bool r.isError)]

end ToolResult

namespace Tool

def description : Tool → String
  | render => "Render an image from the scene content and store it under the name."
  | readSource => "Read the source JSON of a stored scene."
  | readImage => "Read the rendered image of a stored scene."

def schema : Tool → Json
  | render => ToolSchema.renderArguments
  | readSource | readImage => ToolSchema.nameArguments

def toJson (t : Tool) : Json :=
  .obj [("name", .str (Named.name t)), ("description", .str t.description),
    ("input_schema", t.schema)]

def allJson : Json := .arr ((Named.all (α := Tool)).map toJson)

def run (input : Json) : Tool → Studio ToolResult
  | render => do
    let args ← Studio.accept (RenderArguments.check input)
    let png ← Studio.renderAs args.scene args.name
    return .image ("Rendered image " ++ Text.quoted args.name ++ ".") png
  | readImage => do
    let name ← Studio.accept (checkNameArgument input)
    let png ← Studio.storedImage name
    return .image ("Loaded image " ++ Text.quoted name ++ ".") png
  | readSource => do
    let name ← Studio.accept (checkNameArgument input)
    let source ← Studio.storedSource name
    return ⟨[blockOfText ("Source of " ++ Text.quoted name ++ ":\n" ++ source ++ "\n")], false⟩

def call (input : Json) (t : Tool) : Studio ToolResult :=
  tryCatch (t.run input) fun
    | .fault f => return .error ("Tool " ++ Named.name t ++ " failed: " ++ f.message)
    | e => throw e

def ofJson? : Json → Option Tool
  | .str s => s.proper?.bind Named.ofName?
  | _ => none

/-- Calls the tool with this name, if there is one. -/
def callNamed (name input : Json) : Studio ToolResult :=
  match ofJson? name with
  | some t => t.call input
  | none => return .error ("Unknown tool: " ++ name.display)

end Tool

end RayScene
