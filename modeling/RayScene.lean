import RayScene.Agent.Example
import RayScene.Agent.Message
import RayScene.Agent.Prompt
import RayScene.Agent.Run
import RayScene.Agent.Tool
import RayScene.Agent.ToolSchema
import RayScene.Collected
import RayScene.CommandLine.Arguments
import RayScene.CommandLine.Convert
import RayScene.Fault
import RayScene.Files.Error
import RayScene.Files.Path
import RayScene.Files.Tree
import RayScene.Http.Forms
import RayScene.Http.Intake
import RayScene.Http.Response
import RayScene.Http.Route
import RayScene.Http.Server
import RayScene.Json.Basic
import RayScene.Json.Body
import RayScene.Json.Display
import RayScene.Json.Machine
import RayScene.Json.Syntax
import RayScene.Json.Writer
import RayScene.Main
import RayScene.Number.Basic
import RayScene.Number.Decimal
import RayScene.Number.Double
import RayScene.Number.Style
import RayScene.Program
import RayScene.Proofs.Agent.Calls
import RayScene.Proofs.Agent.Continuation
import RayScene.Proofs.Agent.Course
import RayScene.Proofs.Agent.Dialogue
import RayScene.Proofs.Agent.Endings
import RayScene.Proofs.Agent.Renderings
import RayScene.Proofs.Agent.Replies
import RayScene.Proofs.Agent.Requests
import RayScene.Proofs.Agent.Settled
import RayScene.Proofs.Agent.Tools
import RayScene.Proofs.Agent.Turns
import RayScene.Proofs.Agent.UserTexts
import RayScene.Proofs.CommandLine.Conversion
import RayScene.Proofs.Files.Directories
import RayScene.Proofs.Files.Locality
import RayScene.Proofs.Files.Path
import RayScene.Proofs.Files.Tree
import RayScene.Proofs.Http.AgentEndpoint
import RayScene.Proofs.Http.Agreement
import RayScene.Proofs.Http.RenderTool
import RayScene.Proofs.Http.Rendering
import RayScene.Proofs.Http.Sending
import RayScene.Proofs.Http.Serving
import RayScene.Proofs.Http.Targets
import RayScene.Proofs.Json.Bodies
import RayScene.Proofs.Json.Grammar
import RayScene.Proofs.Json.Keys
import RayScene.Proofs.Json.Limits
import RayScene.Proofs.Json.Numerals
import RayScene.Proofs.Json.Reading
import RayScene.Proofs.Json.Strings
import RayScene.Proofs.Json.Written
import RayScene.Proofs.Number.Pattern
import RayScene.Proofs.Number.Product
import RayScene.Proofs.Number.Reading
import RayScene.Proofs.Number.Rounding
import RayScene.Proofs.Number.Shortest
import RayScene.Proofs.Number.Sum
import RayScene.Proofs.Outcome
import RayScene.Proofs.Scene.Accepted
import RayScene.Proofs.Scene.Camera
import RayScene.Proofs.Scene.Compiling
import RayScene.Proofs.Scene.Completion
import RayScene.Proofs.Scene.Decides
import RayScene.Proofs.Scene.Editions
import RayScene.Proofs.Scene.Explaining
import RayScene.Proofs.Scene.Language
import RayScene.Proofs.Scene.Nets
import RayScene.Proofs.Scene.Places
import RayScene.Proofs.Scene.Refusals
import RayScene.Proofs.Scene.Renaming
import RayScene.Proofs.Scene.Reordering
import RayScene.Proofs.Scene.Reports
import RayScene.Proofs.Scene.Resolution
import RayScene.Proofs.Scene.Verdicts
import RayScene.Proofs.Scene.Written
import RayScene.Proofs.Studio.Actions
import RayScene.Proofs.Studio.Artifacts
import RayScene.Proofs.Studio.Calls
import RayScene.Proofs.Studio.Confinement
import RayScene.Proofs.Studio.Connection
import RayScene.Proofs.Studio.Directory
import RayScene.Proofs.Studio.Effects
import RayScene.Proofs.Studio.EmptyStore
import RayScene.Proofs.Studio.Failures
import RayScene.Proofs.Studio.Holdings
import RayScene.Proofs.Studio.Interleaving
import RayScene.Proofs.Studio.LastWrite
import RayScene.Proofs.Studio.Overlay
import RayScene.Proofs.Studio.Records
import RayScene.Proofs.Studio.Rendered
import RayScene.Proofs.Studio.Runs
import RayScene.Proofs.Studio.Sequence
import RayScene.Proofs.Studio.Serial
import RayScene.Proofs.Studio.Sources
import RayScene.Proofs.Studio.Stages
import RayScene.Proofs.Studio.Steps
import RayScene.Proofs.Text.Utf8
import RayScene.Proofs.Wire.Numerals
import RayScene.Proofs.Wire.Reader
import RayScene.Proofs.Wire.RoundTrip
import RayScene.Proofs.Wire.Spelling
import RayScene.Proofs.Wire.Tokens
import RayScene.Proofs.Wire.Validation
import RayScene.Proofs.Wire.Written
import RayScene.Scene.Basic
import RayScene.Scene.Camera
import RayScene.Scene.Check
import RayScene.Scene.Net
import RayScene.Scene.Schema
import RayScene.Scene.Source
import RayScene.Scene.Unchecked
import RayScene.Scene.Violation
import RayScene.Scene.Wire
import RayScene.Settings
import RayScene.Studio.Pipeline
import RayScene.Studio.Store
import RayScene.Studio.World
import RayScene.Text.Base64
import RayScene.Text.Blank
import RayScene.Text.DecimalDigit
import RayScene.Text.Encoding
import RayScene.Text.Hex
import RayScene.Text.Integer
import RayScene.Text.Loose
import RayScene.Text.Percent
import RayScene.Text.Printable
import RayScene.Text.Quoted
import RayScene.Text.Utf8
import RayScene.Verdict
