import RayScene.Agent.Message
import RayScene.Files.Tree
import RayScene.Program
import RayScene.Scene.Source
import RayScene.Settings

/-!
# The studio

The studio works on files, runs two programs and talks to a model. An action of the studio
(`Studio`) gives a result or a failure; what it did before a failure stays done.
-/

namespace RayScene

/-- The connection to the model, with the replies to come and the requests so far. -/
structure ModelClient where
  apiKey : String
  maxRetries : Nat
  replies : List Reply
  requests : List Request

/-- All that actions of the studio depend on and change. -/
structure World where
  files : Files
  settings : Settings
  /-- where commands without a path are looked for -/
  programs : Path
  renderer : Program
  converter : Program
  /-- the runs of programs so far -/
  runs : List Invocation
  /-- the connection to the model, made when it is first needed -/
  client : Option ModelClient
  /-- whether a connection can be made -/
  connectable : Bool
  /-- for how many seconds a run can be waited for -/
  canWait : Int → Bool
  trig : Trig
  edition : Edition

abbrev Studio (α : Type) := ExceptT Failure (StateM World) α

namespace Studio

def fault {α : Type} (f : Fault) : Studio α := throw (.fault f)

def ofExcept {ε α : Type} (toFailure : ε → Failure) : Except ε α → Studio α
  | .ok a => pure a
  | .error e => throw (toFailure e)

/-- What was read of a value that was given. -/
def accept {α : Type} (checked : Checked α) : Studio α :=
  ofExcept (fun vs => .fault (.schema .value vs)) checked

def read {α : Type} (f : World → α) : Studio α := do return f (← get)

def runIn {α : Type} (w : World) (action : Studio α) : Except Failure α × World :=
  (ExceptT.run action).run w

end Studio

end RayScene
