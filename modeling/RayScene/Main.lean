import RayScene.CommandLine.Convert
import Std.Time.Format

/-!
# The convert command

Runs the command on the files of the machine. Other programs are not started from here, so that a
rendering ends with the error that the renderer could not be started.
-/

namespace RayScene.Main

/-- The files that the command sees: the scene file alone, below its directories. -/
def filesWith (path : Path) (content : Bytes) : Files :=
  let above : Path := { path with parts := path.parts.dropLast }
  let files := (Files.empty.makeDirectories above).1
  (files.write path content).toOption.getD files

def load (arguments : List String) : IO Files := do
  match CommandLine.Command.ofArguments arguments with
  | .ok (.convert scene _) =>
    let path := Path.ofText scene
    try
      let content ← IO.FS.readBinFile path.text
      return filesWith path content.toList
    catch
      | .noFileOrDirectory .. => return .empty
      | _ => return (Files.empty.makeDirectories path).1
  | _ => return .empty

/-- Saves the image that the arguments ask for, if there is one. -/
def save (arguments : List String) (files : Files) : IO Unit := do
  match CommandLine.Command.ofArguments arguments with
  | .ok (.convert _ (some output)) =>
    let path := Path.ofText output
    match files.read path with
    | .ok content => IO.FS.writeBinFile path.text (ByteArray.mk content.toArray)
    | .error _ => return
  | _ => return

def settings : IO (Except Settings.EnvironmentError Settings) := do
  let values ← Settings.variableNames.mapM fun name => do
    return (← IO.getEnv name).map fun value => (name, value)
  return Settings.ofEnvironment (values.filterMap id)

def time : IO String := do
  return (← Std.Time.PlainDateTime.now).format "uuuu-MM-dd HH:mm:ss,SSS"

/-- A program that is not there: starting programs is not supported. -/
def unsupported : Program := fun _ _ => .notStarted 38

def world (settings : Settings) (files : Files) : World where
  files := files
  settings := settings
  programs := Path.ofText "bin"
  renderer := unsupported
  converter := unsupported
  runs := []
  client := none
  connectable := false
  canWait := Program.canWait
  trig := .platform
  edition := .earlier

def run (arguments : List String) : IO UInt32 := do
  match ← settings with
  | .error e =>
    IO.eprintln e.message
    return 1
  | .ok settings =>
    let (finished, w) := CommandLine.run (← time) arguments (world settings (← load arguments))
    IO.print finished.output
    IO.eprint finished.errors
    match finished.exit with
    | .ok status =>
      if status = 0 then save arguments w.files
      return UInt32.ofNat status
    | .error f =>
      IO.eprintln f.message
      return 1

end RayScene.Main

/-- Compiles a scene file and prints the renderer input. -/
def main (arguments : List String) : IO UInt32 := RayScene.Main.run arguments
