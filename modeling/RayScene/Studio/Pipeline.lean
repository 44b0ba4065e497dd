import RayScene.Studio.World

/-!
# The render pipeline

The renderer turns renderer input into a bitmap, the converter turns the bitmap into a PNG. Each
program gets all its input, and the second one starts only after the first one succeeded.
-/

namespace RayScene.Studio

def program (w : World) : Stage → Program
  | .renderer => w.renderer
  | .converter => w.converter

def command (settings : Settings) : Stage → List String
  | .renderer => [settings.rendererPath]
  | .converter => [settings.converterPath, "ppm:-", "png:-"]

/-- What the outcome of a run amounts to: its output counts only after a success. A program that
has started is of no use if its run cannot be waited for. -/
def outcomeResult (stage : Stage) (run : Invocation) (waitable : Bool) :
    Outcome → Except Failure Bytes
  | .notStarted number => .error (.fault (.render (.notStarted stage ⟨number, run.program⟩)))
  | .timedOut =>
    .error (if waitable then .fault (.render (.timedOut stage run.timeout))
      else .unwaitable run.timeout)
  | .exited status output errors =>
    if !waitable then .error (.unwaitable run.timeout)
    else if status = 0 then .ok output
    else .error (.fault (.render (.failed stage status (Utf8.decodeLossy errors))))

/-- Runs a stage. Every attempt is recorded. -/
def runStage (stage : Stage) (input : Bytes) (timeout : Int) : Studio Bytes := do
  let w ← get
  let run : Invocation := ⟨command w.settings stage, input, timeout⟩
  set { w with runs := w.runs ++ [run] }
  ofExcept id (outcomeResult stage run (w.canWait timeout) (program w stage w.runs run))

/-- Renders renderer input. The configured timeout holds only if none is given. -/
def renderText (text : String) (timeout : Option Int) : Studio Bytes := do
  let timeout := timeout.getD (← read fun w => w.settings.timeout)
  let bitmap ← runStage .renderer (Utf8.encode (text ++ "\n")) timeout
  runStage .converter bitmap timeout

/-- Renders any text. One with surrogates is not given to a program. -/
def renderInput (text : LooseText) (timeout : Option Int) : Studio Bytes := do
  renderText (← ofExcept .unencodable (Utf8.encodable text)) timeout

def compile (s : Scene) : Studio String := do
  ofExcept Failure.ofCompile (s.compileText (← read World.trig))

def writeImage (place : String) (png : Bytes) : Studio Unit := do
  let w ← get
  let files ← ofExcept (.ofAccess fun e => .fault (.render (.notWritten place e)))
    (w.files.write (Path.ofText place) png)
  set { w with files }

/-- Renders a scene, and writes the image if a place is given. -/
def renderTo (s : Scene) (place : Option String) : Studio Bytes := do
  let text ← compile s
  let png ← renderText text none
  if let some place := place then writeImage place png
  return png

end RayScene.Studio
