import RayScene.Files.Error
import RayScene.Number.Basic
import RayScene.Text.Utf8

/-!
# External programs

A program is what becomes of each way to run it, which may be another thing every time. Programs
that follow a fixed script are one kind (`Script`).
-/

namespace RayScene

/-- One run of a program: the command with its arguments, the input and the seconds it may take. -/
structure Invocation where
  command : List String
  input : Bytes
  timeout : Int
deriving DecidableEq

inductive Outcome where
  | notStarted (errorNumber : Int)
  | timedOut
  | exited (status : Int) (output errors : Bytes)
deriving DecidableEq

/-- What a program does with each run, after the runs before it. -/
abbrev Program := List Invocation → Invocation → Outcome

/-- Whether runs of so many seconds can be waited for: times are floats, and the timer counts less
than 2 ^ 31 milliseconds. -/
def Program.canWait (seconds : Int) : Bool :=
  Double.isFinite (Double.ofInt seconds) && seconds * 1000 < 2147483648

/-- A program that always does the same. -/
structure Script where
  errorNumber : Option Int
  seconds : Number
  status : Int
  output : Bytes
  errors : Bytes
  /-- whether the output ends with all of the input -/
  echo : Bool

/-- A script that ends at once without output. -/
def Script.silent : Script := ⟨none, .int 0, 0, [], [], false⟩

def Script.program (s : Script) : Program := fun _ run =>
  match s.errorNumber with
  | some number => .notStarted number
  | none =>
    if s.seconds.exceeds run.timeout then .timedOut
    else .exited s.status (s.output ++ if s.echo then run.input else []) s.errors

/-- The program of a run as its errors name it. -/
def Invocation.program (run : Invocation) : String := run.command.head?.getD ""

end RayScene
