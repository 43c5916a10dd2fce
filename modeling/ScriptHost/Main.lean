import ScriptHost.Builtin.DateFunction
import ScriptHost.Script.Demonstration
import ScriptHost.World.Start

/-!
# The command line

The program shows what scripts can do. Its argument, if there is one, is the date and time at which
the demonstration takes place; questions are answered from standard input.
-/

namespace ScriptHost

open ScriptHost.Calendar

/-- The moment of a demonstration to which no other one is given. -/
def defaultMoment : Moment := .ofDate .first

/-- The moment that the arguments give. -/
def momentOf (args : List String) : Moment :=
  match args with
  | a :: _ =>
    match DateFunction.readWhen defaultMoment a.toList with
    | .ok w => w.start
    | .error _ => defaultMoment
  | [] => defaultMoment

/-- The demonstration at a moment, with the text that answers its questions: what it prints. -/
def demonstrationText (clock : Moment) (input : String) : String :=
  let w :=
    ({ dialect := .capital, clock := clock, display := false, input := input } : Surroundings).world
  (Script.demonstrate.carryOut w).2.output

/-- The rest of a stream. -/
partial def restOf (s : IO.FS.Stream) : IO String := do
  let line ← s.getLine
  if line.isEmpty then return "" else return line ++ (← restOf s)

end ScriptHost

/-- Shows what scripts can do. -/
def main (args : List String) : IO Unit := do
  let input ← ScriptHost.restOf (← IO.getStdin)
  let out ← IO.getStdout
  out.putStr (ScriptHost.demonstrationText (ScriptHost.momentOf args) input)
  out.flush
