import ScriptHost.Value.Arithmetic
import ScriptHost.World.Basic

/-!
# Random numbers

A positive number, or none, asks for the next random number; zero asks for the last one again; a
negative number starts a new sequence and asks for its first number.
-/

namespace ScriptHost.RandomFunction

open ScriptHost.Number

/-- The next random number, which is then also the last one. -/
def draw : Act Value := do
  let w ← get
  let (x, next) := Random.next w.random
  set { w with random := next, lastRandom := x }
  return .float x

/-- Starts a new sequence. -/
def restart (n : Int) : Act Unit :=
  modify fun w => { w with random := Random.seed n }

/-- A random number between zero and one. -/
def random (seed : Value) : Act Value := do
  match seed with
  | .null => draw
  | seed =>
    if ← Act.ofExcept (seed.compareWith .gt (.int 0)) then draw
    else if seed.same (.int 0) then return .float (← get).lastRandom
    else
      let n ← Act.ofExcept seed.neg
      restart (← Act.ofExcept n.toWhole)
      draw

/-- The present in milliseconds since 1970. -/
def milliseconds (w : World) : Except Fault Int :=
  let t := w.clock.epochMicros
  Value.floatToWhole Binary.truncate (nearest (t < 0) t.natAbs 1000000 * 1000.0)

/-- Starts a new sequence from a number, or from the present. -/
def randomize (number : Value) : Act Value := do
  match number with
  | .null => restart (← Act.ofExcept (milliseconds (← get)))
  | v => restart (← Act.ofExcept v.toWhole)
  return .null

end ScriptHost.RandomFunction
