import ScriptHost.Script.Statement

/-!
# Running a script

A script is run line by line. A conditional that spans lines is executed as a block, of which only
the first line counts, and the lines up to the one that ends it are passed over. After an error the
script goes on with the next line, or reports the error and stops.
-/

namespace ScriptHost.Script

open ScriptHost.Number ScriptHost.Text

/-- Whether a stripped line holds nothing to execute. -/
def isIdle (line : List Char) : Bool :=
  line.isEmpty || line.head? == some '\x27'

/-- Whether a stripped line is the head of a conditional that spans lines. -/
def isHead (line : List Char) : Bool :=
  let small := lower line
  "if ".toList.isPrefixOf small && occurs " then".toList small && !endsWith " end if".toList small

/-- Whether a line ends a conditional. -/
def isTail (line : List Char) : Bool :=
  "end if".toList.isPrefixOf (lower (strip line))

/-- The lines that a line keeps from being executed: up to the end of the conditional that it
starts. -/
def skipped (line : List Char) (more : List (List Char)) : Nat :=
  if isHead line then (more.takeWhile fun l => !isTail l).length + 1 else 0

/-- The block that a stripped line starts: the line, and those that it keeps from being executed. -/
def blockFrom (line : List Char) (more : List (List Char)) : List Char :=
  join ['\n'] (line :: more.take (skipped line more))

/-- Executes the first line of a block. -/
def executeBlock (lib : Library) (block : List Char) : Step Unit :=
  executeLine lib (strip ((strip block).takeWhile (· != '\n')))

/-- Executes a stripped line, or the block that it starts. -/
def executeAt (lib : Library) (line : List Char) (more : List (List Char)) : Step Unit :=
  if isHead line then executeBlock lib (blockFrom line more) else executeLine lib line

/-- Reports an error in a line. -/
def report (number : Nat) (e : Fault) : Step Unit :=
  Step.act (Act.print ("第" ++ String.ofList (natDigits number) ++ "行错误: " ++ e.message))

/-- Executes lines, the first of which has the given number. -/
def runLines (lib : Library) (number : Nat) (lines : List (List Char)) : Step Unit := do
  match lines with
  | [] => return
  | l :: more =>
    Step.modifySession fun s => { s with line := number }
    if isIdle (strip l) then runLines lib (number + 1) more
    else
      let outcome ← Step.recover (do
        executeAt lib (strip l) more
        return none) fun e => return some e
      match outcome with
      | none =>
        runLines lib (number + 1 + skipped (strip l) more) (more.drop (skipped (strip l) more))
      | some e => if (← get).session.resume then runLines lib (number + 1) more else report number e
termination_by lines.length
decreasing_by
  · simp
  · simp only [List.length_drop, List.length_cons]
    omega
  · simp

/-- Runs a script. -/
def run (lib : Library) (code : List Char) : Step Unit :=
  runLines (lib.within (lines code)) 1 (lines code)

/-- A session before anything was executed: it knows the host by name. -/
def freshSession : Session :=
  { «variables» := [("WSCRIPT", HostObject.self), ("WScript", HostObject.self)] }

/-- Takes a step in a session and gives the session after it. -/
def inSession {α : Type} (s : Session) (step : Step α) : Act (α × Session) := do
  let w ← get
  let (outcome, scene) := step.take ⟨s, w⟩
  set scene.world
  match outcome with
  | .ok v => return (v, scene.session)
  | .error e => throw e

/-- Takes a step in the session of an interpreter object, which keeps the session after it. -/
def inObject {α : Type} (id : Nat) (s : Session) (step : Step α) : Act α := do
  let w ← get
  let (outcome, scene) := step.take ⟨s, w⟩
  set scene.world
  Act.setBody id (.interpreter scene.session)
  match outcome with
  | .ok v => return v
  | .error e => throw e

end ScriptHost.Script
