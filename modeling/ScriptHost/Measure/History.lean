import ScriptHost.Json.Conversion
import ScriptHost.Text.Blank
import ScriptHost.Text.LineBreak

/-!
# The history of measuring rounds

Each round appends a line to the history. From the numbers of benchmarks below the target, round
after round, a plateau is told: the best number so far, and how many rounds have passed since it was
first reached.
-/

namespace ScriptHost.Measure

open ScriptHost.Number ScriptHost.Text

/-- The best count of a sequence and the number of rounds since it was first reached. -/
structure Plateau where
  best : Int
  since : Nat
  deriving DecidableEq

/-- The plateau after one more round. -/
def Plateau.next (p : Plateau) (count : Int) : Plateau :=
  if count < p.best then ⟨count, 0⟩ else ⟨p.best, p.since + 1⟩

/-- The plateau of a sequence that starts with `first`. -/
def plateau (first : Int) (later : List Int) : Plateau :=
  later.foldl Plateau.next ⟨first, 0⟩

/-- The number of rounds without a new best count after which measuring stops. -/
def patience : Nat := 3

/-- The coverage in percent that must be reached before measuring stops. -/
def leastCoverage : Float := 60.0

/-- Why measuring should stop. -/
inductive StopReason where
  | noneBelow
  | noImprovement (p : Plateau)
  deriving DecidableEq

/-- Whether measuring should stop after a round with a count, given the counts of earlier rounds. -/
def stopReason? (coverage : Float) (earlier : List Int) (count? : Option Nat) :
    Option StopReason := do
  let count ← count?
  if coverage < leastCoverage then none
  else if count == 0 then some .noneBelow
  else
    let p :=
      match earlier with
      | [] => plateau count []
      | first :: later => plateau first (later ++ [(count : Int)])
    if patience ≤ p.since then some (.noImprovement p) else none

/-- The line that asks to stop. -/
def StopReason.line (r : StopReason) : String :=
  let why :=
    match r with
    | .noneBelow => "0 below"
    | .noImprovement p =>
      "no improvement in " ++ toString p.since ++ " rounds; best " ++ toString p.best ++ " below"
  ">>> STOP: repo_time converged (" ++ why ++ "). Finalize microbench.py now. <<<"

/-- The lines of a history, without blank ones. -/
def historyLines (cs : List Char) : List (List Char) :=
  (splitLines cs).filter fun l => !(strip l).isEmpty

/-- The records of a history, up to the first line that is none. -/
def readableRecords : List (List Char) → List JsonValue
  | [] => []
  | l :: ls =>
    match JsonValue.read l with
    | .ok v => v :: readableRecords ls
    | .error _ => []

/-- The records of a history. -/
def historyRecords (cs : List Char) : Except Fault (List JsonValue) :=
  (historyLines cs).mapM JsonValue.read

/-- The count of benchmarks below the target in a record. -/
def countBelow? (v : JsonValue) : Option Int :=
  match v.get? "n_below_repo_time" with
  | some (.int n) => some n
  | some (.bool b) => some (if b then 1 else 0)
  | _ => none

/-- The seconds since the last round, to two places. -/
def secondsSince (now : Float) (records : List JsonValue) : Except Fault Float :=
  match records.getLast? with
  | none => .ok 0.0
  | some last => do
    match ← last.fieldOr "ts" (.float now) with
    | .text _ => throw (.unsupportedOperands "-" "float" "str")
    | v => return roundPlaces (now - (← v.toFloat)) 2

end ScriptHost.Measure
