import ScriptHost.Json.Conversion
import ScriptHost.Measure.CoverageTable

/-!
# Verdicts

What the findings of the semantic check say about a benchmark: it is fine, or what has to be mended
first.
-/

namespace ScriptHost.Measure

open ScriptHost.Number ScriptHost.Text

/-- A verdict on a benchmark. -/
inductive Verdict where
  | repositoryModified
  | error
  | returnsNone
  | unstable
  | returnsInput
  | lowShare
  | tooFast
  | parameterInvariant
  /-- Fine, but there are too few cases to tell whether the parameters matter. -/
  | okWithoutParameters
  | ok
  deriving DecidableEq

namespace Verdict

/-- The name of a verdict. -/
def name : Verdict → String
  | repositoryModified => "repo-modified"
  | error => "error"
  | returnsNone => "returns-none"
  | unstable => "unstable"
  | returnsInput => "returns-input"
  | lowShare => "low-repo-time"
  | tooFast => "too-fast"
  | parameterInvariant => "param-invariant"
  | okWithoutParameters => "ok-unparam"
  | ok => "ok"

/-- Whether a benchmark with the verdict is fine. -/
def isFine : Verdict → Bool
  | ok | okWithoutParameters => true
  | _ => false

end Verdict

/-- What the check found about a benchmark, as far as verdicts need it. -/
structure Evidence where
  resultType : String
  defaultPrints : List String
  casePrints : List String
  parameterPrints : List String
  shares : List Float
  millis : List Float

/-- The smallest of some numbers. -/
def smallest? : List Float → Option Float
  | [] => none
  | x :: xs => some (xs.foldl (fun m y => if y < m then y else m) x)

/-- The middle of some numbers, or the mean of the two in the middle. -/
def median? (xs : List Float) : Option Float :=
  let sorted := xs.mergeSort fun a b => !(b < a)
  let n := sorted.length
  if n == 0 then none
  else if n % 2 == 1 then sorted[n / 2]?
  else do
    let a ← sorted[n / 2 - 1]?
    let b ← sorted[n / 2]?
    return (a + b) / 2.0

/-- Whether all texts of a list with at least one text are the same. -/
def allSame : List String → Bool
  | [] => false
  | p :: ps => ps.all (· == p)

/-- The least share of the time that has to fall on the repository. -/
def leastShare : Float := 0.5

/-- The least time in milliseconds that a benchmark has to take. -/
def leastMillis : Float := 1.0

namespace Evidence

/-- The texts in a list of a record. -/
def textsOf (name : String) (v : JsonValue) : Except Fault (List String) := do
  match ← v.fieldOr name .null with
  | .list vs => return vs.map JsonValue.form
  | _ => return []

/-- The numbers in a record of a record. -/
def numbersOf (name : String) (v : JsonValue) : Except Fault (List Float) := do
  (← (← v.partOf name).entriesOf).mapM fun p => p.2.toFloat

/-- The evidence in a row of the report. -/
def ofReport (v : JsonValue) : Except Fault Evidence := do
  let type ← v.fieldOr "ret_type" .null
  return {
    resultType := if type.truthy then type.display else ""
    defaultPrints := ← textsOf "fp_stable" v
    casePrints := (← (← v.partOf "fp_by_param").entriesOf).map fun p => p.2.form
    parameterPrints := ← textsOf "param_fps" v
    shares := ← numbersOf "repo_frac" v
    millis := ← numbersOf "repo_tt_ms" v }

/-- Whether the smallest of the numbers lies below a bound. -/
def below (bound : Float) (x? : Option Float) : Bool :=
  match x? with
  | some x => x < bound
  | none => false

/-- The verdict on a benchmark; `modified` says whether files of the repository were changed. -/
def verdict (modified : Bool) (e : Evidence) : Verdict :=
  if modified then .repositoryModified
  else if e.resultType.isEmpty || e.resultType.startsWith "<" then .error
  else if e.resultType == "NoneType" then .returnsNone
  else if !allSame e.defaultPrints then .unstable
  else if e.defaultPrints.any fun p => e.parameterPrints.contains p then .returnsInput
  else if below leastShare (smallest? e.shares) then .lowShare
  else if below leastMillis (median? e.millis) then .tooFast
  else if e.casePrints.length < 2 then .okWithoutParameters
  else if allSame e.casePrints then .parameterInvariant
  else .ok

/-- The line of the report about a benchmark. -/
def line (name : String) (v : Verdict) (e : Evidence) : String :=
  let share := roundPlaces ((smallest? e.shares).getD 0.0) 2
  "  " ++ (if v.isFine then " " else "*") ++ " " ++ padRight 32 name ++ " " ++ padRight 16 v.name ++
    " (" ++ (if e.resultType.isEmpty then "?" else e.resultType) ++ ", repo " ++
    wholePercent (100.0 * share) ++ ") " ++
    fixedText 1 ((median? e.millis).getD 0.0) ++ "ms"

end Evidence

/-- What was found about the benchmarks of a report. -/
abbrev Verdicts := List (String × Verdict × Evidence)

/-- Judges the rows of a report one after the other: the verdicts up to the first row that cannot be
read, and why not. Rows that are no records are passed over. -/
def judge (modified : Bool) : List (String × JsonValue) → Verdicts × Option Fault
  | [] => ([], none)
  | (name, .record fs) :: rest =>
    match Evidence.ofReport (.record fs) with
    | .error e => ([], some e)
    | .ok evidence =>
      let (vs, e?) := judge modified rest
      ((name, evidence.verdict modified, evidence) :: vs, e?)
  | _ :: rest => judge modified rest

/-- The lines about verdicts: what has to be mended comes first. -/
def verdictLines (vs : Verdicts) : List String :=
  if vs.isEmpty then []
  else
    ["", "self-check (* = fix needed):",
      "  returns-none: run() has no return — collect and return the call results",
      "  unstable: seed RNG in setup; avoid time/uuid/id in the return",
      "  returns-input: return repo output, not the parameter value",
      "  low-repo-time: <50% of run() time is in repo code — move glue to setup",
      "  param-invariant: return something derived from run()'s work, not setup",
      "  repo-modified: revert edits to repo files (git checkout -- <path>)"] ++
    ((vs.filter fun (_, v, _) => !v.isFine) ++ vs.filter fun (_, v, _) => v.isFine).map
      fun (name, v, e) => e.line name v

end ScriptHost.Measure
