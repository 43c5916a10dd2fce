import ScriptHost.Json.Basic
import ScriptHost.Measure.Fingerprint
import ScriptHost.Measure.Suite
import ScriptHost.World.Basic

/-!
# The semantic check of a suite

Each benchmark is run twice with its default parameters and once for each of its cases. The report
says of what class the result is, whether both runs gave one fingerprint, which fingerprint each
case gave, how much of the time fell on the repository, and the fingerprints of the parameters. A
benchmark that is stopped keeps what was found before.

Before the first run of a benchmark the random numbers are seeded, and for each run the alarm is set
and the profiler is switched on.
-/

namespace ScriptHost.Measure

open ScriptHost.Number

/-- What the check finds out about a benchmark. -/
structure Finding where
  resultType : String := ""
  defaultPrints : List String := []
  casePrints : List (String × String) := []
  repositoryMillis : List (String × Float) := []
  repositoryShares : List (String × Float) := []
  compiledShares : List (String × Float) := []
  parameterPrints : List String := []

/-- Puts a value under a key: in place if the key is there, else at the end. -/
def putKey {α : Type} (key : String) (v : α) : List (String × α) → List (String × α)
  | [] => [(key, v)]
  | (k, x) :: rest => if k == key then (k, v) :: rest else (k, x) :: putKey key v rest

namespace Finding

/-- The key of the default parameters. -/
def defaultKey : String := "<default>"

/-- The key of a case: its parameters in the order of their names. -/
def caseKey (ps : Parameters) : String :=
  if ps.isEmpty then "-"
  else
    let sorted := ps.mergeSort fun p q => nameLe p.1 q.1
    String.ofList (Text.join [','] (sorted.map fun (n, v) => (n ++ "=" ++ v.display).toList))

/-- Adds what a profile says about the runs under a key. -/
def withProfile (f : Finding) (repo : Repository) (key : String) (p : Profile) : Finding :=
  let own := p.timeIn (isRepositoryFrame repo)
  { f with
    repositoryMillis := putKey key (roundPlaces (own * 1000.0) 3) f.repositoryMillis
    repositoryShares := putKey key (p.share own) f.repositoryShares
    compiledShares := putKey key (p.share (p.timeIn (isCompiledFrame repo))) f.compiledShares }

end Finding

/-- What the check leaves open. -/
structure CheckRules where
  walk : WalkRules
  /-- What the random numbers are seeded with before the first run of a benchmark. -/
  seed : Int
  /-- Whether they are seeded before its further runs too. -/
  reseeds : Bool
  /-- The seconds after which the alarm goes off. -/
  limit : Nat

/-- Switches the profiler on. -/
def startProfiler : OnStage Unit :=
  modify fun st => { st with profile := {} }

/-- Sets the alarm, or switches it off. -/
def setAlarm (seconds : Option Nat) : OnStage Unit :=
  modify fun st => { st with alarm := seconds }

/-- A run for the check, with what the profiler sees of it: nothing if the benchmark is direct,
which has acted before the profiler is switched on. -/
def trial (rules : CheckRules) (b : Benchmark) (ps : Parameters) (count : Nat) :
    OnStage (Datum × Profile) := do
  if count == 0 || rules.reseeds then
    modify fun st => { st with random := Random.seed rules.seed }
  setAlarm (some rules.limit)
  let result ← tryCatch
    (do
      if b.direct then
        let r ← b.perform ps count
        startProfiler
        return r
      else
        startProfiler
        b.perform ps count)
    fun e => do
      setAlarm none
      throw e
  setAlarm none
  return (result, (← get).profile)

namespace Finding

/-- The two runs with default parameters. -/
def checkDefault (rules : CheckRules) (repo : Repository) (b : Benchmark) : OnStage Finding := do
  let (first, profile) ← trial rules b [] 0
  let (second, _) ← trial rules b [] 1
  let prints := [first.fingerprint rules.walk, second.fingerprint rules.walk]
  let f : Finding := { resultType := first.typeName, defaultPrints := prints }
  return f.withProfile repo defaultKey profile

/-- The runs of the cases, when `count` results have been returned: the finding as far as it got,
and what stopped it. -/
def checkCases (rules : CheckRules) (repo : Repository) (b : Benchmark) (count : Nat)
    (f : Finding) :
    List Parameters → StateM Stage (Finding × Option Stop)
  | [] => return (f, none)
  | ps :: rest => do
    match ← (trial rules b ps count).run with
    | .error e => return (f, some e)
    | .ok (r, profile) =>
      let print := r.fingerprint rules.walk
      let f := { f with casePrints := putKey (caseKey ps) print f.casePrints }
      let f := f.withProfile repo (caseKey ps) profile
      let prints := f.parameterPrints ++ ps.map fun p => p.2.fingerprint rules.walk
      checkCases rules repo b (count + 1) { f with parameterPrints := prints } rest

/-- The finding about a benchmark, and what stopped the check early. -/
def check (rules : CheckRules) (repo : Repository) (b : Benchmark) :
    StateM Stage (Finding × Option Stop) := do
  match ← (checkDefault rules repo b).run with
  | .error e => return ({}, some e)
  | .ok f => checkCases rules repo b 2 f (b.cases.map Prod.fst)

/-- A finding as a record of the report; what stopped the check takes the place of the class. -/
def report (found : Finding × Option Stop) : JsonValue :=
  let (f, e?) := found
  let type := (e?.map fun e => "<" ++ e.name ++ ">").getD f.resultType
  let numbers (xs : List (String × Float)) : JsonValue :=
    .record (xs.map fun (k, x) => (k, .float x))
  .record [("ret_type", .text type), ("fp_stable", .list (f.defaultPrints.map .text)),
    ("fp_by_param", .record (f.casePrints.map fun (k, p) => (k, .text p))),
    ("repo_tt_ms", numbers f.repositoryMillis), ("repo_frac", numbers f.repositoryShares),
    ("ext_frac", numbers f.compiledShares), ("param_fps", .list (f.parameterPrints.map .text))]

end Finding

/-- Ends a program whose suite could not be loaded, after a report of why. -/
def loadFailure (e : Fault) : Act Unit := do
  Act.print (JsonValue.record [("_import_error", .text e.title)]).write
  throw (.exit "0")

/-- Warns of a failure by its family, and not of an alarm. -/
def warnOf : Stop → Act Unit
  | .fault e => Act.warn (e.kind.name ++ "\n")
  | .timeout => pure ()

/-- Works with benchmarks one after the other, each on the stage as the one before it left it. -/
def inTurn {α : Type} (work : Benchmark → StateM Stage α) (bs : List (String × Benchmark)) :
    StateM Stage (List (String × α)) :=
  bs.mapM fun (name, b) => do return (name, ← work b)

/-- Checks the benchmarks of a suite and prints the report. -/
def semanticCheck (rules : CheckRules) (repo : Repository) (st : Stage) : Suite → Act Unit
  | .error e => loadFailure e
  | .ok entries => do
    let found := ((inTurn (Finding.check rules repo) (benchmarksOf entries)).run st).1
    (found.filterMap fun row => row.2.2).forM warnOf
    let rows := found.map fun (name, f) => (name, Finding.report f)
    Act.print (JsonValue.record [("semcheck", .record rows)]).write

end ScriptHost.Measure
