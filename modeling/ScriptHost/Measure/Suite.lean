import ScriptHost.Fault
import ScriptHost.Measure.Datum
import ScriptHost.Measure.Profile
import ScriptHost.Random.Twister

/-!
# Suites of benchmarks

A suite is what the file of the benchmarks defines: benchmarks, and other names bound to plain data.
A benchmark is called with parameters and gives an action to be timed (or, if it is direct, acts at
once). What the action does depends on the parameters and on the random numbers that it draws: it
leaves a profile behind, takes its time, and returns the next of a list of results or fails. The
results go round, with one counter for the whole benchmark.

Benchmarks are run one after the other on one stage: they draw from one generator of random numbers,
there is one alarm for all of them, and one profiler.
-/

namespace ScriptHost.Measure

/-- Named parameters. -/
abbrev Parameters := List (String × Datum)

/-- How an action ends if it is given the time. -/
inductive Ending where
  /-- It returns the next of these results. -/
  | returns (results : List Datum)
  | fails (e : Fault)

/-- What an action does. -/
structure Deed where
  profile : Profile
  /-- The seconds that it takes. -/
  seconds : Nat
  ending : Ending
  /-- The generator of random numbers after it. -/
  random : Random.Twister

/-- An action, which may draw random numbers. -/
abbrev Action := Random.Twister → Deed

/-- A benchmark: what it does by default and for listed parameters. -/
structure Benchmark where
  /-- Whether calling the benchmark already runs its action. -/
  direct : Bool
  action : Action
  cases : List (Parameters × Action)

/-- What a name of a suite stands for. -/
inductive Entry where
  | plain (v : Datum)
  | benchmark (b : Benchmark)

/-- A suite, unless it cannot be loaded. -/
abbrev Suite := Except Fault (List (String × Entry))

/-- What all runs of benchmarks share. -/
structure Stage where
  random : Random.Twister
  /-- The seconds until the alarm goes off, if it is set. -/
  alarm : Option Nat
  /-- What the profiler has seen since it was switched on. -/
  profile : Profile

/-- Why a run gives no result: it fails, or the alarm goes off before it ends. -/
inductive Stop where
  | fault (e : Fault)
  | timeout

/-- How reports name what stopped a run. -/
def Stop.name : Stop → String
  | fault e => e.kind.name
  | timeout => "timeout"

/-- What happens on a stage and may give no result. -/
abbrev OnStage := ExceptT Stop (StateM Stage)

/-- Whether two lists of parameters give the same values to the same names. -/
def sameParameters : Parameters → Parameters → Bool
  | [], [] => true
  | (n, v) :: ps, (m, w) :: qs => n == m && v.same w && sameParameters ps qs
  | _, _ => false

namespace Benchmark

/-- The action for parameters: that of the last case with the same parameters, else the default. -/
def actionFor (b : Benchmark) (ps : Parameters) : Action :=
  if ps.isEmpty then b.action
  else
    match b.cases.reverse.find? fun c => sameParameters c.1 ps with
    | some c => c.2
    | none => b.action

/-- Runs the action for parameters when `count` results have been returned. -/
def perform (b : Benchmark) (ps : Parameters) (count : Nat) : OnStage Datum := do
  let st ← get
  let deed := b.actionFor ps st.random
  let late := st.alarm.any (· < deed.seconds)
  set (⟨deed.random, if late then none else st.alarm.map (· - deed.seconds), deed.profile⟩ : Stage)
  if late then throw .timeout
  match deed.ending with
  | .fails e => throw (.fault e)
  | .returns [] => return .null
  | .returns (r :: rest) => return (r :: rest).getD (count % (rest.length + 1)) r

end Benchmark

/-- The order of names. -/
def nameLe (a b : String) : Bool :=
  textOrder a.toList b.toList != .gt

/-- The benchmarks among the names of a suite, in order of their names. -/
def benchmarksOf (entries : List (String × Entry)) : List (String × Benchmark) :=
  let found := entries.filterMap fun (name, e) =>
    match e with
    | .benchmark b => if name.startsWith "bench_" then some (name, b) else none
    | .plain _ => none
  found.mergeSort fun a b => nameLe a.1 b.1

end ScriptHost.Measure
