import ScriptHost.Measure.SemanticCheck

/-!
# The time share of a suite

Each benchmark is run once with its default parameters. The report gives the percentage of the time
that fell on the repository, and the two other places that took the most.
-/

namespace ScriptHost.Measure

/-- A place outside the repository and the percentage of the time it took. -/
structure HotPlace where
  percentage : Float
  name : String

/-- The order of places, the larger percentage first, of equal ones the later name. -/
def HotPlace.before (a b : HotPlace) : Bool :=
  if a.percentage > b.percentage then true
  else if a.percentage < b.percentage then false
  else nameLe b.name a.name

/-- The two places outside the repository that took the most time. -/
def Profile.hotPlaces (p : Profile) (repo : Repository) : List HotPlace :=
  let places := (p.groups repo).map fun (name, time) => (⟨p.percentage time, name⟩ : HotPlace)
  ((places.mergeSort HotPlace.before).take 2).filter fun h => h.percentage > 0.0

/-- The share of a benchmark, or -1 if it is stopped, and its hot places. -/
def timeShareOf (repo : Repository) (limit : Nat) (b : Benchmark) :
    StateM Stage (Float × List HotPlace × Option Stop) := do
  modify fun st => { st with alarm := some limit, profile := {} }
  match ← (b.perform [] 0).run with
  | .error e => return (-1.0, [⟨0.0, "<" ++ e.name ++ ">"⟩], some e)
  | .ok _ =>
    let p := (← get).profile
    return (p.percentage (p.timeIn (isRepositoryFrame repo)), p.hotPlaces repo, none)

/-- A hot place as part of the report. -/
def HotPlace.report (h : HotPlace) : JsonValue :=
  .list [.float h.percentage, .text h.name]

/-- Measures the time shares of a suite and prints the report. -/
def timeShares (repo : Repository) (limit : Nat) (st : Stage) : Suite → Act Unit
  | .error e => loadFailure e
  | .ok entries => do
    let rows := ((inTurn (timeShareOf repo limit) (benchmarksOf entries)).run st).1
    (rows.filterMap fun row => row.2.2.2).forM warnOf
    let shares := rows.map fun (name, share, _) => (name, JsonValue.float share)
    let hot := rows.map fun (name, _, hot, _) => (name, JsonValue.list (hot.map HotPlace.report))
    Act.print (JsonValue.record [("repo_time_pct", .record shares), ("hot_ext", .record hot)]).write

end ScriptHost.Measure
