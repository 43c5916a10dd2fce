import ScriptHost.Json.Conversion
import ScriptHost.Measure.SemanticCheck
import ScriptHost.World.Storage

/-!
# Running a suite under coverage

All benchmarks of a suite are run once while coverage of the repository is recorded. The coverage
report is written to a file; then the failures of benchmarks and their number are added to the
report, and a summary line is printed.
-/

namespace ScriptHost.Measure

open ScriptHost.Number ScriptHost.Text

/-- What the run is told: the folder of the repository, the file for the report, and the patterns of
files to leave out. -/
structure CoverageOrder where
  folder : String
  reportFile : String
  leftOut : JsonValue

/-- Reads the order from four arguments: the folder, the name of the suite, the file and the
patterns. -/
def CoverageOrder.ofArguments : List String → Except Fault CoverageOrder
  | folder :: _ :: reportFile :: patterns :: _ => do
    return ⟨folder, reportFile, ← JsonValue.read patterns.toList⟩
  | _ => .error (.indexRange "list")

/-- What a report says about a benchmark that was stopped. -/
def Stop.title : Stop → String
  | fault e => e.title
  | timeout => "timeout"

/-- What stopped benchmarks of a suite, by name, and the number of benchmarks. -/
def failuresOf (st : Stage) : Suite → List (String × Stop) × Nat
  | .error e => ([("<import>", .fault e)], 0)
  | .ok entries =>
    let benchmarks := benchmarksOf entries
    let outcomes := ((inTurn (fun b => (b.perform [] 0).run) benchmarks).run st).1
    let failures := outcomes.filterMap fun (name, outcome) =>
      match outcome with
      | .error e => some (name, e)
      | .ok _ => none
    (failures, benchmarks.length)

/-- Puts a text into a file. -/
def writeFile (path text : String) : Act Unit := do
  let r ← Storage.openForWriting .truncate path
  Storage.setContent r (utf8 text)

/-- The text of a file, with unified line ends. -/
def readTextFile (path : String) : Act (List Char) := do
  let (_, content, _) ← Storage.openForReading path
  match Charset.utf8.decode content with
  | .ok cs => return unifyLineEnds cs
  | .error e => throw (.decoding e)

/-- Adds failures and the number of benchmarks to the part of a report about itself. -/
def withBenchmarks (failures : List (String × Stop)) (count : Nat) (report : JsonValue) :
    Except Fault JsonValue := do
  match report with
  | .record fs =>
    match (fs.lookup "meta").getD (.record []) with
    | .record about =>
      let errors := JsonValue.record (failures.map fun (name, e) => (name, .text e.title))
      let about := JsonValue.setField "_pti_bench_errors" errors about
      let about := JsonValue.setField "_pti_n_benches" (.int count) about
      return .record (JsonValue.setField "meta" (.record about) fs)
    | .list _ => throw (.badIndexType "list" "str")
    | v => throw (.noItemAssignment v.typeName)
  | v => throw (.noAttribute v.typeName "setdefault")

/-- The summary line of a report. -/
def summaryLine (report : JsonValue) (count failures : Nat) : Except Fault String := do
  let totals ← report.need "totals"
  let percent ← (← totals.need "percent_covered").toFloat
  let covered ← totals.need "covered_lines"
  let statements ← totals.need "num_statements"
  return "coverage: " ++ fixedText 1 percent ++ "% (" ++ covered.display ++ "/" ++
    statements.display ++ " stmts, " ++ toString count ++ " benches, " ++ toString failures ++
    " errors)"

/-- Runs a suite under coverage. What the recorder has to say is the text `recorded`. -/
def coverageRun (arguments : List String) (st : Stage) (suite : Suite) (recorded : String) :
    Act Unit := do
  let order ← Act.ofExcept (CoverageOrder.ofArguments arguments)
  Act.note (.coverageOpened (← Storage.absolutePath order.folder) order.leftOut)
  Act.note .coverageStarted
  let (failures, count) := failuresOf st suite
  for (_, e) in failures do
    warnOf e
  Act.note .coverageStopped
  Act.note (.coverageReported order.reportFile)
  writeFile order.reportFile recorded
  let report ← Act.ofExcept (JsonValue.read (← readTextFile order.reportFile))
  let report ← Act.ofExcept (withBenchmarks failures count report)
  writeFile order.reportFile report.write
  Act.print (← Act.ofExcept (summaryLine report count failures.length))

end ScriptHost.Measure
