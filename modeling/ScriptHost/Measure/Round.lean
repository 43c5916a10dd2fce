import ScriptHost.Measure.CoverageRun
import ScriptHost.Measure.History
import ScriptHost.Measure.TimeShare
import ScriptHost.Measure.Verdict
import ScriptHost.Text.Word

/-!
# Measuring rounds

A round runs the suite under coverage and, where the programs for it are there, measures the time
shares and makes the semantic check. It adds a line to the history. Then it shows the table of the
coverage report, the time shares and the verdicts, and ends with a summary and a request to stop
when the time shares no longer improve.
-/

namespace ScriptHost.Measure

open ScriptHost.Number ScriptHost.Text

/-- What a program that was started left behind. -/
structure ChildResult where
  output : String := ""
  warnings : String := ""
  status : Int := 0

/-- What surrounds a round: what becomes of the programs it starts, and the clock readings before
and after the run under coverage. -/
structure RoundSetting where
  child : Child → Except Fault ChildResult
  started : Float
  finished : Float

/-- The folder of the repository. -/
def repositoryFolder : String := "/repo"

/-- A file of the repository. -/
def repositoryFile (name : String) : String :=
  repositoryFolder ++ "/" ++ name

/-- Starts a program. -/
def startChild (s : RoundSetting) (c : Child) (limit : Option Nat) : Act ChildResult := do
  Act.note (.childStarted c limit)
  Act.ofExcept (s.child c)

/-- Starts a program and passes its warnings on. -/
def startLoud (s : RoundSetting) (c : Child) (limit : Option Nat) : Act ChildResult := do
  let r ← startChild s c limit
  Act.warn r.warnings
  return r

/-- Whether the repository has a file. -/
def hasFile (name : String) : Act Bool :=
  Storage.pathExists (.text (repositoryFile name))

/-- Prints lines. -/
def printLines (ls : List String) : Act Unit := do
  for l in ls do
    Act.print l

/-- The datum on the last line of an output, if that line is not blank. -/
def lastDatum? (output : String) : Except Fault (Option JsonValue) := do
  match (splitLines output.toList).getLast? with
  | none => return none
  | some l =>
    let l := strip l
    if l.isEmpty then return none
    return some (← JsonValue.read l)

/-- Warns that a program could not be used. -/
def warnRunner (label : String) (e : Fault) : Act Unit :=
  Act.warn ("[" ++ label ++ " runner: " ++ e.title ++ "]\n")

/-! ### Coverage -/

/-- The report of the run under coverage; the round ends if there is none. -/
def coverageReport (s : RoundSetting) : Act JsonValue := do
  let r ← startLoud s .coverage none
  if r.status != 0 || !(← hasFile "_pti_coverage.json") then
    Act.print ("coverage measurement failed (exit " ++ toString r.status ++ ")")
    Act.print r.output
    throw (.exit (toString (if r.status == 0 then 1 else r.status)))
  Act.ofExcept (JsonValue.read (← readTextFile (repositoryFile "_pti_coverage.json")))

/-- How many failures of benchmarks are shown. -/
def shownFailures : Nat := 8

/-- The part of a report about failures of benchmarks. -/
def failurePart (report : JsonValue) : Except Fault JsonValue := do
  (← report.partOf "meta").partOf "_pti_bench_errors"

/-- The head of the list of failures; none if there are no failures. -/
def failureHead (failures : JsonValue) : Except Fault (List String) := do
  let n ← failures.count
  return if n == 0 then [] else ["", toString n ++ " bench error(s):"]

/-- The lines about failures of benchmarks. -/
def failureLines (failures : List (String × JsonValue)) : List String :=
  (failures.take shownFailures).map fun (name, v) => "  " ++ name ++ ": " ++ v.display

/-- Shows the failures that a report names. -/
def showFailures (part : JsonValue) : Act Unit := do
  printLines (← Act.ofExcept (failureHead part))
  printLines (failureLines (← Act.ofExcept part.entriesOf))

/-! ### Time shares -/

/-- The time shares of benchmarks in percent, and the places outside the repository that took the
most time. -/
structure ShareReport where
  shares : List (String × Float) := []
  hot : List (String × JsonValue) := []

/-- The percentage below which a share is too low. -/
def leastPercentage : Float := 45.0

/-- Reads a report of time shares. -/
def ShareReport.ofDatum (v : JsonValue) : Except Fault ShareReport := do
  let shares ← (← (← v.partOf "repo_time_pct").entriesOf).mapM fun (name, x) => do
    return (name, ← x.toFloat)
  return ⟨shares, ← (← v.partOf "hot_ext").entriesOf⟩

/-- The report of time shares, if there is a program for it. -/
def shareReport (s : RoundSetting) : Act ShareReport := do
  if !(← hasFile "_pti_repotime.py") then return {}
  Act.recover (do
    let r ← startLoud s .timeShare (some 120)
    match ← Act.ofExcept (lastDatum? r.output) with
    | some v => Act.ofExcept (ShareReport.ofDatum v)
    | none => return {}) fun e => do
    warnRunner "repotime" e
    return {}

namespace ShareReport

/-- The shares of benchmarks that did not fail. -/
def valid (r : ShareReport) : List Float :=
  (r.shares.map Prod.snd).filter fun x => 0.0 ≤ x

/-- How many benchmarks that did not fail are below the target. -/
def belowCount (r : ShareReport) : Nat :=
  (r.valid.filter fun x => x < leastPercentage).length

/-- The number of benchmarks below the target, unless all failed. -/
def belowCount? (r : ShareReport) : Option Nat :=
  if r.valid.isEmpty then none else some r.belowCount

/-- The places that took the most time, in words. -/
def hotText (r : ShareReport) (name : String) : Except Fault String := do
  match r.hot.lookup name with
  | some (.list (p :: ps)) =>
    let words ← (p :: ps).mapM fun place =>
      match place with
      | .list [x, n] => do return n.display ++ " " ++ wholePercent (← x.toFloat)
      | v => .error (.notIterable v.typeName)
    return " (hot: " ++ String.ofList (join [' '] (words.map String.toList)) ++ ")"
  | _ => return ""

/-- The line about a benchmark. -/
def line (r : ShareReport) (name : String) (x : Float) : Except Fault String := do
  let low := decide (0.0 ≤ x) && decide (x < leastPercentage)
  let tail ← if x < 0.0 then pure "  <error>" else if low then r.hotText name else pure ""
  return "  " ++ (if low then "*" else " ") ++ " " ++ padRight 32 name ++ " " ++
    padLeft 5 (fixedText 1 (if x < 0.0 then 0.0 else x)) ++ "%" ++ tail

/-- The lines about time shares, the lowest first. -/
def lines (r : ShareReport) : Except Fault (List String) := do
  if r.shares.isEmpty then return []
  let sorted := r.shares.mergeSort fun a b => !(b.2 < a.2)
  return ["", "repo_time (target 50%; * = below 45%):"] ++
    (← sorted.mapM fun (name, x) => r.line name x)

end ShareReport

/-! ### Verdicts -/

/-- How many changed files are shown. -/
def shownChanges : Nat := 10

/-- The changed files of the repository. -/
def changedFiles (s : RoundSetting) : Act (List String) :=
  Act.recover (do
    let r ← startChild s .changes (some 30)
    let ls := (splitLines r.output.toList).filter fun l => !(strip l).isEmpty
    return ls.map fun l => String.ofList (l.drop 3)) fun _ => pure []

/-- The lines about changed files. -/
def changeLines (files : List String) : List String :=
  if files.isEmpty then []
  else
    ["", "** repo modified (" ++ toString files.length ++
      " file(s)) — revert these; only microbench.py is yours to edit:"] ++
    (files.take shownChanges).map fun f => "   " ++ f

/-- The rows of the semantic check. -/
def checkRows (s : RoundSetting) : Act (List (String × JsonValue)) := do
  let r ← startLoud s .semantics (some 300)
  match ← Act.ofExcept (lastDatum? r.output) with
  | some v => Act.ofExcept (do (← v.partOf "semcheck").entriesOf)
  | none => return []

/-- The changed files and the verdicts, if there is a program for them. -/
def verdicts (s : RoundSetting) : Act (List String × Verdicts) := do
  if !(← hasFile "_pti_semcheck.py") then return ([], [])
  let changed ← changedFiles s
  let rows ← Act.recover (checkRows s) fun e => do
    warnRunner "semcheck" e
    return []
  let (vs, e?) := judge (!changed.isEmpty) rows
  match e? with
  | some e => warnRunner "semcheck" e
  | none => pure ()
  return (changed, vs)

/-! ### The round -/

/-- How the definition of a benchmark starts. -/
def benchmarkHead : List Char := "def bench_".toList

/-- Whether a line defines a benchmark: after the head come the rest of a name, blanks, and a
parenthesis. -/
def definesBenchmark (l : List Char) : Bool :=
  let name := (l.drop benchmarkHead.length).takeWhile isWord
  let rest := (l.drop (benchmarkHead.length + name.length)).dropWhile isBlank
  benchmarkHead.isPrefixOf l && !name.isEmpty && rest.head? == some '('

/-- The number of benchmarks that the file of the benchmarks defines. -/
def benchmarkCount : Act Nat := do
  if !(← hasFile benchmarkFile) then return 0
  let text ← readTextFile (repositoryFile benchmarkFile)
  return ((lines text).filter definesBenchmark).length

/-- The file of the history. -/
def historyFile : String := repositoryFile ".pti_checkpoint.jsonl"

/-- The text of the history; empty if there is none yet. -/
def historyText : Act (List Char) := do
  if ← Storage.pathExists (.text historyFile) then readTextFile historyFile else return []

/-- What a round has found. -/
structure RoundResult where
  round : Nat
  totals : CoverageTotals
  benchmarks : Nat
  failures : Nat
  seconds : Float
  shares : ShareReport
  verdicts : Verdicts

namespace RoundResult

/-- How many benchmarks have to be mended. -/
def unfit (r : RoundResult) : Nat :=
  (r.verdicts.filter fun (_, v, _) => !v.isFine).length

/-- The summary of a round. -/
def line (r : RoundResult) : String :=
  "[round " ++ toString r.round ++ ": " ++ toString r.benchmarks ++ " benches, " ++
    fixedText 1 r.totals.percent ++ "% covered, " ++
    (if r.shares.shares.isEmpty then ""
     else toString r.shares.belowCount ++ "/" ++ toString r.shares.valid.length ++
       " below repo_time 45%, ") ++
    (if r.verdicts.isEmpty then ""
     else toString r.unfit ++ "/" ++ toString r.verdicts.length ++ " not self-checking, ") ++
    "measured in " ++ fixedText 1 r.seconds ++ "s]"

/-- The record of a round in the history. -/
def entry (r : RoundResult) (now since : Float) : JsonValue :=
  .record [("round", .int r.round), ("ts", .float now), ("wall_since_prev_s", .float since),
    ("coverage_pct", .float r.totals.percent), ("covered_lines", .int r.totals.covered),
    ("num_statements", .int r.totals.statements), ("n_bench_fns", .int r.benchmarks),
    ("n_bench_errors", .int r.failures), ("cov_measure_s", .float (roundPlaces r.seconds 3)),
    ("repo_time_pct", .record (r.shares.shares.map fun (name, x) => (name, .float x))),
    ("n_below_repo_time", (r.shares.belowCount?.map fun n => JsonValue.int n).getD .null),
    ("semcheck", .record (r.verdicts.map fun (name, v, _) => (name, .text v.name))),
    ("n_not_self_checking", .int r.unfit)]

end RoundResult

/-- The seconds since the epoch. -/
def secondsNow : Act Float := do
  return nearest false ((← get).clock.epochMicros.toNat) 1000000

/-- Appends a round to the history. -/
def appendRound (history : List Char) (r : RoundResult) : Act Unit := do
  let now ← secondsNow
  let since ← Act.ofExcept (do secondsSince now (← historyRecords history))
  let route ← Storage.openForWriting .append historyFile
  let content ← Storage.contentAt route
  Storage.setContent route (content ++ utf8 ((r.entry now since).write ++ "\n"))

/-- The counts of earlier rounds, up to the first line that cannot be read. -/
def earlierCounts (history : List Char) : List Int :=
  (readableRecords (historyLines history)).filterMap countBelow?

/-- Carries out a round. -/
def measureRound (s : RoundSetting) : Act Unit := do
  let report ← coverageReport s
  let totals ← Act.ofExcept (CoverageTotals.ofReport report)
  let failures ← Act.ofExcept (failurePart report)
  let shares ← shareReport s
  let (changed, vs) ← verdicts s
  let history ← historyText
  let r : RoundResult := {
    round := (historyLines history).length + 1
    totals := totals
    benchmarks := ← benchmarkCount
    failures := ← Act.ofExcept failures.count
    seconds := s.finished - s.started
    shares := shares
    verdicts := vs }
  Act.recover (appendRound history r) fun _ => pure ()
  printLines (coverageTable totals (← Act.ofExcept (coverageRows repositoryFolder report)))
  showFailures failures
  printLines (← Act.ofExcept shares.lines)
  printLines (changeLines changed)
  printLines (verdictLines vs)
  printLines ["", r.line]
  match stopReason? totals.percent (earlierCounts history) shares.belowCount? with
  | some reason => printLines ["", reason.line]
  | none => pure ()

end ScriptHost.Measure
