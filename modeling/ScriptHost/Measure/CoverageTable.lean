import ScriptHost.Json.Conversion
import ScriptHost.World.PathText

/-!
# The table of a coverage report

One row per file, the least covered first: statements, missed statements, percentage, and the first
missed lines.
-/

namespace ScriptHost.Measure

open ScriptHost.Number ScriptHost.Text

/-- A text filled up with blanks behind it. -/
def padRight (width : Nat) (s : String) : String :=
  s ++ String.ofList (List.replicate (width - s.length) ' ')

/-- A text filled up with blanks before it. -/
def padLeft (width : Nat) (s : String) : String :=
  String.ofList (List.replicate (width - s.length) ' ') ++ s

/-- The names of a path that are left behind the names it has in common with another. -/
def dropCommon : List String → List String → List String × List String
  | a :: as, b :: bs => if a == b then dropCommon as bs else (a :: as, b :: bs)
  | as, bs => (as, bs)

/-- A path as seen from a folder. -/
def relativePath (folder path : String) : String :=
  let names (p : String) :=
    ((PathText.normal p).toList.splitOn '/').filter (· != []) |>.map String.ofList
  let (up, down) := dropCommon (names folder) (names (PathText.joined folder path))
  let all := up.map (fun _ => "..") ++ down
  if all.isEmpty then "." else String.ofList (join ['/'] (all.map String.toList))

/-- What a coverage report says in total. -/
structure CoverageTotals where
  percent : Float
  covered : Int
  statements : Int

/-- The totals of a report; what is missing counts as zero. -/
def CoverageTotals.ofReport (report : JsonValue) : Except Fault CoverageTotals := do
  let totals ← report.partOf "totals"
  let percent ← (← totals.fieldOr "percent_covered" (.float 0.0)).toFloat
  let covered ← (← totals.fieldOr "covered_lines" (.int 0)).toWhole
  let statements ← (← totals.fieldOr "num_statements" (.int 0)).toWhole
  return ⟨percent, covered, statements⟩

/-- A row of the table. -/
structure CoverageRow where
  name : String
  statements : String
  missed : String
  percent : Float
  missing : List String

/-- How many missed lines a row shows. -/
def shownLines : Nat := 12

/-- The longest name of a file that a row shows. -/
def longestName : Nat := 60

/-- The row of a file of the repository in `folder`. -/
def CoverageRow.ofFile (folder path : String) (file : JsonValue) : Except Fault CoverageRow := do
  let summary ← file.partOf "summary"
  let missing ← file.fieldOr "missing_lines" .null
  let lines :=
    match missing with
    | .list vs => vs.map JsonValue.display
    | _ => []
  return {
    name := relativePath folder path
    statements := (← summary.fieldOr "num_statements" (.int 0)).display
    missed := (← summary.fieldOr "missing_lines" (.int 0)).display
    percent := ← (← summary.fieldOr "percent_covered" (.float 0.0)).toFloat
    missing := lines }

/-- The order of rows: the least covered first, of equal ones by name. -/
def CoverageRow.before (a b : CoverageRow) : Bool :=
  if a.percent < b.percent then true
  else if a.percent > b.percent then false
  else textOrder a.name.toList b.name.toList != .gt

/-- The rows of a report. -/
def coverageRows (folder : String) (report : JsonValue) : Except Fault (List CoverageRow) := do
  let files ← (← report.partOf "files").entriesOf
  let rows ← files.mapM fun (path, file) => CoverageRow.ofFile folder path file
  return rows.mergeSort CoverageRow.before

/-- The columns before the missed lines. -/
def tableColumns (width : Nat) (name statements missed cover : String) : String :=
  padRight width (String.ofList (name.toList.take longestName)) ++ "  " ++ padLeft 5 statements ++
    "  " ++ padLeft 4 missed ++ "  " ++ padLeft 5 cover

/-- A percentage without places. -/
def wholePercent (x : Float) : String :=
  fixedText 0 x ++ "%"

/-- The missed lines that a row shows. -/
def missingText (lines : List String) : String :=
  String.ofList (join [','] ((lines.take shownLines).map String.toList)) ++
    (if shownLines < lines.length then "…" else "")

/-- The lines of the table. -/
def coverageTable (totals : CoverageTotals) (rows : List CoverageRow) : List String :=
  let width := Nat.min longestName (rows.foldl (fun w r => Nat.max w r.name.length) 4)
  let rule := String.ofList (List.replicate (width + 42) '-')
  [tableColumns width "Name" "Stmts" "Miss" "Cover" ++ "  Missing", rule] ++
  (rows.map fun r =>
    tableColumns width r.name r.statements r.missed (wholePercent r.percent) ++ "  " ++
      missingText r.missing) ++
  [rule, tableColumns width "TOTAL" (toString totals.statements)
    (toString (totals.statements - totals.covered)) (wholePercent totals.percent)]

end ScriptHost.Measure
