import ScriptHost.Number.Binary
import ScriptHost.Text.Search
import ScriptHost.World.PathText

/-!
# Profiles

A profile says how much time was spent in each file while a benchmark ran. Two questions are asked
of it: how much of the time fell on the repository itself, and which other files took the most.
-/

namespace ScriptHost.Measure

open ScriptHost.Number ScriptHost.Text

/-- The time spent in files, one record per function, and the total time. -/
structure Profile where
  records : List (String × Float) := []
  total : Float := 0.0

/-- Folders whose files are not the repository's own work. -/
def foreignFolders : List String :=
  ["vendor", "vendored", "_vendor", "venv", ".venv", ".tox", "build", "dist", ".eggs",
    "site-packages",
    "dist-packages", "third_party", "thirdparty", "node_modules"]

/-- Whether a folder of that name holds foreign files. -/
def isForeignFolder (name : String) : Bool :=
  foreignFolders.contains name || endsWith ".egg-info".toList name.toList

/-- The file of the benchmarks. -/
def benchmarkFile : String := "microbench.py"

/-- The folder of a repository, and the one in which its benchmarks lie and are run. -/
structure Repository where
  folder : String
  current : String

/-- Whether a frame belongs to a repository: its file lies below the folder, outside of foreign
folders, and is neither the file of the benchmarks nor one of the measuring programs. -/
def isRepositoryFrame (r : Repository) (file : String) : Bool :=
  if file.startsWith "~" || file.startsWith "<" then false
  else
    let path := PathText.absolute r.current file
    let home := r.folder ++ "/"
    path != r.current ++ "/" ++ benchmarkFile && path.startsWith home &&
      (let names := ((path.toList.drop home.length).splitOn '/').map String.ofList
       !(names.getLastD "").startsWith "_pti_" && !names.dropLast.any isForeignFolder)

/-- Whether a frame is compiled code outside the repository. -/
def isCompiledFrame (r : Repository) (file : String) : Bool :=
  file == "~" || (!isRepositoryFrame r file &&
    (endsWith ".so".toList file.toList || endsWith ".pyd".toList file.toList))

namespace Profile

/-- The time spent in the frames that satisfy `p`. -/
def timeIn (p : Profile) (test : String → Bool) : Float :=
  (p.records.filter fun r => test r.1).foldl (fun sum r => sum + r.2) 0.0

/-- A time as a share of the total time, to three places. -/
def share (p : Profile) (time : Float) : Float :=
  if p.total > 0.0 then roundPlaces (time / p.total) 3 else 0.0

/-- A time as a percentage of the total time, to one place. -/
def percentage (p : Profile) (time : Float) : Float :=
  roundPlaces (100.0 * time / (if p.total > 1e-9 then p.total else 1e-9)) 1

/-- The name under which the time outside the repository is counted: the benchmarks themselves,
compiled code, or the file without its extension. -/
def groupName (file : String) : String :=
  let name := PathText.fileName file
  if name == benchmarkFile then "<run() body>"
  else if file == "~" then "builtins"
  else
    let ext := PathText.extension name
    String.ofList (name.toList.take (name.length - ext.length))

/-- Adds a time to the group of that name. -/
def addTo (groups : List (String × Float)) (name : String) (time : Float) : List (String × Float) :=
  match groups with
  | [] => [(name, 0.0 + time)]
  | (n, t) :: rest => if n == name then (n, t + time) :: rest else (n, t) :: addTo rest name time

/-- The time outside a repository, by groups. -/
def groups (p : Profile) (repo : Repository) : List (String × Float) :=
  let others := p.records.filter fun r => !isRepositoryFrame repo r.1
  others.foldl (fun gs r => addTo gs (groupName r.1) r.2) []

end Profile

end ScriptHost.Measure
