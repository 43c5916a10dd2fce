import ScriptHost.World.Basic

/-!
# The start of a session

A world as it is before a script runs: the surroundings are given, the current folder is a new one,
and the random numbers start from zero with the first of them already drawn.
-/

namespace ScriptHost

open ScriptHost.Calendar

/-- A file that is there from the start, with the time of its last change if it has one of its own.
-/
structure StartFile where
  path : String
  content : List UInt8
  modified : Option Int := none

/-- The surroundings of a session. -/
structure Surroundings where
  dialect : Dialect
  clock : Moment
  files : List StartFile := []
  folders : List String := []
  environment : List (String × String) := []
  replies : List Value := []
  display : Bool := true
  input : String := ""
  registry : Option Registry := none

namespace Surroundings

/-- The route of the folder in which sessions start. -/
def home : Route := ["srv", "session", "root"]

/-- Folders one inside the other. -/
def nested : Route → Node
  | [] => .folder []
  | name :: rest => .folder [(name, nested rest)]

/-- Creates the folders on a route below another route, as far as they are missing. -/
def addFolders (top : Node) (base : Route) : Route → Node
  | [] => top
  | name :: rest =>
    let at_ := base ++ [name]
    let top :=
      match top.get? at_ with
      | some _ => top
      | none => top.put at_ (some (.folder []))
    addFolders top at_ rest

/-- The path of a file or folder as a route from the top. -/
def routeOf (path : String) : Route :=
  let names := (Disk.names path).filter (· != ".")
  if path.startsWith "/" then names else home ++ names

/-- Adds a folder. -/
def addFolder (top : Node) (path : String) : Node :=
  addFolders top [] (routeOf path)

/-- Adds a file and the folders on the way to it. -/
def addFile (now : Int) (top : Node) (f : StartFile) : Node :=
  let r := routeOf f.path
  (addFolders top [] r.dropLast).put r (some (.file f.content (f.modified.getD now)))

/-- The file tree at the start. -/
def disk (s : Surroundings) : Disk :=
  let top := s.files.foldl (addFile s.clock.epochMicros) (nested home)
  ⟨s.folders.foldl addFolder top, home⟩

/-- The world at the start; its only object is the host. -/
def world (s : Surroundings) : World :=
  let (x, random) := Random.next (Random.seed 0)
  { dialect := s.dialect
    clock := s.clock
    disk := s.disk
    environment := s.environment
    replies := s.replies
    display := s.display
    input := s.input.toList
    registry := s.registry
    random := random
    lastRandom := x
    objects := #[⟨.host {}, []⟩]
    output := ""
    warnings := ""
    effects := #[] }

end Surroundings

mutual

/-- Everything below a node, with paths from it: files with their bytes, folders with a slash after
their names. -/
def Node.listing (at_ : String) : Node → List (String × Option (List UInt8))
  | .folder es => Node.listingOf at_ es
  | _ => []

/-- Everything in some entries and below. -/
def Node.listingOf (at_ : String) : List (String × Node) → List (String × Option (List UInt8))
  | [] => []
  | e :: es =>
    let path := at_ ++ e.1
    (match e.2 with
      | .file c _ => [(path, some c)]
      | .folder _ => (path ++ "/", none) :: Node.listing (path ++ "/") e.2
      | .link _ => []) ++ Node.listingOf at_ es

end

/-- Everything below the current folder. -/
def World.listing (w : World) : List (String × Option (List UInt8)) :=
  match w.disk.top.get? w.disk.here with
  | some n => n.listing ""
  | none => []

/-- The path of the folder in which sessions start. -/
def World.homePath : String :=
  Disk.routeText Surroundings.home

end ScriptHost
