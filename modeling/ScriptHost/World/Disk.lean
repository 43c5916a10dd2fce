import ScriptHost.Fault
import ScriptHost.Text.Search

/-!
# The file tree

Files and folders form a tree, in which links lead from one place to another. A path is a text;
`Disk.locate` follows it from the current folder, or from the top if it starts with a slash, and
tells where it leads.
-/

namespace ScriptHost

open ScriptHost.Text

/-- The names on the way from the top of the tree. -/
abbrev Route := List String

/-- A file with its bytes and the time of its last change in microseconds since 1970, a folder with
its entries, or a link to the end of a route. -/
inductive Node where
  | file (content : List UInt8) (modified : Int)
  | folder (entries : List (String × Node))
  | link (goal : Route)
  deriving Inhabited

namespace Node

/-- Whether a node is a folder. -/
def isFolder : Node → Bool
  | folder _ => true
  | _ => false

/-- Whether a node is a link. -/
def isLink : Node → Bool
  | link _ => true
  | _ => false

/-- Where one comes to from the place of a node: a link leads on. -/
def landing : Node → Route → Route
  | link goal, _ => goal
  | _, place => place

/-- The entries of a folder; what is none has none. -/
def entries : Node → List (String × Node)
  | folder es => es
  | _ => []

/-- Replaces the entry with a name, or adds it, or takes it away. -/
def setEntry (name : String) (new : Option Node) : List (String × Node) → List (String × Node)
  | [] => match new with
    | some n => [(name, n)]
    | none => []
  | (k, n) :: es =>
    if k == name then
      match new with
      | some m => (name, m) :: es
      | none => es
    else (k, n) :: setEntry name new es

/-- The node that a route leads to. -/
def get? : Node → Route → Option Node
  | n, [] => some n
  | n, name :: rest =>
    match n.entries.lookup name with
    | some m => m.get? rest
    | none => none

/-- Puts a node at the end of a route, or takes the node there away; the folders on the way must
exist. -/
def put : Node → Route → Option Node → Node
  | n, [], new => new.getD n
  | file c m, _ :: _, _ => file c m
  | link goal, _ :: _, _ => link goal
  | folder es, [name], new => folder (setEntry name new es)
  | folder es, name :: next :: rest, new =>
    match es.lookup name with
    | some m => folder (setEntry name (some (m.put (next :: rest) new)) es)
    | none => folder es

end Node

/-- The whole tree and the route of the current folder. -/
structure Disk where
  top : Node
  here : Route

/-- Where a path leads. -/
inductive Place where
  /-- An existing file or folder. -/
  | found (route : Route) (node : Node)
  /-- A free name in an existing folder; the flag tells whether the path ended with a slash. -/
  | vacant (parent : Route) (name : String) (slash : Bool)
  | failed (e : OsError)

namespace Disk

/-- The bytes of a name in a file system. -/
def nameSize (s : String) : Nat :=
  s.utf8ByteSize

/-- Follows names from a node. A folder's own name and its parent's are understood at every folder,
and a link leads on to its goal. One that leads to another link leads nowhere. -/
def follow (top : Node) (slash : Bool) : Route → List String → Place
  | at_, [] =>
    match (top.get? at_).filter (!·.isLink) with
    | some n => if slash && !n.isFolder then .failed .notDirectory else .found at_ n
    | none => .failed .noEntry
  | at_, name :: rest =>
    match top.get? at_ with
    | none => .failed .noEntry
    | some n =>
      if !n.isFolder then .failed .notDirectory
      else if name == "." then follow top slash at_ rest
      else if name == ".." then follow top slash at_.dropLast rest
      else if 255 < nameSize name then .failed .tooLong
      else match n.entries.lookup name with
        | some m => follow top slash (m.landing (at_ ++ [name])) rest
        | none => if rest.isEmpty then .vacant at_ name slash else .failed .noEntry

/-- The names in a path, empty ones left out. -/
def names (path : String) : List String :=
  ((path.toList.splitOn '/').filter (!·.isEmpty)).map String.ofList

/-- Where following the names of a path starts. -/
def startOf (d : Disk) (path : String) : Route :=
  if path.startsWith "/" then [] else d.here

/-- Where a path leads. -/
def locate (d : Disk) (path : String) : Place :=
  if path.isEmpty then .failed .noEntry
  else if 4095 < path.utf8ByteSize then .failed .tooLong
  else follow d.top (path.endsWith "/") (d.startOf path) (names path)

/-- The link that a path without a slash at its end names: where it lies, and its goal. -/
def linkAt? (d : Disk) (path : String) : Option (Route × Route) := do
  let name ← (names path).getLast?
  if path.endsWith "/" then none
  match follow d.top true (d.startOf path) (names path).dropLast with
  | .found r (.folder es) =>
    match es.lookup name with
    | some (.link goal) => some (r ++ [name], goal)
    | _ => none
  | _ => none

/-- What a path names: a link at its end is not followed. -/
def entryAt (d : Disk) (path : String) : Place :=
  match d.linkAt? path with
  | some (r, goal) => .found r (.link goal)
  | none => d.locate path

/-- Whether a text can be a path at all. -/
def isPath (path : String) : Bool :=
  !path.toList.contains '\x00'

/-- What a path leads to. -/
def node? (d : Disk) (path : String) : Option Node :=
  if isPath path then
    match d.locate path with
    | .found _ n => some n
    | _ => none
  else none

/-- Whether a path leads to something. -/
def pathExists (d : Disk) (path : String) : Bool :=
  (d.node? path).isSome

/-- Whether a path leads to a file. -/
def isFile (d : Disk) (path : String) : Bool :=
  match d.node? path with
  | some (.file ..) => true
  | _ => false

/-- Whether a path leads to a folder. -/
def isFolder (d : Disk) (path : String) : Bool :=
  match d.node? path with
  | some (.folder _) => true
  | _ => false

/-- Puts a node at the end of a route, or takes the node there away. -/
def put (d : Disk) (r : Route) (n : Option Node) : Disk :=
  { d with top := d.top.put r n }

/-- The route of the current folder as text. -/
def routeText (r : Route) : String :=
  String.ofList ('/' :: join ['/'] (r.map String.toList))

end Disk

end ScriptHost
