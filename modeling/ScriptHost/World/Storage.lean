import ScriptHost.World.Basic

/-!
# Working with files

The operations on the file tree that the file functions of scripts are built from. They work on
paths as scripts give them and fail with the path as it was given. An operation that fails halfway
leaves what it had done.
-/

namespace ScriptHost.Storage

open ScriptHost.Text ScriptHost.Calendar

/-- The file tree. -/
def disk : Act Disk := do
  return (← get).disk

/-- Puts a node at the end of a route, or takes the node there away. -/
def putNode (r : Route) (n : Option Node) : Act Unit :=
  modify fun w => { w with disk := w.disk.put r n }

/-- The present in microseconds since 1970. -/
def present : Act Int := do
  return (← get).clock.epochMicros

/-- The path of the current folder. -/
def currentFolder : Act String := do
  return Disk.routeText (← disk).here

/-! ### Paths among values -/

/-- A path that is taken apart as text. -/
def pathText : Value → Except Fault String
  | .text s => .ok s
  | v => .error (.pathType v.typeName)

/-- A path of a file to open; a number would have to name an open file. -/
def openText : Value → Except Fault String
  | .text s => .ok s
  | v =>
    match v.whole? with
    | some n => .error (if n < 0 then .negativeDescriptor else .badDescriptor)
    | none => .error (.pathType v.typeName)

/-- A path that is looked up; a number names no entry of the tree. -/
def lookupText (fn : String) : Value → Except Fault (Option String)
  | .text s => .ok (some s)
  | v =>
    match v.whole? with
    | some _ => .ok none
    | none => .error (.statType fn v.typeName)

/-- What the path in a value leads to. -/
def nodeAt (v : Value) : Act (Option Node) := do
  match ← Act.ofExcept (lookupText "stat" v) with
  | some path => return (← disk).node? path
  | none => return none

/-- Whether the path in a value leads to something. -/
def pathExists (v : Value) : Act Bool := do
  return (← nodeAt v).isSome

/-- Whether the path in a value leads to a file. -/
def isFile (v : Value) : Act Bool := do
  match ← nodeAt v with
  | some (.file ..) => return true
  | _ => return false

/-- Whether the path in a value leads to a folder. -/
def isFolder (v : Value) : Act Bool := do
  match ← nodeAt v with
  | some (.folder _) => return true
  | _ => return false

/-- The absolute path of a path. -/
def absolutePath (path : String) : Act String := do
  return PathText.absolute (← currentFolder) path

/-! ### Folders -/

/-- A path without slashes at its end. -/
def bare (path : String) : String :=
  String.ofList (PathText.dropSlashes path.toList)

/-- Refuses a text that cannot be a path. -/
def checkPath (path : String) : Act Unit :=
  if Disk.isPath path then pure () else throw .nullByte

/-- Creates a folder in an existing one. -/
def makeFolder (path : String) : Act Unit := do
  checkPath path
  match (← disk).locate (bare path) with
  | .found .. => throw (.os .taken path)
  | .vacant parent name _ => putNode (parent ++ [name]) (some (.folder []))
  | .failed e => throw (.os e path)

/-- Whether a fault says that something is there already. -/
def isTaken (e : Fault) : Bool :=
  e.kind == .os .taken

/-- Whether a fault comes from the file system. -/
def isOs (e : Fault) : Bool :=
  match e.kind with
  | .os _ => true
  | _ => false

/-- Creates a folder and the folders it lies in, as far as they are missing; the fuel bounds their
number. -/
def makeFoldersFrom (okIfThere : Bool) : Nat → String → Act Unit
  | 0, path => makeFolder path
  | fuel + 1, path => do
    let (head, tail) := PathText.headTail path
    let (head, tail) := if tail.isEmpty then PathText.headTail head else (head, tail)
    let deep := !head.isEmpty && !tail.isEmpty && !(← disk).pathExists head
    if deep then
      tryCatch (makeFoldersFrom okIfThere fuel head) fun e => if isTaken e then pure () else throw e
    if deep && tail == "." then pure ()
    else
      tryCatch (makeFolder path) fun e => do
        if isOs e && okIfThere && (← disk).isFolder path then pure () else throw e

/-- Creates a folder and the folders it lies in, as far as they are missing. -/
def makeFolders (okIfThere : Bool) (path : String) : Act Unit :=
  makeFoldersFrom okIfThere path.length path

/-- Creates the folder that a file will lie in. -/
def makeFolderOf (path : String) : Act Unit := do
  makeFolders true (PathText.parentName (← absolutePath path))

/-- The entries of a folder. -/
def listFolder (path : String) : Act (List (String × Node)) := do
  checkPath path
  match (← disk).locate path with
  | .found _ (.folder es) => return es
  | .found .. => throw (.os .notDirectory path)
  | .vacant .. => throw (.os .noEntry path)
  | .failed e => throw (.os e path)

/-- Goes to another folder. -/
def changeFolder (v : Value) : Act Unit := do
  match ← Act.ofExcept (lookupText "chdir" v) with
  | none => throw .badDescriptor
  | some path =>
    checkPath path
    match (← disk).locate path with
    | .found r (.folder _) => modify fun w => { w with disk := { w.disk with here := r } }
    | .found .. => throw (.os .notDirectory path)
    | .vacant .. => throw (.os .noEntry path)
    | .failed e => throw (.os e path)

/-! ### Files -/

/-- What happens to a file that is opened for writing. -/
inductive WriteMode where
  | truncate
  /-- It must not be there yet. -/
  | fresh
  | append
  deriving DecidableEq

/-- Opens a file for writing and tells where it lies. -/
def openForWriting (mode : WriteMode) (path : String) : Act Route := do
  checkPath path
  let slash := path.endsWith "/"
  match (← disk).locate (if slash then bare path else path) with
  | .found r (.file _ _) =>
    if slash then throw (.os .isDirectory path)
    match mode with
    | .fresh => throw (.os .taken path)
    | .truncate =>
      putNode r (some (.file [] (← present)))
      return r
    | .append => return r
  | .found .. =>
    if slash then throw (.os .isDirectory path)
    throw (.os (if mode == .fresh then .taken else .isDirectory) path)
  | .vacant parent name _ =>
    if slash then throw (.os .isDirectory path)
    let r := parent ++ [name]
    putNode r (some (.file [] (← present)))
    return r
  | .failed e => throw (.os e path)

/-- Opens a file for reading: where it lies, its bytes and the time of its last change. -/
def openForReading (path : String) : Act (Route × List UInt8 × Int) := do
  checkPath path
  match (← disk).locate path with
  | .found r (.file c m) => return (r, c, m)
  | .found .. => throw (.os .isDirectory path)
  | .vacant .. => throw (.os .noEntry path)
  | .failed e => throw (.os e path)

/-- The bytes of the file at a route; a file that has gone has none. -/
def contentAt (r : Route) : Act (List UInt8) := do
  match (← disk).top.get? r with
  | some (.file c _) => return c
  | _ => return []

/-- Gives the file at a route new bytes, if it is still there. -/
def setContent (r : Route) (content : List UInt8) : Act Unit := do
  match (← disk).top.get? r with
  | some (.file _ _) => putNode r (some (.file content (← present)))
  | _ => pure ()

/-- Puts a whole text into a file that has just been opened. -/
def writeText (cs : Charset) (r : Route) (text : List Char) : Act Unit := do
  match cs.encode text with
  | .ok bytes => setContent r (cs.mark ++ bytes)
  | .error e => throw (.encoding e)

/-- Removes a file or a link. -/
def removeFile (path : String) : Act Unit := do
  checkPath path
  match (← disk).entryAt path with
  | .found _ (.folder _) => throw (.os .isDirectory path)
  | .found r _ => putNode r none
  | .vacant .. => throw (.os .noEntry path)
  | .failed e => throw (.os e path)

/-- Removes a folder with all that is in it, but not by a link to it. One that is named by dots
loses its contents only: it cannot be removed by such a name, and the folder that two dots lead back
from has gone with the contents. -/
def removeFolder (path : String) : Act Unit := do
  checkPath path
  match (← disk).entryAt path with
  | .found r (.folder _) =>
    if PathText.fileName (bare path) == "." then
      putNode r (some (.folder []))
      throw (.os .invalid path)
    else if PathText.fileName (bare path) == ".." then
      putNode r (some (.folder []))
      throw (.os .noEntry path)
    else putNode r none
  | .found _ (.link _) => throw .linkedFolder
  | .found .. => throw (.os .notDirectory path)
  | .vacant .. => throw (.os .noEntry path)
  | .failed e => throw (.os e path)

/-- Makes a link to what a path leads to from the folder of the link; tells whether that was
possible. -/
def makeLink (goal path : String) : Act Bool := do
  let d ← disk
  match d.locate path with
  | .vacant parent name _ =>
    match { d with here := parent }.locate goal with
    | .found r _ =>
      putNode (parent ++ [name]) (some (.link r))
      return true
    | _ => return false
  | _ => return false

/-! ### Copying and moving -/

/-- Whether two paths lead to the same file or folder. -/
def samePlace (a b : String) : Act Bool := do
  checkPath a
  match (← disk).locate a with
  | .found r _ =>
    checkPath b
    match (← disk).locate b with
    | .found s _ => return r == s
    | _ => return false
  | _ => return false

/-- Copies a file's bytes and time to a path that names the copy itself. `shown` is how messages
name the source. -/
def copyBytes (shown source destination : String) : Act Unit := do
  if ← samePlace source destination then throw (.sameFile shown (quote destination))
  let (_, content, modified) ← openForReading source
  let r ← tryCatch (openForWriting .truncate destination) fun e => do
    if e.kind == .os .isDirectory && !(← disk).pathExists destination then
      throw (.missingFolder destination)
    else throw e
  putNode r (some (.file content modified))

/-- Copies a file to a path, or into the folder that the path names. -/
def copyFileAs (shown source destination : String) : Act Unit := do
  let target :=
    if (← disk).isFolder destination then PathText.joined destination (PathText.fileName source)
    else destination
  copyBytes shown source target

/-- Copies a file to a path, or into the folder that the path names. -/
def copyFile (source destination : String) : Act Unit :=
  copyFileAs (quote source) source destination

/-- What a failure to copy an entry adds to the list of troubles; other failures end the copying. -/
def troublesOf (source destination : String) (e : Fault) : Act (List CopyTrouble) :=
  match e with
  | .copying ts => pure ts
  | .sameFile .. => pure (e.message.toList.map .letter)
  | e => if isOs e then pure [.entry source destination e.message] else throw e

/-- Copies a folder with all that is in it. Entries that fail do not keep the others from being
copied; the fuel bounds the depth. -/
def copyFolderFrom (okIfThere : Bool) : Nat → String → String → Act Unit
  | 0, _, _ => throw .tooDeep
  | fuel + 1, source, destination => do
    let entries ← listFolder source
    makeFolders okIfThere destination
    let troubles ← entries.foldlM (fun ts (name, node) => do
      let original := PathText.joined source name
      let copy := PathText.joined destination name
      let more ← tryCatch
        (do
          if node.isFolder || (node.isLink && (← disk).isFolder original) then
            copyFolderFrom okIfThere fuel original copy
          else copyFileAs ("<DirEntry " ++ quote name ++ ">") original copy
          return [])
        (troublesOf original copy)
      return ts ++ more) []
    if !troubles.isEmpty then throw (.copying troubles)

/-- No path has more names than this. -/
def depthLimit : Nat := 2048

/-- Copies a folder with all that is in it. -/
def copyFolder (okIfThere : Bool) (source destination : String) : Act Unit :=
  copyFolderFrom okIfThere depthLimit source destination

/-- Whether a node can take the place of another one. -/
def canReplace (new : Node) : Node → Bool
  | .folder es => new.isFolder && es.isEmpty
  | _ => !new.isFolder

/-- Whether a path ends in dots that stand for the same or the outer folder. -/
def endsInDots (path : String) : Bool :=
  let last := PathText.fileName (bare path)
  last == "." || last == ".."

/-- Gives a file or folder another name or place; tells whether that was possible. -/
def rename (source destination : String) : Act Bool := do
  let d ← disk
  if !Disk.isPath source || !Disk.isPath destination then throw .nullByte
  if endsInDots source then return false
  match d.entryAt source, d.entryAt destination with
  | .found r n, .found s old =>
    if r == s then return true
    else if r.isPrefixOf s || !canReplace n old then return false
    else
      putNode s (some n)
      putNode r none
      return true
  | .found r n, .vacant parent name slash =>
    if (slash && !n.isFolder) || r.isPrefixOf parent then return false
    else
      putNode (parent ++ [name]) (some n)
      putNode r none
      return true
  | _, _ => return false

/-- A path with a slash at its end. -/
def withSlash (path : String) : String :=
  if path.endsWith "/" then path else path ++ "/"

/-- Whether one path lies in another, by their texts. -/
def liesIn (inner outer : String) : Act Bool := do
  let a := withSlash (← absolutePath inner)
  let b := withSlash (← absolutePath outer)
  return b.toList.isPrefixOf a.toList

/-- Moves a file or folder to a path, or into the folder that the path names. What cannot be renamed
is copied and then removed. -/
def move (source destination : String) : Act Unit := do
  let into := (← disk).isFolder destination
  let same ← if into then samePlace source destination else pure false
  if same then
    if endsInDots source || endsInDots destination then
      throw (.betweenPaths .busy source destination)
  else
    let target :=
      if into then PathText.joined destination (PathText.trimmedName source) else destination
    if into && (← disk).pathExists target then throw (.destinationTaken target)
    if !(← rename source target) then
      if (← disk).isFolder source then
        if ← liesIn destination source then throw (.moveIntoItself source destination)
        copyFolder false source target
        removeFolder source
      else
        copyFile source target
        removeFile source

end ScriptHost.Storage
