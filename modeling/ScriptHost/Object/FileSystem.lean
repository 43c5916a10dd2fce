import ScriptHost.Object.Stream

/-!
# The file system object

Opens, saves, copies, moves and deletes files and folders. Most operations answer whether they
succeeded and print why they did not.
-/

namespace ScriptHost.FileSystem

open ScriptHost.Text
open Routine (on1 on2 on3 on4)

/-- The character set with a name, in any case; GBK for every other name. -/
def charsetNamed (name : List Char) : Charset :=
  match String.ofList (upper name) with
  | "UTF-8" => .utf8
  | "UTF-16" => .utf16
  | "GB2312" => .gb2312
  | _ => .gbk

/-- The character set that a format number stands for. -/
def charsetOfFormat (format : Value) : Charset :=
  if format.same (.int (-2)) then .utf16le else if format.same (.int (-1)) then .utf8 else .gbk

/-- How a file is opened as a stream. -/
inductive OpenMode where
  | read
  | write
  | append

/-- The way of opening that a number stands for. -/
def modeOfNumber (mode : Value) : OpenMode :=
  if mode.same (.int 2) then .write else if mode.same (.int 8) then .append else .read

/-- Refuses what cannot be looked up in a table. -/
def checkTableKey (v : Value) : Act Unit :=
  match v.unhashable? with
  | some type => throw (.unhashable type)
  | none => pure ()

/-- A stream on a file. -/
def openStream (mode : OpenMode) (cs : Charset) (path : String) : Act Value := do
  let name := Value.text cs.name
  match mode with
  | .read =>
    let (r, _, _) ← Storage.openForReading path
    Stream.create (.reader r cs {}) name
  | .write =>
    let r ← Storage.openForWriting .truncate path
    Stream.create (.writer r cs false 0 []) name
  | .append =>
    let r ← Storage.openForWriting .append path
    Stream.create (.writer r cs true (← Storage.contentAt r).length []) name

/-- Creates a file and opens it for writing. -/
def createTextFile (filename replace wide : Value) : Act Value :=
  Act.recover (do
    let path ← Act.ofExcept (Storage.pathText filename)
    Storage.makeFolderOf path
    let cs := if wide.truthy then Charset.utf8 else .gbk
    let r ← Storage.openForWriting (if replace.truthy then .truncate else .fresh) path
    Stream.create (.writer r cs false 0 []) (.text cs.name)) fun e =>
    throw (if Storage.isTaken e then .alreadyExists else .creationFailed e.message)

/-- Opens a file as a stream; null if it is not there or cannot be opened. -/
def openTextFile (filename mode create format : Value) : Act Value := do
  checkTableKey format
  let cs := charsetOfFormat format
  checkTableKey mode
  let missing ← if create.truthy then (do return !(← Storage.pathExists filename)) else pure false
  let made ←
    if missing then
      Act.recoverAll (do
        let _ ← Storage.openForWriting .truncate (← Act.ofExcept (Storage.openText filename))
        return true) fun _ => pure false
    else pure true
  if !made then return .null
  Act.recover (do
    openStream (modeOfNumber mode) cs (← Act.ofExcept (Storage.openText filename))) fun e => do
    if e.kind != .os .noEntry then Act.print ("打开文件失败: " ++ e.message)
    return .null

/-- Puts a text into a file that has just been opened. -/
def putText (cs : Charset) (r : Route) : Value → Act Unit
  | .text s => Storage.writeText cs r s.toList
  | v => throw (.fileText v.argumentName)

/-- The text of a name; only texts have a capital form. -/
def capitalizable : Value → Act (List Char)
  | .text s => pure s.toList
  | v => throw (.noAttribute v.typeName "upper")

/-- Saves a text as a file. -/
def saveToFile (filename content encoding replace : Value) : Act Value := do
  let cs := charsetNamed (← capitalizable encoding)
  Act.recover (do
    let path ← Act.ofExcept (Storage.pathText filename)
    Storage.makeFolderOf path
    let r ← Storage.openForWriting (if replace.truthy then .truncate else .fresh) path
    putText cs r content
    return .bool true) fun e => do
    if Storage.isTaken e then Act.print "文件已存在" else Act.print ("保存失败: " ++ e.message)
    return .bool false

/-- Tries an operation and answers whether it succeeded; if not, prints why. -/
def attempt (complaint : String) (a : Act Unit) : Act Value :=
  Act.recover (do
    a
    return .bool true) fun e => do
    Act.print (complaint ++ e.message)
    return .bool false

/-- Tries an operation and answers whether it succeeded. -/
def attemptQuietly (a : Act Unit) : Act Value :=
  Act.recoverAll (do
    a
    return .bool true) fun _ => pure (.bool false)

/-- The text of a path that is looked up before anything is done with it. -/
def sourceText (v : Value) : Act String := do
  match ← Act.ofExcept (Storage.lookupText "stat" v) with
  | some path => return path
  | none => throw .badDescriptor

/-- Copies a file. A destination that is no path is found out when it is opened, after the source.
-/
def copyFileTo (source destination : Value) : Act Unit := do
  let target? ← Act.ofExcept (Storage.lookupText "stat" destination)
  let path ← sourceText source
  match target? with
  | some target => Storage.copyFile path target
  | none => do
    let _ ← Storage.openForReading path
    let _ ← Act.ofExcept (Storage.openText destination)

/-- Whether something is in the way of a copy that may not replace anything. -/
def isInTheWay (replace destination : Value) : Act Bool :=
  if replace.truthy then pure false else Storage.pathExists destination

/-- Moves a file or folder. -/
def moveTo (source destination : Value) : Act Unit := do
  match ← Act.ofExcept (Storage.lookupText "stat" destination) with
  | some target => Storage.move (← sourceText source) target
  | none => throw (.newNameType destination.typeName)

/-- Copies a file, unless it is missing or something is in the way. -/
def copyFile (source destination replace : Value) : Act Value := do
  if !(← Storage.pathExists source) then return .bool false
  if ← isInTheWay replace destination then return .bool false
  attempt "复制文件失败: " (copyFileTo source destination)

/-- Moves a file or folder, unless it is missing. -/
def moveFile (source destination : Value) : Act Value := do
  if !(← Storage.pathExists source) then return .bool false
  attempt "移动文件失败: " (moveTo source destination)

/-- Deletes a file, unless it is missing. -/
def deleteFile (path : Value) : Act Value := do
  if !(← Storage.pathExists path) then return .bool false
  attempt "删除文件失败: " do Storage.removeFile (← sourceText path)

/-- Copies a folder, unless it is missing or something is in the way. -/
def copyFolder (source destination replace : Value) : Act Value := do
  if !(← Storage.pathExists source) then return .bool false
  if ← isInTheWay replace destination then return .bool false
  attempt "复制文件夹失败: " do
    let path ← sourceText source
    let _ ← Storage.listFolder path
    Storage.copyFolder replace.truthy path (← Act.ofExcept (Storage.pathText destination))

/-- Creates a folder with the folders it lies in. -/
def createFolder (path : Value) : Act Value :=
  attempt "创建文件夹失败: " do Storage.makeFolders true (← Act.ofExcept (Storage.pathText path))

/-- Deletes a folder, unless it is missing. -/
def deleteFolder (path : Value) : Act Value := do
  if !(← Storage.pathExists path) then return .bool false
  attempt "删除文件夹失败: " do Storage.removeFolder (← sourceText path)

/-- The system's own folders by number. -/
def specialFolder (number : Value) : Act Value := do
  let env := (← get).environment
  let system := (env.lookup "WINDIR").getD "C:\\Windows"
  if number.same (.int 0) then return .text system
  else if number.same (.int 1) then return .text (PathText.joined system "System32")
  else if number.same (.int 2) then
    return .text ((env.lookup "TEMP").getD ((env.lookup "TMP").getD "."))
  else return .null

/-- Something about a path's text. -/
def aboutPath (f : String → String) (v : Value) : Act Value := do
  return .text (f (← Act.ofExcept (Storage.pathText v)))

/-- The absolute path of a path. -/
def absolutePath (v : Value) : Act Value := do
  return .text (← Storage.absolutePath (← Act.ofExcept (Storage.pathText v)))

/-- A method of the file system object. -/
def routine (name : String) (params : List Param) (run : List Value → Act Value) : Option Routine :=
  some (.method .fileSystem name params run)

/-- The methods of file system objects. -/
def method? : String → Option Routine
  | "FileExists" =>
    routine "FileExists" [need "filepath"] (on1 fun v => do return .bool (← Storage.isFile v))
  | "FolderExists" =>
    routine "FolderExists" [need "folderpath"] (on1 fun v => do return .bool (← Storage.isFolder v))
  | "GetFile" => routine "GetFile" [need "filepath"] (on1 fun v => Act.create (.file v))
  | "GetFolder" => routine "GetFolder" [need "folderpath"] (on1 fun v => Act.create (.folder v))
  | "CreateTextFile" => routine "CreateTextFile"
      [need "filename", given "overwrite" (.bool true), given "unicode" (.bool false)]
        (on3 createTextFile)
  | "OpenTextFile" => routine "OpenTextFile"
      [need "filename", given "iomode" (.int 1), given "create" (.bool false),
        given "format" (.int 0)]
      (on4 openTextFile)
  | "SaveToFile" => routine "SaveToFile"
      [need "filename", need "content", given "encoding" (.text "ANSI"),
        given "overwrite" (.bool true)]
      (on4 saveToFile)
  | "CopyFile" => routine "CopyFile"
      [need "source", need "destination", given "overwrite" (.bool true)] (on3 copyFile)
  | "MoveFile" => routine "MoveFile" [need "source", need "destination"] (on2 moveFile)
  | "DeleteFile" =>
    routine "DeleteFile" [need "filepath", given "force" (.bool false)]
      (on2 fun v _ => deleteFile v)
  | "CopyFolder" => routine "CopyFolder"
      [need "source", need "destination", given "overwrite" (.bool true)] (on3 copyFolder)
  | "CreateFolder" => routine "CreateFolder" [need "folderpath"] (on1 createFolder)
  | "DeleteFolder" => routine "DeleteFolder"
      [need "folderpath", given "force" (.bool false)] (on2 fun v _ => deleteFolder v)
  | "GetSpecialFolder" => routine "GetSpecialFolder" [need "folder_type"] (on1 specialFolder)
  | "GetAbsolutePathName" => routine "GetAbsolutePathName" [need "path"] (on1 absolutePath)
  | "GetFileName" => routine "GetFileName" [need "path"] (on1 (aboutPath PathText.fileName))
  | "GetParentFolderName" =>
    routine "GetParentFolderName" [need "path"] (on1 (aboutPath PathText.parentName))
  | _ => none

/-! ### Files -/

/-- The time of a file's last change; the present if there is no such file. -/
def modified (path : Value) : Act Value := do
  let now := Value.moment (← get).clock
  Act.recoverAll (do
    match ← Storage.nodeAt path with
    | some (.file _ m) => return ((Calendar.Moment.ofEpochMicros? m).map .moment).getD now
    | _ => return now) fun _ => pure now

/-- The number of bytes of a file; zero if there is no such file. -/
def fileSize (path : Value) : Act Value :=
  Act.recoverAll (do
    match ← Storage.nodeAt path with
    | some (.file c _) => return .int c.length
    | some _ => return .int 4096
    | none => return .int 0) fun _ => pure (.int 0)

/-- The methods of files. -/
def fileMethod? (path : Value) : String → Option Routine
  | "Delete" => some (.method .file "Delete" [given "force" (.bool false)] (on1 fun _ =>
      attemptQuietly do Storage.removeFile (← sourceText path)))
  | "Copy" =>
    some (.method .file "Copy" [need "destination", given "overwrite" (.bool true)]
      (on2 fun goal replace => do
      if ← isInTheWay replace goal then return .bool false
      attemptQuietly (copyFileTo path goal)))
  | "Move" =>
    some (.method .file "Move" [need "destination"] (on1 fun goal =>
      attemptQuietly (moveTo path goal)))
  | "OpenAsTextStream" => some (.method .file "OpenAsTextStream"
      [given "iomode" (.int 1), given "format" (.int 0)] (on2 fun mode format =>
      openTextFile path mode (.bool false) format))
  | _ => none

/-- The properties of files. -/
def fileProperty? (path : Value) : String → Option Property
  | "Name" => some { read := aboutPath PathText.fileName path }
  | "Path" => some { read := absolutePath path }
  | "Size" => some { read := fileSize path }
  | "DateCreated" => some { read := do return .moment (← get).clock }
  | "DateLastModified" => some { read := modified path }
  | _ => none

/-! ### Folders -/

/-- The entries of a folder whose paths pass a test, as objects in order of their paths; none if it
cannot be listed. -/
def entriesWhere (path : Value) (keep : Disk → String → Bool) (body : Value → Body) : Act Value :=
  Act.recoverAll (do
    let base ← Act.ofExcept (Storage.pathText path)
    let entries ← Storage.listFolder base
    let d ← Storage.disk
    let paths := (entries.map fun e => PathText.joined base e.1).filter (keep d)
    let sorted := paths.mergeSort fun a b => textOrder a.toList b.toList != .gt
    return .list (← sorted.mapM fun p => Act.create (body (.text p)))) fun _ => pure (.list [])

/-- The number of bytes of the file that a path leads to. -/
def bytesAt (d : Disk) (path : String) : Nat :=
  match d.node? path with
  | some (.file c _) => c.length
  | _ => 0

/-- Walks through a folder and the folders below it, and adds the sizes of their files to a total.
It goes no more than so many folders deep: one that lies deeper breaks it off, and what has been
added up is left. Links to folders are not entered, and what cannot be listed is passed over. -/
def walk (d : Disk) : Nat → String → Nat → Except Nat Nat
  | 0, _, total => .error total
  | left + 1, path, total =>
    match d.node? path with
    | some (.folder es) =>
      let files := es.filter fun e => !e.2.isFolder
      let here := files.foldl (fun t e => t + bytesAt d (PathText.joined path e.1)) total
      let folders := es.filter fun e => e.2.isFolder
      folders.foldlM (fun t e => walk d left (PathText.joined path e.1) t) here
    | _ => .ok total

/-- What a walk from a folder has added up, be it to its end or as far as it got. -/
def walkedSize (d : Disk) (depth : Nat) (path : String) : Nat :=
  match walk d depth path 0 with
  | .ok total | .error total => total

/-- The size of a folder; zero if there is no such folder. -/
def folderSize (path : Value) : Act Value :=
  Act.recoverAll (do
    let base ← Act.ofExcept (Storage.pathText path)
    let w ← get
    return .int (walkedSize w.disk w.walkDepth base)) fun _ => pure (.int 0)

/-- The methods of folders. -/
def folderMethod? (path : Value) : String → Option Routine
  | "Delete" => some (.method .folder "Delete" [given "force" (.bool false)] (on1 fun _ =>
      attemptQuietly do Storage.removeFolder (← sourceText path)))
  | _ => none

/-- The properties of folders. -/
def folderProperty? (path : Value) : String → Option Property
  | "Name" => some { read := aboutPath PathText.fileName path }
  | "Path" => some { read := absolutePath path }
  | "Size" => some { read := folderSize path }
  | "DateCreated" => some { read := do return .moment (← get).clock }
  | "Files" => some { read := entriesWhere path Disk.isFile .file }
  | "SubFolders" => some { read := entriesWhere path Disk.isFolder .folder }
  | _ => none

end ScriptHost.FileSystem
