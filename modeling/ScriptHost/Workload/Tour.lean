import ScriptHost.Object.Member
import ScriptHost.Workload.Basic
import ScriptHost.World.AnsiFile

/-!
# A tour of all functions and objects

The tour calls every function and every member of every object at least once, also where they fail,
and gives the results in order. It works in a folder of its own.
-/

namespace ScriptHost.Workload

open ScriptHost.Member (readAttribute setAttribute callMethod)

/-- A result of the tour that is told by a word when the act fails. -/
def orWord (word : String) (a : Act Value) : Act Value :=
  Act.recoverAll a fun _ => return .text word

/-- The family of the fault with which an act fails. -/
def familyOf (a : Act Value) : Act Value :=
  Act.recoverAll a fun e => return .text e.kind.name

/-- The text of values, one behind the other. -/
def joinedText (vs : List Value) : Act Value :=
  call "Join" [.list vs, .text ""]

/-- The sum of whole results. -/
def sum (vs : List Value) : Value :=
  .int ((vs.map fun v => v.whole?.getD 0).foldl (· + ·) 0)

/-- The results of one function for several lists of arguments. -/
def callAll (name : String) (argss : List (List Value)) : Act (List Value) :=
  argss.mapM (call name)

/-- Calls a method of an object. -/
def method (v : Value) (name : String) (args : List Value) : Act Value :=
  callMethod v name args []

/-! ### Functions -/

/-- Numbers: sizes, roots, signs, rounding, other bases and conversions. -/
def tourNumbers : Act (List Value) := do
  let root ← orWord "neg" (call "Sqr" [.int (-1)])
  let signs ← callAll "Sgn" [[.int 5], [.int (-5)], [.int 0]]
  let bases ← joinedText [← call "Hex" [.int 511], ← call "Oct" [.int 8], ← call "Str" [.int 3],
    ← call "Str" [.int (-1)]]
  let none ← joinedText [← call "Hex" [.text "x"], ← call "Oct" [.text "x"],
    ← call "Str" [.text "x"]]
  return [← call "Abs" [.float (-3.5)], ← call "Sqr" [.int 9], root, sum signs,
    sum [← call "Int" [.float (-1.5)], ← call "Fix" [.float 2.7], ← call "Fix" [.float (-2.7)]],
    ← call "Round" [.float 3.14159, .int 2], bases, none,
    sum [← call "CInt" [.text "3.5"], ← call "CInt" [.text "x"]],
    sum [← call "CLng" [.text "9.4"], ← call "CLng" [.text "x"]],
    ← call "CSng" [.text "1.5"], ← call "CDbl" [.text "2.5"]]

/-- Truth values, numbers at the head of a text, and tests of types. -/
def tourTests : Act (List Value) := do
  let truths ← callAll "CBool" [[.text "yes"], [.text "off"], [.text "on"], [.text "0"],
    [.text "-1"], [.text "no"],
    [.int 7], [.int 0], [.text "True"], [.text "1"], [.text "x"]]
  let heads ← callAll "Val" [[.text "12.5abc"], [.text "abc"], [.text "-3.2"], [.int 7], [.text ""]]
  let numeric ← callAll "IsNumeric" [[.text "1.5"], [.text "x"]]
  let date ← call "IsDate" [.text "2023-01-01"]
  let arrays ← callAll "IsArray" [[.list []], [.int 1]]
  let others :=
    [← call "IsEmpty" [.text ""], ← call "IsNull" [.null], ← call "IsObject" [HostObject.self]]
  return truths ++ heads ++ [.tuple numeric, date, .tuple arrays, .tuple others]

/-- Random numbers: after a seed, the same again, after another seed, and the next one. -/
def tourRandom : Act (List Value) := do
  let _ ← call "Randomize" []
  let _ ← call "Randomize" [.int 1]
  let xs ← callAll "Rnd" [[], [.int 0], [.int (-3)], [.int 1]]
  let total := xs.foldl (fun t v =>
    match v with
    | .float x => t + x
    | _ => t) 0.0
  return [.float total]

/-- Lists and texts. -/
def tourTexts : Act (List Value) := do
  let s : Value := .text "The quick Brown fox"
  return [← call "LBound" [.list [.int 1]], ← call "LBound" [.int 1],
    ← call "Array" [.int 1, .int 2, .int 3],
    ← call "Len" [s], ← call "Left" [s, .int 4], ← call "Right" [s, .int 4],
      ← call "Mid" [s, .int 2],
    ← joinedText [← call "UCase" [s], ← call "LCase" [s]],
    ← joinedText [← call "Trim" [.text " x "], ← call "LTrim" [.text " x"],
      ← call "RTrim" [.text "x "]],
    ← call "StrReverse" [s], ← call "Asc" [s], ← call "Chr" [.int 66], ← call "Space" [.int 3],
    ← joinedText [← call "String" [.int 4, .text "Zed"], ← call "String" [.int 2, .text ""]],
    ← call "Join" [.text "scalar"], ← call "Join" [← call "Split" [.text "a  b c"]],
    ← call "Join" [← call "Split" [.text "a,b,c", .text ",", .int 2], .text "|"],
    ← call "InStr" [s, .text "quick"], ← call "InStr" [.int 1, s, .text "zzz"],
    ← call "Replace" [.text "aaaa", .text "a", .text "b", .int 1, .int 2],
    ← call "Replace" [.text "xyz", .text "q", .text "r", .int 1, .int 1],
    ← call "Filter" [.text "scalar", .text "s"]]

/-- Dates, also those that depend on the present. -/
def tourDates : Act (List Value) := do
  let read ← callAll "CDate" [[.text "2023-01-15 10:30:45"], [.text "2023/06/01"],
    [.text "12:34:56"], [.text "now"], [.text "today"], [.text "tomorrow"], [.text "yesterday"],
    [.text "5:06"], [.text "31-Jan-2020"], [.null], [.text ""], [.text "no date"]]
  let moment ← call "CDate" [.text "2020-01-15 10:00:00"]
  let day ← call "CDate" [.text "2023-04-15"]
  let parts (v : Value) (names : List String) : Act Value := do
    return sum (← names.mapM fun name => call name [v])
  let ofDay := ["Year", "Month", "Day"]
  let ofClock := ["Hour", "Minute", "Second"]
  return read ++ [← call "DateAdd" [.text "?", .int 1, moment], ← parts moment ofDay,
    ← parts moment ofClock,
    ← parts day ofDay, ← parts day ofClock, ← call "Timer" [],
    .tuple [← call "Now" [], ← call "Date" [], ← call "Time" []],
    ← call "DateAdd" [.text "yyyy", .int 1, .text "2024-02-29"],
    ← call "DateDiff" [.text "d", .text "2024-01-01", .text "2025-01-01"]]

/-! ### Objects -/

/-- Streams in memory: reading, the end, a closed stream, and writing. -/
def tourStreams : Act (List Value) := do
  let all := "one\ntwo\nthree\n"
  let s ← Stream.create (.memory all.toList 0) (.text "utf-8")
  let lines ← [1, 2, 3].mapM fun _ => method s "ReadLine" []
  let place := Value.tuple
    [← readAttribute s "Line", ← readAttribute s "Column", ← readAttribute s "Encoding"]
  let whole ← method s "ReadAll" []
  let rest ← method s "Read" []
  let atEnd ← readAttribute s "AtEndOfStream"
  let _ ← method s "Close" []
  let closed ← [("Read", []), ("ReadLine", []), ("ReadAll", []), ("Write", [Value.text "x"]),
    ("WriteLine", [.text "x"]), ("WriteANSI", [.text "x"])].mapM fun (name, args) =>
      familyOf (method s name args)
  let t ← Stream.create (.memory [] 0) (.text "gbk")
  let _ ← method t "WriteLine" [.text "hello"]
  let _ ← method t "Write" [.text "tail"]
  let _ ← method t "WriteANSI" [.text "!"]
  let u ← Stream.create (.memory "abcdef".toList 0) (.text "gbk")
  return lines ++ [place, whole, rest, atEnd] ++ closed ++
    [← method t "ReadAll" [], ← method u "Read" [.int 3]]

/-- Dictionaries: the way of comparing, entries, and their number. -/
def tourDictionary : Act (List Value) := do
  let d ← call "CreateObject" [.text "Scripting.Dictionary"]
  setAttribute d "CompareMode" (.int 1)
  let mode ← readAttribute d "CompareMode"
  let _ ← method d "Add" [.text "gone", .int 0]
  let _ ← method d "Remove" [.text "gone"]
  let entries ← [0, 1, 2, 3, 4].mapM fun (i : Nat) => do
    let key := Value.text ("key" ++ toString i)
    let _ ← method d "Add" [key, .int (2 * i)]
    return [← Member.item d key, ← method d "Exists" [key]]
  let keys ← method d "Keys" []
  let items ← method d "Items" []
  return [mode] ++ entries.flatten ++
    [.tuple [← readAttribute d "Count", ← call "Len" [.text (dots keys)],
    ← call "Len" [.text (dots items)]]]
where
  /-- A dot for each item of a list. -/
  dots : Value → String
    | .list vs => String.ofList (vs.map fun _ => '.')
    | _ => ""

/-- An object that answers every method, the shell and the host. -/
def tourHost : Act (List Value) := do
  let made ← familyOf (call "CreateObject" [.text "Some.Application"])
  let a ← Act.create (.automation [])
  let answers ← [("Quit", []), ("Anything", []), ("Visible", []), ("Visible", [Value.bool false]),
    ("Application", [])].mapM fun (name, args) => method a name args
  let kept ← Member.item a (.text "Visible")
  let sh ← call "CreateObject" [.text "WScript.Shell"]
  let host := HostObject.self
  let arguments ← readAttribute host "Arguments"
  let fs ← call "TypeName" [← call "GetObject" []]
  let folder ← readAttribute sh "CurrentDirectory"
  let expanded ← method sh "ExpandEnvironmentStrings" [.text "$HOME"]
  let runs :=
    [← method sh "Run" [.text "true"], ← method sh "Run" [.text "exit 0", .int 1, .bool true],
    ← method sh "Run" [.text "true", .int 0, .bool true]]
  let found ← call "TypeName" [← method host "GetObject" []]
  let left ← orWord "quit" (method host "Quit" [])
  return [made] ++ answers ++ [kept, sum [← call "UBound" [arguments], .int 1], fs, folder,
    expanded] ++ runs ++ [found, left]

/-- The year of a property of an object. -/
def yearOf (v : Value) (name : String) : Act Value := do
  call "Year" [← readAttribute v name]

/-- Files and folders: making them, looking at them, and all that fails. -/
def tourFiles (root name : String) : Act (List Value) := do
  let fs ← call "CreateObject" [.text "Scripting.FileSystemObject"]
  let path (rest : String) : Value := .text (root ++ "/" ++ name ++ rest)
  let missing := path "/missing"
  -- a path that no file can have, because a file stands in the place of its folder
  let blocked := path "/f.txt/x"
  let _ ← method fs "CreateFolder" [path "/sub"]
  let _ ← method fs "CreateFolder" [path "/more"]
  let s ← method fs "CreateTextFile" [path "/f.txt"]
  let _ ← method s "WriteLine" [.text "hi"]
  let _ ← method s "Close" []
  let taken ← orWord "exists" (method fs "CreateTextFile" [path "/f.txt", .bool false])
  let barred ← orWord "badpath" (method fs "CreateTextFile" [blocked])
  let there := [← method fs "FileExists" [missing], ← method fs "FileExists" [path "/f.txt"],
    ← method fs "FolderExists" [path ""]]
  let r ← method fs "OpenTextFile" [path "/f.txt"]
  let content ← method r "ReadAll" []
  let _ ← method r "Close" []
  let none ← method fs "OpenTextFile" [missing]
  let _ ← method fs "CopyFile" [path "/f.txt", path "/g.txt"]
  let file ← method fs "GetFile" [path "/f.txt"]
  let noFile ← method fs "GetFile" [missing]
  let folder ← method fs "GetFolder" [path ""]
  let noFolder ← method fs "GetFolder" [missing]
  let size (v : Value) (name : String) : Act Int := do
    match ← readAttribute v name with
    | .list vs => return vs.length
    | _ => return 0
  let files :=
    [.tuple [← readAttribute file "Name", ← readAttribute file "Path", ← readAttribute file "Size"],
    .tuple [← yearOf file "DateCreated", ← yearOf file "DateLastModified"],
    .tuple [← readAttribute noFile "Size", ← method noFile "Delete" []],
    .tuple [← yearOf noFile "DateCreated", ← yearOf noFile "DateLastModified"]]
  let folders :=
    [.tuple [← readAttribute folder "Name", ← readAttribute folder "Path",
      ← readAttribute folder "Size", ← yearOf folder "DateCreated"],
    .int ((← size folder "Files") + (← size folder "SubFolders")),
    .tuple [← readAttribute noFolder "Size", .int (← size noFolder "Files"),
      .int (← size noFolder "SubFolders")]]
  let failures := [← method noFolder "Delete" [], ← method fs "CopyFile" [missing, blocked],
    ← method fs "MoveFile" [missing, blocked], ← method fs "DeleteFile" [missing],
    ← method fs "CopyFolder" [missing, blocked], ← method fs "DeleteFolder" [missing]]
  let unopened :=
    [← method fs "OpenTextFile" [blocked, .int 2, .bool true], ← method fs "OpenTextFile" [path ""]]
  let special ← [0, 1, 2, 9].mapM fun (n : Int) => method fs "GetSpecialFolder" [.int n]
  let names :=
    [← method fs "GetAbsolutePathName" [.text root], ← method fs "GetFileName" [path "/f.txt"],
    ← method fs "GetParentFolderName" [path "/f.txt"]]
  let changes :=
    [← method fs "SaveToFile" [path "/saved.txt", .text "s"],
    ← method fs "MoveFile" [path "/saved.txt", path "/moved.txt"],
    ← method fs "SaveToFile" [path "/f.txt", .text "s", .text "ANSI", .bool false]]
  return [taken, barred] ++ there ++ [content, none] ++ files ++ folders ++ failures ++ unopened ++
    [← yearOf noFolder "DateCreated"] ++ special ++ names ++ changes

/-- Scripts: saving, reading and running them, and objects for files of other programs. -/
def tourScripts (d : Dialect) (root name : String) : Act (List Value) := do
  let path (rest : String) : Value := .text (root ++ "/" ++ name ++ rest)
  let code : Value := .text "' demo\nDim x\nx = 1\n"
  let blocked := path "/f.txt/x.vbs"
  let _ ← AnsiFile.save (path "/demo.vbs") code
  let other (file word : String) : Act Value := do
    let _ ← AnsiFile.save (path file) (.text "")
    orWord word (call "GetObject" [path file])
  return [← AnsiFile.read (path "/demo.vbs"), ← AnsiFile.read (path "/missing.vbs"),
    ← AnsiFile.detect (path "/demo.vbs"), ← call "CreateVBSFile" [path "/made", code],
    ← call "CreateVBSFile" [blocked, code, .text "UTF-8"],
    ← call "CreateVBSFile" [path "/made.vbs", code, .text "UTF-8"],
    ← call d.runScript [path "/demo.vbs", path "/again"], ← call "EvalVBS" [.text "1 + 2"],
    ← other "/t.xls" "com.xls", ← other "/t.doc" "com.doc"]

/-- Dialogs with replies of all kinds. -/
def tourDialogs (d : Dialect) : Act (List Value) := do
  let ask (buttons : Int) (reply : Value) : Act Value :=
    answering [reply] (call d.messageBox [.text "question", .int buttons])
  let enter (reply : Value) : Act Value := answering [reply] (call d.inputBox [.text "name"])
  return [← ask 3 (.bool true), ← ask 3 (.bool false), ← ask 4 (.bool true),
    ← enter (.text "typed"), ← enter .null, ← ask 2 (.int 2)]

/-- The tour in a folder `name` below the folder `root`: all results in order. Only the pause it
makes shows. -/
def tour (root name : String) : Act Value := do
  let d := (← get).dialect
  let before ← quietly do
    return (← tourNumbers) ++ (← tourTests) ++ (← tourRandom) ++ (← tourTexts) ++ (← tourDates) ++
      (← tourStreams) ++
      (← tourDictionary) ++ (← tourHost)
  let _ ← method HostObject.self "Sleep" [.int 0]
  let after ← quietly do
    return (← tourFiles root name) ++ (← tourScripts d root name) ++ (← tourDialogs d)
  return .list (before ++ after)

end ScriptHost.Workload
