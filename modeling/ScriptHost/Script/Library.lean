import ScriptHost.Script.Runner
import ScriptHost.World.AnsiFile

/-!
# The library of a script

All functions that a script can call. Some of them run scripts in their turn, so a library is built
on the library that those scripts have; the nesting is bounded.
-/

namespace ScriptHost.Script

open ScriptHost.Calendar ScriptHost.Number ScriptHost.Text
open Routine (on0 on1 on2 on3)

/-! ### Script files -/

/-- The extension of script files. -/
def extension : String := ".vbs"

/-- The name of a script file: the extension is added if it is missing. -/
def fileName : Value → Except Fault String
  | .text s => .ok (if endsWith extension.toList (lower s.toList) then s else s ++ extension)
  | v => .error (.noAttribute v.typeName "lower")

/-- Date and time to the second, the year without leading zeros. -/
def stamp (m : Moment) : List Char :=
  natDigits m.date.year ++ '-' :: padded 2 m.date.month ++ '-' :: padded 2 m.date.day ++ ' ' ::
    padded 2 m.time.hour ++ ':' :: padded 2 m.time.minute ++ ':' :: padded 2 m.time.second

/-- The lines that stand at the head of a saved script. -/
def header (m : Moment) : String :=
  "' VBScript 文件 - 生成于 " ++ String.ofList (stamp m) ++ "\n' 编码: ANSI (GBK)\n" ++
    "' ===========================================\n\n"

/-- Saves a script with a header, and answers whether that succeeded. -/
def save (filename code : Value) : Act Value := do
  let name ← Act.ofExcept (fileName filename)
  match code with
  | .text s => AnsiFile.save (.text name) (.text (header (← get).clock ++ s))
  | v => throw (.badConcat "str" v.typeName)

/-- The character sets that script files can be created in. -/
def charsetNamed (name : String) : Charset :=
  match name with
  | "UTF-8" => .utf8
  | "UTF-16" => .utf16
  | _ => .gbk

/-- Writes a text to a file in a character set. -/
def writeFile (name : String) (cs : Charset) (content : Value) : Act Unit := do
  let r ← Storage.openForWriting .truncate name
  match content with
  | .text s => Storage.writeText cs r s.toList
  | v => throw (.fileText v.argumentName)

/-- Creates a script file, and answers whether that succeeded; if not, prints why. -/
def createFile (filename content encoding : Value) : Act Value := do
  let name ← Act.ofExcept (fileName filename)
  match encoding with
  | .text e =>
    let e := String.ofList (upper e.toList)
    if e == "ANSI" then AnsiFile.save (.text name) content
    else Act.recover (do
      writeFile name (charsetNamed e) content
      return .bool true) fun fault => do
      Act.print ("创建文件失败: " ++ fault.message)
      return .bool false
  | v => throw (.noAttribute v.typeName "upper")

/-! ### Scripts that run scripts -/

/-- The code in a value, which has to be a text. -/
def codeOf : Value → Except Fault (List Char)
  | .text s => .ok s.toList
  | v => .error (.noAttribute v.typeName "split")

/-- Runs code in a new session. -/
def runFresh (lib : Library) (code : Value) : Act Unit := do
  let cs ← Act.ofExcept (codeOf code)
  discard (inSession freshSession (run lib cs))

/-- Runs a script, which is a file if there is one of that name and else the text itself, and saves
it if asked to. -/
def runScript (lib : Library) (source saveAs : Value) : Act Value := do
  let code ← if ← Storage.pathExists source then
      pure (Value.text (String.ofList (← AnsiFile.readText source)))
    else pure source
  runFresh lib code
  if saveAs.truthy then save saveAs code else return .bool true

/-- The value of an expression in a new session. -/
def evaluateText (lib : Library) (expression : Value) : Act Value :=
  match expression with
  | .text s => do return (← inSession freshSession (evaluate lib s.toList)).1
  | v => throw (.noAttribute v.typeName "strip")

/-- The functions that have to do with scripts. -/
def scriptEntries (lib : Library) (d : Dialect) : List Catalog.Entry :=
  [Catalog.function d.runScript [need "code_or_file", given "save_as" .null] (on2 (runScript lib)),
    Catalog.function "EvalVBS" [need "expression"] (on1 (evaluateText lib)),
    Catalog.function "CreateVBSFile" [need "filename", need "content",
      given "encoding" (.text "ANSI")] (on3 createFile),
    Catalog.class_ .interpreter [] (on0 (Act.create (.interpreter freshSession)))]

/-! ### Libraries -/

/-- Entries under their names in capitals. -/
def inCapitals (entries : List Catalog.Entry) : List Catalog.Entry :=
  entries.map fun (name, r) => (capitalName name, r)

/-- The functions of the catalog under their names in capitals. -/
def capitalEntries : List Catalog.Entry :=
  inCapitals Catalog.entries

/-- The dialogs are known to scripts by names that start with a capital. -/
def dialogEntries (d : Dialect) : List Catalog.Entry :=
  if d == .capital then [Catalog.messageBox d, Catalog.inputBox d] else []

/-- The library of scripts in a dialect that may be nested so many times. -/
def libraryAt (ev : Evaluator) (d : Dialect) : Nat → Library
  | 0 => ⟨d, fun _ => some ⟨⟨"", [], false, true⟩, fun _ => throw .tooDeep⟩, ev, []⟩
  | n + 1 => ⟨d, fun name =>
    (capitalEntries.lookup name).or
      ((inCapitals (dialogEntries d ++ scriptEntries (libraryAt ev d n) d)).lookup name), ev, []⟩

/-- How deep scripts may run scripts. -/
def nesting : Nat := 200

/-- The library of scripts in a dialect, with an evaluator of formulas. -/
def libraryWith (ev : Evaluator) (d : Dialect) : Library :=
  libraryAt ev d nesting

/-- The library of scripts in a dialect. -/
def library (d : Dialect) : Library :=
  libraryWith formulaEvaluator d

/-- Every function and class that can be called by its own name. -/
def callable (d : Dialect) : List Catalog.Entry :=
  [Catalog.messageBox d, Catalog.inputBox d] ++ scriptEntries (library d) d ++ Catalog.entries

end ScriptHost.Script
