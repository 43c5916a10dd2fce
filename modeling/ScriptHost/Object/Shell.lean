import ScriptHost.Builtin.Dialog
import ScriptHost.Builtin.Routine
import ScriptHost.Object.Command
import ScriptHost.Object.Registry

/-!
# The shell object

Runs commands, shows message boxes, expands environment variables, works on the registry and moves
between folders. A shell remembers the folder as it was when the shell was created or last moved.
-/

namespace ScriptHost.Shell

open ScriptHost.Text
open Routine (on1 on3 on4)

/-- Whether a character can be part of a variable's name. -/
def isNameChar (c : Char) : Bool :=
  c.isAlphanum || c == '_'

/-- The name of a variable right after a dollar sign, and what follows it: a run of name characters,
or anything between braces. -/
def variableName (cs : List Char) : Option (List Char × List Char) :=
  match cs with
  | '\x7b' :: rest =>
    let name := rest.takeWhile (· != '\x7d')
    if name.length < rest.length then some (name, rest.drop (name.length + 1)) else none
  | cs =>
    let name := cs.takeWhile isNameChar
    if name.isEmpty then none else some (name, cs.drop name.length)

/-- Replaces variables by their values; unknown ones stay. The fuel bounds the length. -/
def expandFrom (environment : List (String × String)) : Nat → List Char → List Char
  | 0, cs => cs
  | _ + 1, [] => []
  | n + 1, c :: cs =>
    if c == '$' then
      match variableName cs with
      | some (name, rest) =>
        match environment.lookup (String.ofList name) with
        | some v => v.toList ++ expandFrom environment n rest
        | none => c :: cs.take (cs.length - rest.length) ++ expandFrom environment n rest
      | none => c :: expandFrom environment n cs
    else c :: expandFrom environment n cs

/-- Replaces the environment variables in a text by their values. -/
def expand (environment : List (String × String)) (s : String) : String :=
  String.ofList (expandFrom environment s.length s.toList)

/-- The text of a command. A list is the command and words for it. -/
def commandText : Value → Except Fault String
  | .text s => .ok s
  | .list (.text s :: _) | .tuple (.text s :: _) => .ok s
  | v => .error (.notIterable v.typeName)

/-- Runs a command. Only if it is waited for, its status is the answer. -/
def runCommand (command wait : Value) : Act Value :=
  Act.recover (do
    let text ← Act.ofExcept (commandText command)
    if wait.truthy then return .int (← Command.execute text)
    else
      Storage.checkPath text
      let _ ← Act.recover (Command.execute text) fun _ => pure 0
      return .int 0) fun e => do
    Act.print ("运行命令失败: " ++ e.message)
    return .int 1

/-- Goes to another folder; if that is not possible, says why. -/
def setFolder (id : Nat) (path : Value) : Act Unit :=
  Act.recover (do
    Storage.changeFolder path
    Act.setBody id (.shell (← Storage.currentFolder))) fun e =>
    Act.print ("切换目录失败: " ++ e.message)

/-- The methods of shells. -/
def method? : String → Option Routine
  | "Run" => some (.method .shell "Run"
      [need "command", given "window_style" (.int 1), given "wait_on_return" (.bool false)]
      (on3 fun command _ wait => runCommand command wait))
  | "Popup" => some (.method .shell "Popup"
      [need "text", given "seconds_to_wait" (.int 0), given "title" (.text ""),
        given "type" (.int 0)]
      (on4 fun text _ title type => Dialog.messageBox text type title))
  | "ExpandEnvironmentStrings" =>
    some (.method .shell "ExpandEnvironmentStrings" [need "str_val"] (on1 fun v => do
      let s ← Act.ofExcept (Storage.pathText v)
      return .text (expand (← get).environment s)))
  | "RegRead" => some (.method .shell "RegRead" [need "reg_path"] (on1 RegistryAccess.read))
  | "RegWrite" => some (.method .shell "RegWrite"
      [need "reg_path", need "value", given "type" (.text "REG_SZ")] (on3 RegistryAccess.write))
  | "RegDelete" => some (.method .shell "RegDelete" [need "reg_path"] (on1 RegistryAccess.delete))
  | _ => none

/-- The properties of shells. -/
def property? (id : Nat) (folder : String) : String → Option Property
  | "CurrentDirectory" => some { read := pure (.text folder), write := some (setFolder id) }
  | _ => none

/-- A new shell. -/
def create : Act Value := do
  Act.create (.shell (← Storage.currentFolder))

end ScriptHost.Shell
