import ScriptHost.Object.Creation
import ScriptHost.Value.Arithmetic

/-!
# The host object

Tells about the script and its surroundings, prints, waits and leaves. The object with number zero
is the host that every script knows by name.
-/

namespace ScriptHost.HostObject

open ScriptHost.Text
open Routine (on1 on2)

/-- The host that every script knows. -/
def self : Value := .object .host 0

/-- Prints values with spaces between them. -/
def echo (args : List Value) : Act Value := do
  let texts ← args.mapM Act.display
  Act.print (String.ofList (join [' '] (texts.map String.toList)))
  return .null

/-- Waits for some milliseconds. -/
def sleep (milliseconds : Value) : Act Value := do
  match ← Act.ofExcept (Value.divOp.apply milliseconds (.int 1000)) with
  | .float x =>
    Act.note (.slept x)
    return .null
  | _ => return .null

/-- The text of an exit code; none for the plain end. -/
def codeText : Value → Act String
  | .null => pure ""
  | v => Act.display v

/-- Leaves the script. -/
def quit (code : Value) : Act Value := do
  throw (.exit (← codeText code))

/-- The methods of hosts. -/
def method? : String → Option Routine
  | "Echo" => some (.variadic (ObjectKind.host.name ++ ".Echo") echo)
  | "Sleep" => some (.method .host "Sleep" [need "milliseconds"] (on1 sleep))
  | "Quit" => some (.method .host "Quit" [given "error_code" (.int 0)] (on1 quit))
  | "CreateObject" => some (.method .host "CreateObject" [need "progid"] (on1 Creation.byName))
  | "GetObject" => some (.method .host "GetObject"
      [given "pathname" (.text ""), given "class_name" (.text "")] (on2 Creation.byPath))
  | _ => none

/-- The attributes of hosts. -/
def field? (h : Host) : String → Option Value
  | "Arguments" => some h.arguments
  | "FullName" => some h.fullName
  | "Version" => some h.version
  | "ScriptName" => some h.scriptName
  | "ScriptFullName" => some h.scriptFullName
  | _ => none

/-- A host with another value of an attribute. -/
def setField (h : Host) (v : Value) : String → Option Host
  | "Arguments" => some { h with arguments := v }
  | "FullName" => some { h with fullName := v }
  | "Version" => some { h with version := v }
  | "ScriptName" => some { h with scriptName := v }
  | "ScriptFullName" => some { h with scriptFullName := v }
  | _ => none

end ScriptHost.HostObject
