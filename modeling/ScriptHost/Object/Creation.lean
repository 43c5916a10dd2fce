import ScriptHost.Object.Automation
import ScriptHost.Object.FileSystem
import ScriptHost.Object.Shell

/-!
# Creating objects by name

A few names stand for the objects of this host; every other name would be an application, which is
not there.
-/

namespace ScriptHost.Creation

open ScriptHost.Text

/-- The text of a name; only texts have a small form. -/
def nameText : Value → Act (List Char)
  | .text s => pure s.toList
  | v => throw (.noAttribute v.typeName "lower")

/-- Creates the object with a name. -/
def byName (name : Value) : Act Value := do
  match String.ofList (lower (← nameText name)) with
  | "wscript.shell" => Shell.create
  | "scripting.filesystemobject" => Act.create .fileSystem
  | "scripting.dictionary" => Act.create (.dictionary {})
  | _ => Automation.createNamed

/-- The extensions of the files that belong to applications. -/
def officeExtensions : List String := [".xls", ".xlsx", ".doc", ".docx"]

/-- The object for a class, or for a file by its extension; else a file system object. -/
def byPath (path className : Value) : Act Value := do
  if className.truthy then byName className
  else if path.truthy then
    if ← Storage.pathExists path then
      let ext := PathText.extension (← Act.ofExcept (Storage.pathText path))
      if officeExtensions.contains (String.ofList (lower ext.toList)) then Automation.createNamed
      else Act.create .fileSystem
    else Act.create .fileSystem
  else Act.create .fileSystem

end ScriptHost.Creation
