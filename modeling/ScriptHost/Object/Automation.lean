import ScriptHost.Builtin.Routine
import ScriptHost.Text.Letter

/-!
# Automation objects

A stand-in for an application that is not there: it answers every method with itself, keeps the
properties that are set on it, and ends without an answer.
-/

namespace ScriptHost.Automation

open ScriptHost.Text

/-- What a method answers, with the properties afterwards. -/
def answer (self : Value) (properties : List (String × Value)) (name : String) (args : List Value) :
    List (String × Value) × Value :=
  match String.ofList (lower name.toList) with
  | "quit" | "close" | "exit" => (properties, .null)
  | "visible" =>
    let properties :=
      match args with
      | v :: _ => pairSet "Visible" v properties
      | [] => properties
    (properties, (pairGet? "Visible" properties).getD (.bool false))
  | _ => (properties, self)

/-- Calls a method. -/
def callMethod (id : Nat) (properties : List (String × Value)) (name : String) (args : List Value) :
    Act Value := do
  let (properties, v) := answer (.object .automation id) properties name args
  Act.setBody id (.automation properties)
  return v

/-- Sets a property. Names that start with a low line are attributes of the object itself. -/
def setProperty (id : Nat) (o : Object) (properties : List (String × Value)) (name : String)
    (v : Value) : Act Unit :=
  modify fun w => { w with
    objects := w.objects.setIfInBounds id
      (if name.startsWith "_" then { o with extra := pairSet name v o.extra }
      else { o with body := .automation (pairSet name v properties) }) }

/-- Reads a property by index. -/
def readItem (properties : List (String × Value)) (key : Value) : Act Value := do
  match key.unhashable? with
  | some type => throw (.unhashable type)
  | none =>
    match key with
    | .text name => return (pairGet? name properties).getD .null
    | _ => return .null

/-- An automation object cannot be created by the name of its application: keeping that name fails,
because the properties are not there yet. -/
def createNamed : Act Value :=
  throw (.noItemAssignment "function")

end ScriptHost.Automation
