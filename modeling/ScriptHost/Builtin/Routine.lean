import ScriptHost.Builtin.Signature
import ScriptHost.World.Basic

/-!
# Routines

A routine is a function that can be called by name: its parameters and what it does with their
values.
-/

namespace ScriptHost

/-- A function that can be called by name. -/
structure Routine where
  signature : Signature
  /-- Acts on the values of the parameters, in order. -/
  run : List Value → Act Value

namespace Routine

/-- Calls a routine. -/
def call (r : Routine) (args : List Value) (named : List (String × Value)) : Act Value := do
  r.run (← Act.ofExcept (r.signature.bind args named))

/-- Acts on no values. -/
def on0 (f : Act Value) : List Value → Act Value := fun _ => f

/-- Acts on one value. -/
def on1 (f : Value → Act Value) : List Value → Act Value
  | [a] => f a
  | _ => pure .null

/-- Acts on two values. -/
def on2 (f : Value → Value → Act Value) : List Value → Act Value
  | [a, b] => f a b
  | _ => pure .null

/-- Acts on three values. -/
def on3 (f : Value → Value → Value → Act Value) : List Value → Act Value
  | [a, b, c] => f a b c
  | _ => pure .null

/-- Acts on four values. -/
def on4 (f : Value → Value → Value → Value → Act Value) : List Value → Act Value
  | [a, b, c, d] => f a b c d
  | _ => pure .null

/-- Computes on one value. -/
def pure1 (f : Value → Except Fault Value) : List Value → Act Value :=
  on1 fun a => Act.ofExcept (f a)

/-- Computes on two values. -/
def pure2 (f : Value → Value → Except Fault Value) : List Value → Act Value :=
  on2 fun a b => Act.ofExcept (f a b)

/-- Computes on three values. -/
def pure3 (f : Value → Value → Value → Except Fault Value) : List Value → Act Value :=
  on3 fun a b c => Act.ofExcept (f a b c)

/-- Computes on four values. -/
def pure4 (f : Value → Value → Value → Value → Except Fault Value) : List Value → Act Value :=
  on4 fun a b c d => Act.ofExcept (f a b c d)

/-- A function. -/
def function (name : String) (params : List Param) (run : List Value → Act Value) : Routine :=
  ⟨⟨name, params, false, false⟩, run⟩

/-- A method of a class; its messages name both. -/
def method (kind : ObjectKind) (name : String) (params : List Param)
    (run : List Value → Act Value) : Routine :=
  ⟨⟨kind.name ++ "." ++ name, params, true, false⟩, run⟩

/-- The creation of an object. -/
def constructor (kind : ObjectKind) (params : List Param) (run : List Value → Act Value) :
    Routine :=
  method kind "__init__" params run

/-- A function that takes any number of arguments. -/
def variadic (name : String) (run : List Value → Act Value) : Routine :=
  ⟨⟨name, [], false, true⟩, run⟩

end Routine

/-- A property of an object. -/
structure Property where
  read : Act Value
  write : Option (Value → Act Unit) := none

end ScriptHost
