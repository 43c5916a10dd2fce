import ScriptHost.Value.Basic

/-!
# Parameters and arguments

A function has a name for messages and a list of parameters, the last of which may have default
values. Binding puts arguments in order, or tells which ones are missing, unknown or too many.
-/

namespace ScriptHost

/-- A parameter: its name, and its value when no argument is given. -/
structure Param where
  name : String
  default : Option Value := none

/-- A function's name in messages and its parameters. A method also counts its object as an
argument; a function with a rest takes any number of arguments. -/
structure Signature where
  name : String
  params : List Param
  method : Bool := false
  rest : Bool := false

/-- A parameter that needs an argument. -/
def need (name : String) : Param := ⟨name, none⟩

/-- A parameter with a default value. -/
def given (name : String) (v : Value) : Param := ⟨name, some v⟩

namespace Signature

/-- How many parameters need an argument. -/
def least (s : Signature) : Nat :=
  (s.params.filter fun p => p.default.isNone).length

/-- The first named argument that is unknown or was given already. -/
def badKeyword? (s : Signature) (positional : Nat) : List (String × Value) → Option Fault
  | [] => none
  | (k, _) :: rest =>
    match s.params.findIdx? fun p => p.name == k with
    | none => some (.unexpectedKeyword s.name k)
    | some i =>
      if i < positional then some (.repeatedArgument s.name k) else s.badKeyword? positional rest

/-- The values of the parameters from position `i` on, and the names of those that have none. -/
def fill (args : List Value) (named : List (String × Value)) : List Param → List Value × List String
  | [] => ([], [])
  | p :: ps =>
    let (found, rest) :=
      match args with
      | a :: as => (some a, as)
      | [] => ((named.lookup p.name).or p.default, [])
    let (vs, missing) := fill rest named ps
    match found with
    | some v => (v :: vs, missing)
    | none => (.null :: vs, p.name :: missing)

/-- The values of all parameters in order. -/
def bind (s : Signature) (args : List Value) (named : List (String × Value)) :
    Except Fault (List Value) :=
  match s.badKeyword? args.length named with
  | some e => .error e
  | none =>
    let self := if s.method then 1 else 0
    if s.rest then .ok args
    else if s.params.length < args.length then
      .error (.tooManyArguments s.name (s.least + self) (s.params.length + self)
        (args.length + self))
    else
      let (vs, missing) := fill args named s.params
      if missing.isEmpty then .ok vs else .error (.missingArguments s.name missing)

end Signature

end ScriptHost
