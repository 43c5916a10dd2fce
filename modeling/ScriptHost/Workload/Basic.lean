import ScriptHost.Script.Library

/-!
# Workloads

A workload is a fixed amount of work with the functions of scripts, done in both dialects one after
the other. Its result is derived from what the calls returned; what they print or ask does not show.
-/

namespace ScriptHost.Workload

/-- The dialects, in the order in which workloads visit them. -/
def dialects : List Dialect := [.capital, .small]

/-- Calls a function of scripts by its name. -/
def call (name : String) (args : List Value) : Act Value := do
  match (Script.callable (← get).dialect).lookup name with
  | some r => r.call args []
  | none => throw (.notFound name)

/-- Puts what is seen of the outside back after an act. -/
def putBack {α : Type} (before : World) (a : α) : Act α := do
  modify fun w => { w with
    dialect := before.dialect, replies := before.replies, output := before.output,
    effects := before.effects }
  return a

/-- Carries out an act of which nothing is printed or shown; its failures pass. -/
def quietly {α : Type} (a : Act α) : Act α := do
  let before ← get
  Act.recoverAll (do putBack before (← a)) fun e => do
    putBack before ()
    throw e

/-- Carries out an act in a dialect. -/
def inDialect {α : Type} (d : Dialect) (a : Act α) : Act α :=
  quietly do
    modify fun w => { w with dialect := d }
    a

/-- Carries out an act in which a person gives these replies to dialogs. -/
def answering {α : Type} (replies : List Value) (a : Act α) : Act α :=
  quietly do
    modify fun w => { w with replies := replies }
    a

/-- The text that an act prints, besides its result. -/
def printed {α : Type} (a : Act α) : Act (α × String) :=
  quietly do
    modify fun w => { w with output := "" }
    let x ← a
    return (x, (← get).output)

/-- Does a piece of work in each dialect and puts the results behind one another. -/
def inEach (work : Dialect → Act (List Value)) : Act (List Value) := do
  let parts ← dialects.mapM fun d => inDialect d (work d)
  return parts.flatten

/-- A whole number that counts something. -/
def countOf (v : Value) : Except Fault Int :=
  match v.whole? with
  | some n => .ok n
  | none => .error (.notIndex v.typeName)

/-- The numbers below a count; a negative count has none. -/
def below (n : Int) : List Nat :=
  List.range n.toNat

/-- The result at a place. -/
def at_ (vs : List Value) (i : Nat) : Except Fault Value :=
  match vs[i]? with
  | some v => .ok v
  | none => .error (.indexRange "list")

/-- The last result. -/
def last (vs : List Value) : Except Fault Value :=
  match vs.getLast? with
  | some v => .ok v
  | none => .error (.indexRange "list")

/-- The item of a cycle for a number. -/
def cycle {α : Type} (items : List α) (otherwise : α) (i : Nat) : α :=
  items.getD (i % items.length) otherwise

end ScriptHost.Workload
