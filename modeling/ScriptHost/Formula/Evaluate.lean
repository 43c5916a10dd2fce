import ScriptHost.Formula.Function
import ScriptHost.Formula.Tree
import ScriptHost.Object.Member

/-!
# The value of a formula

Operands are evaluated from left to right. `and`, `or`, a choice and a chain of comparisons leave
out what they do not need. A text that is no formula fails.
-/

namespace ScriptHost.Formula

/-- What names stand for. -/
abbrev Scope := String → Option Value

/-- An operation on one value. -/
def UnaryOp.apply : UnaryOp → Value → Except Fault Value
  | neg, v => v.neg
  | pos, v => v.pos
  | invert, v => v.invert
  | not, v => .ok (.bool !v.truthy)

/-- An operation on two values. -/
def BinaryOp.apply : BinaryOp → Value → Value → Except Fault Value
  | add, a, b => a.add b
  | sub, a, b => a.sub b
  | mul, a, b => a.mul b
  | div, a, b => Value.divOp.apply a b
  | floorDiv, a, b => Value.floorDivOp.apply a b
  | mod, a, b => remainderOf a b
  | pow, a, b => Value.powOp.apply a b
  | shiftLeft, a, b => a.shiftLeft b
  | shiftRight, a, b => a.shiftRight b
  | bitAnd, a, b => a.bitAnd b
  | bitOr, a, b => a.bitOr b
  | bitXor, a, b => a.bitXor b

/-- Whether a comparison holds. -/
def Comparison.test : Comparison → Value → Value → Except Fault Bool
  | order op, a, b => a.compareWith op b
  | equal, a, b => .ok (a.same b)
  | unequal, a, b => .ok !(a.same b)
  | within, a, b => Formula.within a b
  | notWithin, a, b => (Formula.within a b).map (!·)
  | identical, a, b => .ok (Formula.identical a b)
  | notIdentical, a, b => .ok !(Formula.identical a b)

/-- What a name stands for: functions come before the names of the scope. -/
def lookUp (scope : Scope) (s : String) : Act Value :=
  match functionKinds.lookup s with
  | some kind => pure (.function kind (.known s))
  | none =>
    match scope s with
    | some v => pure v
    | none => throw (.notFound s)

/-- The item of a value under an index. -/
def itemOf (v index : Value) : Act Value :=
  match v with
  | .object _ _ => Member.item v index
  | v => Act.ofExcept (indexSequence v index)

/-- A member of a value. -/
def memberOf (v : Value) (name : String) : Act Value :=
  match v with
  | .function "module" _ => Act.ofExcept (mathMember name)
  | v => Member.readAttribute v name

/-- Arguments without a name, and those with one. -/
def splitArguments : List Value → List (Option String) → List Value × List (String × Value)
  | v :: vs, name :: names =>
    let (positional, named) := splitArguments vs names
    match name with
    | none => (v :: positional, named)
    | some s => (positional, (s, v) :: named)
  | _, _ => ([], [])

/-- Calls the value that a name stands for. -/
def callNamed (f : Value) (s : String) (args : List Value) (named : List (String × Value)) :
    Act Value :=
  match f with
  | .function _ _ => Act.ofExcept (apply s args named)
  | v => throw (.notCallable v.typeName)

/-- Calls a member of a value. -/
def callMember (v : Value) (name : String) (args : List Value) (named : List (String × Value)) :
    Act Value :=
  match v with
  | .function "module" _ => Act.ofExcept (applyMath name args)
  | v => Member.callMethod v name args named

mutual

/-- The value of a formula. -/
def Tree.eval (scope : Scope) : Tree → Act Value
  | .value v => pure v
  | .name s => lookUp scope s
  | .list items => return .list (← Tree.evalAll scope items)
  | .tuple items => return .tuple (← Tree.evalAll scope items)
  | .unary op t => do Act.ofExcept (op.apply (← t.eval scope))
  | .binary op l r => do
    let a ← l.eval scope
    let b ← r.eval scope
    Act.ofExcept (op.apply a b)
  | .both l r => do
    let a ← l.eval scope
    if a.truthy then r.eval scope else return a
  | .either l r => do
    let a ← l.eval scope
    if a.truthy then return a else r.eval scope
  | .compare first ops others => do
    let a ← first.eval scope
    Tree.evalChain scope a ops others
  | .choose c yes no => do
    let v ← c.eval scope
    if v.truthy then yes.eval scope else no.eval scope
  | .item t i => do
    let v ← t.eval scope
    let k ← i.eval scope
    itemOf v k
  | .slice t lo hi step => do
    let v ← t.eval scope
    let lo ← lo.eval scope
    let hi ← hi.eval scope
    let step ← step.eval scope
    Act.ofExcept (sliceSequence v lo hi step)
  | .member t m => do memberOf (← t.eval scope) m
  | .call (.name s) args names => do
    let f ← lookUp scope s
    let vs ← Tree.evalAll scope args
    let (positional, named) := splitArguments vs names
    callNamed f s positional named
  | .call (.member t m) args names => do
    let v ← t.eval scope
    let vs ← Tree.evalAll scope args
    let (positional, named) := splitArguments vs names
    callMember v m positional named
  | .call f args _ => do
    let v ← f.eval scope
    let _ ← Tree.evalAll scope args
    throw (.notCallable v.typeName)

/-- The values of formulas, in order. -/
def Tree.evalAll (scope : Scope) : List Tree → Act (List Value)
  | [] => pure []
  | t :: ts => do
    let v ← t.eval scope
    let vs ← Tree.evalAll scope ts
    return v :: vs

/-- Whether each value of a chain compares with the next one; the first that does not ends the
chain. -/
def Tree.evalChain (scope : Scope) (a : Value) : List Comparison → List Tree → Act Value
  | op :: ops, t :: ts => do
    let b ← t.eval scope
    let holds ← Act.ofExcept (op.test a b)
    if holds && !ops.isEmpty then Tree.evalChain scope b ops ts else return .bool holds
  | _, _ => pure (.bool true)

end

/-- The value of a text as a formula. -/
def evaluate (scope : Scope) (cs : List Char) : Act Value :=
  match Tree.ofText? cs with
  | none => throw .noFormula
  | some t => t.eval scope

end ScriptHost.Formula
