import ScriptHost.Builtin.Routine
import ScriptHost.Formula.Evaluate
import ScriptHost.Script.Argument
import ScriptHost.Script.Constant
import ScriptHost.Script.Scene
import ScriptHost.Script.Shape

/-!
# Expressions

An expression is a number of operands joined by ampersands, or one operand. An operand is a quoted
text, a numeral, a Boolean, a constant, a variable, a call, or a formula, tried in this order.
Variables are looked up in capitals first and then as they are written.

Formulas are handed to an evaluator, which is a parameter of the library: it may look at everything
that surrounds the text and may change the session. The evaluator that scripts are run with,
`formulaEvaluator`, looks at nothing but the names in the session and leaves the session alone.
-/

namespace ScriptHost.Script

open ScriptHost.Text

/-- What surrounds the text of a formula besides the scene: the dialect of the script, and the lines
of the script that is being run. -/
structure Frame where
  dialect : Dialect
  lines : List (List Char)

/-- Evaluates the texts of formulas. A text without a value fails. -/
abbrev Evaluator := Frame → List Char → Step Value

/-- What a script is read and run with: the dialect that tells its statements apart, the functions
that its expressions can call, by their names in capitals, the evaluator of formulas, and the lines
of the script itself. -/
structure Library where
  dialect : Dialect
  routine? : String → Option Routine
  evaluator : Evaluator
  lines : List (List Char) := []

namespace Library

/-- What the library tells an evaluator. -/
def frame (lib : Library) : Frame :=
  ⟨lib.dialect, lib.lines⟩

/-- The library while some lines are being run. -/
def within (lib : Library) (lines : List (List Char)) : Library :=
  { lib with lines := lines }

end Library

/-! ### Variables -/

/-- The value of a variable: under its name in capitals, else as it is written. -/
def variableValue? (s : Session) (name : List Char) : Option Value :=
  (pairGet? (String.ofList (upper name)) s.variables).or (pairGet? (String.ofList name) s.variables)

/-- Puts a value into a variable, under its name in capitals and as it is written. -/
def assign (s : Session) (name : List Char) (v : Value) : Session :=
  { s with «variables» :=
      pairSet (String.ofList name) v (pairSet (String.ofList (upper name)) v s.variables) }

/-- A variable without a value reads as the empty text. -/
def orEmpty : Value → Value
  | .null => .text ""
  | v => v

/-- Whether a value could be called. -/
def isCallable : Value → Bool
  | .function kind _ => kind != "module" && kind != "dict"
  | _ => false

/-- What a name in a formula stands for: a constant, or a variable that cannot be called. -/
def formulaScope (s : Session) : Formula.Scope := fun name =>
  match if s.constants then spelledConstant? name else none with
  | some n => some (.int n)
  | none => (pairGet? name s.variables).filter fun v => !isCallable v

/-- The evaluator of formulas over the names of a session. -/
def formulaEvaluator : Evaluator := fun _ cs =>
  Step.consult fun s => Formula.evaluate (formulaScope s) cs

/-! ### Operands without calls -/

/-- A text between two equal quote characters; what is between them is not looked at. -/
def quotedText? (cs : List Char) : Option (List Char) :=
  match cs.head?, cs.getLast? with
  | some a, some b => if isQuote a && a == b then some (cs.drop 1).dropLast else none
  | _, _ => none

/-- Whether a text is taken for a numeral: digits, with one point and one minus sign anywhere. -/
def looksNumeric (cs : List Char) : Bool :=
  let ds := eraseFirst '-' (eraseFirst '.' cs)
  !ds.isEmpty && ds.all isDigit

/-- The number that such a text stands for, if it is a numeral after all. -/
def numeral (cs : List Char) : Except Fault Value :=
  let v : Value := .text (String.ofList cs)
  if cs.contains '.' then v.toFloat.map .float else v.toWhole.map .int

/-- The Boolean that a word stands for. -/
def boolean? (name : String) : Option Bool :=
  if name == "TRUE" then some true else if name == "FALSE" then some false else none

/-- The value of an operand that is a word: a Boolean, a constant or a variable. -/
def wordValue? (s : Session) (cs : List Char) : Option Value :=
  let name := String.ofList (upper cs)
  ((boolean? name).map Value.bool).or
    (((if s.constants then capitalConstant? name else none).map fun n => Value.int n).or
      ((variableValue? s cs).map orEmpty))

/-- Whether a text is taken for a call. -/
def looksLikeCall (cs : List Char) : Bool :=
  cs.contains '(' && endsWith [')'] cs

/-! ### Calls -/

/-- Calls a function of the library. A failing call and an unknown name are reported and give null.
-/
def callLibrary (lib : Library) (name : String) (args : List Value) : Act Value :=
  match lib.routine? name with
  | some r => Act.recover (r.call args []) fun e => do
    Act.print ("函数调用错误 '" ++ name ++ "': " ++ e.message)
    return .null
  | none => do
    Act.print ("警告: 未定义的函数 '" ++ name ++ "'")
    return .null

/-- The arguments between the parentheses of a call. -/
def argumentTexts (cs : List Char) : List (List Char) :=
  if (strip cs).isEmpty then [] else splitArguments cs

theorem infix_of_mem_argumentTexts {p cs : List Char} (h : p ∈ argumentTexts cs) : p <:+: cs := by
  unfold argumentTexts at h
  split at h
  · simp at h
  · exact infix_of_mem_splitArguments h

/-- The text of an operand in a concatenation; null is empty. -/
def operandText : Value → Act String
  | .null => pure ""
  | v => Act.display v

/-- The value of a formula; the text itself if it has none. -/
def formulaValue (lib : Library) (cs : List Char) : Step Value :=
  Step.recover (lib.evaluator lib.frame cs) fun _ => return .text (String.ofList cs)

mutual

/-- The value of an expression. -/
def evaluate (lib : Library) (cs : List Char) : Step Value := do
  if (strip cs).isEmpty then return .text ""
  else if (strip cs).contains '&' then
    let texts ← (operands (strip cs)).attach.mapM fun ⟨p, _hp⟩ => do
      Step.act (operandText (← evaluateOperand lib p))
    return .text (String.join texts)
  else evaluateOperand lib (strip cs)
termination_by (cs.length, 2)
decreasing_by
  · have hmem := (infix_of_mem_operands _hp).length_le
    have hstrip := length_strip_le cs
    rw [Prod.lex_def]
    simp only
    omega
  · have hstrip := length_strip_le cs
    rw [Prod.lex_def]
    simp only
    omega

/-- The value of an operand. -/
def evaluateOperand (lib : Library) (cs : List Char) : Step Value := do
  if (strip cs).isEmpty then return .text ""
  else
    match quotedText? (strip cs) with
    | some t => return .text (String.ofList t)
    | none =>
      if looksNumeric (strip cs) then Step.act (Act.ofExcept (numeral (strip cs)))
      else
        match wordValue? (← get).session (strip cs) with
        | some v => return v
        | none =>
          if looksLikeCall (strip cs) then return orEmpty (← callFunction lib (strip cs))
          else formulaValue lib (strip cs)
termination_by (cs.length, 1)
decreasing_by
  have hstrip := length_strip_le cs
  rw [Prod.lex_def]
  simp only
  omega

/-- The value of a call; null if the text is none. -/
def callFunction (lib : Library) (cs : List Char) : Step Value :=
  match _h : Shape.call cs with
  | none => return .null
  | some (name, args) => do
    let values ← (argumentTexts args).attach.mapM fun ⟨p, _hp⟩ => evaluate lib p
    Step.act (callLibrary lib (String.ofList (upper name)) values)
termination_by (cs.length, 0)
decreasing_by
  have hmem := (infix_of_mem_argumentTexts _hp).length_le
  have hcall := (Shape.parts_of_call _h).2.2
  rw [Prod.lex_def]
  simp only
  omega

end

/-- The values of the arguments between parentheses. -/
def evaluateArguments (lib : Library) (cs : List Char) : Step (List Value) :=
  (argumentTexts cs).mapM (evaluate lib)

end ScriptHost.Script
