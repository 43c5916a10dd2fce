import ScriptHost.Workload.Basic

/-!
# Work with the interpreter

Two workloads for the interpreter of scripts: evaluating expressions and splitting arguments, and
running a script.
-/

namespace ScriptHost.Workload

open ScriptHost.Script

/-! ### Expressions -/

/-- An expression that joins texts and the result of a call. -/
def joinedExpression (i : Nat) : String :=
  "\"head" ++ toString i ++ "\" & \"mid\" & \"tail" ++ toString i ++ "\" & LCase(\"XYZ\")"

/-- Arguments with commas inside parentheses and quotes. -/
def nestedArguments : String :=
  "f(1, 2), \"a,b\", 'c,d', g(h(3, 4), 5), 6, \"more, stuff\", 7"

/-- The variables that expressions may use. -/
def expressionSession : Session :=
  assign (assign freshSession "answer".toList (.int 42)) "nothing".toList .null

/-- Expressions of all kinds. -/
def plainExpressions : List String :=
  ["3.5", "-7", "True", "false", "2 * 3", "answer", "nothing", "'quoted'", "Len(\"letters\")", "",
    "NOPE()"]

/-- Evaluates `n` joined expressions, splits arguments for every tenth of them but at least once,
and evaluates expressions of all kinds: the number of results, the first of them, and those of all
kinds. -/
def expressions (n : Value) : Act Value := do
  let n ← Act.ofExcept (countOf n)
  let rs ← inEach fun d => do
    let lib := library d
    let pieces := (splitArguments nestedArguments.toList).map fun p => Value.text (String.ofList p)
    let (values, _) ← inSession expressionSession do
      let evaluated ← (below n).mapM fun i => evaluate lib (joinedExpression i).toList
      let plain ← plainExpressions.mapM fun e => evaluateOperand lib e.toList
      return evaluated ++ List.replicate (max 1 (n / 10)).toNat (.list pieces) ++ plain
    return values
  return .tuple [.int rs.length, ← Act.ofExcept (at_ rs 0),
    .list (rs.drop (rs.length - plainExpressions.length))]

/-! ### Scripts -/

/-- A group of statements of all kinds. -/
def statementGroup (i : Nat) : List String :=
  let k := toString i
  ["' group " ++ k,
    "Dim a" ++ k ++ ", b" ++ k ++ ", c" ++ k ++ "(3)",
    "a" ++ k ++ " = " ++ k,
    "b" ++ k ++ " = a" ++ k ++ " + 1",
    "tail = LCase(\"XYZ\") & StrReverse(\"uvw\")",
    "WScript.Echo \"val\" & a" ++ k ++ " & tail & b" ++ k ++ " & tail",
    "NOPE(" ++ k ++ ")",
    "\"lit" ++ k ++ "\"",
    "1 > 2",
    "Set d = CreateObject(\"Scripting.Dictionary\")",
    "For k = 1 To 5 Step 2",
    "While a" ++ k ++ " < 3",
    "Do While False",
    "Function f(x)",
    "Sub s(x)",
    "On Error Resume Next",
    "On Error GoTo 0",
    "10: y = 5",
    "If b" ++ k ++ " > 0 Then y = 6 Else y = 7",
    "End If"]

/-- The statements behind the groups; the last one fails, for an array needs a size. -/
def closingStatements : List String :=
  ["Dim z",
    "z = \"z\"",
    "MsgBox \"hi\"",
    "InputBox \"q\"",
    "If 1 > 0 Then",
    "If 2 > 0 Then",
    "x = 1",
    "End If",
    "End If",
    "If True Then End If",
    "unknown_token_line",
    "",
    "Dim broken()"]

/-- A script of `n` groups. -/
def scriptText (n : Int) : List Char :=
  Text.join ['\n'] ((((below n).flatMap statementGroup) ++ closingStatements).map String.toList)

/-- How much of the printed text a result shows. -/
def shownText : Nat := 40

/-- Runs a script twice, with a table of constants that is empty: the text it prints the second
time, and a variable. -/
def runTwice (d : Dialect) (code : List Char) : Act (String × Value) := do
  let lib := library d
  let ((_, s), _) ← printed (inSession { freshSession with constants := false } (run lib code))
  let ((_, s), text) ← printed (inSession s (run lib code))
  return (text, (variableValue? s "z".toList).getD .null)

/-- Runs a script of `n` groups in each dialect: the length of the text it prints, its start in the
first dialect, and a variable. -/
def scripts (n : Value) : Act Value := do
  let n ← Act.ofExcept (countOf n)
  let code := scriptText n
  let rs ← inEach fun d => do
    let (text, z) ← runTwice d code
    let start := if d == .capital then [.text (String.ofList (text.toList.take shownText))] else []
    return [.int text.length] ++ start ++ [z]
  return .list rs

end ScriptHost.Workload
