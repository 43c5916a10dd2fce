import ScriptHost.Builtin.Catalog
import ScriptHost.Script.Expression

/-!
# Statements

A line is one statement. Its kind is told by how it starts, case aside, and what is no statement is
an expression whose value is printed. A label before a colon is skipped. Statements that would span
lines have no body: a loop only sets its variable, and a procedure is passed over.
-/

namespace ScriptHost.Script

open ScriptHost.Text

/-- The kinds of statements. -/
inductive StatementKind where
  | declare
  | set
  | conditional
  | loop
  | whileLoop
  /-- The start of a construct that is passed over. -/
  | passed
  | resumeNext
  | resumeNever
  | assignment
  | echo
  | messageBox
  | inputBox
  | createObject
  | call
  | expression
  deriving DecidableEq

/-- Words that statements start with, in capitals, and the kinds of these statements. -/
def openings : List (String × StatementKind) :=
  [("DIM ", .declare), ("SET ", .set), ("IF ", .conditional), ("FOR ", .loop),
    ("WHILE ", .whileLoop), ("DO ", .passed), ("FUNCTION ", .passed), ("SUB ", .passed),
    ("ON ERROR RESUME NEXT", .resumeNext), ("ON ERROR GOTO 0", .resumeNever)]

/-- Words that statements start with when they are no assignments. The dialogs are statements in one
dialect only. -/
def commands (d : Dialect) : List (String × StatementKind) :=
  ("WSCRIPT.ECHO ", .echo) ::
    (if d == .capital then [("MSGBOX", .messageBox), ("INPUTBOX", .inputBox)] else []) ++
    [("CREATEOBJECT", .createObject)]

/-- The kind of a statement that starts like one of a list. -/
def kindByStart (table : List (String × StatementKind)) (capitals : List Char) :
    Option StatementKind :=
  (table.find? fun p => p.1.toList.isPrefixOf capitals).map Prod.snd

/-- The kind of the statement in a line. -/
def kindOf (d : Dialect) (line : List Char) : StatementKind :=
  let capitals := upper line
  match kindByStart openings capitals with
  | some kind => kind
  | none =>
    if line.contains '=' && !occurs " THEN ".toList capitals then .assignment
    else
      match kindByStart (commands d) capitals with
      | some kind => kind
      | none => if looksLikeCall line then .call else .expression

/-- Whether a text is a line number. -/
def isLabel (cs : List Char) : Bool :=
  !cs.isEmpty && cs.all isDigit

/-- A line without the line number before its first colon. -/
def withoutLabel (line : List Char) : List Char :=
  if line.contains ':' && isLabel (strip (line.takeWhile (· != ':'))) then
    strip ((line.dropWhile (· != ':')).drop 1)
  else line

theorem withoutLabel_isInfix (line : List Char) : withoutLabel line <:+: line := by
  unfold withoutLabel
  split
  · exact (strip_isInfix _).trans ((List.drop_suffix _ _).trans (List.dropWhile_suffix _)).isInfix
  · exact List.infix_rfl

/-- A line as it is understood: constants replaced if the session knows them, and no label. -/
def prepare (s : Session) (line : List Char) : List Char :=
  withoutLabel (if s.constants then substitute line else line)

theorem length_prepare_le (s : Session) (line : List Char) :
    (prepare s line).length ≤ line.length := by
  unfold prepare
  split
  · exact Nat.le_trans (withoutLabel_isInfix _).length_le (length_substitute_le line)
  · exact (withoutLabel_isInfix line).length_le

/-! ### Statements without statements in them -/

/-- The whole number that an expression gives. -/
def wholeValue (lib : Library) (cs : List Char) : Step Int := do
  Step.act (Act.ofExcept (← evaluate lib cs).toWhole)

/-- Puts a value into a variable. -/
def put (name : List Char) (v : Value) : Step Unit :=
  Step.modifySession fun s => assign s name v

/-- A list of a declared size: one item more than its last index, none for negative ones. -/
def blankList (size : Value) : Except Fault Value := do
  return .list (← Value.repeated [.null] ((← size.toWhole) + 1))

/-- The text between the first parenthesis and the first closing one after it. -/
def declaredSize (cs : List Char) : List Char :=
  strip ((((cs.dropWhile (· != '(')).drop 1).takeWhile (· != '(')).takeWhile (· != ')'))

/-- Declares one variable: empty, or a list if a size is given. -/
def declareOne (lib : Library) (cs : List Char) : Step Unit := do
  if cs.contains '(' then
    let size ← evaluate lib (declaredSize cs)
    put (strip (cs.takeWhile (· != '('))) (← Step.act (Act.ofExcept (blankList size)))
  else put cs .null

/-- Declares the variables between commas. -/
def declare (lib : Library) (line : List Char) : Step Unit :=
  ((strip (line.drop 4)).splitOn ',').forM fun p => declareOne lib (strip p)

/-- Assigns to a variable by `Set`. -/
def executeSet (lib : Library) (line : List Char) : Step Unit := do
  match Shape.setting line with
  | none => return
  | some (name, expression) => put name (← evaluate lib expression)

/-- Assigns to the text before the first equals sign the value of the text after it. -/
def executeAssignment (lib : Library) (line : List Char) : Step Unit := do
  if line.contains '=' then
    put (strip (line.takeWhile (· != '=')))
      (← evaluate lib (strip ((line.dropWhile (· != '=')).drop 1)))

/-- The last value that a counter takes on its way from `start` to just before `stop`. -/
def lastCount? (start stop step : Int) : Option Int :=
  if 0 < step then
    (if start < stop then some (start + step * ((stop - start - 1) / step)) else none)
  else if stop < start then some (start + step * ((start - stop - 1) / (-step)))
  else none

/-- Counts from `start` to `stop`, which leaves the variable at the last value. -/
def countThrough (name : List Char) (start stop step : Int) : Step Unit :=
  if step == 0 then throw .zeroStep
  else
    match lastCount? start (stop + 1) step with
    | some n => put name (.int n)
    | none => pure ()

/-- A counting loop does nothing but count; the step is one if it is not given. -/
def executeLoop (lib : Library) (line : List Char) : Step Unit := do
  match Shape.loop line with
  | none => return
  | some l =>
    let start ← wholeValue lib l.start
    let stop ← wholeValue lib l.stop
    match l.step with
    | some e => countThrough l.name start stop (← wholeValue lib e)
    | none => countThrough l.name start stop 1

/-- The condition of a loop is evaluated once. -/
def executeWhile (lib : Library) (line : List Char) : Step Unit := do
  match Shape.whileLoop line with
  | none => return
  | some condition => discard (evaluate lib condition)

/-- Prints the value of the rest of the line. -/
def executeEcho (lib : Library) (line : List Char) : Step Unit := do
  let v ← evaluate lib (strip (line.drop 13))
  Step.act do Act.print (← Act.display v)

/-- Calls a routine with the values between parentheses. -/
def callWith (lib : Library) (r : Routine) (args : List Char) : Step Value := do
  let values ← evaluateArguments lib args
  Step.act (r.call values [])

/-- The part of a statement without the blanks around it, or what stands for a missing one. -/
def partOr (otherwise : String) (p : Option (List Char)) : List Char :=
  (p.map strip).getD otherwise.toList

/-- Shows a message box: with arguments in parentheses, or listed after the word. -/
def executeMessageBox (lib : Library) (line : List Char) : Step Value := do
  let box := (Catalog.messageBox lib.dialect).2
  match Shape.called "msgbox" line with
  | some args => callWith lib box args
  | none =>
    match Shape.listed "msgbox" line with
    | none => return .null
    | some (prompt, buttons, title) =>
      let prompt ← evaluate lib (strip prompt)
      let buttons ← wholeValue lib (partOr "0" buttons)
      let title ← evaluate lib (partOr "" title)
      Step.act (box.call [prompt, .int buttons, title] [])

/-- Shows an input box: with arguments in parentheses, or listed after the word. -/
def executeInputBox (lib : Library) (line : List Char) : Step Value := do
  let box := (Catalog.inputBox lib.dialect).2
  match Shape.called "inputbox" line with
  | some args => callWith lib box args
  | none =>
    match Shape.listed "inputbox" line with
    | none => return .null
    | some (prompt, title, initial) =>
      let prompt ← evaluate lib (strip prompt)
      let title ← evaluate lib (partOr "" title)
      let initial ← evaluate lib (partOr "" initial)
      Step.act (box.call [prompt, title, initial] [])

/-- Creates an object by name. -/
def executeCreateObject (lib : Library) (line : List Char) : Step Value := do
  match Shape.called "createobject" line with
  | none => return .null
  | some args => callWith lib Catalog.createObject.2 args

/-- Calls a function. -/
def executeCall (lib : Library) (line : List Char) : Step Value :=
  callFunction lib line

/-- Evaluates an expression and prints its value, unless it is null or empty. -/
def executeExpression (lib : Library) (line : List Char) : Step Unit := do
  if !(strip line).isEmpty then
    let v ← evaluate lib line
    if !(v.same .null) && !(v.same (.text "")) then
      Step.act do Act.print (← Act.display v)

/-- Executes a statement of a kind that holds no other statements. -/
def executePlain (lib : Library) (kind : StatementKind) (line : List Char) : Step Unit := do
  match kind with
  | .declare => declare lib line
  | .set => executeSet lib line
  | .loop => executeLoop lib line
  | .whileLoop => executeWhile lib line
  | .resumeNext => Step.modifySession fun s => { s with resume := true }
  | .resumeNever => Step.modifySession fun s => { s with resume := false }
  | .assignment => executeAssignment lib line
  | .echo => executeEcho lib line
  | .messageBox => discard (executeMessageBox lib line)
  | .inputBox => discard (executeInputBox lib line)
  | .createObject => discard (executeCreateObject lib line)
  | .call => discard (executeCall lib line)
  | .expression => executeExpression lib line
  | .passed | .conditional => return

/-! ### Lines -/

/-- Executes a line. The statement in a conditional is a line of its own, and shorter. -/
def executeLine (lib : Library) (line : List Char) : Step Unit := do
  let scene ← get
  let kind := kindOf lib.dialect (prepare scene.session line)
  if kind == .conditional then
    match _h : Shape.conditional (prepare scene.session line) with
    | none => return
    | some c =>
      let v ← evaluate lib c.condition
      match _hpick : c.pick v.truthy with
      | some statement => executeLine lib statement
      | none => return
  else executePlain lib kind (prepare scene.session line)
termination_by line.length
decreasing_by
  have hlt := (Shape.infix_of_pick _h _hpick).2
  have hle := length_prepare_le scene.session line
  omega

/-- Executes a conditional as it stands. -/
def executeConditional (lib : Library) (line : List Char) : Step Unit := do
  match Shape.conditional line with
  | none => return
  | some c =>
    let v ← evaluate lib c.condition
    match c.pick v.truthy with
    | some statement => executeLine lib statement
    | none => return

end ScriptHost.Script
