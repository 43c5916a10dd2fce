import ScriptHost.Value.Arithmetic
import ScriptHost.World.Basic

/-!
# Dialogs

A message box shows a text and asks one of a few standard questions, chosen by the lowest three bits
of a number; an input box asks for a line of text. Every question takes the next reply of the person
at the dialogs.
-/

namespace ScriptHost.Dialog

/-- The numbers that tell which button was pressed. -/
def okButton : Value := .int 1

/-- The cancel button. -/
def cancelButton : Value := .int 2

/-- The abort button. -/
def abortButton : Value := .int 3

/-- The retry button. -/
def retryButton : Value := .int 4

/-- The ignore button. -/
def ignoreButton : Value := .int 5

/-- The yes button. -/
def yesButton : Value := .int 6

/-- The no button. -/
def noButton : Value := .int 7

/-- The texts of the three buttons of the window. -/
def windowButtons : List String := ["终止(A)", "重试(R)", "忽略(I)"]

/-- The size of the window, and then its size and place in the middle of the screen. -/
def windowGeometry : List String := ["450x180", "450x180+735+450"]

/-- What pressing a button of the window answers. -/
def windowAnswer : Option Int → Value
  | some 1 => retryButton
  | some 2 => ignoreButton
  | _ => abortButton

/-- A window with three buttons. Closing it counts as the first of them. -/
def askWindow (title : Value) (prompt : String) : Act Value := do
  if !(← get).display then throw .noDisplay
  let pressed := (← Act.nextReply .null).whole?
  Act.note (.window title prompt windowButtons windowGeometry pressed.isSome)
  return windowAnswer pressed

/-- Destroys the hidden window behind the dialogs, which is given by what destroying it does, and
tells which one is left: none, even if destroying it fails. -/
def destroyHidden (window : Option (Act Unit)) : Act (Option (Act Unit)) := do
  match window with
  | none => return none
  | some destroy =>
    Act.recoverAll destroy fun _ => pure ()
    return none

/-- Asks a question; the reply stands as it was given. -/
def ask (q : Question) (title : Value) (prompt : String) (otherwise : Value) : Act Value := do
  Act.note (.asked q title prompt)
  Act.nextReply otherwise

/-- Shows a text that needs no answer. -/
def showText (title : Value) (prompt : String) : Act Value := do
  Act.note (.shown title prompt)
  return okButton

/-- Which answer a reply to a question with three answers is: only the Booleans themselves count. -/
def threeWay : Value → Value
  | .bool true => yesButton
  | .bool false => noButton
  | _ => cancelButton

/-- A message box. -/
def messageBox (prompt buttons title : Value) : Act Value := do
  let text ← Act.display prompt
  let kind ← Act.ofExcept (buttons.bitAnd (.int 7))
  let title := if title.truthy then title else .text "VBScript"
  match kind.whole? with
  | some 1 =>
    return if (← ask .okCancel title text (.bool true)).truthy then okButton else cancelButton
  | some 2 => askWindow title text
  | some 3 => return threeWay (← ask .yesNoCancel title text .null)
  | some 4 => return if (← ask .yesNo title text (.bool true)).truthy then yesButton else noButton
  | some 5 =>
    return if (← ask .retryCancel title text (.bool true)).truthy then retryButton else cancelButton
  | _ => showText title text

/-- The next line of the input, without its newline. -/
def inputLine : Act String := do
  let w ← get
  match w.input with
  | [] => throw .endOfInput
  | cs =>
    set { w with input := (cs.dropWhile (· != '\n')).drop 1 }
    return String.ofList (cs.takeWhile (· != '\n'))

/-- Asks for a line of text on the console. -/
def askOnConsole (prompt initial : Value) : Act Value := do
  let p ← Act.display prompt
  if initial.truthy then Act.write (p ++ " [" ++ (← Act.display initial) ++ "]: ")
  else Act.write (p ++ ": ")
  let line ← inputLine
  return if line.isEmpty then initial else .text line

/-- An input box; without a display the question goes to the console. -/
def inputBox (prompt title initial : Value) : Act Value := do
  if (← get).display then
    Act.note (.askedText (if title.truthy then title else .text "输入") prompt initial)
    match ← Act.nextReply .null with
    | .null => return .text ""
    | reply => return reply
  else askOnConsole prompt initial

end ScriptHost.Dialog
