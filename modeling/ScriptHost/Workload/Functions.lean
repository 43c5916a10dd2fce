import ScriptHost.Workload.Basic

/-!
# Work with texts, types, dates and dialogs

Four workloads that call functions in a row: replacing and searching in texts, telling types and
filtering lists, reckoning with dates, and asking in dialogs.
-/

namespace ScriptHost.Workload

/-! ### Texts -/

/-- The text with a number: the same sentence, a padding of varying length, and the number. -/
def sentence (i : Nat) : Value :=
  .text ("The quick brown fox Jumps OVER the lazy brown dog; abcABCabcABC" ++
    String.join (List.replicate (i % 4) " pad") ++ toString i)

/-- The calls with a text: the first and the last replace a word, with and without regard to case.
-/
def textCalls (s : Value) : Act (List Value) := do
  return [← call "Replace" [s, .text "brown", .text "red"],
    ← call "Len" [s],
    ← call "InStr" [s, .text "fox"],
    ← call "UCase" [s],
    ← call "StrReverse" [s],
    ← call "Mid" [s, .int 5, .int 9],
    ← call "Replace" [s, .text "BROWN", .text "red", .int 1, .int (-1), .int 1]]

/-- Works with `n` texts: the number of results, the first, the third and the last of them. -/
def texts (n : Value) : Act Value := do
  let n ← Act.ofExcept (countOf n)
  let rs ← inEach fun _ => do
    let parts ← (below n).mapM fun i => textCalls (sentence i)
    return parts.flatten
  return .tuple [.int rs.length, ← Act.ofExcept (at_ rs 0), ← Act.ofExcept (at_ rs 2),
    ← Act.ofExcept (last rs)]

/-! ### Types and lists -/

/-- Values of all types, in turn. -/
def sample (i : Nat) : Value :=
  cycle [.null, .text "", .bool true, .int 12, .int 70000, .float 2.5, .text "text",
    .list [.int 1, .int 2],
    .date .first, .function "object" (.known "object")] .null i

/-- Words with and without the letter to be searched for, in small letters and in capitals. -/
def word (i : Nat) : Value :=
  let w := cycle ["alpha", "bits", "apple"] "" i
  .text (if i % 2 == 0 then w else String.ofList (Text.upper w.toList))

/-- The number of items of a list. -/
def itemCount : Value → Int
  | .list vs => vs.length
  | _ => 0

/-- The whole number a result stands for. -/
def number (v : Value) : Int :=
  v.whole?.getD 0

/-- Tells the types of `n` values and filters `n` words: in each dialect the type of the last value,
the sum of the type numbers, and the numbers of words found with and without regard to case. -/
def types (n : Value) : Act Value := do
  let n ← Act.ofExcept (countOf n)
  let rs ← inEach fun _ => do
    let names ← (below n).mapM fun i => call "TypeName" [sample i]
    let numbers ← (below n).mapM fun i => call "VarType" [sample i]
    let words := Value.list ((below n).map word)
    let exact ← call "Filter" [words, .text "a"]
    let any ← call "Filter" [words, .text "A", .bool true, .int 1]
    return [.tuple [← Act.ofExcept (last names), .int ((numbers.map number).foldl (· + ·) 0),
      .int (itemCount exact), .int (itemCount any)]]
  return .list rs

/-! ### Dates -/

/-- Intervals and numbers to reckon with, in turn. -/
def step (i : Nat) : String × Int :=
  cycle [("m", 1), ("yyyy", 2), ("q", 1), ("m", 7), ("d", 45), ("m", -3)] ("d", 0) i

/-- The day from which is reckoned. -/
def startDay : Value := .text "2020-01-31 10:00:00"

/-- The day to which is reckoned. -/
def endDay : Value := .text "2024-02-29"

/-- The calls with an interval: a day later, its year, and the difference of two days. -/
def dateCalls (i : Nat) : Act (List Value) := do
  let (interval, n) := step i
  let later ← call "DateAdd" [.text interval, .int n, startDay]
  return [← call "CStr" [later], ← call "Year" [later],
    ← call "DateDiff" [.text interval, startDay, endDay]]

/-- Reckons with `n` intervals: the number of results, the first, the fourth and the last of them.
-/
def dates (n : Value) : Act Value := do
  let n ← Act.ofExcept (countOf n)
  let rs ← inEach fun _ => do
    let parts ← (below n).mapM dateCalls
    return parts.flatten
  return .tuple [.int rs.length, ← Act.ofExcept (at_ rs 0), ← Act.ofExcept (at_ rs 3),
    ← Act.ofExcept (last rs)]

/-! ### Dialogs -/

/-- The reply of the person at a dialog with these buttons. -/
def replyTo (buttons : Nat) : Value :=
  if buttons == 1 || buttons == 4 then .bool true else if buttons == 5 then .bool false else .null

/-- Asks `n` questions with all kinds of buttons and for two texts in each dialect: the sum of the
answers and of the lengths of the texts, the number of questions, and the last text. -/
def dialogs (n : Value) : Act Value := do
  let n ← Act.ofExcept (countOf n)
  let asked ← inEach fun d => (below n).mapM fun i =>
    answering [replyTo (i % 8)]
      (call d.messageBox [.text ("question " ++ toString i), .int (i % 8), .text "title"])
  let typed ← inEach fun d => (["name", "place"]).mapM fun p =>
    answering [.text "d"] (call d.inputBox [.text p, .text "title", .text "d"])
  let _ ← Act.ofExcept (last asked)
  let lengths ← typed.mapM fun t => call "Len" [t]
  return .tuple [.int (((asked ++ lengths).map number).foldl (· + ·) 0), .int asked.length,
    ← Act.ofExcept (last typed)]

end ScriptHost.Workload
