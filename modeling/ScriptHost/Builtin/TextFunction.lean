import ScriptHost.Text.Blank
import ScriptHost.Text.Letter
import ScriptHost.Value.Arithmetic
import ScriptHost.Value.Slice

/-!
# Functions on texts

Each function comes twice: on lists of characters, where its law is plain, and on values, where
arguments are turned into text first and counts of the wrong kind are refused. Positions count from
one; zero means "not found".
-/

namespace ScriptHost.TextFunction

open ScriptHost.Number ScriptHost.Text

/-- The first `n` characters. -/
def left (cs : List Char) (n : Int) : List Char :=
  if 0 < n then cs.take n.toNat else []

/-- The last `n` characters. -/
def right (cs : List Char) (n : Int) : List Char :=
  if 0 < n then cs.drop (cs.length - n.toNat) else []

/-- The characters from position `start` on, at most `length` of them. -/
def mid (cs : List Char) (start : Int) (length : Option Int) : List Char :=
  let start := if start < 1 then 1 else start
  if (cs.length : Int) < start then []
  else
    let tail := cs.drop (start - 1).toNat
    match length with
    | none => tail
    | some n => if n ≤ 0 then [] else tail.take n.toNat

/-- The position of the first occurrence of `b` in `a` from `start` on, zero if there is none. -/
def position (start : Int) (a b : List Char) (anyCase : Bool) : Nat :=
  let start := if start < 1 then 1 else start
  let (a, b) := if anyCase then (lower a, lower b) else (a, b)
  match find? b a (start - 1).toNat with
  | some i => i + 1
  | none => 0

/-- Replaces occurrences of `old`, which is not empty, in a text that is compared by its small form
`low`; at most `count` of them if a count is given. Both texts are walked in step. -/
def replaceInStep (old new : List Char) (count : Option Nat) (text low : List Char) : List Char :=
  match text with
  | [] => []
  | c :: cs =>
    if count != some 0 && low.take old.length == old then
      new ++ replaceInStep old new (count.map (· - 1)) (cs.drop (old.length - 1))
        (low.drop old.length)
    else c :: replaceInStep old new count cs (low.drop 1)
termination_by text.length
decreasing_by
  · simp only [List.length_drop, List.length_cons]; omega
  · simp

/-- Replaces occurrences of `old` ignoring case, at most `count` of them if a count is given. An
empty `old` is found at the start for ever, so only a count ends it. -/
def replaceAnyCase (text old new : List Char) (count : Option Int) : Except Fault (List Char) :=
  let low := lower old
  if low.isEmpty then
    match text, count with
    | [], _ => .ok []
    | _, none => .error .outOfMemory
    | cs, some n => .ok ((List.replicate n.toNat new).flatten ++ cs)
  else .ok (replaceInStep low new (count.map Int.toNat) text (lower text))

/-- Joins pieces with the new text between the first `n` gaps. -/
def rejoin (new : List Char) : Nat → List (List Char) → List Char
  | _, [] => []
  | 0, _ => []
  | n + 1, p :: ps => new ++ p ++ rejoin new n ps

/-- Replaces the first `count` occurrences of `old`, which is not empty. A negative count leaves out
what lies between the first piece and the last ones. -/
def replaceCounted (text old new : List Char) (count : Int) : List Char :=
  match cut old text with
  | [] => text
  | [_] => text
  | first :: rest =>
    let pieces := first :: rest
    let head := first ++ rejoin new count.toNat rest
    if count + 1 < (pieces.length : Int) then
      head ++ old ++ join old (Slice.slice (some (count + 1)) none pieces)
    else head

/-- A text backwards. -/
def reversed (cs : List Char) : List Char := cs.reverse

/-- A character repeated: the first of a text, or a space. -/
def repeated (n : Int) (cs : List Char) : List Char :=
  List.replicate n.toNat (cs.headD ' ')

/-! ### On values -/

/-- A text as a value. -/
def ofChars (cs : List Char) : Value := .text (String.ofList cs)

/-- The characters of a value's text. -/
def chars (v : Value) : Except Fault (List Char) := do
  return (← v.display).toList

/-- The number one as a value, for comparison. -/
def one : Value := .int 1

/-- The number zero as a value, for comparison. -/
def zero : Value := .int 0

/-- A whole number that a slice can take. -/
def sliceBound (v : Value) : Except Fault Int :=
  match v.whole? with
  | some n => .ok n
  | none => .error .badSlice

/-- The length of a value's text. -/
def lenOf (v : Value) : Except Fault Value := do
  return .int (← chars v).length

/-- The first characters. -/
def leftOf (v n : Value) : Except Fault Value := do
  let cs ← chars v
  if ← n.compareWith .gt zero then
    return ofChars (left cs (← sliceBound n))
  else return .text ""

/-- The last characters. -/
def rightOf (v n : Value) : Except Fault Value := do
  let cs ← chars v
  if ← n.compareWith .gt zero then
    return ofChars (right cs (← sliceBound n))
  else return .text ""

/-- Characters from a position on. -/
def midOf (v start length : Value) : Except Fault Value := do
  let cs ← chars v
  let start := if ← start.compareWith .lt one then one else start
  if ← start.compareWith .gt (.int cs.length) then return .text ""
  match length with
  | .null => return ofChars (mid cs (← sliceBound start) none)
  | length =>
    if ← length.compareWith .le zero then return .text ""
    let a ← sliceBound start
    let n ← sliceBound length
    return ofChars (mid cs a (some n))

/-- Whether a comparison mode asks to ignore case. -/
def anyCase (compare : Value) : Bool :=
  compare.same one

/-- The position of one text in another. With a text first, the start is left out. Without a start
the text searched is the numeral one. -/
def positionOf (start a b compare : Value) : Except Fault Value := do
  let (start, a, b) ←
    match start with
    | .null => pure (one, ['1'], ← chars a)
    | .text s => pure (one, s.toList, ← chars a)
    | s => do
      let start := if ← s.compareWith .lt one then one else s
      pure (start, ← chars a, ← chars b)
  let n ← sliceBound start
  return .int (position n a b (anyCase compare))

/-- How many replacements a count allows; none means all. -/
def countLimit (count : Value) : Except Fault (Option Int) :=
  match count.number? with
  | some (.int n) => .ok (some n)
  | some (.float x) =>
    match Number.parts x with
    | .finite b => .ok (some b.ceil)
    | .infinite negative => .ok (if negative then some 0 else none)
    | .notANumber => .ok (some 0)
  | none => .error (.unordered "<" "int" count.typeName)

/-- Replaces by pieces, with a count of any kind. -/
def replaceByCount (text old new : List Char) (count : Value) : Except Fault Value := do
  if old.isEmpty then throw .emptySeparator
  let pieces := cut old text
  if pieces.length == 1 then return ofChars text
  let next ← count.add one
  match next.whole? with
  | some n => return ofChars (replaceCounted text old new (n - 1))
  | none =>
    if ← (Value.int pieces.length).compareWith .lt next then return ofChars (join new pieces)
    else throw (.notIndex next.typeName)

/-- Replaces one text by another. -/
def replaceOf (v old new count compare : Value) : Except Fault Value := do
  let text ← chars v
  let old ← chars old
  let new ← chars new
  let all := count.same (.int (-1))
  if anyCase compare then
    if text.isEmpty then return .text ""
    let limit ← if all then pure none else countLimit count
    return ofChars (← replaceAnyCase text old new limit)
  else if all then return ofChars (replaceAll old new text)
  else replaceByCount text old new count

/-- The pieces of a text; a single space cuts at runs of blanks. At most `limit` pieces are kept if
it is positive. -/
def splitOf (v delimiter limit : Value) : Except Fault Value := do
  let cs ← chars v
  let sep ← chars delimiter
  if sep.isEmpty then throw .emptySeparator
  let pieces := if sep == [' '] then words cs else cut sep cs
  let all := Value.list (pieces.map ofChars)
  if ← limit.compareWith .gt zero then
    if ← limit.compareWith .lt (.int pieces.length) then
      return .list ((Slice.slice none (some (← sliceBound limit)) pieces).map ofChars)
    else return all
  else return all

/-- The texts of some values. -/
def charsOfAll : List Value → Except Fault (List (List Char))
  | [] => .ok []
  | v :: vs => do
    let c ← chars v
    let cs ← charsOfAll vs
    return c :: cs

/-- The items of a list joined; anything else is turned into text. -/
def joinOf (v delimiter : Value) : Except Fault Value := do
  match v with
  | .list items | .tuple items =>
    let sep ← chars delimiter
    return ofChars (join sep (← charsOfAll items))
  | v => return .text (← v.display)

/-- The code point of the first character, zero for an empty text. -/
def codeOf (v : Value) : Except Fault Value := do
  match ← chars v with
  | [] => return .int 0
  | c :: _ => return .int c.toNat

/-- The character with a code point. -/
def charOf (v : Value) : Except Fault Value := do
  let n ← v.toWhole
  if n < -(twoPow 31 : Int) || twoPow 31 ≤ n then throw (.tooLargeForC "int")
  if n < 0 || 0x110000 ≤ n then throw .charRange
  return ofChars [Char.ofNat n.toNat]

/-- So many spaces. -/
def spacesOf (n : Value) : Except Fault Value :=
  Value.repeatBy (.text " ") n

/-- A text's first character repeated. -/
def repeatedOf (n v : Value) : Except Fault Value := do
  let cs ← chars v
  Value.repeatBy (ofChars [cs.headD ' ']) n

/-- Applies a function on characters to a value's text. -/
def mapText (f : List Char → List Char) (v : Value) : Except Fault Value := do
  return ofChars (f (← chars v))

/-- The numeral at the start of a text, after anything that can be no part of one has been skipped:
a sign, digits, a point and digits, the last of which must be there. -/
def leadingNumeral (cs : List Char) : List Char :=
  let body :=
    (strip cs).dropWhile fun c => !(('0' ≤ c && c ≤ '9') || c == '-' || c == '+' || c == '.')
  let (sign, rest) :=
    match body with
    | '-' :: r => (['-'], r)
    | '+' :: r => (['+'], r)
    | r => ([], r)
  let whole := rest.takeWhile isDecimal
  match rest.dropWhile isDecimal with
  | '.' :: r =>
    let part := r.takeWhile isDecimal
    if part.isEmpty then (if whole.isEmpty then [] else sign ++ whole)
    else sign ++ whole ++ '.' :: part
  | _ => if whole.isEmpty then [] else sign ++ whole

end ScriptHost.TextFunction
