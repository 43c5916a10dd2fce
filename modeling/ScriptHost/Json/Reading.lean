import ScriptHost.Fault
import ScriptHost.Json.Basic
import ScriptHost.Number.Reading

/-!
# Reading structured data

`JsonValue.read` reads the written form of a datum. Where the text is not a written form, the fault
says what was expected, and at which line, column and character. A record may name a field twice:
the last value counts, in the place of the first.
-/

namespace ScriptHost.JsonValue

open ScriptHost.Number ScriptHost.Text

/-- Where a reader could not go on: what it expected, and how many characters were left. -/
structure Stuck where
  reason : String
  left : Nat

/-- Blanks between the parts of a datum. -/
def isGap (c : Char) : Bool :=
  c == ' ' || c == '\t' || c == '\n' || c == '\r'

/-- The text behind the blanks at its head. -/
def skipGap (cs : List Char) : List Char :=
  cs.dropWhile isGap

/-- The value of a hexadecimal digit. -/
def hexValue? (c : Char) : Option Nat :=
  if '0' ≤ c ∧ c ≤ '9' then some (c.toNat - 48)
  else if 'a' ≤ c ∧ c ≤ 'f' then some (c.toNat - 87)
  else if 'A' ≤ c ∧ c ≤ 'F' then some (c.toNat - 55)
  else none

/-- The value of four hexadecimal digits. -/
def unit? (a b c d : Char) : Option Nat := do
  let a ← hexValue? a
  let b ← hexValue? b
  let c ← hexValue? c
  let d ← hexValue? d
  return 4096 * a + 256 * b + 16 * c + d

/-- The character a one-letter escape stands for. -/
def escape? : Char → Option Char
  | '"' => some '"'
  | '\\' => some '\\'
  | '/' => some '/'
  | 'b' => some '\x08'
  | 'f' => some '\x0c'
  | 'n' => some '\n'
  | 'r' => some '\r'
  | 't' => some '\t'
  | _ => none

/-- Joins the pairs of units that stand for one character. -/
def joinPairs : List Nat → List Char
  | [] => []
  | [n] => [Char.ofNat n]
  | h :: l :: rest =>
    if 0xD800 ≤ h ∧ h < 0xDC00 ∧ 0xDC00 ≤ l ∧ l < 0xE000 then
      Char.ofNat (0x10000 + (h - 0xD800) * 0x400 + (l - 0xDC00)) :: joinPairs rest
    else Char.ofNat h :: joinPairs (l :: rest)

/-- The units of a text up to its closing quote, and what follows. The opening quote had `start`
characters left from it on. -/
def readUnits (start : Nat) (acc : List Nat) : List Char → Except Stuck (List Nat × List Char)
  | [] => .error ⟨"Unterminated string starting at", start⟩
  | '"' :: rest => .ok (acc.reverse, rest)
  | ['\\'] => .error ⟨"Unterminated string starting at", start⟩
  | '\\' :: 'u' :: a :: b :: c :: d :: e :: rest =>
    match unit? a b c d with
    | some n => readUnits start (n :: acc) (e :: rest)
    | none => .error ⟨"Invalid \\uXXXX escape", rest.length + 6⟩
  | '\\' :: 'u' :: rest => .error ⟨"Invalid \\uXXXX escape", rest.length + 1⟩
  | '\\' :: c :: rest =>
    match escape? c with
    | some x => readUnits start (x.toNat :: acc) rest
    | none => .error ⟨"Invalid \\escape", rest.length + 2⟩
  | c :: rest =>
    if c.toNat < 32 then .error ⟨"Invalid control character at", rest.length + 1⟩
    else readUnits start (c.toNat :: acc) rest

/-- The text behind an opening quote. -/
def readText (cs : List Char) : Except Stuck (String × List Char) := do
  let (units, rest) ← readUnits (cs.length + 1) [] cs
  return (String.ofList (joinPairs units), rest)

/-- The digits at the head of a text, and what follows. -/
def digitSpan (cs : List Char) : List Char × List Char :=
  (cs.takeWhile Char.isDigit, cs.dropWhile Char.isDigit)

/-- The digits behind a point, if there are any. -/
def fractionSpan : List Char → List Char × List Char
  | '.' :: rest =>
    match digitSpan rest with
    | ([], _) => ([], '.' :: rest)
    | found => found
  | cs => ([], cs)

/-- The exponent at the head of a text, if there is one. -/
def exponentSpan (cs : List Char) : Option (Int × List Char) :=
  match cs with
  | e :: rest =>
    if e == 'e' || e == 'E' then
      let (negative, digits) := takeSign rest
      match digitSpan digits with
      | ([], _) => none
      | (ds, rest) => some (if negative then Int.neg (digitsValue ds) else digitsValue ds, rest)
    else none
  | [] => none

/-- The number that starts with the digits `whole`. -/
def readTail (negative : Bool) (whole cs : List Char) : JsonValue × List Char :=
  let (part, rest) := fractionSpan cs
  match part, exponentSpan rest with
  | [], none => (int (if negative then Int.neg (digitsValue whole) else digitsValue whole), rest)
  | _, none => (float (scientificFloat negative (whole ++ part) (Int.neg part.length)), rest)
  | _, some (e, rest) => (float (scientificFloat negative (whole ++ part) (e - part.length)), rest)

/-- The number at the head of a text. A leading zero stands alone. -/
def readNumber? (cs : List Char) : Option (JsonValue × List Char) :=
  let (negative, cs) :=
    match cs with
    | '-' :: rest => (true, rest)
    | _ => (false, cs)
  match cs with
  | '0' :: rest => some (readTail negative ['0'] rest)
  | c :: _ => if c.isDigit then some (readTail negative (digitSpan cs).1 (digitSpan cs).2) else none
  | [] => none

/-- The words that stand for a datum. -/
def words : List (String × JsonValue) :=
  [("null", null), ("true", bool true), ("false", bool false), ("NaN", float (0.0 / 0.0)),
    ("Infinity", float (1.0 / 0.0)), ("-Infinity", float (Float.neg (1.0 / 0.0)))]

/-- The word at the head of a text. -/
def readWord? (cs : List Char) : Option (JsonValue × List Char) :=
  words.findSome? fun (w, v) => if w.toList.isPrefixOf cs then some (v, cs.drop w.length) else none

/-- What is stuck where a datum should start. -/
def noValue (cs : List Char) : Stuck :=
  ⟨"Expecting value", cs.length⟩

mutual

/-- The datum at the head of a text. -/
def readValue : Nat → List Char → Except Stuck (JsonValue × List Char)
  | 0, cs => .error (noValue cs)
  | fuel + 1, cs =>
    match cs with
    | '"' :: rest => do
      let (s, rest) ← readText rest
      return (text s, rest)
    | '[' :: rest =>
      match skipGap rest with
      | ']' :: rest => .ok (list [], rest)
      | rest => readItems fuel [] rest
    | '\x7b' :: rest =>
      match skipGap rest with
      | '\x7d' :: rest => .ok (record [], rest)
      | rest => readFields fuel [] rest
    | cs =>
      match readWord? cs with
      | some found => .ok found
      | none =>
        match readNumber? cs with
        | some found => .ok found
        | none => .error (noValue cs)

/-- The items of a list from one of them on, behind those in `acc`. -/
def readItems : Nat → List JsonValue → List Char → Except Stuck (JsonValue × List Char)
  | 0, _, cs => .error (noValue cs)
  | fuel + 1, acc, cs => do
    let (v, rest) ← readValue fuel cs
    match skipGap rest with
    | ']' :: rest => return (list (v :: acc).reverse, rest)
    | ',' :: rest => readItems fuel (v :: acc) (skipGap rest)
    | rest => throw ⟨"Expecting ',' delimiter", rest.length⟩

/-- The fields of a record from one of them on, behind those in `acc`. -/
def readFields : Nat → List (String × JsonValue) → List Char → Except Stuck (JsonValue × List Char)
  | 0, _, cs => .error (noValue cs)
  | fuel + 1, acc, cs =>
    match cs with
    | '"' :: rest => do
      let (name, rest) ← readText rest
      match skipGap rest with
      | ':' :: rest =>
        let (v, rest) ← readValue fuel (skipGap rest)
        let fields := setField name v acc
        match skipGap rest with
        | '\x7d' :: rest => return (record fields, rest)
        | ',' :: rest => readFields fuel fields (skipGap rest)
        | rest => throw ⟨"Expecting ',' delimiter", rest.length⟩
      | rest => throw ⟨"Expecting ':' delimiter", rest.length⟩
    | cs => .error ⟨"Expecting property name enclosed in double quotes", cs.length⟩

end

/-- The datum that a whole text is the written form of. -/
def readWhole (cs : List Char) : Except Stuck JsonValue := do
  if cs.head? == some '\ufeff' then
    throw ⟨"Unexpected UTF-8 BOM (decode using utf-8-sig)", cs.length⟩
  let (v, rest) ← readValue (cs.length + 1) (skipGap cs)
  match skipGap rest with
  | [] => return v
  | rest => throw ⟨"Extra data", rest.length⟩

/-- The fault for a reader that is stuck in a text. -/
def stuckFault (cs : List Char) (s : Stuck) : Fault :=
  let position := cs.length - s.left
  let done := cs.take position
  .badJson s.reason (done.count '\n' + 1) ((done.reverse.takeWhile (· != '\n')).length + 1) position

/-- Reads the written form of a datum. -/
def read (cs : List Char) : Except Fault JsonValue :=
  (readWhole cs).mapError (stuckFault cs)

end ScriptHost.JsonValue
