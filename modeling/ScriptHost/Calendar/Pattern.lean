import ScriptHost.Calendar.Moment
import ScriptHost.Text.Blank
import ScriptHost.Text.Digit

/-!
# Reading dates by patterns

A pattern is a list of fields. Each field takes the longest of its written forms that stands at the
head of the text; a text fits a pattern if the fields use it up and name a date and a time that
exist.
-/

namespace ScriptHost.Calendar

open ScriptHost.Text

/-- A part of a written date. -/
inductive Field where
  /-- A year in four digits. -/
  | year
  /-- A year in two digits: up to 68 of the twenty-first century, then of the twentieth. -/
  | shortYear
  | month
  /-- The first three letters of a month's name. -/
  | monthName
  | day
  | hour
  | minute
  | second
  | mark (c : Char)
  /-- One or more blanks. -/
  | blanks

/-- What the fields have found so far. -/
structure Reading where
  year : Nat := 1900
  month : Nat := 1
  day : Nat := 1
  hour : Nat := 0
  minute : Nat := 0
  second : Nat := 0

/-- The value of a plain digit between two bounds. -/
def plainDigit? (low high : Char) (c : Char) : Option Nat :=
  if low ≤ c ∧ c ≤ high then some (c.toNat - 48) else none

/-- A two-digit form: a plain first digit, and a second one read by `second?`. -/
def twoDigits (low high : Char) (second? : Char → Option Nat) : List Char → Option (Nat × List Char)
  | a :: b :: rest =>
    match plainDigit? low high a, second? b with
    | some m, some n => some (10 * m + n, rest)
    | _, _ => none
  | _ => none

/-- A one-digit form. -/
def oneDigit (digit? : Char → Option Nat) : List Char → Option (Nat × List Char)
  | c :: rest => (digit? c).map (·, rest)
  | [] => none

/-- Exactly `n` decimal digits of any script, added to the value `v`. -/
def exactDigits (v : Nat) : Nat → List Char → Option (Nat × List Char)
  | 0, rest => some (v, rest)
  | n + 1, c :: rest =>
    match decimalValue? c with
    | some d => exactDigits (10 * v + d) n rest
    | none => none
  | _ + 1, [] => none

/-- The months' short names in order. -/
def monthNames : List String :=
  ["jan", "feb", "mar", "apr", "may", "jun", "jul", "aug", "sep", "oct", "nov", "dec"]

/-- A month by its short name, in any case. -/
def readMonthName : List Char → Option (Nat × List Char)
  | a :: b :: c :: rest =>
    (monthNames.findIdx? fun n => n == String.ofList ([a, b, c].map Char.toLower)).map fun i =>
      (i + 1, rest)
  | _ => none

/-- A day of the month; a single digit may have a space before it. -/
def readDay (cs : List Char) : Option (Nat × List Char) :=
  twoDigits '3' '3' (plainDigit? '0' '1') cs <|> twoDigits '1' '2' decimalValue? cs <|>
  twoDigits '0' '0' (plainDigit? '1' '9') cs <|> oneDigit (plainDigit? '1' '9') cs <|>
  match cs with
  | ' ' :: rest => oneDigit (plainDigit? '1' '9') rest
  | _ => none

namespace Field

/-- Takes a field off the head of a text. -/
def read (r : Reading) (cs : List Char) : Field → Option (Reading × List Char)
  | year => (exactDigits 0 4 cs).map fun (v, rest) => ({ r with year := v }, rest)
  | shortYear =>
    (exactDigits 0 2 cs).map fun (v, rest) =>
      ({ r with year := if v ≤ 68 then 2000 + v else 1900 + v }, rest)
  | month =>
    (twoDigits '1' '1' (plainDigit? '0' '2') cs <|> twoDigits '0' '0' (plainDigit? '1' '9') cs <|>
      oneDigit (plainDigit? '1' '9') cs).map fun (v, rest) => ({ r with month := v }, rest)
  | monthName => (readMonthName cs).map fun (v, rest) => ({ r with month := v }, rest)
  | day => (readDay cs).map fun (v, rest) => ({ r with day := v }, rest)
  | hour =>
    (twoDigits '2' '2' (plainDigit? '0' '3') cs <|> twoDigits '0' '1' decimalValue? cs <|>
      oneDigit decimalValue? cs).map fun (v, rest) => ({ r with hour := v }, rest)
  | minute =>
    (twoDigits '0' '5' decimalValue? cs <|> oneDigit decimalValue? cs).map
      fun (v, rest) => ({ r with minute := v }, rest)
  | second =>
    (twoDigits '6' '6' (plainDigit? '0' '1') cs <|> twoDigits '0' '5' decimalValue? cs <|>
      oneDigit decimalValue? cs).map fun (v, rest) => ({ r with second := v }, rest)
  | mark c =>
    match cs with
    | d :: rest => if d = c then some (r, rest) else none
    | [] => none
  | blanks =>
    match cs with
    | d :: rest => if isBlank d then some (r, rest.dropWhile isBlank) else none
    | [] => none

/-- Takes the fields of a pattern off the head of a text, one after the other. -/
def readAll : List Field → Reading → List Char → Option (Reading × List Char)
  | [], r, cs => some (r, cs)
  | f :: fs, r, cs =>
    match f.read r cs with
    | some (r, rest) => readAll fs r rest
    | none => none

end Field

/-- The moment that a whole text names by a pattern. -/
def parse? (pattern : List Field) (cs : List Char) : Option Moment :=
  match Field.readAll pattern {} cs with
  | some (r, []) =>
    match Date.ofParts? r.year r.month r.day, TimeOfDay.ofParts? r.hour r.minute r.second 0 with
    | some d, some t => some ⟨d, t⟩
    | _, _ => none
  | _ => none

/-- One or two decimal digits of any script, as many as there are. -/
def upToTwoDigits : List Char → Option (Nat × List Char)
  | a :: b :: rest =>
    match decimalValue? a, decimalValue? b with
    | some m, some n => some (10 * m + n, rest)
    | some m, none => some (m, b :: rest)
    | none, _ => none
  | [a] => (decimalValue? a).map (·, [])
  | [] => none

/-- The hour, minute and second of a clock time at the head of a text, in range or not. The seconds
may be missing; what follows does not matter. -/
def clockAtHead (cs : List Char) : Option (Nat × Nat × Nat) :=
  match upToTwoDigits cs with
  | some (h, ':' :: rest) =>
    match upToTwoDigits rest with
    | some (m, ':' :: more) =>
      match upToTwoDigits more with
      | some (s, _) => some (h, m, s)
      | none => some (h, m, 0)
    | some (m, _) => some (h, m, 0)
    | none => none
  | _ => none

end ScriptHost.Calendar
