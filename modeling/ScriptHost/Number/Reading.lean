import ScriptHost.Text.Blank
import ScriptHost.Text.Digit
import ScriptHost.Text.Letter
import ScriptHost.Number.Binary

/-!
# Reading numerals

A whole numeral is a sign and digits; a decimal one may have a point and an exponent, or be the word
for infinity or for no number. Digits of every script count, blanks around a numeral do not matter,
and a single low line may stand between two digits.
-/

namespace ScriptHost.Number

open ScriptHost.Text

/-- Whether a character is one of the four separators among the control characters. They are blanks
of texts, but not of numerals. -/
def isSeparator (c : Char) : Bool :=
  0x1C ≤ c.toNat && c.toNat ≤ 0x1F

/-- A numeral in plain characters: every blank a space, every decimal digit a plain one, separators
and anything else beyond the first 128 characters a question mark. -/
def plainNumeral (cs : List Char) : List Char :=
  strip (cs.map fun c =>
    if isSeparator c then '?'
    else if isBlank c then ' '
    else match decimalValue? c with
      | some v => Char.ofNat (48 + v)
      | none => if c.toNat < 128 then c else '?')

/-- The digits of a run in which low lines stand only between digits; `after` tells whether a digit
has just been read. -/
def digitRun (after : Bool) : List Char → Option (List Char)
  | [] => if after then some [] else none
  | c :: cs =>
    if c.isDigit then (digitRun true cs).map (c :: ·)
    else if c == '_' && after then digitRun false cs
    else none

/-- A run of digits with single low lines between them, and what follows it; `first` tells that a
digit has to come. -/
def takeDigits (p : Char → Bool) (first : Bool) : List Char → Option (List Char × List Char)
  | [] => if first then none else some ([], [])
  | c :: cs =>
    if p c then (takeDigits p false cs).map fun (ds, rest) => (c :: ds, rest)
    else if c == '_' && !first then takeDigits p true cs
    else if first then none
    else some ([], c :: cs)

/-- The value of a run of plain digits. -/
def digitsValue (ds : List Char) : Nat :=
  ds.foldl (fun n c => 10 * n + (c.toNat - 48)) 0

/-- Takes a sign off. -/
def takeSign : List Char → Bool × List Char
  | '-' :: cs => (true, cs)
  | '+' :: cs => (false, cs)
  | cs => (false, cs)

/-- The longest numeral that is read or written. -/
def digitLimit : Nat := 4300

/-- What a text is as a whole numeral. -/
inductive WholeNumeral where
  | value (n : Int)
  | tooLong (digits : Nat)
  | notANumeral

/-- Reads a whole numeral. The digits are counted before anything else is looked at. -/
def readWhole (cs : List Char) : WholeNumeral :=
  let (negative, body) := takeSign (plainNumeral cs)
  match takeDigits Char.isDigit true body with
  | none => .notANumeral
  | some (ds, rest) =>
    if digitLimit < ds.length then .tooLong ds.length
    else if rest.isEmpty then .value (if negative then -(digitsValue ds : Int) else digitsValue ds)
    else .notANumeral

/-- The digits of a run that may be empty. -/
def digitRun0 (cs : List Char) : Option (List Char) :=
  if cs.isEmpty then some [] else digitRun false cs

/-- `±0.ds · 10^point` as a double: the digits are a whole number times a power of ten. -/
def scientificFloat (negative : Bool) (ds : List Char) (e : Int) : Float :=
  let ds := ds.dropWhile (· == '0')
  let size : Int := ds.length + e
  if ds.isEmpty then nearest negative 0 1
  else if 320 < size then nearest negative (twoPow 1100) 1
  else if size < -340 then nearest negative 0 1
  else if 0 ≤ e then nearest negative (digitsValue ds * tenPow e.toNat) 1
  else nearest negative (digitsValue ds) (tenPow (-e).toNat)

/-- Splits at the first character that satisfies `p`, which is left out. -/
def splitAtFirst (p : Char → Bool) (cs : List Char) : List Char × Option (List Char) :=
  match cs.dropWhile fun c => !p c with
  | [] => (cs, none)
  | _ :: rest => (cs.takeWhile fun c => !p c, some rest)

/-- Reads the exponent part. -/
def readExponent : Option (List Char) → Option Int
  | none => some 0
  | some cs =>
    let (negative, body) := takeSign cs
    (digitRun false body).map fun ds =>
      let n := digitsValue ds
      if negative then -(n : Int) else n

/-- Reads a decimal numeral in plain characters, without its sign. -/
def readUnsigned (negative : Bool) (cs : List Char) : Option Float :=
  let word := String.ofList (cs.map Char.toLower)
  if word == "inf" || word == "infinity" then some (if negative then -1.0 / 0.0 else 1.0 / 0.0)
  else if word == "nan" then some (0.0 / 0.0)
  else
    let (mantissa, exponent) := splitAtFirst (fun c => c == 'e' || c == 'E') cs
    let (whole, part) := splitAtFirst (· == '.') mantissa
    match readExponent exponent, digitRun0 whole, (part.map digitRun0).getD (some []) with
    | some e, some a, some b =>
      if a.isEmpty && b.isEmpty then none
      else
        let e := max (-100000) (min 100000 e)
        some (scientificFloat negative (a ++ b) (e - b.length))
    | _, _, _ => none

/-- Reads a decimal numeral. -/
def readFloat? (cs : List Char) : Option Float :=
  let (negative, body) := takeSign (plainNumeral cs)
  readUnsigned negative body

end ScriptHost.Number
