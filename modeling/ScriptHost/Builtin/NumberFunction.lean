import ScriptHost.Builtin.TextFunction

/-!
# Functions on numbers

Most of them go through a double first, so that texts that are numerals count as numbers. The
conversions that end in `OrZero` never fail.
-/

namespace ScriptHost.NumberFunction

open ScriptHost.Number ScriptHost.Text ScriptHost.TextFunction

/-- The sign of a double: one, minus one, or zero for zero and what is no number. -/
def sign (x : Float) : Int :=
  if x > 0.0 then 1 else if x < 0.0 then -1 else 0

/-- A double toward zero: down if it is not negative, else up. -/
def fix (x : Float) : Except Fault Int :=
  if x >= 0.0 then Value.floatToWhole Binary.floor x else Value.floatToWhole Binary.ceil x

/-- A whole number in a base: its sign, a zero and the letter that mark the base, and the digits. -/
def markedNumeral (base : Nat) (letter : Char) (n : Int) : List Char :=
  (if n < 0 then ['-'] else []) ++ ['0', letter] ++ Nat.toDigits base n.natAbs

/-- What is left of a marked numeral when two characters are taken off for the mark of the base. -/
def numeralIn (base : Nat) (letter : Char) (n : Int) : List Char :=
  (markedNumeral base letter n).drop 2

/-- A number in base sixteen with capital digits. -/
def hexText (n : Int) : List Char :=
  (numeralIn 16 'x' n).map Char.toUpper

/-- A number in base eight. -/
def octText (n : Int) : List Char :=
  numeralIn 8 'o' n

/-- The size of a number. -/
def absOf (v : Value) : Except Fault Value := do
  return .float (← v.toFloat).abs

/-- The square root; negative numbers have none. -/
def rootOf (v : Value) : Except Fault Value := do
  let x ← v.toFloat
  if x < 0.0 then throw .negativeRoot
  return .float x.sqrt

/-- The sign of a number. -/
def signOf (v : Value) : Except Fault Value := do
  return .int (sign (← v.toFloat))

/-- The greatest whole number that is not greater. -/
def floorOf (v : Value) : Except Fault Value := do
  return .int (← Value.floatToWhole Binary.floor (← v.toFloat))

/-- The whole part. -/
def fixOf (v : Value) : Except Fault Value := do
  return .int (← fix (← v.toFloat))

/-- A double rounded to a number of places; without one, to a whole number. -/
def roundFloat (x : Float) (places : Value) : Except Fault Value :=
  match places with
  | .null => (Value.floatToWhole Binary.round x).map .int
  | v =>
    match v.whole? with
    | none => .error (.notIndex v.typeName)
    | some n =>
      let r := roundPlaces x n
      if r.isInf && !x.isInf then .error .roundedTooLarge else .ok (.float r)

/-- A number rounded to a number of places. -/
def roundOf (v places : Value) : Except Fault Value := do
  roundFloat (← v.toFloat) places

/-- The nearest whole number, zero for what is no number. -/
def nearestOrZero (v : Value) : Int :=
  match v.toFloat with
  | .ok x => ((Value.floatToWhole Binary.round x).toOption).getD 0
  | .error _ => 0

/-- The double, zero for what is no number. -/
def floatOrZero (v : Value) : Float :=
  (v.toFloat.toOption).getD 0.0

/-- A text in a base, for what can be turned into a whole number, else a zero. -/
def baseText (write : Int → List Char) (v : Value) : Value :=
  match v.toWhole with
  | .ok n => ofChars (write n)
  | .error _ => .text "0"

/-- The number that the numeral at the start of a text stands for. -/
def leadingNumber (v : Value) : Float :=
  match chars v with
  | .ok cs => (readFloat? (leadingNumeral cs)).getD 0.0
  | .error _ => 0.0

/-- A number as text, with a space in the place of the sign. -/
def signedText (v : Value) : Value :=
  match v.toFloat with
  | .ok x => .text ((if x >= 0.0 then " " else "") ++ floatText x)
  | .error _ => .text " 0"

/-- Whether the text of a value is a numeral. -/
def isNumeric (v : Value) : Bool :=
  match chars v with
  | .ok cs => (readFloat? cs).isSome
  | .error _ => false

/-- The words for true and the words for false. -/
def trueWords : List String := ["true", "yes", "on", "1", "-1"]

/-- The words for false. -/
def falseWords : List String := ["false", "no", "off", "0"]

/-- The Boolean a value stands for; some texts are words for one. -/
def toBool : Value → Bool
  | .text s =>
    let word := String.ofList (strip (lower s.toList))
    if trueWords.contains word then true
    else if falseWords.contains word then false
    else !s.isEmpty
  | v => v.truthy

end ScriptHost.NumberFunction
