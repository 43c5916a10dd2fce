import ScriptHost.Text.Ranges

/-!
# Digits of all scripts

A decimal digit stands for its value in some script's run of ten; a digit in the wider sense may
also be a superscript or a circled figure, which no numeral accepts.
-/

namespace ScriptHost.Text

/-- The code points of zero in the scripts that have decimal digits, plain digits left out. -/
def zeros : Array Nat :=
  ((tableItems [
    "660 6f0 7c0 966 9e6 a66 ae6 b66 be6 c66 ce6 d66 de6 e50 ed0 f20 1040 1090 17e0 1810 1946",
    "19d0 1a80 1a90 1b50 1bb0 1c40 1c50 a620 a8d0 a900 a9d0 a9f0 aa50 abf0 ff10 104a0 10d30 11066",
    "110f0 11136 111d0 112f0 11450 114d0 11650 116c0 11730 118e0 11950 11c50 11d50 11da0 16a60",
    "16ac0 16b50 1d7ce 1d7d8 1d7e2 1d7ec 1d7f6 1e140 1e2f0 1e950 1fbf0"]).map
    readHex).toArray

/-- The value of a decimal digit of any script. -/
def decimalValue? (c : Char) : Option Nat :=
  let n := c.toNat
  if n < 128 then
    if 48 ≤ n ∧ n ≤ 57 then some (n - 48) else none
  else
    (zeros.find? fun z => z ≤ n && n < z + 10).map (n - ·)

/-- Whether a character is a decimal digit of some script. -/
def isDecimal (c : Char) : Bool :=
  (decimalValue? c).isSome

/-- Superscript, subscript and enclosed figures: digits that no numeral uses. -/
def figures : Ranges :=
  .ofRows [
    "b2+1 5 12af+8 668 695 3+5 6+9 3d6+8 b+8 b+8 59 a+8 1 276+8 1+8 1+8 e2ad+3 41c+8 1e9+8 e0a5+a"]

/-- A digit in the wider sense. -/
def isDigit (c : Char) : Bool :=
  isDecimal c || (128 ≤ c.toNat && figures.contains c.toNat)

end ScriptHost.Text
