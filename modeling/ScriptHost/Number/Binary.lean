/-!
# Doubles as exact numbers

A finite double is a sign, a whole mantissa and a power of two. Everything that must be exact
(rounding to places, shortest digits, remainders, comparison with whole numbers) is done on this
form, and a quotient of whole numbers is brought back to the nearest double, ties to the even
mantissa.
-/

namespace ScriptHost.Number

/-- A power of two. -/
def twoPow (k : Nat) : Nat := Nat.pow 2 k

/-- A power of ten. -/
def tenPow (k : Nat) : Nat := Nat.pow 10 k

/-- The number `±mantissa · 2^exponent`. -/
structure Binary where
  negative : Bool
  mantissa : Nat
  exponent : Int
  deriving Repr

/-- What a double stands for. -/
inductive Parts where
  | finite (b : Binary)
  | infinite (negative : Bool)
  | notANumber

/-- Takes a double apart. -/
def parts (x : Float) : Parts :=
  let bits : Nat := x.toBits.toNat
  let negative := bits / twoPow 63 == 1
  let e : Nat := bits / twoPow 52 % 2048
  let f : Nat := bits % twoPow 52
  if e == 2047 then
    if f == 0 then .infinite negative else .notANumber
  else if e == 0 then .finite ⟨negative, f, -1074⟩
  else .finite ⟨negative, f + twoPow 52, (e : Int) - 1075⟩

/-- The quotient rounded to the nearest whole number, a half to the even one. -/
def roundDiv (n d : Nat) : Nat :=
  let q := n / d
  let r := n % d
  if 2 * r < d then q else if d < 2 * r then q + 1 else if q % 2 == 0 then q else q + 1

/-- A power of two on either side of a fraction bar: `n · 2^e / d` as numerator and denominator. -/
def scale (n d : Nat) (e : Int) : Nat × Nat :=
  if 0 ≤ e then (n * twoPow e.toNat, d) else (n, d * twoPow (-e).toNat)

/-- The double with the given sign, mantissa and exponent; the mantissa is at most `2^53`, and below
`2^52` only for the smallest exponent. -/
def assemble (negative : Bool) (m : Nat) (e : Int) : Float :=
  let sign := if negative then twoPow 63 else 0
  let (m, e) := if m == twoPow 53 then (twoPow 52, e + 1) else (m, e)
  if m < twoPow 52 then Float.ofBits (sign + m).toUInt64
  else
    let biased := (e + 1075).toNat
    if 2047 ≤ biased then Float.ofBits (sign + 2047 * twoPow 52).toUInt64
    else Float.ofBits (sign + biased * twoPow 52 + (m - twoPow 52)).toUInt64

/-- The exponent of the double nearest to `n/d`, for which the mantissa has 53 bits unless that is
too small an exponent. -/
def exponentOf (n d : Nat) : Int :=
  let guess : Int := (Nat.log2 n : Int) - (Nat.log2 d : Int) - 52
  let s := scale n d (-guess)
  max (if s.1 < s.2 * twoPow 52 then guess - 1 else guess) (-1074)

/-- The double nearest to `±n/d`; beyond the largest double it is infinite. -/
def nearest (negative : Bool) (n d : Nat) : Float :=
  if n == 0 then assemble negative 0 (-1074)
  else
    let e := exponentOf n d
    let s := scale n d (-e)
    assemble negative (roundDiv s.1 s.2) e

/-- The double nearest to a whole number, unless it is beyond the largest double. -/
def ofInt? (n : Int) : Option Float :=
  let x := nearest (n < 0) n.natAbs 1
  if x.isInf then none else some x

namespace Binary

/-- The size of the number as a fraction. -/
def fraction (b : Binary) : Nat × Nat :=
  scale b.mantissa 1 b.exponent

/-- Puts the sign back. -/
def signed (b : Binary) (n : Nat) : Int :=
  if b.negative then -(n : Int) else n

/-- Toward zero. -/
def truncate (b : Binary) : Int :=
  let (n, d) := b.fraction
  b.signed (n / d)

/-- The greatest whole number that is not greater. -/
def floor (b : Binary) : Int :=
  let (n, d) := b.fraction
  Int.fdiv (b.signed n) d

/-- The least whole number that is not less. -/
def ceil (b : Binary) : Int :=
  let (n, d) := b.fraction
  Int.neg (Int.fdiv (-(b.signed n)) d)

/-- The nearest whole number, a half to the even one. -/
def round (b : Binary) : Int :=
  let (n, d) := b.fraction
  b.signed (roundDiv n d)

/-- The size times a power of ten, rounded to a whole number, a half to the even one. -/
def scaledRound (b : Binary) (places : Int) : Nat :=
  let (n, d) := b.fraction
  if 0 ≤ places then roundDiv (n * tenPow places.toNat) d
  else roundDiv n (d * tenPow (-places).toNat)

end Binary

/-- Compares a finite number with a whole number. -/
def Binary.compareInt (b : Binary) (k : Int) : Ordering :=
  let (n, d) := b.fraction
  compare (b.signed n) (k * d)

/-- The double rounded to a number of decimal places, a half (of the exact value) to the even digit.
-/
def roundPlaces (x : Float) (places : Int) : Float :=
  match parts x with
  | .finite b =>
    if 323 < places then x
    else if places < -308 then nearest b.negative 0 1
    else
      let q := b.scaledRound places
      if 0 ≤ places then nearest b.negative q (tenPow places.toNat)
      else nearest b.negative (q * tenPow (-places).toNat) 1
  | _ => x

/-- The mantissas of two numbers over the lesser of their exponents, and that exponent. -/
def Binary.aligned (a b : Binary) : Nat × Nat × Int :=
  let e := min a.exponent b.exponent
  (a.mantissa * twoPow (a.exponent - e).toNat, b.mantissa * twoPow (b.exponent - e).toNat, e)

/-- The remainder of division toward zero, exact, with the sign of the first number. -/
def remainder (x y : Float) : Float :=
  match parts x, parts y with
  | .finite a, .finite b =>
    let (m, n, e) := a.aligned b
    if n == 0 then 0.0 / 0.0
    else
      let (p, q) := scale (m % n) 1 e
      nearest a.negative p q
  | .finite _, .infinite _ => x
  | _, _ => 0.0 / 0.0

/-- Zero with the sign of a double. -/
def signedZero (x : Float) : Float :=
  if x.toBits.toNat / twoPow 63 == 1 then -0.0 else 0.0

/-- The remainder that goes with division to the floor: it has the sign of the divisor. -/
def floorMod (x y : Float) : Float :=
  let r := remainder x y
  if r == 0.0 then signedZero y
  else if (y < 0.0) != (r < 0.0) then r + y
  else r

/-- The double nearest to the quotient of two doubles, if the quotient is a whole number. -/
def wholeQuotient? (x y : Float) : Option Float :=
  match parts x, parts y with
  | .finite a, .finite b =>
    let (m, n, _) := a.aligned b
    if n != 0 && m % n == 0 then some (nearest (a.negative != b.negative) (m / n) 1) else none
  | _, _ => none

/-- The double nearest to the quotient of two doubles; the divisor is not zero. -/
def quotient (x y : Float) : Float :=
  match parts x, parts y with
  | .finite a, .finite b => nearest (a.negative != b.negative) (a.aligned b).1 (a.aligned b).2.1
  | _, _ => x / y

/-- The double nearest to one less than a double that is not positive. -/
def oneLess (x : Float) : Float :=
  match parts x with
  | .finite b => nearest true (b.fraction.1 + b.fraction.2) b.fraction.2
  | _ => x

/-- A double brought to the nearest whole number, a half to the floor. -/
def snap (x : Float) : Float :=
  match parts x with
  | .finite b =>
    let twice := 2 * (b.fraction.1 % b.fraction.2)
    let up : Bool := if b.negative then b.fraction.2 ≤ twice else b.fraction.2 < twice
    nearest b.negative (b.fraction.1 / b.fraction.2 + if up then 1 else 0) 1
  | _ => x

/-- Division to the floor. A quotient that is not whole is found toward zero, from what the
remainder leaves of the first number; it is rounded before it is brought down. -/
def floorDiv (x y : Float) : Float :=
  match wholeQuotient? x y with
  | some q => q
  | none =>
    match parts x, parts y with
    | .finite a, .finite b =>
      let (m, n, e) := a.aligned b
      if n == 0 then 0.0 / 0.0
      else
        let left := scale (m / n * n) 1 e
        let q := quotient (nearest a.negative left.1 left.2) y
        snap (if a.negative == b.negative then q else oneLess q)
    | .finite a, .infinite negative =>
      if a.negative == negative || a.mantissa == 0 then signedZero (x / y) else -1.0
    | _, _ => 0.0 / 0.0

end ScriptHost.Number
