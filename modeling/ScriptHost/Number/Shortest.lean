import ScriptHost.Number.Binary

/-!
# The shortest decimal that reads back

A double is written with the fewest decimal digits whose value lies in the interval of reals that
round to it. For one digit, two digits and so on the two neighbours of the exact value on that
decimal grid are tested; the first grid with a hit wins, and of two hits the nearer.
-/

namespace ScriptHost.Number

/-- The number `0.d₁d₂… · 10^point`. -/
structure Decimal where
  digits : List Char
  point : Int

/-- The digits of a whole number. -/
def natDigits (n : Nat) : List Char :=
  Nat.toDigits 10 n

theorem isDigit_of_mem_natDigits {n : Nat} {c : Char} (h : c ∈ natDigits n) : c.isDigit = true :=
  Nat.isDigit_of_mem_toDigits (by decide) (by decide) h

theorem notMem_natDigits {c : Char} (hc : c.isDigit = false) (n : Nat) : c ∉ natDigits n := by
  intro h
  rw [isDigit_of_mem_natDigits h] at hc
  cases hc

/-- A whole number is spelled out by its digits, behind a minus sign if it is negative. -/
theorem toList_toString (n : Int) :
    (toString n).toList = if 0 ≤ n then natDigits n.toNat else '-' :: natDigits (-n).toNat := by
  rw [Int.toString_eq_repr, Int.repr_eq_if]
  split
  · rw [Nat.toList_repr, natDigits]
  · rw [String.toList_append, Nat.toList_repr, natDigits]
    rfl

/-- How often `n` has to be multiplied by ten to reach `d`. -/
def tenfolds (d : Nat) : Nat → Nat → Nat
  | 0, _ => 0
  | fuel + 1, n => if d ≤ n then 0 else tenfolds d fuel (10 * n) + 1

/-- The `k` with `10^(k-1) ≤ n/d < 10^k`. -/
def decimalPoint (n d : Nat) : Int :=
  if d ≤ n then (natDigits (n / d)).length
  else 1 - (tenfolds d 400 n : Int)

/-- `n/d` divided by `10^p`, as a fraction. -/
def shiftTen (n d : Nat) (p : Int) : Nat × Nat :=
  if 0 ≤ p then (n, d * tenPow p.toNat) else (n * tenPow (-p).toNat, d)

/-- Of two neighbours `a`, `a + 1` of the value on a grid, the one that lies between the bounds, the
nearer one if both do. The value and the bounds have the common denominator `d`. -/
def pickNeighbour (value low high d : Nat) (closed : Bool) (p : Int) : Option Nat :=
  let inside (a : Nat) : Bool :=
    let (l, dl) := shiftTen low d p
    let (h, dh) := shiftTen high d p
    if closed then l ≤ a * dl && a * dh ≤ h else l < a * dl && a * dh < h
  let (v, dv) := shiftTen value d p
  let a := v / dv
  match inside a, inside (a + 1) with
  | true, false => some a
  | false, true => some (a + 1)
  | true, true =>
    let r := v % dv
    if 2 * r < dv then some a else if dv < 2 * r then some (a + 1)
    else if a % 2 == 0 then some a else some (a + 1)
  | false, false => none

/-- Tries grids of more and more digits. -/
def shortestFrom (value low high d : Nat) (closed : Bool) (point : Int) : Nat → Nat → Decimal
  | 0, _ => ⟨natDigits (value / d), point⟩
  | fuel + 1, n =>
    match pickNeighbour value low high d closed (point - n) with
    | some a =>
      let ds := natDigits a
      -- rounding up may carry into one more digit
      ⟨ds, point + ((ds.length : Int) - n)⟩
    | none => shortestFrom value low high d closed point fuel (n + 1)

/-- Drops zeros at the end. -/
def trimZeros (ds : List Char) : List Char :=
  (ds.reverse.dropWhile (· == '0')).reverse

/-- The shortest digits of a finite double other than zero. -/
def Binary.shortest (b : Binary) : Decimal :=
  let closed := b.mantissa % 2 == 0
  let below := if b.mantissa == twoPow 52 && b.exponent != -1074 then 1 else 2
  let (unit, d) := scale 1 1 (b.exponent - 2)
  let value := 4 * b.mantissa * unit
  let low := (4 * b.mantissa - below) * unit
  let high := (4 * b.mantissa + 2) * unit
  let r := shortestFrom value low high d closed (decimalPoint value d) 20 1
  ⟨trimZeros r.digits, r.point⟩

/-- How a double is written: where positional notation ends, and whether a whole number keeps a
digit after the point. -/
structure FloatFormat where
  least : Int
  most : Int
  infinity : String
  notANumber : String

/-- Positional from 0.0001 up to sixteen digits before the point. -/
def plainFormat : FloatFormat := ⟨-3, 16, "inf", "nan"⟩

/-- Digits with the point after the first, and an exponent of at least two digits. -/
def scientific (d : Decimal) : List Char :=
  let e := d.point - 1
  let mantissa :=
    match d.digits with
    | [] => ['0']
    | [c] => [c]
    | c :: cs => c :: '.' :: cs
  let size := natDigits e.natAbs
  mantissa ++ 'e' :: (if e < 0 then '-' else '+') :: (if size.length < 2 then '0' :: size else size)

/-- Digits with zeros filled in before or behind them. -/
def positional (d : Decimal) : List Char :=
  if d.point ≤ 0 then '0' :: '.' :: (List.replicate (-d.point).toNat '0' ++ d.digits)
  else
    let n := d.point.toNat
    if d.digits.length ≤ n then d.digits ++ List.replicate (n - d.digits.length) '0' ++ ['.', '0']
    else d.digits.take n ++ '.' :: d.digits.drop n

/-- The text of a double in a format. -/
def FloatFormat.write (f : FloatFormat) (x : Float) : String :=
  match parts x with
  | .notANumber => f.notANumber
  | .infinite negative => if negative then "-" ++ f.infinity else f.infinity
  | .finite b =>
    let body :=
      if b.mantissa == 0 then ['0', '.', '0']
      else
        let d := b.shortest
        if f.least ≤ d.point && d.point ≤ f.most then positional d else scientific d
    String.ofList (if b.negative then '-' :: body else body)

/-- The text of a double. -/
def floatText (x : Float) : String :=
  plainFormat.write x

/-- The text of a double with a fixed number of places, a half of the exact value to the even digit.
-/
def fixedText (places : Nat) (x : Float) : String :=
  match parts x with
  | .notANumber => "nan"
  | .infinite negative => if negative then "-inf" else "inf"
  | .finite b =>
    let ds := natDigits (b.scaledRound places)
    let ds := List.replicate (places + 1 - ds.length) '0' ++ ds
    let n := ds.length - places
    let body := if places == 0 then ds else ds.take n ++ '.' :: ds.drop n
    String.ofList (if b.negative then '-' :: body else body)

end ScriptHost.Number
