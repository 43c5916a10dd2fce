import ScriptHost.Number.Shortest

/-!
# Complex numbers

A power of a negative number with a fraction as its exponent is a complex number. Both parts are
doubles, and products, quotients and powers are reckoned with them in a fixed order, so that each
has one result to the last bit.
-/

namespace ScriptHost.Number

/-- A complex number. -/
structure ComplexNumber where
  re : Float
  im : Float

namespace ComplexNumber

/-- A double as a complex number. -/
def ofFloat (x : Float) : ComplexNumber := ⟨x, 0.0⟩

/-- Whether both parts of a number are zero. -/
def isZero (a : ComplexNumber) : Bool :=
  a.re == 0.0 && a.im == 0.0

/-- Whether two numbers agree in both parts. -/
def same (a b : ComplexNumber) : Bool :=
  a.re == b.re && a.im == b.im

/-- The sum of two numbers. -/
def add (a b : ComplexNumber) : ComplexNumber := ⟨a.re + b.re, a.im + b.im⟩

/-- The difference of two numbers. -/
def sub (a b : ComplexNumber) : ComplexNumber := ⟨a.re - b.re, a.im - b.im⟩

/-- The product of two numbers. -/
def mul (a b : ComplexNumber) : ComplexNumber :=
  ⟨a.re * b.re - a.im * b.im, a.re * b.im + a.im * b.re⟩

/-- The negative of a number. -/
def neg (a : ComplexNumber) : ComplexNumber := ⟨-a.re, -a.im⟩

/-- The quotient of two numbers; the larger part of the divisor is divided out first, which keeps
the steps small. There is none for a divisor of zero. -/
def div? (a b : ComplexNumber) : Option ComplexNumber :=
  if b.im.abs ≤ b.re.abs then
    if b.re == 0.0 then none
    else
      let r := b.im / b.re
      let d := b.re + b.im * r
      some ⟨(a.re + a.im * r) / d, (a.im - a.re * r) / d⟩
  else if b.re.abs ≤ b.im.abs then
    let r := b.re / b.im
    let d := b.re * r + b.im
    some ⟨(a.re * r + a.im) / d, (a.im * r - a.re) / d⟩
  else some ⟨0.0 / 0.0, 0.0 / 0.0⟩

/-- The distance from zero. -/
def size (a : ComplexNumber) : Float :=
  if a.im == 0.0 then a.re.abs
  else if a.re == 0.0 then a.im.abs
  else
    let m := if a.re.abs < a.im.abs then a.im.abs else a.re.abs
    let x := a.re / m
    let y := a.im / m
    m * (x * x + y * y).sqrt

/-- A power by way of length and angle: the length is raised to the exponent and the angle
multiplied by it. -/
def polarPower (a b : ComplexNumber) : ComplexNumber :=
  let angle := Float.atan2 a.im a.re
  let length := a.size.pow b.re
  let turn := angle * b.re
  if b.im == 0.0 then ⟨length * turn.cos, length * turn.sin⟩
  else
    let length := length * (-angle * b.im).exp
    let turn := turn + b.im * a.size.log
    ⟨length * turn.cos, length * turn.sin⟩

/-- A power with a natural exponent, by squaring. -/
def naturalPower (a : ComplexNumber) (n : Nat) : ComplexNumber :=
  go n.log2 1 a ⟨1.0, 0.0⟩
where
  /-- Takes in the bits of the exponent from `mask` upward. -/
  go (left mask : Nat) (square result : ComplexNumber) : ComplexNumber :=
    let result := if n &&& mask != 0 then result.mul square else result
    match left with
    | 0 => result
    | left + 1 => go left (2 * mask) (square.mul square) result

/-- The largest exponent for which powers are reckoned by squaring. -/
def squaringLimit : Float := 100.0

/-- A power; there is none of zero to an exponent that is negative or complex. -/
def pow? (a b : ComplexNumber) : Option ComplexNumber :=
  if b.im == 0.0 && b.re == b.re.floor && b.re.abs ≤ squaringLimit then
    let p := a.naturalPower b.re.abs.toUInt64.toNat
    if 0.0 ≤ b.re then some p else div? ⟨1.0, 0.0⟩ p
  else if a.isZero then
    if b.im != 0.0 || b.re < 0.0 then none else some ⟨0.0, 0.0⟩
  else some (a.polarPower b)

/-- A part of a complex number, without a point behind a whole number. -/
def partText (x : Float) : String :=
  let cs := (floatText x).toList
  let n := cs.length - 2
  String.ofList (if cs.drop n == ['.', '0'] then cs.take n else cs)

/-- A complex number; a zero real part is left out. -/
def text (a : ComplexNumber) : String :=
  let tail := partText a.im ++ "j"
  if a.re == 0.0 && !(floatText a.re).startsWith "-" then tail
  else "(" ++ partText a.re ++ (if tail.startsWith "-" then "" else "+") ++ tail ++ ")"

end ComplexNumber

end ScriptHost.Number
