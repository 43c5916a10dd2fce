import ScriptHost.Value.Basic

/-!
# Arithmetic on values

Whole numbers are unbounded; division to the floor and its remainder go together; a double in an
operation makes the whole operation one on doubles, and a complex number one on complex numbers.
Texts and lists can be joined and repeated. Two moments, or two dates, have a span of time between
them, which can be added to moments and dates.
-/

namespace ScriptHost.Value

open ScriptHost.Calendar ScriptHost.Number

/-- Operations on two whole numbers, on two doubles or on two complex numbers. -/
structure NumOp where
  symbol : String
  ints : Int → Int → Except Fault Value
  floats : Float → Float → Except Fault Value
  complexes : ComplexNumber → ComplexNumber → Except Fault Value

/-- The double of a number, if it is not too large. -/
def floatOf : Num → Except Fault Float
  | .float x => .ok x
  | .int n =>
    match ofInt? n with
    | some x => .ok x
    | none => .error .tooLargeForFloat

/-- Applies an operation to two numbers. -/
def NumOp.onNums (op : NumOp) : Num → Num → Except Fault Value
  | .int a, .int b => op.ints a b
  | a, b => do
    let x ← floatOf a
    let y ← floatOf b
    op.floats x y

/-- A value as a complex number, if it is a number. -/
def asComplex? : Value → Option (Except Fault ComplexNumber)
  | complex a => some (.ok a)
  | v => v.number?.map fun n => (floatOf n).map .ofFloat

/-- Applies an operation to two values, both of which must be numbers. -/
def NumOp.apply (op : NumOp) (a b : Value) : Except Fault Value :=
  match a.number?, b.number? with
  | some m, some n => op.onNums m n
  | _, _ =>
    match asComplex? a, asComplex? b with
    | some m, some n => do op.complexes (← m) (← n)
    | _, _ => .error (.unsupportedOperands op.symbol a.typeName b.typeName)

/-- Refuses an operation on complex numbers. -/
def refuseComplex (symbol : String) (_ _ : ComplexNumber) : Except Fault Value :=
  .error (.unsupportedOperands symbol "complex" "complex")

/-- Addition of numbers. -/
def addOp : NumOp :=
  ⟨"+", fun a b => .ok (int (a + b)), fun x y => .ok (float (x + y)),
    fun a b => .ok (complex (a.add b))⟩

/-- Subtraction of numbers. -/
def subOp : NumOp :=
  ⟨"-", fun a b => .ok (int (a - b)), fun x y => .ok (float (x - y)),
    fun a b => .ok (complex (a.sub b))⟩

/-- Multiplication of numbers. -/
def mulOp : NumOp :=
  ⟨"*", fun a b => .ok (int (a * b)), fun x y => .ok (float (x * y)),
    fun a b => .ok (complex (a.mul b))⟩

/-- The double nearest to a quotient of whole numbers. -/
def quotient (a b : Int) : Except Fault Value :=
  if b == 0 then .error (.divisionByZero "division by zero")
  else
    let x := nearest ((a < 0) != (b < 0)) a.natAbs b.natAbs
    if x.isInf then .error .quotientTooLarge else .ok (float x)

/-- A quotient of complex numbers. -/
def complexQuotient (a b : ComplexNumber) : Except Fault Value :=
  match a.div? b with
  | some c => .ok (complex c)
  | none => .error (.divisionByZero "complex division by zero")

/-- Division. -/
def divOp : NumOp := ⟨"/", quotient,
  fun x y =>
    if y == 0.0 then .error (.divisionByZero "float division by zero") else .ok (float (x / y)),
  complexQuotient⟩

/-- Division to the floor. -/
def floorDivOp : NumOp := ⟨"//",
  fun a b =>
    if b == 0 then .error (.divisionByZero "integer division or modulo by zero")
    else .ok (int (a.fdiv b)),
  fun x y =>
    if y == 0.0 then .error (.divisionByZero "float floor division by zero")
    else .ok (float (Number.floorDiv x y)),
  refuseComplex "//"⟩

/-- The remainder of division to the floor. -/
def modOp : NumOp := ⟨"%",
  fun a b =>
    if b == 0 then .error (.divisionByZero "integer modulo by zero") else .ok (int (a.fmod b)),
  fun x y =>
    if y == 0.0 then .error (.divisionByZero "float modulo") else .ok (float (Number.floorMod x y)),
  refuseComplex "%"⟩

/-- Whether a double is a whole number. -/
def isWholeFloat (x : Float) : Bool :=
  x.floor == x

/-- A power of complex numbers. -/
def powComplex (a b : ComplexNumber) : Except Fault Value :=
  match a.pow? b with
  | some c =>
    if (c.re.isInf || c.im.isInf) && a.size.isFinite && b.size.isFinite then
      .error .tooLargeForFloat
    else .ok (complex c)
  | none => .error (.divisionByZero "0.0 to a negative or complex power")

/-- A power of doubles; that of a negative one to a fraction is complex. -/
def powFloat (x y : Float) : Except Fault Value :=
  if y == 0.0 || x == 1.0 then .ok (float 1.0)
  else if x == 0.0 && y < 0.0 then
    .error (.divisionByZero "0.0 cannot be raised to a negative power")
  else if x < 0.0 && !x.isInf && !y.isInf && !y.isNaN && !isWholeFloat y then
    powComplex (.ofFloat x) (.ofFloat y)
  else
    let r := x.pow y
    if r.isInf && !x.isInf && !y.isInf then .error .tooLargeForFloat else .ok (float r)

/-- The most bits a power of whole numbers may have: memory is taken to end there. -/
def powerBits : Nat := 50000000

/-- A power of whole numbers; a negative exponent gives a double. -/
def powInt (a b : Int) : Except Fault Value :=
  if 0 ≤ b then
    if a.natAbs ≤ 1 then
      .ok (int (if b == 0 then 1 else if a == -1 then (if b % 2 == 0 then 1 else -1) else a))
    else if powerBits < a.natAbs.log2 * b.toNat then .error .outOfMemory
    else .ok (int (a.pow b.toNat))
  else do
    let x ← floatOf (.int a)
    let y ← floatOf (.int b)
    powFloat x y

/-- Powers. -/
def powOp : NumOp := ⟨"** or pow()", powInt, powFloat, powComplex⟩

/-- The longest sequence that repetition makes: memory is taken to end there. -/
def repeatLimit : Nat := 100000000

/-- Items repeated. A count is a signed word of 64 bits; a negative one leaves nothing. -/
def repeated {α : Type} (xs : List α) (n : Int) : Except Fault (List α) :=
  if n < -(twoPow 63 : Int) || twoPow 63 ≤ n then .error .countTooLarge
  else if xs.isEmpty then .ok []
  else if repeatLimit < xs.length * n.toNat then .error .outOfMemory
  else .ok (List.replicate n.toNat xs).flatten

/-- Whether a value is a text, a list or the like. -/
def isSequence : Value → Bool
  | text _ | list _ | tuple _ | bytes _ => true
  | _ => false

/-- A sequence times a count. -/
def repeatBy (s count : Value) : Except Fault Value :=
  match count.whole? with
  | none => .error (.badRepeat count.typeName)
  | some n =>
    match s with
    | text t => (repeated t.toList n).map fun cs => text (String.ofList cs)
    | list xs => (repeated xs n).map list
    | tuple xs => (repeated xs n).map tuple
    | bytes b => (repeated b n).map bytes
    | v => .error (.unsupportedOperands "*" v.typeName count.typeName)

/-- The moment a span after a moment, if the calendar has it. -/
def momentAfter (m : Moment) (s : Span) : Except Fault Value :=
  match Moment.ofMicros? (m.micros + s.micros) with
  | some m => .ok (moment m)
  | none => .error .dateRange

/-- The date so many whole days after a date, if the calendar has it. -/
def dateAfter (d : Date) (days : Int) : Except Fault Value :=
  match Date.ofOrdinal? (d.ordinal + days) with
  | some d => .ok (date d)
  | none => .error .dateRange

/-- The sum of two values, or two sequences joined. -/
def add : Value → Value → Except Fault Value
  | text s, text t => .ok (text (s ++ t))
  | list xs, list ys => .ok (list (xs ++ ys))
  | tuple xs, tuple ys => .ok (tuple (xs ++ ys))
  | bytes a, bytes b => .ok (bytes (a ++ b))
  | text _, b => .error (.badConcat "str" b.typeName)
  | list _, b => .error (.badConcat "list" b.typeName)
  | tuple _, b => .error (.badConcat "tuple" b.typeName)
  | span a, span b => .ok (span ⟨a.micros + b.micros⟩)
  | moment m, span s | span s, moment m => momentAfter m s
  | date d, span s | span s, date d => dateAfter d s.days
  | a, b => addOp.apply a b

/-- The difference of two values. -/
def sub : Value → Value → Except Fault Value
  | moment a, moment b => .ok (span ⟨a.micros - b.micros⟩)
  | date a, date b => .ok (span (.ofParts ((a.ordinal : Int) - b.ordinal) 0 0))
  | span a, span b => .ok (span ⟨a.micros - b.micros⟩)
  | moment m, span s => momentAfter m ⟨-s.micros⟩
  | date d, span s => dateAfter d (-s.days)
  | a, b => subOp.apply a b

/-- The product of two numbers, a span of time taken several times, or a sequence repeated. -/
def mul (a b : Value) : Except Fault Value :=
  if a.isSequence then repeatBy a b
  else if b.isSequence && (a.number?).isSome then repeatBy b a
  else
    match a, b, a.whole?, b.whole? with
    | span s, _, _, some n | _, span s, some n, _ => .ok (span ⟨s.micros * n⟩)
    | a, b, _, _ => mulOp.apply a b

/-- A whole number below `2^k` that agrees with `n` in the lowest `k` bits. -/
def lowBits (k : Nat) (n : Int) : Nat :=
  (n.emod (twoPow k)).toNat

/-- The whole number whose lowest bits are given, the highest of them being the sign. -/
def ofBits (k n : Nat) : Int :=
  if n < twoPow (k - 1) then n else (n : Int) - twoPow k

/-- Combines two whole numbers bit by bit, negative ones as if they had endless leading ones. -/
def bitwise (f : Nat → Nat → Nat) (a b : Int) : Int :=
  let k := max a.natAbs.log2 b.natAbs.log2 + 2
  ofBits k (f (lowBits k a) (lowBits k b))

/-- An operation on bits: of Booleans it gives a Boolean. -/
def bitOp (symbol : String) (f : Nat → Nat → Nat) (g : Bool → Bool → Bool) (a b : Value) :
    Except Fault Value :=
  match a, b with
  | bool x, bool y => .ok (bool (g x y))
  | _, _ =>
    match a.whole?, b.whole? with
    | some m, some n => .ok (int (bitwise f m n))
    | _, _ => .error (.unsupportedOperands symbol a.typeName b.typeName)

/-- The bits both numbers have. -/
def bitAnd (a b : Value) : Except Fault Value := bitOp "&" (· &&& ·) (· && ·) a b

/-- The bits either number has. -/
def bitOr (a b : Value) : Except Fault Value := bitOp "|" (· ||| ·) (· || ·) a b

/-- The bits just one of the numbers has. -/
def bitXor (a b : Value) : Except Fault Value := bitOp "^" (· ^^^ ·) (· != ·) a b

/-- A number times a power of two. -/
def shiftLeft (a b : Value) : Except Fault Value :=
  match a.whole?, b.whole? with
  | some m, some n =>
    if n < 0 then .error .negativeShift
    else if m == 0 then .ok (int 0)
    else if powerBits < n.toNat then .error .outOfMemory
    else .ok (int (m * twoPow n.toNat))
  | _, _ => .error (.unsupportedOperands "<<" a.typeName b.typeName)

/-- A number divided by a power of two, to the floor. -/
def shiftRight (a b : Value) : Except Fault Value :=
  match a.whole?, b.whole? with
  | some m, some n =>
    if n < 0 then .error .negativeShift
    else if powerBits < n.toNat then .ok (int (if m < 0 then -1 else 0))
    else .ok (int (m.fdiv (twoPow n.toNat)))
  | _, _ => .error (.unsupportedOperands ">>" a.typeName b.typeName)

/-- The negative of a number. -/
def neg (v : Value) : Except Fault Value :=
  match v.number? with
  | some (.int n) => .ok (int (-n))
  | some (.float x) => .ok (float (-x))
  | none =>
    match v with
    | complex a => .ok (complex a.neg)
    | span s => .ok (span ⟨-s.micros⟩)
    | v => .error (.badUnary "unary -" v.typeName)

/-- A number itself; a Boolean becomes a whole number. -/
def pos (v : Value) : Except Fault Value :=
  match v.number? with
  | some (.int n) => .ok (int n)
  | some (.float x) => .ok (float x)
  | none =>
    match v with
    | complex a => .ok (complex a)
    | span s => .ok (span s)
    | v => .error (.badUnary "unary +" v.typeName)

/-- A whole number with all bits turned. -/
def invert (v : Value) : Except Fault Value :=
  match v.whole? with
  | some n => .ok (int (-n - 1))
  | none => .error (.badUnary "unary ~" v.typeName)

end ScriptHost.Value
