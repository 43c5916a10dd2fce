import ScriptHost.Builtin.NumberFunction
import ScriptHost.Builtin.Signature
import ScriptHost.Value.Arithmetic
import ScriptHost.Value.Slice

/-!
# Functions of formulas

The few functions that formulas can call, and the operations on sequences. Unlike the script's own
functions of the same names they do not take texts for numbers.
-/

namespace ScriptHost.Formula

open ScriptHost.Number ScriptHost.Text

/-- The items that a value goes through one after the other. -/
def itemsOf : Value → Except Fault (List Value)
  | .list vs | .tuple vs => .ok vs
  | .text s => .ok (s.toList.map fun c => .text (String.ofList [c]))
  | v => .error (.notIterable v.typeName)

/-- The item at an index; a negative one counts from the end. -/
def itemAt {α : Type} (what : String) (xs : List α) (i : Int) : Except Fault α :=
  let k := if i < 0 then i + xs.length else i
  if k < 0 then .error (.indexRange what)
  else
    match xs[k.toNat]? with
    | some x => .ok x
    | none => .error (.indexRange what)

/-- The item of a sequence under an index. -/
def indexSequence (s index : Value) : Except Fault Value :=
  match index.whole? with
  | none => .error (.badIndexType s.typeName index.typeName)
  | some i =>
    match s with
    | .text t => (itemAt "string" t.toList i).map fun c => .text (String.ofList [c])
    | .list vs => itemAt "list" vs i
    | .tuple vs => itemAt "tuple" vs i
    | .bytes b => (itemAt "index" b i).map fun x => .int x.toNat
    | v => .error (.notSubscriptable v.typeName)

/-- One end of a slice. -/
def boundOf : Value → Except Fault (Option Int)
  | .null => .ok none
  | v =>
    match v.whole? with
    | some n => .ok (some n)
    | none => .error .badSlice

/-- A slice of a sequence. -/
def sliceSequence (s lo hi step : Value) : Except Fault Value := do
  let step := (← boundOf step).getD 1
  let lo ← boundOf lo
  let hi ← boundOf hi
  if step == 0 then throw .zeroStep
  match s with
  | .text t => return .text (String.ofList (Slice.stepped lo hi step t.toList))
  | .list vs => return .list (Slice.stepped lo hi step vs)
  | .tuple vs => return .tuple (Slice.stepped lo hi step vs)
  | .bytes b => return .bytes (Slice.stepped lo hi step b)
  | v => throw (.notSubscriptable v.typeName)

/-- Whether a value is in another one: a part of a text, or an item. -/
def within (v container : Value) : Except Fault Bool :=
  match container, v with
  | .text t, .text s => .ok (occurs s.toList t.toList)
  | .text _, v => .error (.notContainer v.typeName)
  | .list vs, v | .tuple vs, v => .ok (vs.any fun x => x.same v)
  | c, _ => .error (.notContainer c.typeName)

/-- Whether two values are one and the same. Numbers and texts have no place of their own: they are
so when nothing tells them apart. -/
def identical : Value → Value → Bool
  | .null, .null => true
  | .bool a, .bool b => a == b
  | .int a, .int b => a == b
  | .float x, .float y => x.toBits == y.toBits
  | .text s, .text t => s == t
  | .object _ a, .object _ b => a == b
  | .function _ (.known a), .function _ (.known b) => a == b
  | _, _ => false

/-! ### Putting values into a text -/

/-- Writes one value in the way that a letter asks for. -/
def formatOne (letter : Char) (v : Value) : Except Fault String :=
  match letter with
  | 's' => v.display
  | 'r' => v.quoted
  | 'd' | 'i' =>
    match v with
    | .float x => do wholeText (← Value.floatToWhole Binary.truncate x)
    | v =>
      match v.whole? with
      | some n => wholeText n
      | none => .error .formatting
  | _ => .error .formatting

/-- Fills the places of a text; the values that are left over come with the result. -/
def fillPlaces : List Char → List Value → Except Fault (List Char × List Value)
  | [], vs => .ok ([], vs)
  | '%' :: '%' :: cs, vs => do
    let (out, left) ← fillPlaces cs vs
    return ('%' :: out, left)
  | '%' :: c :: cs, v :: vs => do
    let s ← formatOne c v
    let (out, left) ← fillPlaces cs vs
    return (s.toList ++ out, left)
  | '%' :: _, _ => .error .formatting
  | c :: cs, vs => do
    let (out, left) ← fillPlaces cs vs
    return (c :: out, left)

/-- Whether a value may be left over: it could have been asked for items by name. -/
def hasItems : Value → Bool
  | .list _ | .bytes _ => true
  | .object kind _ => kind == .dictionary || kind == .automation
  | _ => false

/-- A text with values put into its places. -/
def formatText (s : String) (v : Value) : Except Fault Value := do
  let values :=
    match v with
    | .tuple vs => vs
    | v => [v]
  let (out, left) ← fillPlaces s.toList values
  if left.isEmpty || hasItems v then return .text (String.ofList out) else throw .formatting

/-- The remainder of two numbers, or a text with values put into it. -/
def remainderOf : Value → Value → Except Fault Value
  | .text s, v => formatText s v
  | a, b => Value.modOp.apply a b

/-! ### The functions -/

/-- The size of a number. -/
def absolute (v : Value) : Except Fault Value :=
  match v.number? with
  | some (.int n) => .ok (.int n.natAbs)
  | some (.float x) => .ok (.float x.abs)
  | none =>
    match v with
    | .complex a => .ok (.float a.size)
    | .span s => .ok (.span ⟨s.micros.natAbs⟩)
    | v => .error (.badUnary "abs()" v.typeName)

/-- A whole number rounded to a multiple of a power of ten, a half to the even one. -/
def roundTens (n : Int) (places : Nat) : Int :=
  let p := tenPow places
  let q : Int := roundDiv n.natAbs p * p
  if n < 0 then Int.neg q else q

/-- A number rounded to a number of places; without one, to a whole number. -/
def roundNumber (v places : Value) : Except Fault Value :=
  match v.number? with
  | none => .error (.noAttribute v.typeName "__round__")
  | some (.float x) => NumberFunction.roundFloat x places
  | some (.int n) =>
    match places with
    | .null => .ok (.int n)
    | p =>
      match p.whole? with
      | none => .error (.notIndex p.typeName)
      | some k => .ok (.int (if k < 0 then roundTens n (min (-k).toNat 100000) else n))

/-- The number of items. -/
def lengthOf (v : Value) : Except Fault Value :=
  match v with
  | .text s => .ok (.int s.length)
  | .list vs | .tuple vs => .ok (.int vs.length)
  | .bytes b => .ok (.int b.length)
  | v => .error (.noLength v.typeName)

/-- The value of a digit in a base up to thirty-six. -/
def digitIn? (base : Nat) (c : Char) : Option Nat :=
  let n :=
    if c.isDigit then c.toNat - 48
    else if c.isAlpha then c.toLower.toNat - 87
    else base
  if n < base then some n else none

/-- The value of digits in a base; single low lines may stand between them. -/
def digitsIn? (base : Nat) (after : Bool) (acc : Nat) : List Char → Option Nat
  | [] => if after then some acc else none
  | '_' :: cs => if after then digitsIn? base false acc cs else none
  | c :: cs => (digitIn? base c).bind fun d => digitsIn? base true (base * acc + d) cs

/-- The marks of the bases that have one. -/
def baseMarks : List (Char × Nat) := [('x', 16), ('o', 8), ('b', 2)]

/-- Takes off the mark of a base, which may stand before a numeral in that base or in an open one.
-/
def takeMark (base : Nat) (cs : List Char) : Nat × List Char :=
  match cs with
  | '0' :: c :: rest =>
    match baseMarks.lookup c.toLower with
    | some b =>
      if base == b || base == 0 then (b, if rest.head? == some '_' then rest.drop 1 else rest)
      else (base, cs)
    | none => (base, cs)
  | _ => (base, cs)

/-- The whole number that a text stands for in a base; base zero leaves it to the text. -/
def wholeIn (s : String) (base : Int) : Except Fault Value :=
  if base != 0 && (base < 2 || 36 < base) then .error (.badWholeText s)
  else
    let (negative, body) := takeSign (plainNumeral s.toList)
    let (b, digits) := takeMark base.toNat body
    let zeros := digits.all fun c => c == '0' || c == '_'
    if b == 0 && digits.head? == some '0' && !zeros then .error (.badWholeText s)
    else
      match digitsIn? (if b == 0 then 10 else b) false 0 digits with
      | some n => .ok (.int (if negative then Int.neg n else n))
      | none => .error (.badWholeText s)

/-- A whole number from a text in a base. -/
def wholeNumber (v base : Value) : Except Fault Value :=
  match base.whole?, v with
  | some n, .text s => wholeIn s n
  | none, _ => .error (.notIndex base.typeName)
  | some _, v => .error (.notWhole v.typeName)

/-- The first item that no other one beats. -/
def best (op : CompareOp) (first : Value) : List Value → Except Fault Value
  | [] => .ok first
  | v :: vs => do
    let better ← v.compareWith op first
    best op (if better then v else first) vs

/-- The best of the arguments, or of the items of the only one; `otherwise` stands for the best of
no items. -/
def bestOf (name : String) (op : CompareOp) (args : List Value) (otherwise : Option Value) :
    Except Fault Value :=
  match args, otherwise with
  | [], _ => .error (.missingArguments name ["iterable"])
  | [v], otherwise => do
    match ← itemsOf v, otherwise with
    | [], none => throw (.emptyChoice name)
    | [], some v => return v
    | x :: xs, _ => best op x xs
  | x :: xs, none => best op x xs
  | _, some _ => .error (.unexpectedKeyword name "default")

/-- The items added to a start value, which may not be a text. -/
def total (items start : Value) : Except Fault Value := do
  if let .text _ := start then throw (.badConcat "int" "str")
  (← itemsOf items).foldlM Value.add start

/-- The functions that formulas can call, with the kind of thing that each is. -/
def functionKinds : List (String × String) :=
  [("abs", "builtin_function_or_method"), ("round", "builtin_function_or_method"), ("int", "type"),
    ("float", "type"), ("str", "type"), ("len", "builtin_function_or_method"),
    ("min", "builtin_function_or_method"), ("max", "builtin_function_or_method"),
    ("sum", "builtin_function_or_method"), ("math", "module")]

/-- Calls a function. -/
def apply (name : String) (args : List Value) (named : List (String × Value)) :
    Except Fault Value :=
  match name, args, named with
  | "abs", [v], [] => absolute v
  | "len", [v], [] => lengthOf v
  | "float", [], [] => .ok (.float 0.0)
  | "float", [v], [] => v.toFloat.map .float
  | "str", [], [] => .ok (.text "")
  | "str", [v], [] | "str", [], [("object", v)] => v.display.map .text
  | "int", [], [] => .ok (.int 0)
  | "int", [v], [] => v.toWhole.map .int
  | "int", [v, base], [] | "int", [v], [("base", base)] => wholeNumber v base
  | "min", args, [] => bestOf "min" .lt args none
  | "min", args, [("default", v)] => bestOf "min" .lt args (some v)
  | "max", args, [] => bestOf "max" .gt args none
  | "max", args, [("default", v)] => bestOf "max" .gt args (some v)
  | "sum", [v], [] => total v (.int 0)
  | "sum", [v, start], [] | "sum", [v], [("start", start)] => total v start
  | "round", args, named =>
    match Signature.bind ⟨"round", [need "number", given "ndigits" .null], false, false⟩ args named
      with
    | .ok [v, places] => roundNumber v places
    | .ok _ => .error (.missingArguments "round" ["number"])
    | .error e => .error e
  | name, _, _ => .error (.tooManyArguments name 1 1 args.length)

/-- A number as a double, for a function on doubles. -/
def realOf (v : Value) : Except Fault Float :=
  match v.number? with
  | some n => Value.floatOf n
  | none => .error (.notReal v.typeName)

/-- A whole number near a number, by the rounding given. -/
def wholeNear (round : Binary → Int) (v : Value) : Except Fault Value :=
  match v.number? with
  | some (.int n) => .ok (.int n)
  | some (.float x) => (Value.floatToWhole round x).map .int
  | none => .error (.notReal v.typeName)

/-- Calls a function on numbers. -/
def applyMath (name : String) (args : List Value) : Except Fault Value :=
  match name, args with
  | "floor", [v] => wholeNear Binary.floor v
  | "ceil", [v] => wholeNear Binary.ceil v
  | "trunc", [v] => wholeNear Binary.truncate v
  | "fabs", [v] => do return .float (← realOf v).abs
  | "sqrt", [v] => do
    let x ← realOf v
    if x < 0.0 then throw .mathDomain
    return .float x.sqrt
  | name, _ => .error (.noAttribute "module" name)

/-- The constants among the functions on numbers, and the functions themselves. -/
def mathMember (name : String) : Except Fault Value :=
  match name with
  | "pi" => .ok (.float 3.141592653589793)
  | "e" => .ok (.float 2.718281828459045)
  | "tau" => .ok (.float 6.283185307179586)
  | "inf" => .ok (.float (1.0 / 0.0))
  | "nan" => .ok (.float (0.0 / 0.0))
  | "floor" | "ceil" | "trunc" | "fabs" | "sqrt" =>
    .ok (.function "builtin_function_or_method" (.known ("math." ++ name)))
  | name => .error (.noAttribute "module" name)

end ScriptHost.Formula
