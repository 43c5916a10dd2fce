import ScriptHost.Calendar.Span
import ScriptHost.Fault
import ScriptHost.Number.Complex
import ScriptHost.Number.Reading
import ScriptHost.Text.Search

/-!
# Values

A script's values are dynamic: numbers, texts, lists, dates, spans of time and references to
objects. A Boolean counts as the number zero or one wherever a number is asked for, and whole
numbers compare with doubles exactly.
-/

namespace ScriptHost

open ScriptHost.Calendar ScriptHost.Number ScriptHost.Text

/-- The classes of objects. -/
inductive ObjectKind where
  | dictionary
  | shell
  | fileSystem
  | file
  | folder
  | stream
  | automation
  | host
  | interpreter
  deriving DecidableEq, Repr

/-- The name of a class, as scripts see it. -/
def ObjectKind.name : ObjectKind → String
  | dictionary => "Dictionary"
  | shell => "WScriptShell"
  | fileSystem => "FileSystemObject"
  | file => "File"
  | folder => "Folder"
  | stream => "TextStream"
  | automation => "GenericCOMObject"
  | host => "WScriptClass"
  | interpreter => "SimpleVBSInterpreter"

/-- Where a function comes from, which tells it from the others. -/
inductive Origin where
  /-- It is always there, under its name. -/
  | known (name : String)
  /-- It is a method of the object with this number. -/
  | method (owner : Nat) (name : String)
  /-- It was made when it was asked for, as the function with this number. -/
  | made (number : Nat)
  deriving DecidableEq, Repr

/-- A value. An object is its class and its number among the objects of the world; a function is the
kind of function it is and where it comes from. -/
inductive Value where
  | null
  | bool (b : Bool)
  | int (n : Int)
  | float (x : Float)
  | text (s : String)
  | list (items : List Value)
  | tuple (items : List Value)
  | bytes (data : List UInt8)
  | moment (m : Moment)
  | date (d : Date)
  | time (t : TimeOfDay)
  | span (s : Span)
  | complex (a : ComplexNumber)
  | object (kind : ObjectKind) (id : Nat)
  | function (kind : String) (origin : Origin)
  deriving Inhabited

/-- A number: whole or double. -/
inductive Num where
  | int (n : Int)
  | float (x : Float)

/-- The comparisons that need an order. -/
inductive CompareOp where
  | lt
  | le
  | gt
  | ge
  deriving DecidableEq

namespace CompareOp

/-- The sign of a comparison. -/
def symbol : CompareOp → String
  | lt => "<"
  | le => "<="
  | gt => ">"
  | ge => ">="

/-- Whether a comparison holds between things in the given order. -/
def holds : CompareOp → Ordering → Bool
  | lt, o => o == .lt
  | le, o => o != .gt
  | gt, o => o == .gt
  | ge, o => o != .lt

end CompareOp

/-- The order of two numbers; none if one of them is not a number at all. -/
def Num.order? : Num → Num → Option Ordering
  | .int a, .int b => some (compare a b)
  | .float x, .float y =>
    if x < y then some .lt else if y < x then some .gt else if x == y then some .eq else none
  | .int a, .float y =>
    match parts y with
    | .finite b => some (b.compareInt a).swap
    | .infinite negative => some (if negative then .gt else .lt)
    | .notANumber => none
  | .float x, .int b =>
    match parts x with
    | .finite a => some (a.compareInt b)
    | .infinite negative => some (if negative then .lt else .gt)
    | .notANumber => none

/-- The order of texts by code points. -/
def textOrder : List Char → List Char → Ordering
  | [], [] => .eq
  | [], _ :: _ => .lt
  | _ :: _, [] => .gt
  | a :: as, b :: bs =>
    if a.toNat < b.toNat then .lt else if b.toNat < a.toNat then .gt else textOrder as bs

namespace Value

/-- The name of a value's class. -/
def className : Value → String
  | null => "NoneType"
  | bool _ => "bool"
  | int _ => "int"
  | float _ => "float"
  | text _ => "str"
  | list _ => "list"
  | tuple _ => "tuple"
  | bytes _ => "bytes"
  | moment _ => "datetime"
  | date _ => "date"
  | time _ => "time"
  | span _ => "timedelta"
  | complex _ => "complex"
  | object kind _ => kind.name
  | function kind _ => kind

/-- The name of a value's type in messages. -/
def typeName : Value → String
  | moment _ => "datetime.datetime"
  | date _ => "datetime.date"
  | time _ => "datetime.time"
  | span _ => "datetime.timedelta"
  | v => v.className

/-- The name of a value's type in messages about arguments: null is named itself. -/
def argumentName : Value → String
  | null => "None"
  | v => v.typeName

/-- The number a value counts as. -/
def number? : Value → Option Num
  | bool b => some (.int (if b then 1 else 0))
  | int n => some (.int n)
  | float x => some (.float x)
  | _ => none

/-- The whole number a value counts as. -/
def whole? : Value → Option Int
  | bool b => some (if b then 1 else 0)
  | int n => some n
  | _ => none

/-- The complex number a value counts as; whole numbers that no double is equal to are none. -/
def complex? : Value → Option ComplexNumber
  | complex a => some a
  | v =>
    match v.number? with
    | some (.float x) => some (.ofFloat x)
    | some (.int n) =>
      match ofInt? n with
      | some x => if (Num.float x).order? (.int n) == some .eq then some (.ofFloat x) else none
      | none => none
    | none => none

/-- Whether a condition that has this value holds. -/
def truthy : Value → Bool
  | null => false
  | bool b => b
  | int n => n != 0
  | float x => x != 0.0
  | text s => !s.isEmpty
  | list items => !items.isEmpty
  | tuple items => !items.isEmpty
  | bytes data => !data.isEmpty
  | span s => s.micros != 0
  | complex a => !a.isZero
  | _ => true

mutual

/-- Whether two values are equal. -/
def same : Value → Value → Bool
  | list xs, list ys => sameItems xs ys
  | tuple xs, tuple ys => sameItems xs ys
  | null, null => true
  | text s, text t => s == t
  | bytes a, bytes b => a == b
  | moment a, moment b => a == b
  | date a, date b => a == b
  | time a, time b => a == b
  | span a, span b => a == b
  | complex a, b =>
    match b.complex? with
    | some c => a.same c
    | none => false
  | a, complex b =>
    match a.complex? with
    | some c => c.same b
    | none => false
  | object _ a, object _ b => a == b
  | function _ a, function _ b => a == b
  | a, b =>
    match a.number?, b.number? with
    | some m, some n => m.order? n == some .eq
    | _, _ => false

/-- Whether two lists of values are equal. -/
def sameItems : List Value → List Value → Bool
  | [], [] => true
  | x :: xs, y :: ys => x.same y && sameItems xs ys
  | _, _ => false

end

mutual

/-- Compares two values. -/
def compareWith (op : CompareOp) : Value → Value → Except Fault Bool
  | list xs, list ys => compareItems op xs ys
  | tuple xs, tuple ys => compareItems op xs ys
  | text s, text t => .ok (op.holds (textOrder s.toList t.toList))
  | bytes a, bytes b => .ok (op.holds (compare (a.map UInt8.toNat) (b.map UInt8.toNat)))
  | moment a, moment b => .ok (op.holds (compare a.micros b.micros))
  | date a, date b => .ok (op.holds (compare a.ordinal b.ordinal))
  | time a, time b => .ok (op.holds (compare a.micros b.micros))
  | span a, span b => .ok (op.holds (compare a.micros b.micros))
  | moment _, date _ => .error (.incomparable "datetime.datetime" "datetime.date")
  | date _, moment _ => .error (.incomparable "datetime.datetime" "datetime.date")
  | a, b =>
    match a.number?, b.number? with
    | some m, some n =>
      match m.order? n with
      | some o => .ok (op.holds o)
      | none => .ok false
    | _, _ => .error (.unordered op.symbol a.typeName b.typeName)

/-- Compares two lists by their first items that differ, else by length. -/
def compareItems (op : CompareOp) : List Value → List Value → Except Fault Bool
  | [], [] => .ok (op.holds .eq)
  | [], _ :: _ => .ok (op.holds .lt)
  | _ :: _, [] => .ok (op.holds .gt)
  | x :: xs, y :: ys => if x.same y then compareItems op xs ys else x.compareWith op y

end

end Value

/-- The digits of a whole number, unless there are too many of them. -/
def wholeText (n : Int) : Except Fault String :=
  if tenPow digitLimit ≤ n.natAbs then .error (.numeralTooLong none)
  else .ok (String.ofList (if n < 0 then '-' :: natDigits n.natAbs else natDigits n.natAbs))

/-- Numbers with commas between them. -/
def commaNumbers (ns : List Nat) : String :=
  String.ofList (join [',', ' '] (ns.map natDigits))

/-- A date as it is shown inside a list. -/
def dateForm (d : Date) : String :=
  "datetime.date(" ++ commaNumbers [d.year, d.month, d.day] ++ ")"

/-- The parts of a time from the minute on: seconds and microseconds are left out when they are
zero. -/
def clockParts (t : TimeOfDay) : List Nat :=
  [t.hour, t.minute] ++
    (if t.micro != 0 then [t.second, t.micro] else if t.second != 0 then [t.second] else [])

/-- A moment as it is shown inside a list. -/
def momentForm (m : Moment) : String :=
  "datetime.datetime(" ++
    commaNumbers ([m.date.year, m.date.month, m.date.day] ++ clockParts m.time) ++ ")"

/-- A time as it is shown inside a list. -/
def timeForm (t : TimeOfDay) : String :=
  "datetime.time(" ++ commaNumbers (clockParts t) ++ ")"

namespace Value

/-- Joins texts with a comma and a space. -/
def commaJoin (parts : List String) : String :=
  String.ofList (join [',', ' '] (parts.map String.toList))

mutual

/-- A value as it is shown inside a list: texts are quoted, dates are spelled out. -/
def quoted : Value → Except Fault String
  | null => .ok "None"
  | bool b => .ok (if b then "True" else "False")
  | int n => wholeText n
  | float x => .ok (floatText x)
  | text s => .ok (quote s)
  | list items => do
    let parts ← quotedItems items
    return "[" ++ commaJoin parts ++ "]"
  | tuple items => do
    match ← quotedItems items with
    | [p] => return "(" ++ p ++ ",)"
    | parts => return "(" ++ commaJoin parts ++ ")"
  | bytes data => .ok (String.ofList (quotedBytes data))
  | moment m => .ok (momentForm m)
  | date d => .ok (dateForm d)
  | time t => .ok (timeForm t)
  | span s => .ok s.form
  | complex a => .ok a.text
  | object kind _ => .ok ("<" ++ kind.name ++ " object>")
  | function kind _ => .ok ("<" ++ kind ++ ">")

/-- The items of a list as they are shown. -/
def quotedItems : List Value → Except Fault (List String)
  | [] => .ok []
  | x :: xs => do
    let p ← x.quoted
    let ps ← quotedItems xs
    return p :: ps

end

/-- A value as text. -/
def display : Value → Except Fault String
  | text s => .ok s
  | moment m => .ok (String.ofList (m.text ' '))
  | date d => .ok (String.ofList d.text)
  | time t => .ok (String.ofList t.text)
  | span s => .ok s.text
  | v => v.quoted

mutual

/-- The type of the first part of a value that cannot be a key. -/
def unhashable? : Value → Option String
  | list _ => some "list"
  | tuple items => unhashableItem? items
  | function kind _ => if kind == "dict" then some kind else none
  | _ => none

/-- The type of the first item that cannot be a key. -/
def unhashableItem? : List Value → Option String
  | [] => none
  | x :: xs =>
    match x.unhashable? with
    | some t => some t
    | none => unhashableItem? xs

end

/-- The double a value converts to. -/
def toFloat : Value → Except Fault Float
  | float x => .ok x
  | text s =>
    match readFloat? s.toList with
    | some x => .ok x
    | none => .error (.badFloatText s)
  | v =>
    match v.whole? with
    | some n =>
      match ofInt? n with
      | some x => .ok x
      | none => .error .tooLargeForFloat
    | none => .error (.notReal v.typeName)

/-- A double as a whole number, by the rounding given. -/
def floatToWhole (round : Binary → Int) (x : Float) : Except Fault Int :=
  match parts x with
  | .finite b => .ok (round b)
  | .infinite _ => .error .infinityToInt
  | .notANumber => .error .notANumberToInt

/-- The whole number a text stands for. -/
def textToWhole (s : String) : Except Fault Int :=
  match readWhole s.toList with
  | .value n => .ok n
  | .tooLong digits => .error (.numeralTooLong (some digits))
  | .notANumeral => .error (.badWholeText s)

/-- The whole number a value converts to; doubles lose their fraction. -/
def toWhole : Value → Except Fault Int
  | float x => floatToWhole Binary.truncate x
  | text s => textToWhole s
  | v =>
    match v.whole? with
    | some n => .ok n
    | none => .error (.notWhole v.typeName)

end Value

end ScriptHost
