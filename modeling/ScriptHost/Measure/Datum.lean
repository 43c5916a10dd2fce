import ScriptHost.Value.Basic

/-!
# Data of benchmarks

What a benchmark may take as a parameter or give as its result. Besides the values of scripts there
are dictionaries, sets, byte arrays, complex and exact numbers, spans of time, paths, identifiers,
points and bare objects.
-/

namespace ScriptHost.Measure

open ScriptHost.Calendar ScriptHost.Number ScriptHost.Text

/-- A parameter or result of a benchmark. -/
inductive Datum where
  | null
  | bool (b : Bool)
  | int (n : Int)
  | float (x : Float)
  | complex (a : ComplexNumber)
  | text (s : String)
  /-- Bytes, and whether they can be changed in place. -/
  | bytes (mutable : Bool) (content : List UInt8)
  | list (items : List Datum)
  | tuple (items : List Datum)
  | dict (entries : List (Datum × Datum))
  /-- A set, and whether it can be changed in place. -/
  | set (mutable : Bool) (items : List Datum)
  | point (x y : Datum)
  | moment (m : Moment)
  | date (d : Date)
  | time (t : TimeOfDay)
  | decimal (numeral : String)
  /-- A fraction in lowest terms. -/
  | fraction (numerator : Int) (denominator : Nat)
  | span (s : Span)
  | path (p : String)
  /-- An identifier of 32 hexadecimal digits. -/
  | identifier (digits : String)
  | object
  deriving Inhabited

namespace Datum

/-- The name of a datum's class. -/
def typeName : Datum → String
  | null => "NoneType"
  | bool _ => "bool"
  | int _ => "int"
  | float _ => "float"
  | complex _ => "complex"
  | text _ => "str"
  | bytes mutable _ => if mutable then "bytearray" else "bytes"
  | list _ => "list"
  | tuple _ => "tuple"
  | dict _ => "dict"
  | set mutable _ => if mutable then "set" else "frozenset"
  | point .. => "Point"
  | moment _ => "datetime"
  | date _ => "date"
  | time _ => "time"
  | decimal _ => "Decimal"
  | fraction .. => "Fraction"
  | span _ => "timedelta"
  | path _ => "PurePosixPath"
  | identifier _ => "UUID"
  | object => "object"

/-- The number a datum counts as. -/
def number? : Datum → Option Num
  | bool b => some (.int (if b then 1 else 0))
  | int n => some (.int n)
  | float x => some (.float x)
  | _ => none

mutual

/-- Whether two data are equal. -/
def same : Datum → Datum → Bool
  | null, null => true
  | complex a, complex b => a.same b
  | text s, text t => s == t
  | bytes _ a, bytes _ b => a == b
  | list xs, list ys => sameItems xs ys
  | tuple xs, tuple ys => sameItems xs ys
  | set _ xs, set _ ys => sameItems xs ys
  | dict xs, dict ys => sameEntries xs ys
  | point a b, point c d => same a c && same b d
  | moment a, moment b => a == b
  | date a, date b => a == b
  | time a, time b => a == b
  | decimal a, decimal b => a == b
  | fraction a b, fraction c d => a == c && b == d
  | span a, span b => a == b
  | path a, path b => a == b
  | identifier a, identifier b => a == b
  | a, b =>
    match a.number?, b.number? with
    | some m, some n => m.order? n == some .eq
    | _, _ => false

/-- Whether two lists of data are equal. -/
def sameItems : List Datum → List Datum → Bool
  | [], [] => true
  | x :: xs, y :: ys => same x y && sameItems xs ys
  | _, _ => false

/-- Whether two lists of entries are equal. -/
def sameEntries : List (Datum × Datum) → List (Datum × Datum) → Bool
  | [], [] => true
  | (a, b) :: xs, (c, d) :: ys => same a c && same b d && sameEntries xs ys
  | _, _ => false

end

/-- An identifier with its dashes. -/
def identifierText (digits : String) : String :=
  let cs := digits.toList
  String.ofList (join ['-']
    [cs.take 8, (cs.drop 8).take 4, (cs.drop 12).take 4, (cs.drop 16).take 4, cs.drop 20])

/-- The path without doubled slashes and dots that stand for the same folder. -/
def pathText (p : String) : String :=
  let cs := p.toList
  let lead := (cs.takeWhile (· == '/')).length
  let slashes := if lead == 0 then 0 else if lead == 2 then 2 else 1
  let names := (cs.splitOn '/').filter fun n => n != [] && n != ['.']
  let body := List.replicate slashes '/' ++ join ['/'] names
  if body.isEmpty then "." else String.ofList body

mutual

/-- A datum as it is spelled out. -/
def form : Datum → String
  | null => "None"
  | bool b => if b then "True" else "False"
  | int n => toString n
  | float x => floatText x
  | complex a => a.text
  | text s => quote s
  | bytes mutable content =>
    let body := String.ofList (quotedBytes content)
    if mutable then "bytearray(" ++ body ++ ")" else body
  | list items => "[" ++ Value.commaJoin (forms items) ++ "]"
  | tuple items =>
    match forms items with
    | [x] => "(" ++ x ++ ",)"
    | xs => "(" ++ Value.commaJoin xs ++ ")"
  | dict entries => "\x7b" ++ Value.commaJoin (entryForms entries) ++ "\x7d"
  | set mutable items =>
    let body := "\x7b" ++ Value.commaJoin (forms items) ++ "\x7d"
    if mutable then (if items.isEmpty then "set()" else body)
    else "frozenset(" ++ (if items.isEmpty then "" else body) ++ ")"
  | point x y => "Point(x=" ++ form x ++ ", y=" ++ form y ++ ")"
  | moment m => momentForm m
  | date d => dateForm d
  | time t => timeForm t
  | decimal numeral => "Decimal(" ++ quote numeral ++ ")"
  | fraction a b => "Fraction(" ++ toString a ++ ", " ++ toString b ++ ")"
  | span s => s.form
  | path p => "PurePosixPath(" ++ quote (pathText p) ++ ")"
  | identifier digits => "UUID(" ++ quote (identifierText digits) ++ ")"
  | object => "<builtins.object>"

/-- The items of a list, spelled out. -/
def forms : List Datum → List String
  | [] => []
  | x :: xs => form x :: forms xs

/-- The entries of a dictionary, spelled out. -/
def entryForms : List (Datum × Datum) → List String
  | [] => []
  | (k, v) :: rest => (form k ++ ": " ++ form v) :: entryForms rest

end

/-- A datum as text: like its form, but texts, exact numbers, moments and the like are plain. -/
def display : Datum → String
  | text s => s
  | moment m => String.ofList (m.text ' ')
  | date d => String.ofList d.text
  | time t => String.ofList t.text
  | decimal numeral => numeral
  | fraction a b => if b == 1 then toString a else toString a ++ "/" ++ toString b
  | span s => s.text
  | path p => pathText p
  | identifier digits => identifierText digits
  | v => v.form

end Datum

end ScriptHost.Measure
