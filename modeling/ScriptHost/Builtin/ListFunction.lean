import ScriptHost.Builtin.TextFunction

/-!
# Functions on lists, and tests of what a value is
-/

namespace ScriptHost.ListFunction

open ScriptHost.Text ScriptHost.TextFunction

/-- The index of a list's last item; anything but the first dimension of a list has none. -/
def upperBound : Value → Value → Int
  | .list items, dimension => if dimension.same one then (items.length : Int) - 1 else -1
  | _, _ => -1

/-- Whether one text occurs in another. -/
def matchesText (anyCase : Bool) (pattern item : List Char) : Bool :=
  if anyCase then occurs (lower pattern) (lower item) else occurs pattern item

/-- The items whose text holds a pattern, or those whose text does not. -/
def filterItems (anyCase keep : Bool) (pattern : List Char) : List Value → Except Fault (List Value)
  | [] => .ok []
  | v :: vs => do
    let m := matchesText anyCase pattern (← chars v)
    let rest ← filterItems anyCase keep pattern vs
    return if m == keep then v :: rest else rest

/-- The items of a list whose text holds a pattern; nothing of what is no list. -/
def filterOf (v pattern keep compare : Value) : Except Fault Value := do
  match v with
  | .list items =>
    let p ← chars pattern
    return .list (← filterItems (anyCase compare) keep.truthy p items)
  | _ => return .list []

/-- Whether a value is nothing or the empty text. -/
def isEmpty : Value → Bool
  | .null => true
  | .text s => s.isEmpty
  | _ => false

/-- Whether a value is nothing. -/
def isNull : Value → Bool
  | .null => true
  | _ => false

/-- Whether a value is a list. -/
def isArray : Value → Bool
  | .list _ => true
  | _ => false

/-- Whether a whole number fits sixteen bits. -/
def isShort (n : Int) : Bool :=
  -32768 ≤ n && n ≤ 32767

/-- The name of a value's type. -/
def typeName : Value → String
  | .null => "Null"
  | .text s => if s.isEmpty then "Empty" else "String"
  | .bool _ => "Boolean"
  | .int n => if isShort n then "Integer" else "Long"
  | .float _ => "Double"
  | .moment _ | .date _ => "Date"
  | .list _ => "Variant()"
  | v => v.className

/-- The number of a value's type. -/
def typeNumber : Value → Int
  | .null => 1
  | .text s => if s.isEmpty then 0 else 8
  | .bool _ => 11
  | .int n => if isShort n then 2 else 3
  | .float _ => 5
  | .moment _ | .date _ => 7
  | .list _ => 8192
  | _ => 9

end ScriptHost.ListFunction
