import ScriptHost.Number.Shortest
import ScriptHost.Text.Quoted

/-!
# Structured data

Reports are exchanged as structured data: null, truth values, numbers, texts, lists and records
whose fields keep the order in which they were written. `JsonValue.write` is the written form on one
line: a comma or colon is followed by a blank, and every character outside the printable ASCII range
is escaped.
-/

namespace ScriptHost

open ScriptHost.Number ScriptHost.Text

/-- A structured datum. -/
inductive JsonValue where
  | null
  | bool (b : Bool)
  | int (n : Int)
  | float (x : Float)
  | text (s : String)
  | list (items : List JsonValue)
  | record (fields : List (String × JsonValue))

namespace JsonValue

/-- The class of a datum, as error texts name it. -/
def typeName : JsonValue → String
  | null => "NoneType"
  | bool _ => "bool"
  | int _ => "int"
  | float _ => "float"
  | text _ => "str"
  | list _ => "list"
  | record _ => "dict"

/-- The fields of a record; other data have none. -/
def fields : JsonValue → List (String × JsonValue)
  | record fs => fs
  | _ => []

/-- A field of a record. -/
def get? (name : String) (v : JsonValue) : Option JsonValue :=
  v.fields.lookup name

/-- Puts a field: in place if the name is there, else at the end. -/
def setField (name : String) (v : JsonValue) : List (String × JsonValue) → List (String × JsonValue)
  | [] => [(name, v)]
  | (k, x) :: rest => if k == name then (k, v) :: rest else (k, x) :: setField name v rest

/-- Whether a datum counts as true: zero, null and whatever is empty do not. -/
def truthy : JsonValue → Bool
  | null => false
  | bool b => b
  | int n => n != 0
  | float x => x != 0.0
  | text s => !s.isEmpty
  | list vs => !vs.isEmpty
  | record fs => !fs.isEmpty

/-- A four-digit escape of a 16-bit unit. -/
def unitEscape (n : Nat) : List Char :=
  '\\' :: 'u' :: hexDigits 4 n

/-- The written form of a character: a character beyond 16 bits is escaped as a pair of units. -/
def writeChar (c : Char) : List Char :=
  if c == '"' then ['\\', '"']
  else if c == '\\' then ['\\', '\\']
  else if c == '\n' then ['\\', 'n']
  else if c == '\r' then ['\\', 'r']
  else if c == '\t' then ['\\', 't']
  else if c == '\x08' then ['\\', 'b']
  else if c == '\x0c' then ['\\', 'f']
  else if 32 ≤ c.toNat && c.toNat < 127 then [c]
  else if c.toNat < 0x10000 then unitEscape c.toNat
  else
    let n := c.toNat - 0x10000
    unitEscape (0xD800 + n / 0x400) ++ unitEscape (0xDC00 + n % 0x400)

/-- The written form of a text. -/
def writeText (s : String) : String :=
  String.ofList ('"' :: s.toList.flatMap writeChar ++ ['"'])

/-- How numbers with a fraction are written. -/
def numberFormat : FloatFormat := { plainFormat with infinity := "Infinity", notANumber := "NaN" }

/-- Parts separated by a comma and a blank. -/
def commaSeparated : List String → String
  | [] => ""
  | [p] => p
  | p :: rest => p ++ ", " ++ commaSeparated rest

mutual

/-- The written form of a datum. -/
def write : JsonValue → String
  | null => "null"
  | bool b => if b then "true" else "false"
  | int n => toString n
  | float x => numberFormat.write x
  | text s => writeText s
  | list vs => "[" ++ commaSeparated (writeItems vs) ++ "]"
  | record fs => "\x7b" ++ commaSeparated (writeFields fs) ++ "\x7d"

/-- The written forms of the items of a list. -/
def writeItems : List JsonValue → List String
  | [] => []
  | v :: rest => write v :: writeItems rest

/-- The written forms of the fields of a record. -/
def writeFields : List (String × JsonValue) → List String
  | [] => []
  | (name, v) :: rest => (writeText name ++ ": " ++ write v) :: writeFields rest

end

end JsonValue

end ScriptHost
