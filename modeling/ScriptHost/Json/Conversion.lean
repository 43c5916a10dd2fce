import ScriptHost.Json.Reading
import ScriptHost.Value.Basic

/-!
# Using structured data

Fields of a record by name, data as numbers, and data as text.
-/

namespace ScriptHost.JsonValue

/-- A datum without parts as a value of scripts. -/
def scalar? : JsonValue → Option Value
  | null => some .null
  | bool b => some (.bool b)
  | int n => some (.int n)
  | float x => some (.float x)
  | text s => some (.text s)
  | _ => none

/-- The double a datum converts to. -/
def toFloat (v : JsonValue) : Except Fault Float :=
  match v.scalar? with
  | some x => x.toFloat
  | none => .error (.notReal v.typeName)

/-- The whole number a datum converts to. -/
def toWhole (v : JsonValue) : Except Fault Int :=
  match v.scalar? with
  | some x => x.toWhole
  | none => .error (.notWhole v.typeName)

mutual

/-- A datum as it is spelled out inside a list. -/
def form : JsonValue → String
  | null => "None"
  | bool b => if b then "True" else "False"
  | int n => toString n
  | float x => Number.floatText x
  | text s => Text.quote s
  | list vs => "[" ++ commaSeparated (forms vs) ++ "]"
  | record fs => "\x7b" ++ commaSeparated (fieldForms fs) ++ "\x7d"

/-- The items of a list, spelled out. -/
def forms : List JsonValue → List String
  | [] => []
  | v :: rest => form v :: forms rest

/-- The fields of a record, spelled out. -/
def fieldForms : List (String × JsonValue) → List String
  | [] => []
  | (name, v) :: rest => (Text.quote name ++ ": " ++ form v) :: fieldForms rest

end

/-- A datum as text. -/
def display : JsonValue → String
  | text s => s
  | v => v.form

/-- A field of a record, or `otherwise` if it is missing; a datum that is no record has no fields to
ask for. -/
def fieldOr (v : JsonValue) (name : String) (otherwise : JsonValue) : Except Fault JsonValue :=
  match v with
  | record fs => .ok ((fs.lookup name).getD otherwise)
  | v => .error (.noAttribute v.typeName "get")

/-- A field of a record; a missing field, null and the like count as an empty record. -/
def partOf (name : String) (v : JsonValue) : Except Fault JsonValue := do
  let part ← v.fieldOr name null
  return if part.truthy then part else record []

/-- The fields of a record, one after the other. -/
def entriesOf : JsonValue → Except Fault (List (String × JsonValue))
  | record fs => .ok fs
  | v => .error (.noAttribute v.typeName "items")

/-- The number of items, fields or characters. -/
def count : JsonValue → Except Fault Nat
  | list vs => .ok vs.length
  | record fs => .ok fs.length
  | text s => .ok s.length
  | v => .error (.noLength v.typeName)

/-- A field of a record that has to be there. -/
def need (name : String) : JsonValue → Except Fault JsonValue
  | record fs =>
    match fs.lookup name with
    | some v => .ok v
    | none => .error (.missingField name)
  | list _ => .error (.badIndexType "list" "str")
  | v => .error (.notSubscriptable v.typeName)

end ScriptHost.JsonValue
