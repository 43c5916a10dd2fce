import ScriptHost.Builtin.Routine

/-!
# Dictionaries

A dictionary keeps items under keys, in the order in which the keys first came. Keys are the same
when they are equal as values, so that one, the double one and true are a single key, and the first
spelling stays.
-/

namespace ScriptHost.Dictionary

open Routine (on0 on1 on2)

/-- The item under a key among some entries. -/
def lookup? (key : Value) : List (Value × Value) → Option Value
  | [] => none
  | (k, v) :: rest => if k.same key then some v else lookup? key rest

/-- Puts an item under a key: in place if the key is there, else at the end. -/
def insert (key item : Value) : List (Value × Value) → List (Value × Value)
  | [] => [(key, item)]
  | (k, v) :: rest => if k.same key then (k, item) :: rest else (k, v) :: insert key item rest

/-- Takes the entry with a key away. -/
def erase (key : Value) : List (Value × Value) → List (Value × Value)
  | [] => []
  | (k, v) :: rest => if k.same key then rest else (k, v) :: erase key rest

/-- The item under a key. -/
def get? (d : Dictionary) (key : Value) : Option Value := lookup? key d.entries

/-- Whether there is an item under a key. -/
def contains (d : Dictionary) (key : Value) : Bool := (d.get? key).isSome

/-- Puts an item under a key. -/
def put (d : Dictionary) (key item : Value) : Dictionary :=
  { d with entries := insert key item d.entries }

/-- Takes the item under a key away. -/
def remove (d : Dictionary) (key : Value) : Dictionary := { d with entries := erase key d.entries }

/-- Takes all items away. -/
def clear (d : Dictionary) : Dictionary := { d with entries := [] }

/-- The keys. -/
def keys (d : Dictionary) : List Value := d.entries.map (·.1)

/-- The items. -/
def items (d : Dictionary) : List Value := d.entries.map (·.2)

/-- The number of entries. -/
def count (d : Dictionary) : Nat := d.entries.length

/-- Sets the way keys are said to be compared; only zero and one are taken. -/
def setMode (d : Dictionary) (mode : Value) : Dictionary :=
  if mode.same (.int 0) || mode.same (.int 1) then { d with mode := mode } else d

/-! ### As an object -/

/-- Refuses what cannot be a key. -/
def checkKey (key : Value) : Act Unit :=
  match key.unhashable? with
  | some type => throw (.unhashable type)
  | none => pure ()

/-- Replaces the entries of the dictionary with a number. -/
def store (id : Nat) (d : Dictionary) : Act Value := do
  Act.setBody id (.dictionary d)
  return .null

/-- Reads the item under a key, null if there is none. -/
def readItem (d : Dictionary) (key : Value) : Act Value := do
  checkKey key
  return (d.get? key).getD .null

/-- Puts an item under a key. -/
def writeItem (id : Nat) (d : Dictionary) (key item : Value) : Act Value := do
  checkKey key
  store id (d.put key item)

/-- The methods of dictionaries. -/
def method? (id : Nat) (d : Dictionary) : String → Option Routine
  | "Add" => some (.method .dictionary "Add" [need "key", need "item"] (on2 (writeItem id d)))
  | "Exists" => some (.method .dictionary "Exists" [need "key"] (on1 fun key => do
      checkKey key
      return .bool (d.contains key)))
  | "Items" => some (.method .dictionary "Items" [] (on0 (pure (.list d.items))))
  | "Keys" => some (.method .dictionary "Keys" [] (on0 (pure (.list d.keys))))
  | "Remove" => some (.method .dictionary "Remove" [need "key"] (on1 fun key => do
      checkKey key
      store id (d.remove key)))
  | "RemoveAll" => some (.method .dictionary "RemoveAll" [] (on0 (store id d.clear)))
  | _ => none

/-- The properties of dictionaries. -/
def property? (id : Nat) (d : Dictionary) : String → Option Property
  | "Count" => some { read := pure (.int d.count) }
  | "CompareMode" => some {
      read := pure d.mode
      write := some fun v => do
        let _ ← store id (d.setMode v) }
  | _ => none

end ScriptHost.Dictionary
