import ScriptHost.World.Basic

/-!
# The registry

Keys are named by a root and a path below it, and hold named values. Every step on the registry is
an outside effect. Where there is no registry, each operation says so and does nothing.
-/

namespace ScriptHost.RegistryAccess

open ScriptHost.Text

/-- The names of the roots. -/
def roots : List String :=
  ["HKEY_CLASSES_ROOT", "HKEY_CURRENT_USER", "HKEY_LOCAL_MACHINE", "HKEY_USERS",
    "HKEY_CURRENT_CONFIG"]

/-- A value of the registry: its root, the path of its key and its name. -/
structure Address where
  root : String
  path : String
  name : String
  deriving DecidableEq

/-- The address that a text names. The first part is the root, for which the user's own stands in if
there is no such root; the last part is the name. -/
def Address.ofText (s : String) : Address :=
  let pieces := (s.toList.splitOn '\\').map String.ofList
  let root := pieces.headD ""
  let path := String.ofList (join ['\\'] ((pieces.tail.dropLast).map String.toList))
  ⟨if roots.contains root then root else "HKEY_CURRENT_USER", path, pieces.getLastD ""⟩

/-- The full name of an address's key. -/
def Address.key (a : Address) : String :=
  if a.path.isEmpty then a.root else a.root ++ "\\" ++ a.path

/-- The values under a key. -/
def values? (r : Registry) (key : String) : Option (List (String × Value)) :=
  r.lookup key

/-- Replaces the values under a key, or adds the key. -/
def setValues (key : String) (vs : List (String × Value)) : Registry → Registry
  | [] => [(key, vs)]
  | (k, x) :: rest => if k == key then (k, vs) :: rest else (k, x) :: setValues key vs rest

/-- The registry, which may be missing. -/
def registry : Act Registry := do
  match (← get).registry with
  | some r => return r
  | none => throw .noRegistry

/-- Puts the registry back. -/
def store (r : Registry) : Act Unit :=
  modify fun w => { w with registry := some r }

/-- The address in a value, if it starts like one. -/
def addressOf : Value → Act (Option Address)
  | .text s => pure (if s.startsWith "HKEY_" then some (.ofText s) else none)
  | v => throw (.noAttribute v.typeName "startswith")

/-- Opens the key of an address and gives its values. -/
def openKey (a : Address) (writing : Bool) : Act (List (String × Value)) := do
  Act.note (.keyOpened a.root a.path writing)
  match values? (← registry) a.key with
  | some vs => return vs
  | none => throw .noSuchKey

/-- Reads the value at an address. -/
def readAt (a : Address) : Act Value := do
  let vs ← openKey a false
  match vs.lookup a.name with
  | none => throw .noSuchValue
  | some v =>
    Act.note (.keyClosed a.key)
    return v

/-- Deletes the value at an address. -/
def deleteAt (a : Address) : Act Unit := do
  let vs ← openKey a true
  Act.note (.valueDeleted a.key a.name)
  if (vs.lookup a.name).isNone then throw .noSuchValue
  store (setValues a.key (vs.filter fun p => p.1 != a.name) (← registry))
  Act.note (.keyClosed a.key)

/-- The bytes of whole numbers below 256. -/
def byteList : List Value → Except Fault (List UInt8)
  | [] => .ok []
  | v :: vs =>
    match v.whole? with
    | none => .error (.notIndex v.typeName)
    | some n =>
      if n < 0 || 256 ≤ n then .error .byteRange else (byteList vs).map (n.toNat.toUInt8 :: ·)

/-- The bytes that a value stands for: a number counts zeros, a list holds the bytes themselves. -/
def bytesOf : Value → Except Fault (List UInt8)
  | .bytes b => .ok b
  | .text _ => .error .textToBytes
  | .list vs | .tuple vs => byteList vs
  | v =>
    match v.whole? with
    | some n => if n < 0 then .error .negativeCount else .ok (List.replicate n.toNat 0)
    | none => .error (.notBytes v.typeName)

/-- The kind under which a value is kept, and the form it takes. -/
def storedAs (kind : Value) (v : Value) : Except Fault (String × Value) := do
  if kind.same (.text "REG_DWORD") then return ("REG_DWORD", .int (← v.toWhole))
  else if kind.same (.text "REG_BINARY") then return ("REG_BINARY", .bytes (← bytesOf v))
  else return ("REG_SZ", .text (← v.display))

/-- Writes a value to an address, creating its key. -/
def writeAt (a : Address) (v kind : Value) : Act Unit := do
  let r ← registry
  Act.note (.keyCreated a.root a.path)
  let vs := (values? r a.key).getD []
  store (setValues a.key vs r)
  let (kind, form) ← Act.ofExcept (storedAs kind v)
  Act.note (.valueSet a.key a.name kind form)
  store (setValues a.key (pairSet a.name form vs) (← registry))
  Act.note (.keyClosed a.key)

/-- Works on the registry and, if that fails, prints why and goes on with `otherwise`. -/
def guarded (complaint : String) (otherwise : Value) (a : Act Value) : Act Value :=
  Act.recover (do
    let _ ← registry
    a) fun
    | .noRegistry => do
      Act.print "警告: 非Windows系统，注册表功能不可用"
      return otherwise
    | e => do
      Act.print (complaint ++ e.message)
      return otherwise

/-- Reads a value; the empty text if that is not possible. -/
def read (path : Value) : Act Value :=
  guarded "读取注册表失败: " (.text "") do
    match ← addressOf path with
    | some a => readAt a
    | none => return .text ""

/-- Writes a value. -/
def write (path v kind : Value) : Act Value :=
  guarded "写入注册表失败: " .null do
    match ← addressOf path with
    | some a => writeAt a v kind
    | none => pure ()
    return .null

/-- Deletes a value. -/
def delete (path : Value) : Act Value :=
  guarded "删除注册表失败: " .null do
    match ← addressOf path with
    | some a => deleteAt a
    | none => pure ()
    return .null

end ScriptHost.RegistryAccess
