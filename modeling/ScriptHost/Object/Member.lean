import ScriptHost.Object.Dictionary
import ScriptHost.Object.HostObject

/-!
# Members of objects

Reading and setting attributes, calling methods and indexing, for every kind of object. A property
comes first, then what was set on the object itself, then its methods.
-/

namespace ScriptHost.Member

/-- A property of an object. -/
def property? (id : Nat) (b : Body) (name : String) : Option Property :=
  match b with
  | .dictionary d => Dictionary.property? id d name
  | .shell folder => Shell.property? id folder name
  | .file path => FileSystem.fileProperty? path name
  | .folder path => FileSystem.folderProperty? path name
  | .stream s => Stream.property? id s name
  | _ => none

/-- A method of an object. -/
def method? (id : Nat) (b : Body) (name : String) : Option Routine :=
  match b with
  | .dictionary d => Dictionary.method? id d name
  | .shell _ => Shell.method? name
  | .fileSystem => FileSystem.method? name
  | .file path => FileSystem.fileMethod? path name
  | .folder path => FileSystem.folderMethod? path name
  | .stream s => Stream.method? id s name
  | .host _ => HostObject.method? name
  | _ => none

/-- An attribute that objects of a class keep themselves. -/
def field? (b : Body) (name : String) : Option Value :=
  match b, name with
  | .file path, "path" => some path
  | .folder path, "path" => some path
  | .host h, name => HostObject.field? h name
  | .interpreter s, "line_number" => some (.int s.line)
  | .interpreter s, "on_error_resume_next" => some (.bool s.resume)
  | .interpreter s, "error_handler" => some s.handler
  | .interpreter _, "variables" => some (.function "dict" (.known "variables"))
  | .interpreter _, "functions" => some (.function "dict" (.known "functions"))
  | .interpreter _, "constants" => some (.function "dict" (.known "constants"))
  | _, _ => none

/-- A body with another value of an attribute that it keeps itself. -/
def setField (b : Body) (name : String) (v : Value) : Option Body :=
  match b, name with
  | .file _, "path" => some (.file v)
  | .folder _, "path" => some (.folder v)
  | .host h, name => (HostObject.setField h v name).map .host
  | .interpreter s, "on_error_resume_next" => some (.interpreter { s with resume := v.truthy })
  | .interpreter s, "error_handler" => some (.interpreter { s with handler := v })
  | _, _ => none

/-- The object that a value refers to. -/
def objectOf : Value → Act (Option (ObjectKind × Nat × Object))
  | .object kind id => do
    match ← Act.object? id with
    | some o => return some (kind, id, o)
    | none => return none
  | _ => return none

/-- An attribute of a value that is no object. -/
def plainAttribute (v : Value) (name : String) : Except Fault Value :=
  match v, name with
  | .moment m, "year" => .ok (.int m.date.year)
  | .moment m, "month" => .ok (.int m.date.month)
  | .moment m, "day" => .ok (.int m.date.day)
  | .moment m, "hour" => .ok (.int m.time.hour)
  | .moment m, "minute" => .ok (.int m.time.minute)
  | .moment m, "second" => .ok (.int m.time.second)
  | .moment m, "microsecond" => .ok (.int m.time.micro)
  | .date d, "year" => .ok (.int d.year)
  | .date d, "month" => .ok (.int d.month)
  | .date d, "day" => .ok (.int d.day)
  | .time t, "hour" => .ok (.int t.hour)
  | .time t, "minute" => .ok (.int t.minute)
  | .time t, "second" => .ok (.int t.second)
  | .time t, "microsecond" => .ok (.int t.micro)
  | .span s, "days" => .ok (.int s.days)
  | .span s, "seconds" => .ok (.int s.seconds)
  | .span s, "microseconds" => .ok (.int s.microPart)
  | .complex a, "real" => .ok (.float a.re)
  | .complex a, "imag" => .ok (.float a.im)
  | v, name => .error (.noAttribute v.typeName name)

/-- Reads an attribute. -/
def readAttribute (v : Value) (name : String) : Act Value := do
  match ← objectOf v with
  | none => Act.ofExcept (plainAttribute v name)
  | some (kind, id, o) =>
    match property? id o.body name with
    | some p => p.read
    | none =>
      match pairGet? name o.extra with
      | some x => return x
      | none =>
        match field? o.body name with
        | some x => return x
        | none =>
          if (method? id o.body name).isSome then return .function "method" (.method id name)
          else if kind == .automation then Act.makeFunction
          else throw (.noAttribute kind.name name)

/-- Keeps an attribute on an object itself. -/
def keep (id : Nat) (name : String) (v : Value) : Act Unit :=
  modify fun w =>
    { w with objects := w.objects.modify id fun o => { o with extra := pairSet name v o.extra } }

/-- Sets an attribute. -/
def setAttribute (v : Value) (name : String) (x : Value) : Act Unit := do
  match ← objectOf v with
  | none => throw (.noAttribute v.typeName name)
  | some (kind, id, o) =>
    match o.body with
    | .automation properties => Automation.setProperty id o properties name x
    | body =>
      match property? id body name with
      | some { write := some set, .. } => set x
      | some { write := none, .. } => throw (.noSetter name kind.name)
      | none =>
        match setField body name x with
        | some body => Act.setBody id body
        | none => keep id name x

/-- Calls a method. -/
def callMethod (v : Value) (name : String) (args : List Value) (named : List (String × Value)) :
    Act Value := do
  match ← objectOf v with
  | none =>
    let f ← Act.ofExcept (plainAttribute v name)
    throw (.notCallable f.typeName)
  | some (_, id, o) =>
    let own := (pairGet? name o.extra).or (field? o.body name)
    match property? id o.body name, own, o.body, method? id o.body name with
    | some p, _, _, _ =>
      let f ← p.read
      throw (.notCallable f.typeName)
    | none, some f, _, _ => throw (.notCallable f.typeName)
    | none, none, .automation properties, _ => Automation.callMethod id properties name args
    | none, none, _, some r => r.call args named
    | none, none, _, none =>
      let f ← readAttribute v name
      throw (.notCallable f.typeName)

/-- Reads the item under an index of an object. -/
def item (v key : Value) : Act Value := do
  match ← objectOf v with
  | some (_, _, ⟨.dictionary d, _⟩) => Dictionary.readItem d key
  | some (_, _, ⟨.automation properties, _⟩) => Automation.readItem properties key
  | _ => throw (.notSubscriptable v.typeName)

/-- Sets the item under an index of an object. -/
def setItem (v key x : Value) : Act Value := do
  match ← objectOf v with
  | some (_, id, ⟨.dictionary d, _⟩) => Dictionary.writeItem id d key x
  | _ => throw (.noItemAssignment v.typeName)

end ScriptHost.Member
