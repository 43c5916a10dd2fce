import ScriptHost.Json.Basic
import ScriptHost.Random.Twister
import ScriptHost.Value.Basic
import ScriptHost.World.Disk
import ScriptHost.World.PathText

/-!
# The world of a script

Everything a script can see or change: the clock, the files, the environment, the person who answers
dialogs, the registry, the random numbers, the objects it has created, what it printed, and a log of
its outside effects. An `Act` reads and changes the world and may fail; a failure keeps the changes
made before it.
-/

namespace ScriptHost

open ScriptHost.Calendar ScriptHost.Text

/-- The two spellings of the dialog functions and of the function that runs a script. -/
inductive Dialect where
  /-- `MsgBox`, `InputBox` and `RunVBS`. -/
  | capital
  /-- `msgbox`, `inputbox` and `Runvbs`. -/
  | small
  deriving DecidableEq, Repr

/-- The name of the message box. -/
def Dialect.messageBox : Dialect → String
  | capital => "MsgBox"
  | small => "msgbox"

/-- The name of the input box. -/
def Dialect.inputBox : Dialect → String
  | capital => "InputBox"
  | small => "inputbox"

/-- The name of the function that runs a script. -/
def Dialect.runScript : Dialect → String
  | capital => "RunVBS"
  | small => "Runvbs"

/-- The questions a dialog with two or three standard buttons asks. -/
inductive Question where
  | okCancel
  | yesNo
  | yesNoCancel
  | retryCancel
  deriving DecidableEq

/-- The programs that a measuring round starts. -/
inductive Child where
  | coverage
  | timeShare
  | changes
  | semantics
  deriving DecidableEq

/-- An outside effect. -/
inductive Effect where
  | shown (title : Value) (prompt : String)
  | asked (question : Question) (title : Value) (prompt : String)
  | askedText (title prompt initial : Value)
  /-- A window with three buttons: its sizes in the order they were set, and whether a button closed
  it. -/
  | window (title : Value) (label : String) (buttons geometry : List String) (pressed : Bool)
  | windowDestroyed
  | slept (seconds : Float)
  | keyOpened (root path : String) (writing : Bool)
  | keyCreated (root path : String)
  | valueSet (key name kind : String) (value : Value)
  | valueDeleted (key name : String)
  | keyClosed (key : String)
  /-- Coverage of a folder is about to be recorded, without the files that match the patterns left
  out. -/
  | coverageOpened (folder : String) (leftOut : JsonValue)
  | coverageStarted
  | coverageStopped
  | coverageReported (path : String)
  /-- A program was started, with the seconds it may take. -/
  | childStarted (child : Child) (limit : Option Nat)

/-- A registry: full key names and the values under them. -/
abbrev Registry := List (String × List (String × Value))

/-- Entries in order of their first insertion, and the way keys are said to be compared. -/
structure Dictionary where
  entries : List (Value × Value) := []
  mode : Value := .int 0

/-- How far a reader of a file has come. The bytes from `offset` on are still to be fetched; of the
characters fetched last, `used` have been handed out. -/
structure Reader where
  offset : Nat := 0
  /-- Bytes of a character that is not complete yet. -/
  partialBytes : List UInt8 := []
  /-- Whether a carriage return waits for a newline. -/
  heldReturn : Bool := false
  fetched : List Char := []
  used : Nat := 0
  /-- The state before the last fetch: whether a carriage return waited, and the bytes that were
  decoded. -/
  before : Option (Bool × List UInt8) := none
  /-- Bytes per character in the last fetch. -/
  ratio : Float := 0.0

/-- What a stream reads from or writes to. -/
inductive Channel where
  | memory (text : List Char) (position : Nat)
  | reader (file : Route) (charset : Charset) (state : Reader)
  | writer (file : Route) (charset : Charset) (appending : Bool) (position : Nat)
    (pending : List UInt8)
  /-- A value that was given in the place of a file and is none. -/
  | noFile (v : Value)

/-- A text stream. -/
structure Stream where
  channel : Channel
  encoding : Value
  closed : Bool := false
  line : Nat := 1
  column : Nat := 1

/-- The state of a script interpreter: variables by exact spelling, and the error mode. -/
structure Session where
  «variables» : List (String × Value) := []
  /-- Whether constant names are known. -/
  constants : Bool := true
  line : Nat := 0
  handler : Value := .null
  resume : Bool := false

/-- The host object's properties. -/
structure Host where
  arguments : Value := .list []
  fullName : Value := .text "wscript.exe"
  version : Value := .text "5.8"
  scriptName : Value := .text ""
  scriptFullName : Value := .text ""

/-- What an object consists of. -/
inductive Body where
  | dictionary (d : Dictionary)
  /-- A shell and the current folder as it last set it. -/
  | shell (folder : String)
  | fileSystem
  | file (path : Value)
  | folder (path : Value)
  | stream (s : Stream)
  /-- An object that answers every method, with its properties. -/
  | automation (properties : List (String × Value))
  | host (h : Host)
  | interpreter (s : Session)

/-- The class of an object. -/
def Body.kind : Body → ObjectKind
  | dictionary _ => .dictionary
  | shell _ => .shell
  | fileSystem => .fileSystem
  | file _ => .file
  | folder _ => .folder
  | stream _ => .stream
  | automation _ => .automation
  | host _ => .host
  | interpreter _ => .interpreter

/-- An object: its body, and attributes that were set on it beyond those of its class. -/
structure Object where
  body : Body
  extra : List (String × Value) := []

/-- The world. -/
structure World where
  /-- The dialect in which functions are called from outside; scripts are run with a dialect of
  their own. -/
  dialect : Dialect
  clock : Moment
  disk : Disk
  environment : List (String × String)
  replies : List Value
  display : Bool
  input : List Char
  registry : Option Registry
  random : Random.Twister
  lastRandom : Float
  objects : Array Object
  output : String
  /-- What was printed as a warning. -/
  warnings : String
  effects : Array Effect
  /-- How many functions were made when they were asked for. -/
  functionsMade : Nat := 0
  /-- How many folders deep a walk through the tree can get. -/
  walkDepth : Nat := 980

/-- Reads and changes the world, and may fail. -/
abbrev Act := ExceptT Fault (StateM World)

namespace Act

/-- Carries out an act: its outcome and the world after it. -/
def carryOut {α : Type} (a : Act α) (w : World) : Except Fault α × World :=
  StateT.run (ExceptT.run a) w

/-- The outcome of a computation that does not touch the world. -/
def ofExcept {α : Type} : Except Fault α → Act α
  | .ok a => pure a
  | .error e => throw e

/-- Prints a text as it is. -/
def write (s : String) : Act Unit :=
  modify fun w => { w with output := w.output ++ s }

/-- Prints a line. -/
def print (s : String) : Act Unit :=
  write (s ++ "\n")

/-- Prints a warning as it is. -/
def warn (s : String) : Act Unit :=
  modify fun w => { w with warnings := w.warnings ++ s }

/-- Logs an outside effect. -/
def note (e : Effect) : Act Unit :=
  modify fun w => { w with effects := w.effects.push e }

/-- Goes on with `handler` after a failure, unless the script is being left. -/
def recover {α : Type} (a : Act α) (handler : Fault → Act α) : Act α :=
  tryCatch a fun e => if e.isExit then throw e else handler e

/-- Goes on with `handler` after any failure. -/
def recoverAll {α : Type} (a : Act α) (handler : Fault → Act α) : Act α :=
  tryCatch a handler

/-- The next reply of the person at the dialogs, or what happens when none is left. -/
def nextReply (otherwise : Value) : Act Value := do
  let w ← get
  match w.replies with
  | [] => return otherwise
  | r :: rest =>
    set { w with replies := rest }
    return r

/-- Creates an object. -/
def create (b : Body) : Act Value := do
  let w ← get
  set { w with objects := w.objects.push ⟨b, []⟩ }
  return .object b.kind w.objects.size

/-- Makes a function that is not the same as any other. -/
def makeFunction : Act Value := do
  let w ← get
  set { w with functionsMade := w.functionsMade + 1 }
  return .function "function" (.made w.functionsMade)

/-- The object with a number. -/
def object? (id : Nat) : Act (Option Object) := do
  return (← get).objects[id]?

/-- Changes the body of an object. -/
def setBody (id : Nat) (b : Body) : Act Unit :=
  modify fun w => { w with objects := w.objects.modify id fun o => { o with body := b } }

/-- The text of a value. -/
def display (v : Value) : Act String :=
  ofExcept v.display

end Act

/-- The value under a name in a list of pairs. -/
def pairGet? (name : String) (ps : List (String × Value)) : Option Value :=
  ps.lookup name

/-- Puts a value under a name: in place if the name is there, else at the end. -/
def pairSet (name : String) (v : Value) : List (String × Value) → List (String × Value)
  | [] => [(name, v)]
  | (k, x) :: rest => if k == name then (k, v) :: rest else (k, x) :: pairSet name v rest

theorem pairGet?_cons (key k : String) (x : Value) (rest : List (String × Value)) :
    pairGet? key ((k, x) :: rest) = if key = k then some x else pairGet? key rest := by
  unfold pairGet?
  by_cases h : key = k
  · rw [h, List.lookup_cons_self, if_pos rfl]
  · rw [List.lookup_cons, beq_false_of_ne h, if_neg h]

/-- What is under a name after something was put under one. -/
theorem pairGet?_pairSet (key name : String) (v : Value) (ps : List (String × Value)) :
    pairGet? key (pairSet name v ps) = if key = name then some v else pairGet? key ps := by
  induction ps with
  | nil => rw [pairSet, pairGet?_cons]
  | cons p rest ih =>
    rw [pairSet]
    by_cases hk : p.1 = name
    · rw [if_pos (by simpa using hk), pairGet?_cons, pairGet?_cons, hk]
      by_cases hkey : key = name <;> simp [hkey]
    · rw [if_neg (by simpa using hk), pairGet?_cons, pairGet?_cons, ih]
      by_cases hkey : key = p.1
      · simp [hkey, hk]
      · simp [hkey]

/-- What was under a name is replaced. -/
theorem pairSet_pairSet (name : String) (u v : Value) (ps : List (String × Value)) :
    pairSet name v (pairSet name u ps) = pairSet name v ps := by
  induction ps with
  | nil => simp [pairSet]
  | cons p rest ih =>
    by_cases hk : p.1 = name
    · simp [pairSet, hk]
    · simp [pairSet, hk, ih]

/-- Under a name that is there already, a value may be put before or after one is put under another
name. -/
theorem pairSet_comm {name other : String} (h : name ≠ other) {ps : List (String × Value)}
    (hmem : name ∈ ps.map Prod.fst) (u v : Value) :
    pairSet name v (pairSet other u ps) = pairSet other u (pairSet name v ps) := by
  induction ps with
  | nil => simp at hmem
  | cons p rest ih =>
    by_cases hk : p.1 = name
    · simp [pairSet, hk, h]
    · have hrest : name ∈ rest.map Prod.fst := by
        rcases List.mem_cons.1 hmem with heq | hrest
        · exact absurd heq.symm hk
        · exact hrest
      by_cases hother : p.1 = other
      · simp [pairSet, hother, h.symm]
      · simp [pairSet, hk, hother, ih hrest]

theorem mem_keys_pairSet (name : String) (v : Value) (ps : List (String × Value)) :
    name ∈ (pairSet name v ps).map Prod.fst := by
  induction ps with
  | nil => simp [pairSet]
  | cons p rest ih =>
    by_cases hk : p.1 = name
    · simp [pairSet, hk]
    · have hne : name ≠ p.1 := Ne.symm hk
      simp only [pairSet, beq_iff_eq, hk, if_false, List.map_cons, List.mem_cons, hne, false_or]
      exact ih

end ScriptHost
