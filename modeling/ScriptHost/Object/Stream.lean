import ScriptHost.Builtin.Routine
import ScriptHost.Object.Reader
import ScriptHost.Text.Blank
import ScriptHost.Value.Arithmetic
import ScriptHost.World.Storage

/-!
# Text streams

A stream reads from or writes to a text in memory or a file. What is written to a file reaches it
when the stream is closed, or when the stream is asked where it stands. Once closed, a stream
neither reads nor writes.
-/

namespace ScriptHost.Stream

open ScriptHost.Text
open Routine (on0 on1)

/-! ### Texts in memory -/

/-- Writes over a text from a position on. -/
def overwrite {α : Type} (fill : α) (text : List α) (position : Nat) (new : List α) : List α :=
  text.take position ++ List.replicate (position - text.length) fill ++ new ++
    text.drop (position + new.length)

/-- The text from a position up to and including the next newline. -/
def lineAt (text : List Char) (position : Nat) : List Char :=
  let rest := text.drop position
  let line := rest.takeWhile (· != '\n')
  if line.length < rest.length then line ++ ['\n'] else line

/-- A text in memory and the position at which it is read and written. -/
structure Cursor where
  text : List Char
  position : Nat

namespace Cursor

/-- Where the cursor stands. -/
def tell : StateM Cursor Nat := do
  return (← get).position

/-- Goes to a position. -/
def seek (position : Nat) : StateM Cursor Unit :=
  modify fun c => { c with position := position }

/-- Goes to the end of the text. -/
def seekEnd : StateM Cursor Unit :=
  modify fun c => { c with position := c.text.length }

/-- Reads so many characters, or all that are left, and goes on behind them. -/
def read (count : Option Nat) : StateM Cursor (List Char) := do
  let c ← get
  let rest := c.text.drop c.position
  let out := (count.map rest.take).getD rest
  seek (c.position + out.length)
  return out

/-- Reads a line with its newline and goes on behind it. -/
def readLine : StateM Cursor (List Char) := do
  let c ← get
  let line := lineAt c.text c.position
  seek (c.position + line.length)
  return line

/-- Reads the whole text from the start and goes back to where the cursor stood. -/
def readAll : StateM Cursor (List Char) := do
  let place ← tell
  seek 0
  let out ← read none
  seek place
  return out

/-- Whether the cursor stands at the end: it goes there, compares the positions and goes back. -/
def atEnd : StateM Cursor Bool := do
  let place ← tell
  seekEnd
  let last ← tell
  seek place
  return last ≤ place

/-- Writes over the text and goes on behind what was written. -/
def write (new : List Char) : StateM Cursor Unit :=
  modify fun c => ⟨overwrite '\x00' c.text c.position new, c.position + new.length⟩

/-- The channel of a cursor. -/
def channel (c : Cursor) : Channel :=
  .memory c.text c.position

/-- Works on a text in memory: the channel afterwards and what came of it. -/
def work {α : Type} (f : StateM Cursor α) (text : List Char) (position : Nat) : Channel × α :=
  let (a, c) := f.run ⟨text, position⟩
  (c.channel, a)

end Cursor

/-- A line without its newline and the carriage returns before it. -/
def trimLine (line : List Char) : List Char :=
  let dropEnd (c : Char) (cs : List Char) := (cs.reverse.dropWhile (· == c)).reverse
  dropEnd '\r' (dropEnd '\n' line)

/-! ### Channels -/

/-- Brings what is pending into the file. -/
def flush : Channel → Act Channel
  | .writer file cs appending position pending => do
    if pending.isEmpty then return .writer file cs appending position []
    let content ← Storage.contentAt file
    let at_ := if appending then content.length else position
    Storage.setContent file (overwrite 0 content at_ pending)
    return .writer file cs appending (at_ + pending.length) []
  | c => return c

/-- The operation that a value which is no file lacks. -/
def noOperation {α : Type} (v : Value) (name : String) : Act α :=
  throw (.noAttribute v.typeName name)

/-- How many characters to read; none means all. -/
def countOf : Value → Except Fault (Option Nat)
  | .null => .ok none
  | v =>
    match v.whole? with
    | some n => .ok (if n < 0 then none else some n.toNat)
    | none => .error (.readCount v.typeName)

/-- The outcome of reading from a file, as an act. -/
def decoded {α : Type} : Except DecodeFault α → Except Fault α
  | .ok a => .ok a
  | .error e => .error (.decoding e)

/-- Reads so many characters, or all that are left: the channel afterwards and the text. -/
def read (c : Channel) (count : Option Nat) : Act (Channel × Except Fault (List Char)) := do
  match c with
  | .memory text position => return (Cursor.work (Cursor.read count) text position).map id .ok
  | .reader file cs state =>
    let content ← Storage.contentAt file
    let (state, out) :=
      match count with
      | some n => state.readCount cs content (content.length + 2) n
      | none => state.readRest cs content
    return (.reader file cs state, decoded out)
  | .writer .. => return (c, .error .notReadable)
  | .noFile v => noOperation v "read"

/-- Reads a line with its newline. -/
def readLine (c : Channel) : Act (Channel × Except Fault (List Char)) := do
  match c with
  | .memory text position => return (Cursor.work Cursor.readLine text position).map id .ok
  | .reader file cs state =>
    let content ← Storage.contentAt file
    let (state, out) := state.readLine cs content (2 * content.length + 4)
    return (.reader file cs state, decoded out)
  | .writer .. => return (c, .error .notReadable)
  | .noFile v => noOperation v "readline"

/-- Reads everything from the start and returns to the place before. A writer cannot be read but is
taken to the start. -/
def readAll (c : Channel) : Act (Channel × Except Fault (List Char)) := do
  match c with
  | .memory text position => return (Cursor.work Cursor.readAll text position).map id .ok
  | .reader file cs state =>
    let content ← Storage.contentAt file
    let place := state.bookmark cs
    match (state.goTo cs content { start := 0 }).readRest cs content with
    | (state, .ok out) => return (.reader file cs (state.goTo cs content place), .ok out)
    | (state, .error e) => return (.reader file cs state, .error (.decoding e))
  | .writer .. =>
    match ← flush c with
    | .writer file cs appending _ pending =>
      return (.writer file cs appending 0 pending, .error .notReadable)
    | c => return (c, .error .notReadable)
  | .noFile v => noOperation v "tell"

/-- Whether a channel stands at its end. -/
def atEnd (c : Channel) : Act (Channel × Bool) := do
  match c with
  | .memory text position => return Cursor.work Cursor.atEnd text position
  | .reader file cs state =>
    let content ← Storage.contentAt file
    let place := state.bookmark cs
    return (.reader file cs (state.goTo cs content place), place.atEnd content.length)
  | .writer .. =>
    let c ← flush c
    match c with
    | .writer file _ _ position _ => return (c, (← Storage.contentAt file).length ≤ position)
    | c => return (c, true)
  | .noFile v => noOperation v "tell"

/-- The fault of writing what is no text. -/
def notText (c : Channel) (v : Value) : Fault :=
  match c with
  | .memory .. => .memoryText v.typeName
  | _ => .fileText v.argumentName

/-- Writes a text. -/
def write (c : Channel) (v : Value) : Act Channel := do
  match c, v with
  | .noFile f, _ => noOperation f "write"
  | .memory text position, .text s => return (Cursor.work (Cursor.write s.toList) text position).1
  | .writer file cs appending position pending, .text s =>
    match cs.encode s.toList with
    | .ok bytes => return .writer file cs appending position (pending ++ bytes)
    | .error e => throw (.encoding e)
  | .reader .., .text _ => throw .notWritable
  | c, v => throw (notText c v)

/-! ### As an object -/

/-- Puts a stream back. -/
def store (id : Nat) (s : Stream) : Act Unit :=
  Act.setBody id (.stream s)

/-- Refuses to work with a closed stream. -/
def checkOpen (s : Stream) : Act Unit :=
  if s.closed then throw .streamClosed else pure ()

/-- Reads by `f` and keeps the channel as it is afterwards, also when reading fails. -/
def reading (id : Nat) (s : Stream) (f : Act (Channel × Except Fault (List Char))) :
    Act (List Char) := do
  checkOpen s
  let (c, out) ← f
  store id { s with channel := c }
  Act.ofExcept out

/-- Reads some characters; minus one stands for all. -/
def readMethod (id : Nat) (s : Stream) (characters : Value) : Act Value := do
  checkOpen s
  match s.channel with
  | .noFile v => noOperation v "read"
  | _ =>
    let count ← Act.ofExcept (if characters.same (.int (-1)) then .ok none else countOf characters)
    return .text (String.ofList (← reading id s (read s.channel count)))

/-- Reads a line and counts it, unless there is none. -/
def readLineMethod (id : Nat) (s : Stream) : Act Value := do
  checkOpen s
  let (c, out) ← readLine s.channel
  match out with
  | .error e =>
    store id { s with channel := c }
    throw e
  | .ok line =>
    store id (if line.isEmpty then { s with channel := c }
      else { s with channel := c, line := s.line + 1, column := 1 })
    return .text (String.ofList (trimLine line))

/-- Writes a text. -/
def writeMethod (id : Nat) (s : Stream) (v : Value) : Act Value := do
  checkOpen s
  store id { s with channel := ← write s.channel v }
  return .null

/-- Closes a stream. -/
def close (id : Nat) (s : Stream) : Act Value := do
  if s.closed then return .null
  match s.channel with
  | .noFile v => noOperation v "close"
  | c =>
    store id { s with channel := ← flush c, closed := true }
    return .null

/-- The methods of streams. -/
def method? (id : Nat) (s : Stream) : String → Option Routine
  | "Read" => some (.method .stream "Read" [given "characters" (.int (-1))] (on1 (readMethod id s)))
  | "ReadLine" => some (.method .stream "ReadLine" [] (on0 (readLineMethod id s)))
  | "ReadAll" => some (.method .stream "ReadAll" [] (on0 do
      return .text (String.ofList (← reading id s (readAll s.channel)))))
  | "Write" => some (.method .stream "Write" [need "text"] (on1 (writeMethod id s)))
  | "WriteANSI" => some (.method .stream "WriteANSI" [need "text"] (on1 (writeMethod id s)))
  | "WriteLine" => some (.method .stream "WriteLine" [given "text" (.text "")] (on1 fun v => do
      checkOpen s
      match s.channel with
      | .noFile f => noOperation f "write"
      | _ => writeMethod id s (← Act.ofExcept (v.add (.text "\n")))))
  | "Close" => some (.method .stream "Close" [] (on0 (close id s)))
  | _ => none

/-- The properties of streams. -/
def property? (id : Nat) (s : Stream) : String → Option Property
  | "Encoding" => some { read := pure s.encoding }
  | "Line" => some { read := pure (.int s.line) }
  | "Column" => some { read := pure (.int s.column) }
  | "AtEndOfStream" => some {
      read := do
        if s.closed then return .bool true
        let (c, b) ← atEnd s.channel
        store id { s with channel := c }
        return .bool b }
  | _ => none

/-- Closes all streams that are still open, in the order in which they were created. -/
def closeAll : Act Unit := do
  let w ← get
  (List.range w.objects.size).forM fun id => do
    match ← Act.object? id with
    | some ⟨.stream s, _⟩ =>
      match s.channel with
      | .noFile _ => pure ()
      | _ =>
        let _ ← close id s
    | _ => pure ()

/-- A new stream. -/
def create (c : Channel) (encoding : Value) : Act Value :=
  Act.create (.stream { channel := c, encoding := encoding })

end ScriptHost.Stream
