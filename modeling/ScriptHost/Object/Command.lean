import ScriptHost.Text.Blank
import ScriptHost.Text.Search
import ScriptHost.World.Storage

/-!
# Commands

The few commands that are understood: leaving with a status, doing nothing, sending a signal to the
shell itself, printing, with the output going to a file if that is asked for, and linking to what is
there. Anything else is not found.
-/

namespace ScriptHost.Command

open ScriptHost.Text ScriptHost.Number

/-- What a command leaves behind: its status, negative for a signal, and its output. -/
structure Outcome where
  status : Int := 0
  output : List UInt8 := []

/-- Cuts a command into words. Quotes keep blanks together; `cur` is the word read so far,
backwards. -/
def wordsFrom (quote : Option Char) (cur : Option (List Char)) : List Char → List String
  | [] => (cur.map fun w => [String.ofList w.reverse]).getD []
  | c :: cs =>
    match quote with
    | some q =>
      if c == q then wordsFrom none cur cs else wordsFrom quote (some (c :: cur.getD [])) cs
    | none =>
      if c == '\x27' || c == '"' then wordsFrom (some c) (some (cur.getD [])) cs
      else if isBlank c then
        ((cur.map fun w => [String.ofList w.reverse]).getD []) ++ wordsFrom none none cs
      else wordsFrom none (some (c :: cur.getD [])) cs

/-- The words of a command. -/
def words (command : String) : List String :=
  wordsFrom none none command.toList

/-- The value of an octal digit. -/
def octal? (c : Char) : Option Nat :=
  if '0' ≤ c && c ≤ '7' then some (c.toNat - 48) else none

/-- Reads up to `n` octal digits. -/
def octalRun (v : Nat) : Nat → List Char → Nat × List Char
  | 0, cs => (v, cs)
  | _ + 1, [] => (v, [])
  | n + 1, c :: cs =>
    match octal? c with
    | some d => octalRun (8 * v + d) n cs
    | none => (v, c :: cs)

/-- The bytes that a printing format stands for, with escapes worked out; the fuel bounds its
length. -/
def formatBytes : Nat → List Char → List UInt8
  | 0, _ => []
  | _ + 1, [] => []
  | n + 1, '\\' :: c :: cs =>
    if (octal? c).isSome then
      let (v, rest) := octalRun 0 3 (c :: cs)
      v.toUInt8 :: formatBytes n rest
    else
      let plain : List Char := match c with
        | 'n' => ['\n']
        | 't' => ['\t']
        | 'r' => ['\r']
        | '\\' => ['\\']
        | c => ['\\', c]
      plain.flatMap Charset.utf8Bytes ++ formatBytes n cs
  | n + 1, '%' :: '%' :: cs => Charset.utf8Bytes '%' ++ formatBytes n cs
  | n + 1, c :: cs => Charset.utf8Bytes c ++ formatBytes n cs

/-- The number of a signal, by number or name. -/
def signalOf (s : String) : Option Nat :=
  match s with
  | "HUP" => some 1
  | "INT" => some 2
  | "QUIT" => some 3
  | "ABRT" => some 6
  | "KILL" => some 9
  | "USR1" => some 10
  | "SEGV" => some 11
  | "USR2" => some 12
  | "ALRM" => some 14
  | "TERM" => some 15
  | s =>
    if s.isEmpty || !s.toList.all (fun c => '0' ≤ c && c ≤ '9') then none
    else some (digitsValue s.toList)

/-- The outcome of a command's words. -/
def run : List String → Outcome
  | [] => {}
  | ["exit"] => {}
  | "exit" :: n :: _ =>
    if !n.isEmpty && n.toList.all (fun c => '0' ≤ c && c ≤ '9') then
      { status := (digitsValue n.toList % 256 : Nat) }
    else { status := 2 }
  | "true" :: _ => {}
  | ":" :: _ => {}
  | "false" :: _ => { status := 1 }
  | ["kill", "$$"] => { status := -15 }
  | ["kill", flag, "$$"] =>
    match signalOf (String.ofList (flag.toList.drop 1)) with
    | some n => { status := -(n : Int) }
    | none => { status := 2 }
  | "echo" :: args =>
    { output := (join [' '] (args.map String.toList) ++ ['\n']).flatMap Charset.utf8Bytes }
  | "printf" :: format :: _ => { output := formatBytes format.length format.toList }
  | _ => { status := 127 }

/-- Carries out a command: its status, unless its output is no text. -/
def execute (command : String) : Act Int := do
  Storage.checkPath command
  let ws := words command
  let body := ws.takeWhile fun w => w != ">" && w != ">>"
  let outcome ← match body with
    | ["ln", "-s", goal, path] =>
      pure { status := if ← Storage.makeLink goal path then 0 else 1 }
    | _ => pure (run body)
  match ws.drop body.length with
  | [mark, file] =>
    let r ← Storage.openForWriting (if mark == ">>" then .append else .truncate) file
    Storage.setContent r ((← Storage.contentAt r) ++ outcome.output)
    return outcome.status
  | _ =>
    match Charset.gbk.decode outcome.output with
    | .ok _ => return outcome.status
    | .error e => throw (.decoding e)

end ScriptHost.Command
