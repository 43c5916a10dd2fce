import ScriptHost.World.Basic

/-!
# Reading a file as text

A reader fetches bytes in chunks and hands out characters with unified line ends. Where it stands is
a `Bookmark`: an offset at which decoding can start again, and what has to be fed and skipped from
there to reach the place. Going back to a bookmark restores what the reader would hand out next.
-/

namespace ScriptHost.Reader

open ScriptHost.Text ScriptHost.Number

/-- The least number of bytes fetched at a time. -/
def chunkSize : Nat := 8192

/-- The state of decoding between two runs of bytes: bytes of a character that is not complete, and
whether a carriage return waits for a newline. -/
structure Decoding where
  partialBytes : List UInt8 := []
  heldReturn : Bool := false

/-- Decodes the bytes from position `pos` on; at the end of the file none may be left over. -/
def decodeBytes (cs : Charset) (final : Bool) (pos : Nat) (bytes : List UInt8) :
    Except DecodeFault (List Char × List UInt8) :=
  match bytes with
  | [] => .ok ([], [])
  | b :: rest =>
    match cs.step (b :: rest) with
    | .char c size => do
      let (text, left) ← decodeBytes cs final (pos + max size 1) (rest.drop (size - 1))
      return (c :: text, left)
    | .short size reason =>
      if final then .error ⟨cs, pos, (b :: rest).take size, reason⟩ else .ok ([], b :: rest)
    | .bad size reason => .error ⟨cs, pos, (b :: rest).take size, reason⟩
termination_by bytes.length
decreasing_by simp only [List.length_drop, List.length_cons]; omega

/-- Unifies the line ends of decoded characters. A carriage return at the end is held back unless
the file ends there, because a newline may follow. -/
def unifyHeld (held final : Bool) (text : List Char) : List Char × Bool :=
  let text := if held && (final || !text.isEmpty) then '\r' :: text else text
  let held := held && !final && text.isEmpty
  if !final && text.getLast? == some '\r' then (unifyLineEnds text.dropLast, true)
  else (unifyLineEnds text, held)

/-- Decodes a run of bytes. -/
def Decoding.feed (cs : Charset) (d : Decoding) (bytes : List UInt8) (final : Bool) :
    Except DecodeFault (List Char × Decoding) := do
  let (text, left) ← decodeBytes cs final 0 (d.partialBytes ++ bytes)
  let (text, held) := unifyHeld d.heldReturn final text
  return (text, ⟨left, held⟩)

/-- The state of a reader's decoding. -/
def decoding (r : Reader) : Decoding := ⟨r.partialBytes, r.heldReturn⟩

/-- The characters fetched and not handed out yet. -/
def waiting (r : Reader) : List Char := r.fetched.drop r.used

/-- The number of bytes to fetch when so many characters are wanted. -/
def fetchSize (r : Reader) (wanted : Nat) : Nat :=
  let perChar := if r.ratio > 1.0 then r.ratio else 1.0
  let guess :=
    match parts (perChar * wanted.toFloat) with
    | .finite b => b.truncate.toNat
    | _ => 0
  max chunkSize guess

/-- Bytes per character. -/
def bytesPerChar (bytes chars : Nat) : Float :=
  if chars == 0 then 0.0 else nearest false bytes chars

/-- Fetches a chunk and tells whether the file goes on. -/
def fetch (cs : Charset) (content : List UInt8) (r : Reader) (wanted : Nat) :
    Reader × Except DecodeFault Bool :=
  let chunk := (content.drop r.offset).take (r.fetchSize wanted)
  let moved := { r with offset := r.offset + chunk.length }
  match r.decoding.feed cs chunk chunk.isEmpty with
  | .error e => (moved, .error e)
  | .ok (text, d) =>
    ({ moved with
        partialBytes := d.partialBytes
        heldReturn := d.heldReturn
        fetched := text
        used := 0
        before := some (r.heldReturn, r.partialBytes ++ chunk)
        ratio := bytesPerChar chunk.length text.length },
      .ok (!chunk.isEmpty || !text.isEmpty))

/-- Hands out `n` waiting characters. -/
def hand (r : Reader) (n : Nat) : Reader × List Char :=
  let out := r.waiting.take n
  ({ r with used := r.used + out.length }, out)

/-- Reads `n` characters, or as many as there are; the fuel bounds the number of fetches. -/
def readCount (cs : Charset) (content : List UInt8) :
    Nat → Reader → Nat → Reader × Except DecodeFault (List Char)
  | 0, r, _ => (r, .ok [])
  | fuel + 1, r, n =>
    let (r, out) := r.hand n
    if out.length == n then (r, .ok out)
    else
      match r.fetch cs content (n - out.length) with
      | (r, .error e) => (r, .error e)
      | (r, .ok false) => (r, .ok out)
      | (r, .ok true) =>
        let (r, rest) := readCount cs content fuel r (n - out.length)
        (r, rest.map (out ++ ·))

/-- Reads all that is left. -/
def readRest (cs : Charset) (content : List UInt8) (r : Reader) :
    Reader × Except DecodeFault (List Char) :=
  let moved := { r with offset := max r.offset content.length }
  match r.decoding.feed cs (content.drop r.offset) true with
  | .error e => (moved, .error e)
  | .ok (text, d) =>
    ({ moved with
        partialBytes := d.partialBytes
        heldReturn := d.heldReturn
        fetched := []
        used := 0
        before := none },
      .ok (r.waiting ++ text))

/-- Reads up to and including the next newline; the fuel bounds the number of fetches. -/
def readLine (cs : Charset) (content : List UInt8) :
    Nat → Reader → Reader × Except DecodeFault (List Char)
  | 0, r => (r, .ok [])
  | fuel + 1, r =>
    if r.fetched.isEmpty then
      match r.fetch cs content 0 with
      | (r, .error e) => (r, .error e)
      | (r, .ok false) => ({ r with fetched := [], used := 0, before := none }, .ok [])
      | (r, .ok true) => readLine cs content fuel r
    else
      let line := r.waiting.takeWhile (· != '\n')
      if line.length < r.waiting.length then
        ({ r with used := r.used + line.length + 1 }, .ok (line ++ ['\n']))
      else
        let (s, rest) := readLine cs content fuel { r with fetched := [], used := 0 }
        (s, rest.map (line ++ ·))

/-! ### Bookmarks -/

/-- A place in a file. -/
structure Bookmark where
  start : Nat
  heldReturn : Bool := false
  /-- Bytes to decode from the start. -/
  feed : Nat := 0
  /-- Characters to skip of those. -/
  skip : Nat := 0
  /-- Whether the file ends after them. -/
  final : Bool := false

/-- Whether a bookmark counts as lying at the end of a file or beyond: every bookmark that is more
than an offset does. -/
def Bookmark.atEnd (b : Bookmark) (size : Nat) : Bool :=
  size ≤ b.start || b.heldReturn || b.feed != 0 || b.skip != 0 || b.final

/-- Looks for a place near the wanted character where decoding can start: the number of bytes before
it, whether a carriage return waits there, and the characters that remain to be skipped. `back` is
how far the next try goes back. -/
def nearStart (cs : Charset) (held : Bool) (input : List UInt8) (wanted : Nat) :
    Nat → Nat → Nat → Nat × Bool × Nat
  | 0, _, _ => (0, held, wanted)
  | _ + 1, 0, _ => (0, held, wanted)
  | fuel + 1, bytes + 1, back =>
    match Decoding.feed cs ⟨[], held⟩ (input.take (bytes + 1)) false with
    | .error _ => (0, held, wanted)
    | .ok (text, d) =>
      if text.length ≤ wanted then
        if d.partialBytes.isEmpty then (bytes + 1, d.heldReturn, wanted - text.length)
        else nearStart cs held input wanted fuel (bytes + 1 - d.partialBytes.length) 1
      else nearStart cs held input wanted fuel (bytes + 1 - back) (2 * back)

/-- Feeds bytes one at a time from a start until enough characters are decoded; each place where no
character is incomplete becomes the new start. -/
def feedBytes (cs : Charset) (d : Decoding) (b : Bookmark) (decoded : Nat) : List UInt8 → Bookmark
  | [] => { b with final := true }
  | byte :: rest =>
    match d.feed cs [byte] false with
    | .error _ => b
    | .ok (text, d) =>
      let decoded := decoded + text.length
      let b := { b with feed := b.feed + 1 }
      let safe := d.partialBytes.isEmpty && decoded ≤ b.skip
      let (b, decoded) :=
        if safe then
          ({ b with start := b.start + b.feed, feed := 0, skip := b.skip - decoded,
                    heldReturn := d.heldReturn }, 0)
        else (b, decoded)
      if b.skip ≤ decoded then b else feedBytes cs d b decoded rest

/-- The place where a reader stands. -/
def bookmark (cs : Charset) (r : Reader) : Bookmark :=
  match r.before with
  | none => { start := r.offset }
  | some (held, input) =>
    let start := r.offset - input.length
    if r.used == 0 then { start := start, heldReturn := held }
    else
      let guess :=
        match parts (r.ratio * r.used.toFloat) with
        | .finite b => b.truncate.toNat
        | _ => 0
      let (bytes, held, skip) := nearStart cs held input r.used (guess + 1) guess 1
      let b : Bookmark := { start := start + bytes, heldReturn := held, skip := skip }
      if skip == 0 then b else feedBytes cs ⟨[], held⟩ b 0 (input.drop bytes)

/-- Goes to a place. -/
def goTo (cs : Charset) (content : List UInt8) (r : Reader) (b : Bookmark) : Reader :=
  let chunk := if b.skip == 0 then [] else (content.drop b.start).take b.feed
  let (text, d) :=
    if b.skip == 0 then ([], ⟨[], b.heldReturn⟩)
    else match Decoding.feed cs ⟨[], b.heldReturn⟩ chunk b.final with
      | .ok p => p
      | .error _ => ([], ⟨[], b.heldReturn⟩)
  { r with
    offset := b.start + chunk.length
    partialBytes := d.partialBytes
    heldReturn := d.heldReturn
    fetched := text
    used := b.skip
    before := some (b.heldReturn, chunk) }

end ScriptHost.Reader
