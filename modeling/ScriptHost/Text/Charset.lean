import ScriptHost.Text.Gbk

/-!
# Character sets of files

A character set writes a text as bytes and reads bytes back one character at a time. Reading step by
step is what a stream does: a step yields a character, or finds that bytes are still missing, or
that the next bytes are no character.
-/

namespace ScriptHost.Text

/-- The character sets a file can be opened with. -/
inductive Charset where
  | gbk
  | gb2312
  | utf8
  /-- Little-endian units after a byte-order mark. -/
  | utf16
  /-- Little-endian units without a mark. -/
  | utf16le
  deriving DecidableEq, Repr

/-- Why bytes are no text: a span of bytes at a position, and the reason. -/
structure DecodeFault where
  charset : Charset
  position : Nat
  bytes : List UInt8
  reason : String

/-- Why a text has no bytes: the character at a position is outside the set. -/
structure EncodeFault where
  charset : Charset
  position : Nat
  char : Char

/-- What reading finds at the head of some bytes. -/
inductive Decoded where
  /-- A character and the number of bytes it takes. -/
  | char (c : Char) (size : Nat)
  /-- The bytes end inside a character; with the reason to give if no more come. -/
  | short (size : Nat) (reason : String)
  /-- The first bytes are no character. -/
  | bad (size : Nat) (reason : String)

namespace Charset

/-- The name of a character set in messages. -/
def name : Charset → String
  | gbk => "gbk"
  | gb2312 => "gb2312"
  | utf8 => "utf-8"
  | utf16 => "utf-16"
  | utf16le => "utf-16-le"

/-- A unit of sixteen bits, low byte first. -/
def unitBytes (n : Nat) : List UInt8 :=
  [(n % 256).toUInt8, (n / 256 % 256).toUInt8]

/-- A character in one or two units of sixteen bits. -/
def unitsOf (c : Char) : List UInt8 :=
  let n := c.toNat
  if n < 0x10000 then unitBytes n
  else unitBytes (0xd800 + (n - 0x10000) / 0x400) ++ unitBytes (0xdc00 + (n - 0x10000) % 0x400)

/-- A character in one to four bytes. -/
def utf8Bytes (c : Char) : List UInt8 :=
  let n := c.toNat
  if n < 0x80 then [n.toUInt8]
  else if n < 0x800 then [(0xc0 + n / 64).toUInt8, (0x80 + n % 64).toUInt8]
  else if n < 0x10000 then
    [(0xe0 + n / 4096).toUInt8, (0x80 + n / 64 % 64).toUInt8, (0x80 + n % 64).toUInt8]
  else
    [(0xf0 + n / 262144).toUInt8, (0x80 + n / 4096 % 64).toUInt8, (0x80 + n / 64 % 64).toUInt8,
      (0x80 + n % 64).toUInt8]

/-- The bytes of a double-byte character, by the table given. -/
def pairBytes (pair? : Char → Option (UInt8 × UInt8)) (c : Char) : Option (List UInt8) :=
  if c.toNat < 0x80 then some [c.toNat.toUInt8] else (pair? c).map fun p => [p.1, p.2]

/-- The bytes of one character, if it is in the set. -/
def charBytes? : Charset → Char → Option (List UInt8)
  | gbk, c => pairBytes gbkPair? c
  | gb2312, c => pairBytes gb2312Pair? c
  | utf8, c => some (utf8Bytes c)
  | utf16, c => some (unitsOf c)
  | utf16le, c => some (unitsOf c)

/-- The bytes of the characters from position `pos` on. -/
def encodeFrom (cs : Charset) (pos : Nat) : List Char → Except EncodeFault (List UInt8)
  | [] => .ok []
  | c :: rest =>
    match cs.charBytes? c with
    | none => .error ⟨cs, pos, c⟩
    | some bs => (cs.encodeFrom (pos + 1) rest).map (bs ++ ·)

/-- The bytes of a text, without a mark at the start. -/
def encode (cs : Charset) (text : List Char) : Except EncodeFault (List UInt8) :=
  cs.encodeFrom 0 text

/-- The bytes of a text in which characters outside the set are left out. -/
def encodeLossy (cs : Charset) (text : List Char) : List UInt8 :=
  text.flatMap fun c => (cs.charBytes? c).getD []

/-- What stands at the start of a new file. -/
def mark : Charset → List UInt8
  | utf16 => [0xff, 0xfe]
  | _ => []

/-- One step of a double-byte set. -/
def stepPair (char? : UInt8 → UInt8 → Option Char) : List UInt8 → Decoded
  | [] => .short 0 ""
  | b :: rest =>
    if b.toNat < 0x80 then .char (Char.ofNat b.toNat) 1
    else match rest with
      | [] => .short 1 "incomplete multibyte sequence"
      | t :: _ =>
        match char? b t with
        | some c => .char c 2
        | none => .bad 1 "illegal multibyte sequence"

/-- Whether a byte continues a character of several bytes. -/
def isTail (b : UInt8) : Bool :=
  0x80 ≤ b.toNat && b.toNat < 0xc0

/-- The value of the six bits of a continuing byte. -/
def tailBits (b : UInt8) : Nat :=
  b.toNat % 64

/-- Reads the continuing bytes after the second one; `taken` bytes are read and make up `n`, `left`
are to come. -/
def stepTail (n taken : Nat) : Nat → List UInt8 → Decoded
  | 0, _ => .char (Char.ofNat n) taken
  | _ + 1, [] => .short taken "unexpected end of data"
  | left + 1, b :: rest =>
    if isTail b then stepTail (n * 64 + tailBits b) (taken + 1) left rest
    else .bad taken "invalid continuation byte"

/-- One step of the set of one to four bytes. The second byte has bounds that keep out overlong
forms, surrogates and numbers that are no code points. -/
def stepUtf8 : List UInt8 → Decoded
  | [] => .short 0 ""
  | b :: rest =>
    let n := b.toNat
    if n < 0x80 then .char (Char.ofNat n) 1
    else if n < 0xc2 || 0xf4 < n then .bad 1 "invalid start byte"
    else
      let (low, high) :=
        if n == 0xe0 then (0xa0, 0xc0) else if n == 0xed then (0x80, 0xa0)
        else if n == 0xf0 then (0x90, 0xc0) else if n == 0xf4 then (0x80, 0x90) else (0x80, 0xc0)
      let (start, left) :=
        if n < 0xe0 then (n - 0xc0, 0) else if n < 0xf0 then (n - 0xe0, 1) else (n - 0xf0, 2)
      match rest with
      | [] => .short 1 "unexpected end of data"
      | t :: more =>
        if low ≤ t.toNat && t.toNat < high then stepTail (start * 64 + tailBits t) 2 left more
        else .bad 1 "invalid continuation byte"

/-- One step of the set of sixteen-bit units, low byte first. -/
def stepUnits : List UInt8 → Decoded
  | [] => .short 0 ""
  | [_] => .short 1 "truncated data"
  | a :: b :: rest =>
    let n := a.toNat + 256 * b.toNat
    if n < 0xd800 || 0xe000 ≤ n then .char (Char.ofNat n) 2
    else if 0xdc00 ≤ n then .bad 2 "illegal encoding"
    else match rest with
      | c :: d :: _ =>
        let m := c.toNat + 256 * d.toNat
        if 0xdc00 ≤ m && m < 0xe000 then
          .char (Char.ofNat (0x10000 + (n - 0xd800) * 0x400 + (m - 0xdc00))) 4
        else .bad 2 "illegal UTF-16 surrogate"
      | _ => .short (2 + rest.length) "unexpected end of data"

/-- One step of reading. -/
def step : Charset → List UInt8 → Decoded
  | gbk => stepPair gbkChar?
  | gb2312 => stepPair fun a b => (gbkChar? a b).filter fun _ => inBasicSet a b
  | utf8 => stepUtf8
  | utf16 => stepUnits
  | utf16le => stepUnits

/-- Reads all bytes from position `pos` on; every step takes at least one byte. -/
def decodeFrom (cs : Charset) (pos : Nat) (bytes : List UInt8) : Except DecodeFault (List Char) :=
  match bytes with
  | [] => .ok []
  | b :: rest =>
    match cs.step (b :: rest) with
    | .char c size => (cs.decodeFrom (pos + max size 1) (rest.drop (size - 1))).map (c :: ·)
    | .short size reason => .error ⟨cs, pos, (b :: rest).take size, reason⟩
    | .bad size reason => .error ⟨cs, pos, (b :: rest).take size, reason⟩
termination_by bytes.length
decreasing_by simp only [List.length_drop, List.length_cons]; omega

/-- The text that bytes stand for. -/
def decode (cs : Charset) (bytes : List UInt8) : Except DecodeFault (List Char) :=
  cs.decodeFrom 0 bytes

/-- The text that bytes stand for when bytes that are no character are skipped one at a time. -/
def decodeLossy (cs : Charset) (bytes : List UInt8) : List Char :=
  match bytes with
  | [] => []
  | b :: rest =>
    match cs.step (b :: rest) with
    | .char c size => c :: cs.decodeLossy (rest.drop (size - 1))
    | .short _ _ => []
    | .bad _ _ => cs.decodeLossy rest
termination_by bytes.length
decreasing_by all_goals simp only [List.length_drop, List.length_cons]; omega

end Charset

/-- Line ends as they are read: a carriage return, with or without a newline after it, becomes a
newline. -/
def unifyLineEnds : List Char → List Char
  | [] => []
  | '\r' :: '\n' :: cs => '\n' :: unifyLineEnds cs
  | c :: cs => (if c = '\r' then '\n' else c) :: unifyLineEnds cs

end ScriptHost.Text
