/-!
# A digest of bytes

`sha256` is the 256-bit digest of a sequence of bytes: the bytes are padded to blocks of 64, and
each block is mixed into eight words in 64 rounds.
-/

namespace ScriptHost.Measure

/-- The eight words that a block is mixed into. -/
structure HashWords where
  a : UInt32
  b : UInt32
  c : UInt32
  d : UInt32
  e : UInt32
  f : UInt32
  g : UInt32
  h : UInt32

namespace HashWords

/-- The words before the first block. -/
def start : HashWords :=
  ⟨0x6a09e667, 0xbb67ae85, 0x3c6ef372, 0xa54ff53a, 0x510e527f, 0x9b05688c, 0x1f83d9ab, 0x5be0cd19⟩

/-- One word for each round. -/
def roundWords : Array UInt32 := #[
    0x428a2f98, 0x71374491, 0xb5c0fbcf, 0xe9b5dba5, 0x3956c25b, 0x59f111f1, 0x923f82a4, 0xab1c5ed5,
    0xd807aa98, 0x12835b01, 0x243185be, 0x550c7dc3, 0x72be5d74, 0x80deb1fe, 0x9bdc06a7, 0xc19bf174,
    0xe49b69c1, 0xefbe4786, 0x0fc19dc6, 0x240ca1cc, 0x2de92c6f, 0x4a7484aa, 0x5cb0a9dc, 0x76f988da,
    0x983e5152, 0xa831c66d, 0xb00327c8, 0xbf597fc7, 0xc6e00bf3, 0xd5a79147, 0x06ca6351, 0x14292967,
    0x27b70a85, 0x2e1b2138, 0x4d2c6dfc, 0x53380d13, 0x650a7354, 0x766a0abb, 0x81c2c92e, 0x92722c85,
    0xa2bfe8a1, 0xa81a664b, 0xc24b8b70, 0xc76c51a3, 0xd192e819, 0xd6990624, 0xf40e3585, 0x106aa070,
    0x19a4c116, 0x1e376c08, 0x2748774c, 0x34b0bcb5, 0x391c0cb3, 0x4ed8aa4a, 0x5b9cca4f, 0x682e6ff3,
    0x748f82ee, 0x78a5636f, 0x84c87814, 0x8cc70208, 0x90befffa, 0xa4506ceb, 0xbef9a3f7, 0xc67178f2]

/-- A word turned right. -/
def turned (x : UInt32) (n : UInt32) : UInt32 :=
  (x >>> n) ||| (x <<< (32 - n))

/-- The word of the message for a round, from the words before it. -/
def nextWord (ws : Array UInt32) : UInt32 :=
  let n := ws.size
  let x := ws.getD (n - 15) 0
  let y := ws.getD (n - 2) 0
  ws.getD (n - 16) 0 + (turned x 7 ^^^ turned x 18 ^^^ (x >>> 3)) + ws.getD (n - 7) 0 +
    (turned y 17 ^^^ turned y 19 ^^^ (y >>> 10))

/-- Appends message words until there is one for each round. -/
def extend : Nat → Array UInt32 → Array UInt32
  | 0, ws => ws
  | n + 1, ws => extend n (ws.push (nextWord ws))

/-- One round with the word of the message and the word of the round. -/
def mixOnce (s : HashWords) (word constant : UInt32) : HashWords :=
  let s1 := turned s.e 6 ^^^ turned s.e 11 ^^^ turned s.e 25
  let choice := (s.e &&& s.f) ^^^ (~~~s.e &&& s.g)
  let t1 := s.h + s1 + choice + constant + word
  let s0 := turned s.a 2 ^^^ turned s.a 13 ^^^ turned s.a 22
  let majority := (s.a &&& s.b) ^^^ (s.a &&& s.c) ^^^ (s.b &&& s.c)
  ⟨t1 + (s0 + majority), s.a, s.b, s.c, s.d + t1, s.e, s.f, s.g⟩

/-- Four bytes as a word, the first one highest. -/
def wordOf (a b c d : UInt8) : UInt32 :=
  (a.toUInt32 <<< 24) ||| (b.toUInt32 <<< 16) ||| (c.toUInt32 <<< 8) ||| d.toUInt32

/-- The words of a block. -/
def blockWords : List UInt8 → List UInt32
  | a :: b :: c :: d :: rest => wordOf a b c d :: blockWords rest
  | _ => []

/-- Mixes a block of 64 bytes in. -/
def mix (s : HashWords) (block : List UInt8) : HashWords :=
  let ws := extend 48 (blockWords block).toArray
  let r := (ws.toList.zip roundWords.toList).foldl (fun s (w, k) => mixOnce s w k) s
  ⟨s.a + r.a, s.b + r.b, s.c + r.c, s.d + r.d, s.e + r.e, s.f + r.f, s.g + r.g, s.h + r.h⟩

/-- Mixes blocks in, at most `count` of them. -/
def mixAll : Nat → HashWords → List UInt8 → HashWords
  | 0, s, _ => s
  | count + 1, s, bytes => mixAll count (s.mix (bytes.take 64)) (bytes.drop 64)

/-- The bytes of a number, the first one highest. -/
def bytesOf (count n : Nat) : List UInt8 :=
  (List.range count).reverse.map fun i => (n >>> (8 * i)).toUInt8

/-- The eight words as bytes. -/
def bytes (s : HashWords) : List UInt8 :=
  [s.a, s.b, s.c, s.d, s.e, s.f, s.g, s.h].flatMap fun w => bytesOf 4 w.toNat

end HashWords

/-- A message with a mark, zeros and its length in bits behind it, which fill whole blocks. -/
def padded (message : List UInt8) : List UInt8 :=
  let n := message.length
  message ++ 0x80 :: (List.replicate ((119 - n % 64) % 64) 0 ++ HashWords.bytesOf 8 (8 * n))

/-- The digest of a message. -/
def sha256 (message : List UInt8) : List UInt8 :=
  let p := padded message
  (HashWords.start.mixAll (p.length / 64) p).bytes

/-- The padded message fills whole blocks. -/
theorem length_padded (message : List UInt8) : (padded message).length % 64 = 0 := by
  simp only [padded, List.length_append, List.length_cons, List.length_replicate, HashWords.bytesOf,
    List.length_map, List.length_reverse, List.length_range]
  omega

/-- A digest has 32 bytes. -/
theorem length_sha256 (message : List UInt8) : (sha256 message).length = 32 := by
  simp [sha256, HashWords.bytes, HashWords.bytesOf]

end ScriptHost.Measure
