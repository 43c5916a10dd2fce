import ScriptHost.Number.Binary

/-!
# The random number generator

A generator with 624 words of state that is seeded from a whole number and yields numbers of 53
random bits between zero and one.
-/

namespace ScriptHost.Random

open ScriptHost.Number

/-- The number of words of state. -/
def size : Nat := 624

/-- The state: the words, and how many of them have been used. -/
structure Twister where
  words : Array UInt32
  used : Nat

/-- A word of the state. -/
def word (a : Array UInt32) (i : Nat) : UInt32 :=
  a.getD i 0

/-- Mixes a word with its own high bits. -/
def mixed (w : UInt32) : UInt32 :=
  w ^^^ (w >>> 30)

/-- Fills words from one number: each comes from the one before it. -/
def fillFrom (a : Array UInt32) : Nat → Array UInt32
  | 0 => a
  | left + 1 =>
    let i := a.size
    fillFrom (a.push (1812433253 * mixed (word a (i - 1)) + i.toUInt32)) left

/-- The state made from a single word. -/
def ofWord (s : UInt32) : Array UInt32 :=
  fillFrom #[s] (size - 1)

/-- After the last word the first is taken over from it and counting starts again at one. -/
def wrap (a : Array UInt32) (i : Nat) : Array UInt32 × Nat :=
  if i < size then (a, i) else (a.setIfInBounds 0 (word a (size - 1)), 1)

/-- Stirs the words of a key into the state. -/
def stirKey (key : Array UInt32) (a : Array UInt32) (i j : Nat) : Nat → Array UInt32 × Nat
  | 0 => (a, i)
  | left + 1 =>
    let w := (word a i ^^^ (mixed (word a (i - 1)) * 1664525)) + word key j + j.toUInt32
    let (a, i) := wrap (a.setIfInBounds i w) (i + 1)
    stirKey key a i (if j + 1 < key.size then j + 1 else 0) left

/-- Stirs the state once more. -/
def stirAgain (a : Array UInt32) (i : Nat) : Nat → Array UInt32
  | 0 => a
  | left + 1 =>
    let w := (word a i ^^^ (mixed (word a (i - 1)) * 1566083941)) - i.toUInt32
    let (a, i) := wrap (a.setIfInBounds i w) (i + 1)
    stirAgain a i left

/-- A number in words of 32 bits, the lowest first. -/
def wordsOf : Nat → Nat → List UInt32
  | 0, _ => []
  | fuel + 1, n => n.toUInt32 :: if n < twoPow 32 then [] else wordsOf fuel (n / twoPow 32)

/-- The state made from a whole number, whose sign does not matter. -/
def seed (n : Int) : Twister :=
  let key := (wordsOf (n.natAbs.log2 + 1) n.natAbs).toArray
  let (a, i) := stirKey key (ofWord 19650218) 1 0 (max size key.size)
  let a := stirAgain a i (size - 1)
  ⟨a.setIfInBounds 0 0x80000000, size⟩

/-- Renews word `i` and the words after it. -/
def renewFrom (a : Array UInt32) (i : Nat) : Nat → Array UInt32
  | 0 => a
  | left + 1 =>
    let y := (word a i &&& 0x80000000) ||| (word a ((i + 1) % size) &&& 0x7fffffff)
    let w := word a ((i + 397) % size) ^^^ (y >>> 1) ^^^ (if y &&& 1 == 0 then 0 else 0x9908b0df)
    renewFrom (a.setIfInBounds i w) (i + 1) left

/-- The next word of output. -/
def nextWord (t : Twister) : UInt32 × Twister :=
  let t := if t.used < size then t else ⟨renewFrom t.words 0 size, 0⟩
  let y := word t.words t.used
  let y := y ^^^ (y >>> 11)
  let y := y ^^^ ((y <<< 7) &&& 0x9d2c5680)
  let y := y ^^^ ((y <<< 15) &&& 0xefc60000)
  (y ^^^ (y >>> 18), { t with used := t.used + 1 })

/-- The next number between zero and one. -/
def next (t : Twister) : Float × Twister :=
  let (a, t) := nextWord t
  let (b, t) := nextWord t
  (nearest false ((a >>> 5).toNat * 67108864 + (b >>> 6).toNat) (twoPow 53), t)

end ScriptHost.Random
