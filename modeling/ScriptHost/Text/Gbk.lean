import ScriptHost.Text.GbkTable

/-!
# The double-byte code GBK

A plain character is one byte below 80. Every other character is a lead byte and a trail byte, found
in the code table. GB2312 is the part of GBK in which both bytes are at least A1, with two
characters of its own and a few later additions left out.
-/

namespace ScriptHost.Text

/-- The number of trail bytes, and so of places in a line of the table. -/
def gbkPlaces : Nat := 190

/-- The number of trail bytes below A1. -/
def lowPlaces : Nat := 96

/-- A line of the table with its runs spelled out; `last` is the character before them. -/
def spellRuns (last : Nat) : List Char → List Char
  | [] => []
  | c :: cs =>
    if 128 ≤ c.toNat then c :: spellRuns c.toNat cs
    else if c == ' ' then c :: spellRuns last cs
    else if c.isAlphanum then
      let more := c.toNat - 47
      (List.range more).map (fun i => Char.ofNat (last + i + 1)) ++ spellRuns (last + more) cs
    else
      let next := last + gapMarks.idxOf c + 2
      Char.ofNat next :: spellRuns next cs

/-- The characters of each lead byte from A1 to F7 and the trail bytes A1 to FE. -/
def basicLines : List (List Char) :=
  basicRows.map fun row => spellRuns 0 row.toList

/-- The ideographs of the main block that are not among the characters written out, in order, and
those behind them. -/
def furtherIdeographs : List Char :=
  ((List.range' 0x4e00 20902).map Char.ofNat).filter (fun c => !basicLines.any (·.contains c)) ++
    spellRuns 0 lateIdeographs.toList

/-- A part of a line: so many places, those at the end without a character. -/
def padPlaces (count : Nat) (cs : List Char) : List Char :=
  cs.take count ++ List.replicate (count - cs.length) ' '

/-- The line of the lead byte `n + 81`. The further ideographs fill the lines before A1, and from AA
on the places of the trail bytes below A1. -/
def gbkLine (n : Nat) : List Char :=
  if n < 32 then (furtherIdeographs.drop (gbkPlaces * n)).take gbkPlaces
  else
    let low :=
      if n < 39 then []
      else if n < 41 then (symbolRows.map fun row => spellRuns 0 row.toList).getD (n - 39) []
      else furtherIdeographs.drop (gbkPlaces * 32 + lowPlaces * (n - 41))
    padPlaces lowPlaces low ++ basicLines.getD (n - 32) []

/-- The code table as arrays: the line of a lead byte, then the place of a trail byte. -/
def gbkPage : Array (Array Char) :=
  ((List.range 126).map fun n => ((gbkLine n).take gbkPlaces).toArray).toArray

/-- The place of a trail byte in a line of the table. -/
def trailIndex? (t : Nat) : Option Nat :=
  if 0x40 ≤ t ∧ t ≤ 0x7e then some (t - 0x40)
  else if 0x80 ≤ t ∧ t ≤ 0xfe then some (t - 0x41)
  else none

/-- The trail byte of a place in a line of the table. -/
def trailOfIndex (i : Nat) : Nat :=
  if i < 0x3f then i + 0x40 else i + 0x41

/-- The character of a pair of bytes. -/
def gbkChar? (lead trail : UInt8) : Option Char :=
  if lead.toNat < 0x81 then none
  else match gbkPage[lead.toNat - 0x81]?, trailIndex? trail.toNat with
    | some row, some i =>
      match row[i]? with
      | some c => if c == ' ' then none else some c
      | none => none
    | _, _ => none

/-- The pair of bytes of a character. -/
def gbkPair? (c : Char) : Option (UInt8 × UInt8) :=
  if c.toNat < 0x80 then none
  else match gbkPage.findIdx? fun row => row.contains c with
    | none => none
    | some r =>
      match (gbkPage.getD r #[]).findIdx? fun d => d == c with
      | none => none
      | some i => some ((r + 0x81).toUInt8, (trailOfIndex i).toUInt8)

/-- Whether a pair of bytes of GBK is also a pair of GB2312. -/
def inBasicSet (lead trail : UInt8) : Bool :=
  let l := lead.toNat
  let t := trail.toNat
  0xa1 ≤ l && l ≤ 0xf7 && 0xa1 ≤ t &&
  !(l == 0xa1 && (t == 0xa4 || t == 0xaa)) && !(l == 0xa2 && t ≤ 0xaa) &&
  !(l == 0xa6 && 0xe0 ≤ t && t ≤ 0xf5) && !(l == 0xa8 && 0xbb ≤ t && t ≤ 0xc0)

/-- The pair of bytes of a character in GB2312. -/
def gb2312Pair? (c : Char) : Option (UInt8 × UInt8) :=
  if c.toNat == 0x30fb then some (0xa1, 0xa4)
  else if c.toNat == 0x2015 then some (0xa1, 0xaa)
  else (gbkPair? c).filter fun p => inBasicSet p.1 p.2

end ScriptHost.Text
