import ScriptHost.Text.LetterTable

/-!
# Capital and small letters

`upper` and `lower` are the full case mappings: one letter may become several, and a capital sigma
at the end of a word becomes the final small sigma. `fold` is the letter-by-letter comparison form
that keywords and constant names are matched with; it never changes the number of characters.
-/

namespace ScriptHost.Text

/-- The code point that a table of runs sends `n` to; `n` itself if no run holds it. -/
def shift (runs : Array LetterRun) (n : Nat) : Nat :=
  match runs.find? fun r => r.first ≤ n && n ≤ r.last && (n - r.first) % r.step == 0 with
  | some r => if r.forward then n + r.distance else n - r.distance
  | none => n

/-- The capital form of a letter. -/
def upperChar (c : Char) : List Char :=
  if c.toNat < 128 then [c.toUpper]
  else match longCapitals.find? fun p => p.1 == c.toNat with
    | some (_, form) => form
    | none => [Char.ofNat (shift capitalRuns c.toNat)]

/-- The small form of a letter, outside any context. -/
def lowerChar (c : Char) : List Char :=
  if c.toNat < 128 then [c.toLower]
  else if c.toNat == 0x130 then ['i', Char.ofNat 0x307]
  else [Char.ofNat (shift smallRuns c.toNat)]

/-- The capital form of a text. -/
def upper (cs : List Char) : List Char :=
  cs.flatMap upperChar

/-- Whether a character is skipped when the neighbours of a sigma are looked for. -/
def isTransparent (c : Char) : Bool :=
  transparentRanges.contains c.toNat

/-- Whether a character is a letter with a case. -/
def isCased (c : Char) : Bool :=
  casedRanges.contains c.toNat

/-- Whether the next character that counts is a letter with a case. -/
def goesOn (cs : List Char) : Bool :=
  match cs.dropWhile isTransparent with
  | [] => false
  | c :: _ => isCased c

/-- Small forms from left to right; `inWord` tells whether the last character that counts was a
letter with a case. -/
def lowerFrom (inWord : Bool) : List Char → List Char
  | [] => []
  | c :: cs =>
    if c.toNat < 128 then
      let next := c.isAlpha || (inWord && isTransparent c)
      c.toLower :: lowerFrom next cs
    else
      let next := if isTransparent c then inWord else isCased c
      if c.toNat == 0x3a3 then
        Char.ofNat (if inWord && !goesOn cs then 0x3c2 else 0x3c3) :: lowerFrom next cs
      else lowerChar c ++ lowerFrom next cs

/-- The small form of a text. -/
def lower (cs : List Char) : List Char :=
  lowerFrom false cs

/-- The form in which letters are compared without regard to case: plain capitals become small, and
the long s, the dotless and the dotted i and the kelvin sign stand for s, i and k. -/
def fold (c : Char) : Char :=
  if c.toNat < 128 then c.toLower
  else if c.toNat == 0x17f then 's'
  else if c.toNat == 0x130 || c.toNat == 0x131 then 'i'
  else if c.toNat == 0x212a then 'k'
  else c

/-- Whether two texts are equal letter by letter, case aside. -/
def sameWord (a b : List Char) : Bool :=
  a.map fold == b.map fold

/-- Words that are the same, case aside, have one length. -/
theorem length_eq_of_sameWord {a b : List Char} (h : sameWord a b = true) :
    a.length = b.length := by
  have hmap : a.map fold = b.map fold := by simpa [sameWord] using h
  simpa using congrArg List.length hmap

end ScriptHost.Text
