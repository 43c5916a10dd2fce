/-!
# Lines of a text

A line ends at a newline, a carriage return (with a newline behind it or not), or one of the other
characters that break lines. A break at the end of a text starts no further line.
-/

namespace ScriptHost.Text

/-- Whether a character breaks lines. -/
def isLineBreak (c : Char) : Bool :=
  [0x0A, 0x0B, 0x0C, 0x0D, 0x1C, 0x1D, 0x1E, 0x85, 0x2028, 0x2029].contains c.toNat

/-- The lines of a text behind the characters `cur` of a line that has begun. -/
def splitLinesFrom (cur : List Char) : List Char → List (List Char)
  | [] => if cur.isEmpty then [] else [cur.reverse]
  | '\r' :: '\n' :: rest => cur.reverse :: splitLinesFrom [] rest
  | c :: rest =>
    if isLineBreak c then cur.reverse :: splitLinesFrom [] rest else splitLinesFrom (c :: cur) rest

/-- The lines of a text. -/
def splitLines (cs : List Char) : List (List Char) :=
  splitLinesFrom [] cs

end ScriptHost.Text
