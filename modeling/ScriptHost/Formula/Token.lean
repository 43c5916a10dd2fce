import ScriptHost.Number.Reading
import ScriptHost.Text.Charset
import ScriptHost.Text.Word
import ScriptHost.Value.Basic

/-!
# Tokens of formulas

A formula is a sequence of numerals, quoted texts, names and signs. Blanks separate tokens; a line
break does so only inside brackets, and a number sign starts a comment. A text that is no sequence
of tokens is no formula, and no reason is given.
-/

namespace ScriptHost.Formula

open ScriptHost.Number ScriptHost.Text

/-- A token. -/
inductive Token where
  | number (v : Value)
  | quoted (s : List Char)
  | name (s : String)
  /-- An operator, a bracket or a reserved word. -/
  | sign (s : String)

/-! ### Numerals -/

/-- Words that may follow a numeral without a blank between them. -/
def followers : List (List Char) :=
  ["and", "else", "for", "if", "in", "is", "or", "not"].map String.toList

/-- Whether a character could be part of a name. -/
def touchesName (c : Char) : Bool :=
  c.isAlphanum || c == '_' || 128 ≤ c.toNat

/-- Whether a numeral may end before the text that follows. -/
def numeralEnds (rest : List Char) : Bool :=
  match rest with
  | [] => true
  | c :: _ => !touchesName c || followers.any fun w => w.isPrefixOf rest

/-- Whether a character is a digit in a base up to sixteen. -/
def isBaseDigit (base : Nat) (c : Char) : Bool :=
  (c.isDigit || ('a' ≤ c.toLower && c.toLower ≤ 'f')) && hexValue c.toLower < base

/-- The value of digits in a base. -/
def baseValue (base : Nat) (ds : List Char) : Nat :=
  ds.foldl (fun n c => base * n + hexValue c.toLower) 0

/-- A numeral in another base, after its mark. -/
def readBased (base : Nat) (cs : List Char) : Option (Token × List Char) := do
  let cs := if cs.head? == some '_' then cs.drop 1 else cs
  let (ds, rest) ← takeDigits (isBaseDigit base) true cs
  if numeralEnds rest then return (.number (.int (baseValue base ds)), rest) else none

/-- The exponent of a numeral, if there is one. -/
def readPower (cs : List Char) : Option (Option Int × List Char) :=
  match cs with
  | c :: more =>
    if c == 'e' || c == 'E' then
      let (negative, body) := takeSign more
      if body.head?.any Char.isDigit then
        (takeDigits Char.isDigit true body).map fun (ds, rest) =>
          (some (if negative then -(digitsValue ds : Int) else digitsValue ds), rest)
      else if body.length < more.length then none
      else some (none, cs)
    else some (none, cs)
  | [] => some (none, cs)

/-- The digits after the point, if there is one. -/
def readFraction (cs : List Char) : Option (Option (List Char) × List Char) :=
  match cs with
  | '.' :: more =>
    if more.head?.any Char.isDigit then
      (takeDigits Char.isDigit true more).map fun (ds, rest) => (some ds, rest)
    else some (some [], more)
  | _ => some (none, cs)

/-- The largest power of ten that is told apart from larger ones. -/
def powerLimit : Int := 100000

/-- A decimal numeral. One without a point and an exponent is whole, and then does not start with a
zero unless it is zero; only zeros may be more than the longest numeral has. -/
def readDecimal (cs : List Char) : Option (Token × List Char) := do
  let (whole, rest) ←
    if cs.head? == some '.' then some ([], cs) else takeDigits Char.isDigit true cs
  let (fraction, rest) ← readFraction rest
  let (power, rest) ← readPower rest
  if !numeralEnds rest then none
  else
    match fraction, power with
    | none, none =>
      if whole.head? == some '0' then
        if whole.any (· != '0') then none else return (.number (.int 0), rest)
      else if digitLimit < whole.length then none
      else return (.number (.int (digitsValue whole)), rest)
    | _, _ =>
      let places := fraction.getD []
      let e := max (-powerLimit) (min powerLimit (power.getD 0))
      return (.number (.float (scientificFloat false (whole ++ places) (e - places.length))), rest)

/-- A numeral. -/
def readNumber (cs : List Char) : Option (Token × List Char) :=
  match cs with
  | '0' :: 'x' :: rest | '0' :: 'X' :: rest => readBased 16 rest
  | '0' :: 'o' :: rest | '0' :: 'O' :: rest => readBased 8 rest
  | '0' :: 'b' :: rest | '0' :: 'B' :: rest => readBased 2 rest
  | _ => readDecimal cs

/-! ### Quoted texts -/

/-- The character with a code, if there is one. -/
def charOfCode (n : Nat) : Option Char :=
  if h : n.isValidChar then some (Char.ofNatAux n h) else none

/-- The character that `width` hexadecimal digits stand for. -/
def readCode (width : Nat) (cs : List Char) : Option (Char × List Char) :=
  let ds := cs.take width
  if ds.length == width && ds.all (isBaseDigit 16) then
    (charOfCode (baseValue 16 ds)).map fun c => (c, cs.drop width)
  else none

/-- The characters that an escape stands for; an unknown escape stands for itself. -/
def readEscape (cs : List Char) : Option (List Char × List Char) :=
  match cs with
  | [] => none
  | '\n' :: rest => some ([], rest)
  | 'n' :: rest => some (['\n'], rest)
  | 't' :: rest => some (['\t'], rest)
  | 'r' :: rest => some (['\r'], rest)
  | 'a' :: rest => some ([Char.ofNat 7], rest)
  | 'b' :: rest => some ([Char.ofNat 8], rest)
  | 'f' :: rest => some ([Char.ofNat 12], rest)
  | 'v' :: rest => some ([Char.ofNat 11], rest)
  | 'x' :: rest => (readCode 2 rest).map fun (c, rest) => ([c], rest)
  | 'u' :: rest => (readCode 4 rest).map fun (c, rest) => ([c], rest)
  | 'U' :: rest => (readCode 8 rest).map fun (c, rest) => ([c], rest)
  | 'N' :: _ => none
  | c :: rest =>
    if isBaseDigit 8 c then
      let ds := (cs.take 3).takeWhile (isBaseDigit 8)
      some ([Char.ofNat (baseValue 8 ds)], cs.drop ds.length)
    else if c == '\\' || c == '"' || c == '\x27' then some ([c], rest)
    else some (['\\', c], rest)

/-- The rest of a quoted text up to its closing mark. A raw text keeps its backslashes; a text
between single marks stays on its line. -/
def readQuoted (raw : Bool) (mark : List Char) : Nat → List Char → Option (List Char × List Char)
  | 0, _ => none
  | n + 1, cs =>
    if mark.isPrefixOf cs then some ([], cs.drop mark.length)
    else
      match cs with
      | [] => none
      | '\\' :: rest =>
        if raw then
          match rest with
          | [] => none
          | c :: more => (readQuoted raw mark n more).map fun (s, out) => ('\\' :: c :: s, out)
        else do
          let (new, more) ← readEscape rest
          let (s, out) ← readQuoted raw mark n more
          return (new ++ s, out)
      | c :: rest =>
        if c == '\n' && mark.length == 1 then none
        else (readQuoted raw mark n rest).map fun (s, out) => (c :: s, out)

/-- A quoted text, from its opening mark on. -/
def readText (raw : Bool) (cs : List Char) : Option (Token × List Char) :=
  match cs with
  | q :: rest =>
    let mark := if [q, q].isPrefixOf rest then [q, q, q] else [q]
    (readQuoted raw mark (cs.length + 1) (cs.drop mark.length)).map fun (s, out) => (.quoted s, out)
  | [] => none

/-! ### Names and signs -/

/-- Words that cannot be names. Some of them are operators; the others have no meaning in a formula.
-/
def reserved : List String :=
  ["False", "None", "True", "and", "as", "assert", "async", "await", "break", "class", "continue",
    "def", "del",
    "elif", "else", "except", "finally", "for", "from", "global", "if", "import", "in", "is",
      "lambda", "nonlocal",
    "not", "or", "pass", "raise", "return", "try", "while", "with", "yield"]

/-- A wide form of a plain character as that character, and the old forms of three letters as those
letters. -/
def plainForm (c : Char) : Char :=
  if 0xff01 ≤ c.toNat && c.toNat ≤ 0xff5e then Char.ofNat (c.toNat - 0xfee0)
  else if c.toNat == 0x17f then 's'
  else if c.toNat == 0x212a then 'K'
  else if c.toNat == 0x212b then Char.ofNat 0xc5
  else c

/-- The token that a word is. -/
def wordToken (w : List Char) : Token :=
  match String.ofList w with
  | "True" => .number (.bool true)
  | "False" => .number (.bool false)
  | "None" => .number .null
  | s => if reserved.contains s then .sign s else .name (String.ofList (w.map plainForm))

/-- Whether the letters before an opening mark say how the text is to be read: raw or not. -/
def textKind? (w : List Char) : Option Bool :=
  match w with
  | ['r'] | ['R'] => some true
  | ['u'] | ['U'] => some false
  | _ => none

/-- A word, or a quoted text with a letter before it. -/
def readWord (cs : List Char) : Option (Token × List Char) :=
  let w := cs.takeWhile isNameChar
  let rest := cs.dropWhile isNameChar
  if rest.head? == some '"' || rest.head? == some '\x27' then
    match textKind? w with
    | some raw => readText raw rest
    | none => some (wordToken w, rest)
  else some (wordToken w, rest)

/-- Operators and brackets; longer ones come first. -/
def signs : List String :=
  ["**", "//", "<<", ">>", "<=", ">=", "==", "!=", "+", "-", "*", "/", "%", "&", "|", "^", "~", "<",
    ">", "(", ")", "[", "]", ",", ":", ".", "="]

/-- An operator or a bracket. -/
def readSign (cs : List Char) : Option (Token × List Char) :=
  (signs.find? fun s => s.toList.isPrefixOf cs).map fun s => (.sign s, cs.drop s.length)

/-- The next token. -/
def readToken (cs : List Char) : Option (Token × List Char) :=
  match cs with
  | [] => none
  | c :: rest =>
    if c.isDigit || (c == '.' && rest.head?.any Char.isDigit) then readNumber cs
    else if c == '"' || c == '\x27' then readText false cs
    else if isNameStart c then readWord cs
    else readSign cs

/-! ### Whole formulas -/

/-- The deepest nesting of brackets. -/
def depthLimit : Nat := 200

/-- The brackets still open after a token; none if it closes a bracket of another kind. -/
def openAfter (depth : List String) : Token → Option (List String)
  | .sign "(" => if depth.length < depthLimit then some (")" :: depth) else none
  | .sign "[" => if depth.length < depthLimit then some ("]" :: depth) else none
  | .sign ")" => if depth.head? == some ")" then some depth.tail else none
  | .sign "]" => if depth.head? == some "]" then some depth.tail else none
  | _ => some depth

/-- Whether nothing but blank lines and comments is left. -/
def onlyBlankLines (cs : List Char) : Bool :=
  (lines cs).all fun l =>
    match l.dropWhile fun c => c == ' ' || c == '\t' || c == '\x0c' with
    | [] => true
    | c :: _ => c == '#'

/-- The tokens of a text, with `open_` the closing brackets that are awaited. -/
def tokensFrom : Nat → List String → List Char → Option (List Token)
  | 0, _, _ => none
  | n + 1, open_, cs =>
    match cs with
    | [] => if open_.isEmpty then some [] else none
    | '\n' :: rest =>
      if open_.isEmpty then (if onlyBlankLines rest then some [] else none)
      else tokensFrom n open_ rest
    | '\\' :: '\n' :: rest => if rest.isEmpty then none else tokensFrom n open_ rest
    | c :: rest =>
      if c == ' ' || c == '\t' || c == '\x0c' then tokensFrom n open_ rest
      else if c == '#' then tokensFrom n open_ (rest.dropWhile (· != '\n'))
      else do
        let (t, more) ← readToken cs
        let open_ ← openAfter open_ t
        let ts ← tokensFrom n open_ more
        return t :: ts

/-- The tokens of a formula. -/
def tokens? (cs : List Char) : Option (List Token) :=
  if cs.any (·.toNat == 0) then none
  else
    let cs := unifyLineEnds cs
    tokensFrom (cs.length + 1) [] cs

end ScriptHost.Formula
