import ScriptHost.Formula.Token

/-!
# Formulas as trees

The tree of a formula, and the grammar that gives it. From the weakest binding to the strongest: a
choice, `or`, `and`, `not`, comparisons, the bit operations, shifts, sums, products, signs, powers,
and what follows a value (members, calls, indices).
-/

namespace ScriptHost.Formula

/-- Operations on one value. -/
inductive UnaryOp where
  | neg
  | pos
  | invert
  | not
  deriving DecidableEq

/-- Operations on two values. -/
inductive BinaryOp where
  | add
  | sub
  | mul
  | div
  | floorDiv
  | mod
  | pow
  | shiftLeft
  | shiftRight
  | bitAnd
  | bitOr
  | bitXor
  deriving DecidableEq

/-- Comparisons. -/
inductive Comparison where
  | order (op : CompareOp)
  | equal
  | unequal
  | within
  | notWithin
  | identical
  | notIdentical
  deriving DecidableEq

/-- A formula. A call has as many names as arguments; a positional argument has none. A comparison
is a chain. -/
inductive Tree where
  | value (v : Value)
  | name (s : String)
  | list (items : List Tree)
  | tuple (items : List Tree)
  | unary (op : UnaryOp) (t : Tree)
  | binary (op : BinaryOp) (left right : Tree)
  | both (left right : Tree)
  | either (left right : Tree)
  | compare (first : Tree) (ops : List Comparison) (others : List Tree)
  | choose (condition yes no : Tree)
  | item (t index : Tree)
  | slice (t lo hi step : Tree)
  | member (t : Tree) (name : String)
  | call (f : Tree) (args : List Tree) (names : List (Option String))

/-- Left-associative operators, one level after the other, from the weakest binding on. -/
def levels : List (List (String × BinaryOp)) :=
  [[("|", .bitOr)], [("^", .bitXor)], [("&", .bitAnd)], [("<<", .shiftLeft), (">>", .shiftRight)],
    [("+", .add), ("-", .sub)], [("*", .mul), ("/", .div), ("//", .floorDiv), ("%", .mod)]]

/-- Operators before a value. -/
def signOps : List (String × UnaryOp) :=
  [("-", .neg), ("+", .pos), ("~", .invert)]

/-- Comparisons of one sign. -/
def comparisons : List (String × Comparison) :=
  [("<", .order .lt), ("<=", .order .le), (">", .order .gt), (">=", .order .ge), ("==", .equal),
    ("!=", .unequal), ("in", .within)]

/-- The comparison that comes next. -/
def takeComparison : List Token → Option (Comparison × List Token)
  | .sign "not" :: .sign "in" :: rest => some (.notWithin, rest)
  | .sign "is" :: .sign "not" :: rest => some (.notIdentical, rest)
  | .sign "is" :: rest => some (.identical, rest)
  | .sign s :: rest => (comparisons.lookup s).map fun c => (c, rest)
  | _ => none

/-- The operator of a table that comes next. -/
def takeOp {α : Type} (table : List (String × α)) : List Token → Option (α × List Token)
  | .sign s :: rest => (table.lookup s).map fun op => (op, rest)
  | _ => none

/-- Quoted texts that follow one another are one text. -/
def takeTexts : List Token → List Char × List Token
  | .quoted s :: rest =>
    let (more, out) := takeTexts rest
    (s ++ more, out)
  | ts => ([], ts)

/-- A missing end of a slice. -/
def noBound : Tree := .value .null

mutual

/-- A choice, or what binds more strongly. -/
def readTree : Nat → List Token → Option (Tree × List Token)
  | 0, _ => none
  | n + 1, ts => do
    let (t, rest) ← readEither n ts
    match rest with
    | .sign "if" :: more =>
      let (c, more) ← readEither n more
      match more with
      | .sign "else" :: more =>
        let (e, out) ← readTree n more
        return (.choose c t e, out)
      | _ => none
    | _ => return (t, rest)

/-- One or more alternatives. -/
def readEither : Nat → List Token → Option (Tree × List Token)
  | 0, _ => none
  | n + 1, ts => do
    let (t, rest) ← readBoth n ts
    match rest with
    | .sign "or" :: more =>
      let (u, out) ← readEither n more
      return (.either t u, out)
    | _ => return (t, rest)

/-- One or more conditions that all have to hold. -/
def readBoth : Nat → List Token → Option (Tree × List Token)
  | 0, _ => none
  | n + 1, ts => do
    let (t, rest) ← readNot n ts
    match rest with
    | .sign "and" :: more =>
      let (u, out) ← readBoth n more
      return (.both t u, out)
    | _ => return (t, rest)

/-- A comparison, or the opposite of one. -/
def readNot : Nat → List Token → Option (Tree × List Token)
  | 0, _ => none
  | n + 1, ts =>
    match ts with
    | .sign "not" :: more => do
      let (t, out) ← readNot n more
      return (.unary .not t, out)
    | _ => do
      let (t, rest) ← readLevel n levels ts
      let (ops, others, out) ← readCompared n rest
      return (if ops.isEmpty then t else .compare t ops others, out)

/-- The rest of a chain of comparisons. -/
def readCompared : Nat → List Token → Option (List Comparison × List Tree × List Token)
  | 0, _ => none
  | n + 1, ts =>
    match takeComparison ts with
    | none => some ([], [], ts)
    | some (op, rest) => do
      let (t, rest) ← readLevel n levels rest
      let (ops, others, out) ← readCompared n rest
      return (op :: ops, t :: others, out)

/-- Operations of the given levels. -/
def readLevel : Nat → List (List (String × BinaryOp)) → List Token → Option (Tree × List Token)
  | 0, _, _ => none
  | n + 1, ls, ts =>
    match ls with
    | [] => readSigned n ts
    | l :: ls => do
      let (t, rest) ← readLevel n ls ts
      readChain n l ls t rest

/-- The rest of a chain of operations of one level. -/
def readChain : Nat → List (String × BinaryOp) → List (List (String × BinaryOp)) → Tree →
    List Token →
    Option (Tree × List Token)
  | 0, _, _, _, _ => none
  | n + 1, l, ls, left, ts =>
    match takeOp l ts with
    | none => some (left, ts)
    | some (op, rest) => do
      let (right, rest) ← readLevel n ls rest
      readChain n l ls (.binary op left right) rest

/-- A power, perhaps with signs before it. -/
def readSigned : Nat → List Token → Option (Tree × List Token)
  | 0, _ => none
  | n + 1, ts =>
    match takeOp signOps ts with
    | some (op, rest) => do
      let (t, out) ← readSigned n rest
      return (.unary op t, out)
    | none => do
      let (t, rest) ← readAtom n ts
      let (t, rest) ← readTail n t rest
      match rest with
      | .sign "**" :: more =>
        let (e, out) ← readSigned n more
        return (.binary .pow t e, out)
      | _ => return (t, rest)

/-- A value, a name, or something in brackets. -/
def readAtom : Nat → List Token → Option (Tree × List Token)
  | 0, _ => none
  | n + 1, ts =>
    match ts with
    | .number v :: rest => some (.value v, rest)
    | .name s :: rest => some (.name s, rest)
    | .quoted _ :: _ =>
      let (s, rest) := takeTexts ts
      some (.value (.text (String.ofList s)), rest)
    | .sign "(" :: .sign ")" :: rest => some (.tuple [], rest)
    | .sign "(" :: rest => do
      let (items, comma, rest) ← readItems n rest
      match items, rest with
      | [t], .sign ")" :: out => return (if comma then .tuple [t] else t, out)
      | _, .sign ")" :: out => return (.tuple items, out)
      | _, _ => none
    | .sign "[" :: .sign "]" :: rest => some (.list [], rest)
    | .sign "[" :: rest => do
      let (items, _, rest) ← readItems n rest
      match rest with
      | .sign "]" :: out => return (.list items, out)
      | _ => none
    | _ => none

/-- One or more formulas with commas between them, and whether a comma ends them. -/
def readItems : Nat → List Token → Option (List Tree × Bool × List Token)
  | 0, _ => none
  | n + 1, ts => do
    let (t, rest) ← readTree n ts
    match rest with
    | [.sign ","] => return ([t], true, [])
    | .sign "," :: .sign ")" :: out => return ([t], true, .sign ")" :: out)
    | .sign "," :: .sign "]" :: out => return ([t], true, .sign "]" :: out)
    | .sign "," :: more =>
      let (items, comma, out) ← readItems n more
      return (t :: items, comma, out)
    | _ => return ([t], false, rest)

/-- What follows a value: members, calls and indices. -/
def readTail : Nat → Tree → List Token → Option (Tree × List Token)
  | 0, _, _ => none
  | n + 1, t, ts =>
    match ts with
    | .sign "." :: .name s :: rest => readTail n (.member t s) rest
    | .sign "." :: _ => none
    | .sign "(" :: rest => do
      let (args, names, rest) ← readArguments n false rest
      readTail n (.call t args names) rest
    | .sign "[" :: rest => do
      let (t, rest) ← readIndex n t rest
      readTail n t rest
    | _ => some (t, ts)

/-- The arguments of a call up to the closing bracket; `named` tells that a named one has been read.
-/
def readArguments : Nat → Bool → List Token → Option (List Tree × List (Option String) × List Token)
  | 0, _, _ => none
  | n + 1, named, ts =>
    match ts with
    | .sign ")" :: rest => some ([], [], rest)
    | .name s :: .sign "=" :: rest => do
      let (t, rest) ← readTree n rest
      let (args, names, out) ← readMoreArguments n true rest
      return (t :: args, some s :: names, out)
    | _ =>
      if named then none
      else do
        let (t, rest) ← readTree n ts
        let (args, names, out) ← readMoreArguments n false rest
        return (t :: args, none :: names, out)

/-- The end of the arguments of a call, or a comma and more of them. -/
def readMoreArguments :
    Nat → Bool → List Token → Option (List Tree × List (Option String) × List Token)
  | 0, _, _ => none
  | n + 1, named, ts =>
    match ts with
    | .sign ")" :: rest => some ([], [], rest)
    | .sign "," :: rest => readArguments n named rest
    | _ => none

/-- An index or a slice, up to the closing bracket. -/
def readIndex : Nat → Tree → List Token → Option (Tree × List Token)
  | 0, _, _ => none
  | n + 1, t, ts => do
    let (lo, rest) ← readBound n ts
    match rest with
    | .sign ":" :: more =>
      let (hi, rest) ← readBound n more
      match rest with
      | .sign ":" :: more =>
        let (step, rest) ← readBound n more
        match rest with
        | .sign "]" :: out =>
          return (.slice t (lo.getD noBound) (hi.getD noBound) (step.getD noBound), out)
        | _ => none
      | .sign "]" :: out => return (.slice t (lo.getD noBound) (hi.getD noBound) noBound, out)
      | _ => none
    | .sign "]" :: out => lo.map fun i => (.item t i, out)
    | .sign "," :: .sign "]" :: out => lo.map fun i => (.item t (.tuple [i]), out)
    | .sign "," :: more =>
      let first ← lo
      let (others, _, rest) ← readItems n more
      match rest with
      | .sign "]" :: out => return (.item t (.tuple (first :: others)), out)
      | _ => none
    | _ => none

/-- One end of a slice, if it is there. -/
def readBound : Nat → List Token → Option (Option Tree × List Token)
  | 0, _ => none
  | n + 1, ts =>
    match ts with
    | .sign ":" :: _ | .sign "]" :: _ => some (none, ts)
    | _ => (readTree n ts).map fun (t, rest) => (some t, rest)

end

/-- Steps that are enough to read so many tokens: between one token and the next no more readers
follow each other. -/
def stepsFor (count : Nat) : Nat := 32 * (count + 1)

/-- The tree of a formula; formulas with commas between them are a tuple. -/
def Tree.ofTokens? (ts : List Token) : Option Tree :=
  match readItems (stepsFor ts.length) ts with
  | some ([t], false, []) => some t
  | some (items, _, []) => some (.tuple items)
  | _ => none

/-- The tree of a text. -/
def Tree.ofText? (cs : List Char) : Option Tree :=
  (tokens? cs).bind Tree.ofTokens?

end ScriptHost.Formula
