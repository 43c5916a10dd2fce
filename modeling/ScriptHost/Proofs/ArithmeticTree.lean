import ScriptHost.Proofs.Arithmetic

/-!
# Reading arithmetic expressions

The tokens of an arithmetic expression are read into its tree, whatever may follow it: the end of
the formula, a closing bracket or a comparison. Sums and products are built from the left, while the
readers take the first operand and then go on with the rest of the chain, so that the invariant is
about the chain: the tokens read so far are the left operand of whatever comes next.

Between an opening bracket and the first token after it the readers call each other fewer than 16
times, so that 16 steps for each token are enough.
-/

namespace ScriptHost.Number

open ScriptHost.Formula

/-- The tree of a literal. -/
def Literal.tree (l : Literal) : Tree :=
  if l.negative then .unary .neg (.value (.int l.size)) else .value (.int l.size)

/-- The tree of a literal has its number as value. -/
lemma Literal.eval_tree (l : Literal) (scope : Scope) :
    l.tree.eval scope = pure (.int l.value) := by
  unfold Literal.tree Literal.value
  split
  · rw [Tree.eval, Tree.eval]
    rfl
  · rw [Tree.eval]

end ScriptHost.Number

namespace ScriptHost.Formula

open ScriptHost.Number

namespace Arithmetic

/-- The tree of an expression. -/
def tree {r : Rank} : Arithmetic r → Tree
  | literal l => l.tree
  | name x => .name (String.ofList x)
  | group e => e.tree
  | ofFactor f => f.tree
  | times p f => .binary .mul p.tree f.tree
  | ofProduct p => p.tree
  | plus e s p => .binary s.operation e.tree p.tree

end Arithmetic

/-! ### Levels of operators -/

/-- Products. -/
def productLevel : List (String × BinaryOp) :=
  [("*", .mul), ("/", .div), ("//", .floorDiv), ("%", .mod)]

/-- Sums. -/
def sumLevel : List (String × BinaryOp) :=
  [("+", .add), ("-", .sub)]

/-! ### What follows -/

/-- Signs that go on with an operand. -/
def tailSigns : List String :=
  ["**", ".", "(", "["]

/-- Tokens after which an operand is at its end. -/
def AfterOperand (rest : List Token) : Prop :=
  rest = [] ∨ ∃ s more, rest = .sign s :: more ∧ s ∉ tailSigns

/-- Signs that end a sum. -/
def enders : List String :=
  [")", "=", "<", "<=", ">", ">="]

/-- Tokens after which a sum is at its end. -/
def AfterSum (rest : List Token) : Prop :=
  rest = [] ∨ ∃ s ∈ enders, ∃ more, rest = .sign s :: more

lemma AfterSum.afterOperand {rest : List Token} (h : AfterSum rest) : AfterOperand rest := by
  have henders : ∀ s ∈ enders, s ∉ tailSigns := by decide
  rcases h with rfl | ⟨s, hs, more, rfl⟩
  · exact .inl rfl
  · exact .inr ⟨s, more, rfl, henders s hs⟩

/-- No operation goes on after a sum. -/
lemma AfterSum.takeOp_eq_none {rest : List Token} (h : AfterSum rest) :
    ∀ l ∈ levels, takeOp l rest = none := by
  have henders : ∀ l ∈ levels, ∀ s ∈ enders, l.lookup s = none := by decide
  intro l hl
  rcases h with rfl | ⟨s, hs, more, rfl⟩
  · rfl
  · rw [takeOp, henders l hl s hs]
    rfl

/-! ### Operands -/

lemma readTail_of_afterOperand (n : Nat) (t : Tree) {rest : List Token} (h : AfterOperand rest) :
    readTail (n + 1) t rest = some (t, rest) := by
  rcases h with rfl | ⟨s, more, rfl, hs⟩
  · rfl
  · simp only [tailSigns, List.mem_cons, List.not_mem_nil, or_false, not_or] at hs
    rw [readTail]
    all_goals simp_all

/-- An operand without a sign before it is an atom. -/
lemma readSigned_of_readAtom {n : Nat} {ts rest : List Token} {t : Tree}
    (hsign : takeOp signOps ts = none) (hatom : readAtom (n + 1) ts = some (t, rest))
    (hrest : AfterOperand rest) : readSigned (n + 2) ts = some (t, rest) := by
  rw [readSigned, hsign]
  dsimp only
  rw [hatom]
  simp only [Option.bind_eq_bind, Option.bind_some, readTail_of_afterOperand n t hrest]
  split
  · next more =>
    rcases hrest with hnil | ⟨s, more, heq, hs⟩
    · cases hnil
    · obtain ⟨hs', -⟩ := List.cons.inj heq
      rw [← Token.sign.inj hs'] at hs
      exact absurd hs (by decide)
  · rfl

/-- A literal is an operand. -/
lemma readSigned_literal (l : Literal) {n : Nat} (hn : 3 ≤ n) {rest : List Token}
    (hrest : AfterOperand rest) : readSigned n (l.tokens ++ rest) = some (l.tree, rest) := by
  have hnumber (n : Nat) : readSigned (n + 2) (.number (.int l.size) :: rest) =
      some (.value (.int l.size), rest) :=
    readSigned_of_readAtom rfl rfl hrest
  obtain ⟨n, rfl⟩ : ∃ k, n = k + 3 := ⟨n - 3, by omega⟩
  unfold Literal.tokens Literal.tree
  split
  · have hminus : takeOp signOps ([.sign "-", .number (.int l.size)] ++ rest) =
        some (.neg, .number (.int l.size) :: rest) := rfl
    rw [readSigned, hminus]
    dsimp only
    rw [hnumber n]
    rfl
  · exact hnumber (n + 1)

/-! ### Levels -/

/-- How tokens are read at the rank of an expression, with steps enough for them and `k` more: as an
operand, or as the start of a chain that goes on with what follows. -/
def ReadsAs : Rank → List Token → Tree → Prop
  | .factor, ts, t => ∀ n rest, 16 * ts.length ≤ n + 8 → AfterOperand rest →
      readSigned n (ts ++ rest) = some (t, rest)
  | .product, ts, t => ∀ n k rest, 16 * ts.length + k ≤ n + 4 → AfterOperand rest →
      ∃ m, k ≤ m ∧ readLevel n [productLevel] (ts ++ rest) = readChain m productLevel [] t rest
  | .sum, ts, t => ∀ n k rest, 16 * ts.length + k ≤ n → AfterOperand rest →
      takeOp productLevel rest = none →
      ∃ m, k ≤ m ∧ readLevel n [sumLevel, productLevel] (ts ++ rest) =
        readChain m sumLevel [productLevel] t rest

/-- A chain ends before what is no operator of its level. -/
lemma readChain_end {n : Nat} (hn : 1 ≤ n) {l : List (String × BinaryOp)}
    {ls : List (List (String × BinaryOp))} {t : Tree} {rest : List Token}
    (h : takeOp l rest = none) : readChain n l ls t rest = some (t, rest) := by
  obtain ⟨n, rfl⟩ : ∃ k, n = k + 1 := ⟨n - 1, by omega⟩
  rw [readChain, h]

/-- What ends at one level ends at the levels that bind less strongly. -/
lemma readLevel_append {n : Nat} {ls : List (List (String × BinaryOp))} {ts rest : List Token}
    {t : Tree} (h : readLevel (n + 1) ls ts = some (t, rest))
    {front : List (List (String × BinaryOp))} (hfront : ∀ l ∈ front, takeOp l rest = none) :
    readLevel (n + 1 + front.length) (front ++ ls) ts = some (t, rest) := by
  induction front with
  | nil => exact h
  | cons l front ih =>
    have hinner := ih fun l' hl' => hfront l' (List.mem_cons_of_mem l hl')
    rw [List.length_cons, ← Nat.add_assoc, List.cons_append, readLevel]
    dsimp only
    rw [hinner]
    exact readChain_end (by omega) (hfront l List.mem_cons_self)

lemma readLevel_of_readsAs {ts rest : List Token} {t : Tree} (h : ReadsAs .sum ts t)
    (hrest : AfterSum rest) {n : Nat} (hn : 16 * ts.length + 6 ≤ n) :
    readLevel n levels (ts ++ rest) = some (t, rest) := by
  have hlevels : levels = levels.take 4 ++ [sumLevel, productLevel] := rfl
  have hnone := hrest.takeOp_eq_none
  obtain ⟨n, rfl⟩ : ∃ k, n = k + 1 + 4 := ⟨n - 5, by omega⟩
  obtain ⟨m, hm, hread⟩ := h (n + 1) 1 rest (by omega) hrest.afterOperand
    (hnone productLevel (by simp [levels, productLevel]))
  rw [readChain_end hm (hnone sumLevel (by simp [levels, sumLevel]))] at hread
  have hweaker : ∀ l ∈ levels.take 4, takeOp l rest = none := fun l hl =>
    hnone l (List.mem_of_mem_take hl)
  rw [hlevels]
  exact readLevel_append hread hweaker

/-! ### Formulas -/

/-- Tokens after which a formula is at its end, or at least is not read on. -/
def AfterFormula (rest : List Token) : Prop :=
  rest = [] ∨ ∃ s ∈ [")", "="], ∃ more, rest = .sign s :: more

lemma AfterFormula.cases {rest : List Token} (h : AfterFormula rest) :
    rest = [] ∨ (∃ more, rest = .sign ")" :: more) ∨ ∃ more, rest = .sign "=" :: more := by
  rcases h with rfl | ⟨s, hs, more, rfl⟩
  · exact .inl rfl
  · simp only [List.mem_cons, List.not_mem_nil, or_false] at hs
    rcases hs with rfl | rfl
    · exact .inr (.inl ⟨more, rfl⟩)
    · exact .inr (.inr ⟨more, rfl⟩)

lemma AfterFormula.afterSum {rest : List Token} (h : AfterFormula rest) : AfterSum rest := by
  rcases h.cases with rfl | ⟨more, rfl⟩ | ⟨more, rfl⟩
  · exact .inl rfl
  · exact .inr ⟨")", by decide, more, rfl⟩
  · exact .inr ⟨"=", by decide, more, rfl⟩

/-- What is read as a condition is read as the only formula of a list. -/
lemma readItems_of_readNot {n : Nat} {ts rest : List Token} {t : Tree} (hrest : AfterFormula rest)
    (h : readNot n ts = some (t, rest)) : readItems (n + 4) ts = some ([t], false, rest) := by
  have hboth : readBoth (n + 1) ts = some (t, rest) := by
    rw [readBoth, h]
    rcases hrest.cases with rfl | ⟨more, rfl⟩ | ⟨more, rfl⟩ <;> rfl
  have heither : readEither (n + 2) ts = some (t, rest) := by
    rw [readEither, hboth]
    rcases hrest.cases with rfl | ⟨more, rfl⟩ | ⟨more, rfl⟩ <;> rfl
  have htree : readTree (n + 3) ts = some (t, rest) := by
    rw [readTree, heither]
    rcases hrest.cases with rfl | ⟨more, rfl⟩ | ⟨more, rfl⟩ <;> rfl
  rw [readItems, htree]
  rcases hrest.cases with rfl | ⟨more, rfl⟩ | ⟨more, rfl⟩ <;> rfl

/-- A sum that nothing follows is read as the only formula of a list. -/
lemma readItems_of_readsAs {ts rest : List Token} {t : Tree} (h : ReadsAs .sum ts t)
    (hnot : ∀ more, ts ++ rest ≠ .sign "not" :: more) (hrest : AfterFormula rest) {n : Nat}
    (hn : 16 * ts.length + 11 ≤ n) : readItems n (ts ++ rest) = some ([t], false, rest) := by
  obtain ⟨n, rfl⟩ : ∃ k, n = k + 1 + 1 + 4 := ⟨n - 6, by omega⟩
  apply readItems_of_readNot hrest
  rw [readNot]
  · rw [readLevel_of_readsAs h hrest.afterSum (by omega)]
    rcases hrest.cases with rfl | ⟨more, rfl⟩ | ⟨more, rfl⟩ <;> rfl
  · exact hnot

namespace Arithmetic

variable {r : Rank}

/-- An expression starts with an operand, a minus sign or an opening bracket. -/
lemma exists_token (e : Arithmetic r) :
    ∃ t more, e.tokens = t :: more ∧ t ≠ .sign "not" ∧ t ≠ .sign ")" := by
  induction e with
  | literal l =>
    unfold tokens Literal.tokens
    split
    · exact ⟨_, _, rfl, by simp, by simp⟩
    · exact ⟨_, _, rfl, by simp, by simp⟩
  | name x => exact ⟨_, _, rfl, by simp, by simp⟩
  | group e => exact ⟨_, _, rfl, by simp, by simp⟩
  | ofFactor f ih => exact ih
  | times p f ih =>
    obtain ⟨t, more, htokens, ht⟩ := ih
    exact ⟨t, more ++ .sign "*" :: f.tokens, by rw [tokens, htokens]; rfl, ht⟩
  | ofProduct p ih => exact ih
  | plus e s p ih =>
    obtain ⟨t, more, htokens, ht⟩ := ih
    exact ⟨t, more ++ .sign s.symbol :: p.tokens, by rw [tokens, htokens]; rfl, ht⟩

lemma length_tokens_pos (e : Arithmetic r) : 1 ≤ e.tokens.length := by
  obtain ⟨t, more, hfirst, -⟩ := e.exists_token
  rw [hfirst]
  exact Nat.succ_le_succ (Nat.zero_le _)

/-- What is in parentheses is read as an operand. -/
lemma readsAs_group {e : Arithmetic .sum} (h : ReadsAs .sum e.tokens e.tree) :
    ReadsAs .factor (group e).tokens e.tree := by
  intro n rest hn hrest
  have htokens : (group e).tokens ++ rest = .sign "(" :: (e.tokens ++ .sign ")" :: rest) := by
    simp [tokens]
  obtain ⟨t, more, hfirst, hnot, hclose⟩ := e.exists_token
  have hinner : AfterFormula (.sign ")" :: rest) := .inr ⟨")", by decide, rest, rfl⟩
  simp only [tokens, List.length_cons, List.length_append, List.length_nil] at hn
  obtain ⟨n, rfl⟩ : ∃ k, n = k + 2 := ⟨n - 2, by omega⟩
  rw [htokens]
  refine readSigned_of_readAtom rfl ?_ hrest
  rw [readAtom]
  · have hitems : readItems n (e.tokens ++ .sign ")" :: rest) =
        some ([e.tree], false, .sign ")" :: rest) := by
      refine readItems_of_readsAs h ?_ hinner (by omega)
      intro more heq
      rw [hfirst] at heq
      exact hnot (List.cons.inj heq).1
    rw [hitems]
    rfl
  · intro more heq
    rw [hfirst] at heq
    exact hclose (List.cons.inj heq).1

/-- The tokens of an expression are read into its tree. -/
theorem readsAs (e : Arithmetic r) : ReadsAs r e.tokens e.tree := by
  induction e with
  | literal l =>
    intro n rest hn hrest
    have hlen := (literal l).length_tokens_pos
    exact readSigned_literal l (by omega) hrest
  | name x =>
    intro n rest hn hrest
    have hlen := (name x).length_tokens_pos
    obtain ⟨n, rfl⟩ : ∃ k, n = k + 2 := ⟨n - 2, by omega⟩
    exact readSigned_of_readAtom rfl rfl hrest
  | group e ih => exact readsAs_group ih
  | ofFactor f ih =>
    intro n k rest hn hrest
    have hlen := f.length_tokens_pos
    simp only [tokens] at hn ⊢
    obtain ⟨n, rfl⟩ : ∃ j, n = j + 2 := ⟨n - 2, by omega⟩
    refine ⟨n + 1, by omega, ?_⟩
    rw [readLevel]
    dsimp only
    rw [readLevel, ih n rest (by omega) hrest]
    rfl
  | times p f ihp ihf =>
    intro n k rest hn hrest
    have htokens : (times p f).tokens ++ rest = p.tokens ++ .sign "*" :: (f.tokens ++ rest) := by
      simp [tokens]
    have hop : takeOp productLevel (.sign "*" :: (f.tokens ++ rest)) =
        some (.mul, f.tokens ++ rest) := rfl
    simp only [tokens, List.length_append, List.length_cons] at hn
    -- What has been read is the left operand of the product.
    obtain ⟨m, hm, hleft⟩ := ihp n (16 * (f.tokens.length + 1) + k)
      (.sign "*" :: (f.tokens ++ rest)) (by omega) (.inr ⟨"*", _, rfl, by decide⟩)
    obtain ⟨m, rfl⟩ : ∃ j, m = j + 2 := ⟨m - 2, by omega⟩
    refine ⟨m + 1, by omega, ?_⟩
    rw [htokens, hleft, readChain, hop]
    dsimp only
    rw [readLevel, ihf m rest (by omega) hrest]
    rfl
  | ofProduct p ih =>
    intro n k rest hn hrest hend
    have hlen := p.length_tokens_pos
    simp only [tokens] at hn ⊢
    obtain ⟨n, rfl⟩ : ∃ j, n = j + 1 := ⟨n - 1, by omega⟩
    obtain ⟨m, hm, hread⟩ := ih n 1 rest (by omega) hrest
    refine ⟨n, by omega, ?_⟩
    rw [readLevel]
    dsimp only
    rw [hread, readChain_end hm hend]
    rfl
  | plus e s p ihe ihp =>
    intro n k rest hn hrest hend
    have htokens : (plus e s p).tokens ++ rest = e.tokens ++
        .sign s.symbol :: (p.tokens ++ rest) := by
      simp [tokens]
    have hop : takeOp sumLevel (.sign s.symbol :: (p.tokens ++ rest)) =
        some (s.operation, p.tokens ++ rest) := by
      cases s <;> rfl
    simp only [tokens, List.length_append, List.length_cons] at hn
    -- What has been read is the left operand of the sum.
    obtain ⟨m, hm, hleft⟩ := ihe n (16 * (p.tokens.length + 1) + k)
      (.sign s.symbol :: (p.tokens ++ rest)) (by omega)
        (.inr ⟨s.symbol, _, rfl, by cases s <;> decide⟩)
      (by cases s <;> rfl)
    obtain ⟨m, rfl⟩ : ∃ j, m = j + 1 := ⟨m - 1, by omega⟩
    obtain ⟨m', hm', hright⟩ := ihp m 1 rest (by omega) hrest
    refine ⟨m, by omega, ?_⟩
    rw [htokens, hleft, readChain, hop]
    dsimp only
    rw [hright, readChain_end hm' hend]
    rfl

/-- A sum is read as a whole formula. -/
theorem ofTokens?_tokens (e : Arithmetic .sum) : Tree.ofTokens? e.tokens = some e.tree := by
  obtain ⟨t, more, hfirst, hnot, -⟩ := e.exists_token
  have hitems : readItems (stepsFor e.tokens.length) (e.tokens ++ []) =
      some ([e.tree], false, []) := by
    refine readItems_of_readsAs e.readsAs ?_ (.inl rfl) (by unfold stepsFor; omega)
    intro more' heq
    rw [hfirst] at heq
    exact hnot (List.cons.inj heq).1
  rw [List.append_nil] at hitems
  rw [Tree.ofTokens?, hitems]

/-! ### Values -/

end Arithmetic

/-- The values that names have in formulas: whole numbers, or functions. -/
inductive IsSimple : Value → Prop
  | whole (n : Int) : IsSimple (.int n)
  | function (kind : String) (origin : Origin) : IsSimple (.function kind origin)

lemma IsSimple.eq_of_whole? {v : Value} {n : Int} (hv : IsSimple v) (h : v.whole? = some n) :
    v = .int n := by
  cases hv with
  | whole a => exact congrArg Value.int (Option.some.inj h)
  | function kind origin => cases h

/-- An operation that is `f` on whole numbers and refuses functions. -/
structure IsArithmetic (op : BinaryOp) (f : Int → Int → Int) : Prop where
  whole : ∀ a b, op.apply (.int a) (.int b) = .ok (.int (f a b))
  refuses : ∀ {v u}, IsSimple v → IsSimple u → v.whole? = none ∨ u.whole? = none →
    ∃ e, e.isExit = false ∧ op.apply v u = .error e

/-- Sums, differences and products of something else than whole numbers are refused. -/
lemma exists_error_apply {op : BinaryOp} (hop : op = .mul ∨ op = .add ∨ op = .sub) {v u : Value}
    (hv : IsSimple v) (hu : IsSimple u) (h : v.whole? = none ∨ u.whole? = none) :
    ∃ e, e.isExit = false ∧ op.apply v u = .error e := by
  cases hv with
  | whole a =>
    cases hu with
    | whole b => simp [Value.whole?] at h
    | function kind origin => rcases hop with rfl | rfl | rfl <;> exact ⟨_, rfl, rfl⟩
  | function kind origin => rcases hop with rfl | rfl | rfl <;> cases hu <;> exact ⟨_, rfl, rfl⟩

lemma isArithmetic_mul : IsArithmetic .mul (· * ·) where
  whole _ _ := rfl
  refuses := exists_error_apply (.inl rfl)

lemma isArithmetic_sign (s : Sign) : IsArithmetic s.operation s.apply where
  whole _ _ := by cases s <;> rfl
  refuses := exists_error_apply (by cases s <;> simp [Sign.operation])

/-- What a tree comes to: a simple value, which may be a whole number, or a fault. -/
inductive Gives (scope : Scope) (t : Tree) : Option Int → Prop
  | value {v : Value} : IsSimple v → t.eval scope = pure v → Gives scope t v.whole?
  | fault {e : Fault} : e.isExit = false → t.eval scope = throw e → Gives scope t none

/-- Arithmetic on what two trees come to. -/
lemma Gives.binary {scope : Scope} {op : BinaryOp} {f : Int → Int → Int} (hop : IsArithmetic op f)
    {l r : Tree} {a b : Option Int} (hl : Gives scope l a) (hr : Gives scope r b) :
    Gives scope (.binary op l r) (a.bind fun x => b.map fun y => f x y) := by
  have heval : (Tree.binary op l r).eval scope =
      l.eval scope >>= fun x => r.eval scope >>= fun y => Act.ofExcept (op.apply x y) := by
    rw [Tree.eval]
  cases hl with
  | fault hexit hl => exact .fault hexit (by rw [heval, hl, Act.throw_bind])
  | @value v hv hl =>
    rw [hl, pure_bind] at heval
    cases hr with
    | fault hexit hr =>
      have hnone : (v.whole?.bind fun x => (none : Option Int).map fun y => f x y) = none := by
        cases v.whole? <;> rfl
      rw [hnone]
      exact .fault hexit (by rw [heval, hr, Act.throw_bind])
    | @value u hu hr =>
      rw [hr, pure_bind] at heval
      have hrefuses (h : v.whole? = none ∨ u.whole? = none) :
          Gives scope (.binary op l r) none := by
        obtain ⟨e, hexit, he⟩ := hop.refuses hv hu h
        exact .fault hexit (by rw [heval, he]; rfl)
      cases hx : v.whole? with
      | none => exact hrefuses (.inl hx)
      | some x =>
        cases hy : u.whole? with
        | none => exact hrefuses (.inr hy)
        | some y =>
          rw [hv.eq_of_whole? hx, hu.eq_of_whole? hy, hop.whole] at heval
          exact .value (.whole (f x y)) heval

/-- A word that formulas take for a function. -/
def IsFunction (x : List Char) : Prop :=
  functionKinds.lookup (String.ofList x) ≠ none

instance (x : List Char) : Decidable (IsFunction x) :=
  inferInstanceAs (Decidable (_ ≠ _))

namespace Arithmetic

variable {scope : Scope} {env : List Char → Int}

/-- The number that formulas take an expression for: none if one of its names is a function. -/
def number? (env : List Char → Int) (e : Arithmetic r) : Option Int :=
  if ∀ x ∈ e.names, ¬ IsFunction x then some (e.value env) else none

/-- What is made of two expressions has a number if both have one. -/
lemma number?_binary {q r' : Rank} (p : Arithmetic q) (f : Arithmetic r') (g : Int → Int → Int) :
    ((p.number? env).bind fun a => (f.number? env).map fun b => g a b) =
      if ∀ x ∈ p.names ++ f.names, ¬ IsFunction x then some (g (p.value env) (f.value env))
      else none := by
  have hboth : (∀ x ∈ p.names ++ f.names, ¬ IsFunction x) ↔
      (∀ x ∈ p.names, ¬ IsFunction x) ∧ ∀ x ∈ f.names, ¬ IsFunction x := List.forall_mem_append
  unfold number?
  by_cases hp : ∀ x ∈ p.names, ¬ IsFunction x
  · by_cases hf : ∀ x ∈ f.names, ¬ IsFunction x
    · rw [if_pos hp, if_pos hf, if_pos (hboth.2 ⟨hp, hf⟩)]
      rfl
    · rw [if_pos hp, if_neg hf, if_neg fun h => hf (hboth.1 h).2]
      rfl
  · rw [if_neg hp, if_neg fun h => hp (hboth.1 h).1]
    rfl

/-- The tree of an expression comes to its number, if the scope has its names. -/
theorem gives_tree {e : Arithmetic r}
    (hscope : ∀ x ∈ e.names, scope (String.ofList x) = some (.int (env x))) :
    Gives scope e.tree (e.number? env) := by
  induction e with
  | literal l =>
    exact .value (.whole l.value) (l.eval_tree scope)
  | name x =>
    cases hkind : functionKinds.lookup (String.ofList x) with
    | none =>
      have heval : (Tree.name (String.ofList x)).eval scope = pure (.int (env x)) := by
        rw [Tree.eval, lookUp, hkind]
        dsimp only
        rw [hscope x List.mem_cons_self]
      have hnames : ∀ y ∈ (name x).names, ¬ IsFunction y := by
        intro y hy
        rw [List.mem_singleton.1 hy]
        exact not_not.2 hkind
      rw [number?, if_pos hnames]
      exact .value (.whole (env x)) heval
    | some kind =>
      have heval : (Tree.name (String.ofList x)).eval scope =
          pure (.function kind (.known (String.ofList x))) := by
        rw [Tree.eval, lookUp, hkind]
      have hfunction : IsFunction x := by
        unfold IsFunction
        rw [hkind]
        exact Option.some_ne_none kind
      rw [number?, if_neg fun h => h x List.mem_cons_self hfunction]
      exact .value (.function kind _) heval
  | group e ih => exact ih hscope
  | ofFactor f ih => exact ih hscope
  | times p f ihp ihf =>
    have hboth := (ihp fun x hx => hscope x (List.mem_append_left _ hx)).binary isArithmetic_mul
      (ihf fun x hx => hscope x (List.mem_append_right _ hx))
    rwa [number?_binary p f] at hboth
  | ofProduct p ih => exact ih hscope
  | plus e s p ihe ihp =>
    have hboth := (ihe fun x hx => hscope x (List.mem_append_left _ hx)).binary
      (isArithmetic_sign s) (ihp fun x hx => hscope x (List.mem_append_right _ hx))
    rwa [number?_binary e p] at hboth

end Arithmetic

end ScriptHost.Formula
