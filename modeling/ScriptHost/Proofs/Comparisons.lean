import Mathlib.Data.Int.Order.Basic
import ScriptHost.Proofs.ArithmeticTree
import ScriptHost.Proofs.Refusals

/-!
# Comparisons in conditions

A condition that compares two literals is read as a formula. Formulas have the four comparisons by
order, but an equals sign compares nothing there, and no comparison is written with an order sign
right before another one. So a condition for equality or inequality cannot be read, stands for
itself, and is taken to hold because its text is not empty, whatever the numbers are. The same
happens to an order if one of the literals cannot be read (`Comparator.run_choiceLine`).
-/

namespace ScriptHost.Formula

open ScriptHost.Number

/-! ### Reading a comparison -/

/-- A literal by itself is a sum. -/
def ofLiteral (l : Literal) : Arithmetic .sum :=
  .ofProduct (.ofFactor (.literal l))

lemma readLevel_literal (l : Literal) {rest : List Token} (hrest : AfterSum rest) {n : Nat}
    (hn : 16 * l.tokens.length + 6 ≤ n) :
    readLevel n levels (l.tokens ++ rest) = some (l.tree, rest) :=
  readLevel_of_readsAs (ofLiteral l).readsAs hrest hn

/-- A literal does not start with a word. -/
lemma tokens_append_ne_not (l : Literal) (rest more : List Token) :
    l.tokens ++ rest ≠ .sign "not" :: more := by
  obtain ⟨t, ts, hfirst, hnot, -⟩ := (ofLiteral l).exists_token
  have hfirst : l.tokens = t :: ts := hfirst
  rw [hfirst]
  intro heq
  exact hnot (List.cons.inj heq).1

/-- A literal with an order sign after it is compared with the next operand. -/
lemma readNot_literal (a : Literal) (op : CompareOp) (ts : List Token) {n : Nat}
    (hn : 16 * a.tokens.length + 4 ≤ n) :
    readNot (n + 3) (a.tokens ++ .sign op.symbol :: ts) =
      (readLevel (n + 1) levels ts).bind fun next => (readCompared (n + 1) next.2).map fun more =>
        (.compare a.tree (.order op :: more.1) (next.1 :: more.2.1), more.2.2) := by
  have hleft : readLevel (n + 2) levels (a.tokens ++ .sign op.symbol :: ts) =
      some (a.tree, .sign op.symbol :: ts) := by
    refine readLevel_literal a (.inr ⟨op.symbol, ?_, _, rfl⟩) (by omega)
    cases op <;> decide
  have hop : takeComparison (.sign op.symbol :: ts) = some (.order op, ts) := by
    cases op <;> rfl
  rw [readNot]
  · rw [hleft]
    simp only [Option.bind_eq_bind, Option.bind_some]
    rw [readCompared, hop]
    dsimp only
    cases readLevel (n + 1) levels ts with
    | none => rfl
    | some next => cases hmore : readCompared (n + 1) next.2 <;> simp [hmore]
  · exact tokens_append_ne_not a _

/-- What is read to the end as a condition is read to the end as a list of formulas. -/
lemma readItems_of_done {n : Nat} {ts : List Token} {t : Option Tree}
    (h : readNot (n + 1) ts = t.map fun t => (t, [])) :
    readItems (n + 5) ts = t.map fun t => ([t], false, []) := by
  have hboth : readBoth (n + 2) ts = t.map fun t => (t, []) := by
    rw [readBoth, h]
    cases t <;> rfl
  have heither : readEither (n + 3) ts = t.map fun t => (t, []) := by
    rw [readEither, hboth]
    cases t <;> rfl
  have htree : readTree (n + 4) ts = t.map fun t => (t, []) := by
    rw [readTree, heither]
    cases t <;> rfl
  rw [readItems, htree]
  cases t <;> rfl

/-- What is read to the end as a condition, with the steps that there are, is the tree. -/
lemma ofTokens?_of_done {ts : List Token} {t : Option Tree}
    (h : ∀ n, 16 * (ts.length + 1) ≤ n → readNot n ts = t.map fun t => (t, [])) :
    Tree.ofTokens? ts = t := by
  obtain ⟨n, hn⟩ : ∃ n, stepsFor ts.length = n + 5 := ⟨stepsFor ts.length - 5, by
    simp only [stepsFor]; omega⟩
  have hitems := readItems_of_done (h (n + 1) (by simp only [stepsFor] at hn; omega))
  rw [Tree.ofTokens?, hn, hitems]
  cases t <;> rfl

/-- Nothing starts with an order sign. -/
lemma readLevel_greater (n : Nat) (ls : List (List (String × BinaryOp))) (more : List Token) :
    readLevel n ls (.sign ">" :: more) = none := by
  have hsigned (n : Nat) : readSigned n (.sign ">" :: more) = none := by
    rcases n with _ | _ | n <;> rfl
  induction ls generalizing n with
  | nil =>
    cases n with
    | zero => rfl
    | succ n => exact hsigned n
  | cons l ls ih =>
    cases n with
    | zero => rfl
    | succ n =>
      rw [readLevel]
      dsimp only
      rw [ih]
      rfl

/-- Two literals with an order sign between them are compared. -/
lemma ofTokens?_order (op : CompareOp) (a b : Literal) :
    Tree.ofTokens? (a.tokens ++ .sign op.symbol :: b.tokens) =
      some (.compare a.tree [.order op] [b.tree]) := by
  refine ofTokens?_of_done (t := some _) fun n hn => ?_
  simp only [List.length_append, List.length_cons] at hn
  obtain ⟨n, rfl⟩ : ∃ k, n = k + 3 := ⟨n - 3, by omega⟩
  have hright : readLevel (n + 1) levels (b.tokens ++ []) = some (b.tree, []) :=
    readLevel_literal b (.inl rfl) (by omega)
  rw [List.append_nil] at hright
  rw [readNot_literal a op b.tokens (by omega), hright]
  rfl

/-- After one order sign there is no operand before the other one. -/
lemma ofTokens?_unequal (a b : Literal) :
    Tree.ofTokens? (a.tokens ++ .sign "<" :: .sign ">" :: b.tokens) = none := by
  refine ofTokens?_of_done (t := none) fun n hn => ?_
  simp only [List.length_append, List.length_cons] at hn
  obtain ⟨n, rfl⟩ : ∃ k, n = k + 3 := ⟨n - 3, by omega⟩
  have hread := readNot_literal a .lt (.sign ">" :: b.tokens) (n := n) (by omega)
  rw [readLevel_greater] at hread
  exact hread

/-- An equals sign is left over. -/
lemma ofTokens?_equals (a b : Literal) :
    Tree.ofTokens? (a.tokens ++ .sign "=" :: b.tokens) = none := by
  have hitems : readItems (stepsFor (a.tokens ++ .sign "=" :: b.tokens).length)
      (a.tokens ++ .sign "=" :: b.tokens) = some ([a.tree], false, .sign "=" :: b.tokens) := by
    refine readItems_of_readsAs (ofLiteral a).readsAs (tokens_append_ne_not a _)
      (.inr ⟨"=", by decide, _, rfl⟩) ?_
    have hlen : (ofLiteral a).tokens.length = a.tokens.length := rfl
    rw [hlen, stepsFor, List.length_append]
    omega
  rw [Tree.ofTokens?, hitems]

/-- Numbers are compared by their order. -/
lemma eval_order (scope : Scope) (op : CompareOp) (a b : Literal) :
    (Tree.compare a.tree [.order op] [b.tree]).eval scope =
      pure (.bool (op.holds (compare a.value b.value))) := by
  have htest : (Comparison.order op).test (.int a.value) (.int b.value) =
      .ok (op.holds (compare a.value b.value)) := by
    rw [Comparison.test, Value.compareWith]
    · rfl
    all_goals nofun
  rw [Tree.eval, a.eval_tree, pure_bind, Tree.evalChain, b.eval_tree, pure_bind, htest]
  simp only [List.isEmpty_nil, Bool.not_true, Bool.and_false]
  rfl

end ScriptHost.Formula

namespace ScriptHost.Script

open ScriptHost.Formula ScriptHost.Number ScriptHost.Text

/-- The comparisons of conditions. -/
inductive Comparator where
  | equal
  | unequal
  | order (op : CompareOp)

namespace Comparator

def symbol : Comparator → String
  | equal => "="
  | unequal => "<>"
  | order op => op.symbol

/-- What a comparison says of two numbers. -/
def Holds : Comparator → Int → Int → Prop
  | equal, m, n => m = n
  | unequal, m, n => m ≠ n
  | order .lt, m, n => m < n
  | order .le, m, n => m ≤ n
  | order .gt, m, n => m > n
  | order .ge, m, n => m ≥ n

instance decidableHolds : (c : Comparator) → (m n : Int) → Decidable (c.Holds m n)
  | equal, m, n => inferInstanceAs (Decidable (m = n))
  | unequal, m, n => inferInstanceAs (Decidable (m ≠ n))
  | order .lt, m, n => inferInstanceAs (Decidable (m < n))
  | order .le, m, n => inferInstanceAs (Decidable (m ≤ n))
  | order .gt, m, n => inferInstanceAs (Decidable (m > n))
  | order .ge, m, n => inferInstanceAs (Decidable (m ≥ n))

/-- The condition that compares two literals. -/
def text (c : Comparator) (a b : Literal) : List Char :=
  a.text ++ ' ' :: (c.symbol.toList ++ ' ' :: b.text)

/-- The comparisons that formulas can read: those by order, between literals that they can read. -/
def Understood : Comparator → Literal → Literal → Prop
  | order _, a, b => a.IsReadable ∧ b.IsReadable
  | _, _, _ => False

instance decidableUnderstood : (c : Comparator) → (a b : Literal) → Decidable (c.Understood a b)
  | equal, _, _ => inferInstanceAs (Decidable False)
  | unequal, _, _ => inferInstanceAs (Decidable False)
  | order _, a, b => inferInstanceAs (Decidable (a.IsReadable ∧ b.IsReadable))

variable (c : Comparator) (a b : Literal)

/-! ### The text of a comparison -/

lemma mem_symbol {d : Char} (hd : d ∈ c.symbol.toList) : d ∈ ['<', '=', '>'] := by
  have hall : c.symbol.toList.all (['<', '=', '>'].contains ·) = true := by
    cases c with
    | equal => decide
    | unequal => decide
    | order op => cases op <;> decide
  exact List.contains_iff_mem.1 (List.all_eq_true.1 hall d hd)

lemma isPhrase_symbol : IsPhrase c.symbol.toList := by
  cases c with
  | equal => decide
  | unequal => decide
  | order op => cases op <;> decide

lemma isPhrase_text : IsPhrase (c.text a b) :=
  a.isPhrase_text.blank (c.isPhrase_symbol.blank b.isPhrase_text)

lemma without_then_text : Without "then" (c.text a b) := by
  have hsymbol : Without "then" c.symbol.toList := by
    cases c with
    | equal => decide
    | unequal => decide
    | order op => cases op <;> decide
  have hthen : IsName "then".toList := isName_of_all (by decide) (by decide)
  exact (a.without_text hthen).blank (hsymbol.blank (b.without_text hthen))

lemma mem_text {d : Char} (hd : d ∈ c.text a b) :
    d.isDigit = true ∨ d ∈ [' ', '-', '<', '=', '>'] := by
  rw [text, List.mem_append, List.mem_cons, List.mem_append, List.mem_cons] at hd
  have hliteral (l : Literal) (hl : d ∈ l.text) :
      d.isDigit = true ∨ d ∈ [' ', '-', '<', '=', '>'] := by
    rcases l.mem_text hl with hdigit | rfl
    · exact .inl hdigit
    · exact .inr (by decide)
  rcases hd with hd | rfl | hd | rfl | hd
  · exact hliteral a hd
  · exact .inr (by decide)
  · have hsymbol := c.mem_symbol hd
    simp only [List.mem_cons, List.not_mem_nil, or_false] at hsymbol ⊢
    tauto
  · exact .inr (by decide)
  · exact hliteral b hd

/-- What holds of digits and of the signs of comparisons holds of the text of a comparison. -/
lemma forall_mem_text {P : Char → Prop}
    (h : ∀ n < 128, (Char.ofNat n).isDigit = true ∨ Char.ofNat n ∈ [' ', '-', '<', '=', '>'] →
      P (Char.ofNat n)) : ∀ d ∈ c.text a b, P d := by
  intro d hd
  have hcases := c.mem_text a b hd
  have hplain : d.toNat < 128 := by
    rcases hcases with hdigit | hmark
    · exact toNat_lt_of_isDigit hdigit
    · have hmarks : ∀ d ∈ [' ', '-', '<', '=', '>'], d.toNat < 128 := by simp
      exact hmarks d hmark
  exact forall_plain (P := fun d => d.isDigit = true ∨ d ∈ [' ', '-', '<', '=', '>'] → P d) h hplain
    hcases

/-! ### The value of a comparison -/

/-- The signs that the symbol of a comparison is read as. -/
def signs : Comparator → List Token
  | equal => [.sign "="]
  | unequal => [.sign "<", .sign ">"]
  | order op => [.sign op.symbol]

lemma scans_symbol {rest : List Char} {ts : Option (List Token)} (h : Scans [] rest ts) :
    Scans [] (' ' :: (c.symbol.toList ++ ' ' :: rest)) (ts.map (c.signs ++ ·)) := by
  cases c with
  | equal => exact Scans.spaced (by decide) h
  | unequal =>
    have hless : readToken ('<' :: '>' :: ' ' :: rest) = some (.sign "<", '>' :: ' ' :: rest) := rfl
    have hmore : readToken ('>' :: ' ' :: rest) = some (.sign ">", ' ' :: rest) := rfl
    have hscan := Scans.token (by decide) hless (Nat.le_refl _) rfl
      (Scans.token (by decide) hmore (Nat.le_refl _) rfl h.blank)
    rw [Option.map_map] at hscan
    exact hscan.blank
  | order op =>
    have hsign : op.symbol ∈ spacedSigns := by cases op <;> decide
    exact Scans.spaced hsign h

lemma tokens?_text :
    tokens? (c.text a b) =
      if a.IsReadable ∧ b.IsReadable then some (a.tokens ++ (c.signs ++ b.tokens)) else none := by
  have hnull : ∀ d ∈ c.text a b, d.toNat ≠ 0 :=
    c.forall_mem_text a b (P := fun d => d.toNat ≠ 0) (by decide)
  have hreturn : '\r' ∉ c.text a b := fun hmem =>
    c.forall_mem_text a b (P := fun d => d ≠ '\r') (by decide) '\r' hmem rfl
  have hright := b.scans_text endsOperand_nil scans_nil
  rw [List.append_nil] at hright
  have hleft := a.scans_text (endsOperand_cons (.inl rfl) _) (c.scans_symbol hright)
  rw [tokens?_of_scans hnull hreturn hleft]
  by_cases ha : a.IsReadable
  · by_cases hb : b.IsReadable
    · simp [ha, hb]
    · simp [ha, hb]
  · simp [ha]

lemma ofText?_order (op : CompareOp) (ha : a.IsReadable) (hb : b.IsReadable) :
    Tree.ofText? ((order op).text a b) = some (.compare a.tree [.order op] [b.tree]) := by
  rw [Tree.ofText?, tokens?_text, if_pos ⟨ha, hb⟩]
  exact ofTokens?_order op a b

/-- A comparison that formulas cannot read has no tree. -/
lemma ofText?_eq_none (h : ¬ c.Understood a b) : Tree.ofText? (c.text a b) = none := by
  rw [Tree.ofText?, tokens?_text]
  split
  · next hreadable =>
    cases c with
    | equal => exact ofTokens?_equals a b
    | unequal => exact ofTokens?_unequal a b
    | order op => exact absurd hreadable h
  · rfl

lemma holds_compare (op : CompareOp) (m n : Int) :
    op.holds (compare m n) = decide ((order op).Holds m n) := by
  rw [Bool.eq_iff_iff, decide_eq_true_iff]
  cases op with
  | lt => exact beq_iff_eq.trans compare_lt_iff_lt
  | le => exact bne_iff_ne.trans compare_le_iff_le
  | gt => exact beq_iff_eq.trans compare_gt_iff_gt
  | ge => exact bne_iff_ne.trans compare_ge_iff_ge

/-- A comparison that formulas can read has its truth as value, and any other one its own text. -/
theorem take_evaluate_text {lib : Library} (hlib : lib.ReadsFormula (c.text a b)) {scene : Scene}
    (hvariable : variableValue? scene.session (c.text a b) = none) :
    (evaluate lib (c.text a b)).take scene =
      (.ok (if c.Understood a b then .bool (decide (c.Holds a.value b.value))
        else .text (String.ofList (c.text a b))), scene) := by
  have hphrase := c.isPhrase_text a b
  have hblank : ' ' ∈ c.text a b := by simp [text]
  have hjoined : '&' ∉ c.text a b := fun hmem =>
    c.forall_mem_text a b (P := fun d => d ≠ '&') (by decide) '&' hmem rfl
  have hround : '(' ∉ c.text a b := fun hmem =>
    c.forall_mem_text a b (P := fun d => d ≠ '(') (by decide) '(' hmem rfl
  have hquoted : quotedText? (c.text a b) = none := quotedText?_of_head? fun d hd =>
    c.forall_mem_text a b (P := fun d => isQuote d = false) (by decide) d (List.mem_of_mem_head? hd)
  rw [take_evaluate_formula lib hphrase.strip_eq hphrase.ne_nil hjoined hquoted
    (looksNumeric_of_mem (by decide) (by decide) (by decide) hblank)
    (wordValue?_of_mem (by decide) (by decide) hblank hvariable) (looksLikeCall_of_notMem hround)]
  by_cases hunderstood : c.Understood a b
  · rw [if_pos hunderstood]
    cases c with
    | equal => exact hunderstood.elim
    | unequal => exact hunderstood.elim
    | order op =>
      refine hlib.take_formulaValue ?_
      rw [Formula.evaluate, ofText?_order a b op hunderstood.1 hunderstood.2, ← holds_compare]
      exact eval_order _ op a b
  · rw [if_neg hunderstood]
    exact hlib.take_unreadable (c.ofText?_eq_none a b hunderstood)

end Comparator

/-! ### Conditionals on comparisons -/

/-- A line that assigns a text without constants and without a `THEN` does so in every session. -/
lemma take_executeLine_assign {lib : Library} {cs : List Char} {scene : Scene} {v : Value}
    (hcs : substitute cs = cs) (hthen : ¬ " THEN ".toList <:+: upper (assignLine cs))
    (hvalue : evaluate lib cs = pure v) :
    (executeLine lib (assignLine cs)).take scene =
      (.ok (), ⟨assign scene.session ['x'] v, scene.world⟩) := by
  have hprepare : prepare scene.session (assignLine cs) = assignLine cs := by
    rw [prepare, substitute_assignLine, hcs, ite_self]
    exact withoutLabel_cons (by decide) (by decide) (by decide) _
  have hkind : kindOf lib.dialect (prepare scene.session (assignLine cs)) = .assignment := by
    rw [hprepare, kindOf_assignLine, if_neg hthen]
  have htake := take_executeAssignment lib cs scene
  rw [hvalue] at htake
  rw [take_executeLine_of_kind lib hkind (by decide), hprepare]
  exact htake

lemma isPhrase_assignLine (l : Literal) : IsPhrase (assignLine l.text) := by
  have hname : IsPhrase "x =".toList := by decide
  exact hname.blank l.isPhrase_text

lemma isPhrase_assignOne : IsPhrase (assignLine ['1']) :=
  isPhrase_assignLine (.ofInt 1)

lemma isPhrase_assignTwo : IsPhrase (assignLine ['2']) :=
  isPhrase_assignLine (.ofInt 2)

namespace Comparator

variable (c : Comparator) (a b : Literal)

/-- A line that assigns one number if a comparison holds, and else another one. -/
def choiceLine : List Char :=
  elseLine (c.text a b) (assignLine ['1']) (assignLine ['2'])

/-- The number that is assigned: a comparison that formulas cannot read counts as one that holds. -/
def chosen : Int :=
  if c.Understood a b → c.Holds a.value b.value then 1 else 2

lemma isPhrase_choiceLine : IsPhrase (c.choiceLine a b) := by
  have hif : IsPhrase "If".toList := by decide
  have hthen : IsPhrase "Then".toList := by decide
  have helse : IsPhrase "Else".toList := by decide
  exact hif.blank ((c.isPhrase_text a b).blank (hthen.blank
    (isPhrase_assignOne.blank (helse.blank isPhrase_assignTwo))))

lemma conditional_choiceLine :
    Shape.conditional (c.choiceLine a b) =
      some ⟨c.text a b, assignLine ['1'], some (assignLine ['2'])⟩ :=
  Shape.conditional_eq (c.isPhrase_text a b) (c.without_then_text a b)
    (isPhrase_assignOne.isBlank_of_head? _)
    (Shape.branches_eq_some isPhrase_assignOne (by decide) isPhrase_assignTwo)

/-- A condition that cannot be read holds, because its text is not empty. -/
lemma truthy_eq :
    (if c.Understood a b then Value.bool (decide (c.Holds a.value b.value))
      else .text (String.ofList (c.text a b))).truthy =
        decide (c.Understood a b → c.Holds a.value b.value) := by
  by_cases hunderstood : c.Understood a b
  · rw [if_pos hunderstood]
    simp [hunderstood, Value.truthy]
  · rw [if_neg hunderstood]
    simp [hunderstood, Value.truthy, (c.isPhrase_text a b).ne_nil]

lemma take_choiceLine {lib : Library} (hlib : lib.ReadsFormula (c.text a b)) {scene : Scene}
    (hvariable : variableValue? scene.session (c.text a b) = none) :
    (executeLine lib (c.choiceLine a b)).take scene =
      (.ok (), ⟨assign scene.session ['x'] (.int (c.chosen a b)), scene.world⟩) := by
  have hparts := c.conditional_choiceLine a b
  rw [choiceLine, elseLine] at hparts ⊢
  rw [executeLine_thenLine lib (c.isPhrase_text a b).substitute_eq
      (substitute_statements isPhrase_assignOne isPhrase_assignTwo) hparts,
    Step.take_bind, c.take_evaluate_text a b hlib hvariable]
  dsimp only
  rw [truthy_eq]
  by_cases hholds : c.Understood a b → c.Holds a.value b.value
  · have hone : c.chosen a b = 1 := if_pos hholds
    rw [decide_eq_true hholds, hone]
    exact take_executeLine_assign (by decide) (by decide) ((Literal.ofInt 1).evaluate_text lib)
  · have htwo : c.chosen a b = 2 := if_neg hholds
    rw [decide_eq_false hholds, htwo]
    exact take_executeLine_assign (by decide) (by decide) ((Literal.ofInt 2).evaluate_text lib)

/-- The number is the right one exactly if the comparison can be read, or holds anyway. -/
lemma chosen_eq_iff :
    c.chosen a b = (if c.Holds a.value b.value then 1 else 2) ↔
      c.Understood a b ∨ c.Holds a.value b.value := by
  unfold chosen
  by_cases hholds : c.Holds a.value b.value
  · simp [hholds]
  · by_cases hunderstood : c.Understood a b
    · simp [hholds, hunderstood]
    · simp [hholds, hunderstood]

/-- A script that assigns one to `x` if a comparison of two literals holds, and else two, does
nothing else and always comes to an end. The number is the right one exactly if the comparison is
one by order between literals that formulas can read, or if it holds anyway. -/
theorem run_choiceLine {lib : Library} (hlib : lib.evaluator.Confined)
    (hreads : lib.ReadsFormula (c.text a b)) (scene : Scene)
    (hvariable : variableValue? scene.session (c.text a b) = none) :
    (run lib (c.choiceLine a b)).take scene =
        (.ok (), ⟨assign (scene.atLine 1).session ['x'] (.int (c.chosen a b)), scene.world⟩) ∧
      (c.chosen a b = (if c.Holds a.value b.value then 1 else 2) ↔
        c.Understood a b ∨ c.Holds a.value b.value) := by
  have hphrase := c.isPhrase_choiceLine a b
  refine ⟨run_of_executeLine_ok hlib hphrase.oneLine (by rw [hphrase.strip_eq]; rfl) ?_,
    c.chosen_eq_iff a b⟩
  rw [hphrase.strip_eq]
  exact c.take_choiceLine a b hreads hvariable

/-- A number is not greater than a larger one. -/
theorem run_choiceLine_greater :
    variableValue? firstScene.session "-7 > 12".toList = none ∧
      (run (library .capital) "If -7 > 12 Then x = 1 Else x = 2".toList).take firstScene =
        (.ok (), ⟨assign (firstScene.atLine 1).session ['x'] (.int 2), firstScene.world⟩) := by
  have htext : (order .gt).text (.ofInt (-7)) (.ofInt 12) = "-7 > 12".toList := by decide
  have hchosen : (order .gt).chosen (.ofInt (-7)) (.ofInt 12) = 2 := by decide
  have hvariable : variableValue? firstScene.session "-7 > 12".toList = none := by decide
  have hrun := (run_choiceLine (order .gt) (.ofInt (-7)) (.ofInt 12) (confined_library .capital)
    rfl firstScene (htext ▸ hvariable)).1
  rw [choiceLine, htext, hchosen] at hrun
  exact ⟨hvariable, hrun⟩

/-- Numbers that are not equal are taken to be. -/
theorem unequal_numbers_taken_for_equal :
    ¬ equal.Holds 1 2 ∧
      (run (library .capital) "If 1 = 2 Then x = 1 Else x = 2".toList).take firstScene =
        (.ok (), ⟨assign (firstScene.atLine 1).session ['x'] (.int 1), firstScene.world⟩) := by
  have hvariable : variableValue? (firstScene.atLine 1).session "1 = 2".toList = none := by decide
  have hreads : (library .capital).ReadsFormula (equal.text (.ofInt 1) (.ofInt 2)) := rfl
  have htake := equal.take_choiceLine (.ofInt 1) (.ofInt 2) hreads hvariable
  refine ⟨by decide, run_of_executeLine_ok (confined_library .capital) (by decide) (by decide) ?_⟩
  exact htake

end Comparator

end ScriptHost.Script
