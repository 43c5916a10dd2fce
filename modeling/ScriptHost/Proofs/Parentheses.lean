import ScriptHost.Proofs.ArithmeticTree
import ScriptHost.Proofs.Refusals

/-!
# Parentheses around expressions

A text that has an opening parenthesis in it and ends with a closing one is taken for a call. An
arithmetic expression is never written as one, since no name stands right before a parenthesis, so
that the call comes to nothing and the value is the empty text. This is so for every expression in
parentheses and for every other one that ends with a closing parenthesis. All others are read as
formulas and have the value that is meant (`evaluate_group`).
-/

namespace ScriptHost.Formula.Arithmetic

open ScriptHost.Number ScriptHost.Script ScriptHost.Text

/-! ### The text of an expression -/

section

variable {r : Rank} {e : Arithmetic r}

/-- What holds of plain word characters, blanks, operators and parentheses holds of the text of an
expression. -/
lemma forall_mem_text {P : Char → Prop} (hnames : ∀ x ∈ e.names, IsName x)
    (h : ∀ n < 128, isPlainWord (Char.ofNat n) = true ∨
      Char.ofNat n ∈ [' ', '+', '-', '*', '(', ')'] → P (Char.ofNat n)) :
    ∀ c ∈ e.text, P c := by
  intro c hc
  have hcases := mem_text hnames hc
  have hplain : c.toNat < 128 := by
    rcases hcases with hword | hmark
    · exact toNat_lt_of_isPlainWord hword
    · have hmarks : ∀ c ∈ [' ', '+', '-', '*', '(', ')'], c.toNat < 128 := by simp
      exact hmarks c hmark
  exact forall_plain (P := fun c => isPlainWord c = true ∨
    c ∈ [' ', '+', '-', '*', '(', ')'] → P c) h hplain hcases

lemma isBlank_of_isPlainWord {c : Char} (h : isPlainWord c = true) : isBlank c = false :=
  isBlank_of_isMark_eq_false (isMark_of_inSpelling (.inl h))

lemma exists_text_cons (hnames : ∀ x ∈ e.names, IsName x) :
    ∃ c cs, e.text = c :: cs ∧ isBlank c = false := by
  induction e with
  | literal l =>
    obtain ⟨c, cs, hcs⟩ := List.exists_cons_of_ne_nil l.text_ne_nil
    exact ⟨c, cs, hcs, isBlank_of_inNumeral (l.inNumeral_of_mem_text (hcs ▸ List.mem_cons_self))⟩
  | name x =>
    obtain ⟨c, cs, hcs, hc⟩ := (hnames x List.mem_cons_self).first
    exact ⟨c, cs, hcs, isBlank_of_isPlainWord (isPlainWord_of_isAlpha hc)⟩
  | group e => exact ⟨_, _, rfl, by decide⟩
  | ofFactor f ih => exact ih hnames
  | times p f ih =>
    obtain ⟨c, cs, hcs, hc⟩ := ih fun x hx => hnames x (List.mem_append_left _ hx)
    exact ⟨c, _, by rw [text, hcs]; rfl, hc⟩
  | ofProduct p ih => exact ih hnames
  | plus e s p ih =>
    obtain ⟨c, cs, hcs, hc⟩ := ih fun x hx => hnames x (List.mem_append_left _ hx)
    exact ⟨c, _, by rw [text, hcs]; rfl, hc⟩

/-- An expression ends with a character of a word, or with a parenthesis that was opened in it. -/
lemma exists_text_concat (hnames : ∀ x ∈ e.names, IsName x) :
    ∃ cs c, e.text = cs ++ [c] ∧ isBlank c = false ∧ (c = ')' → '(' ∈ e.text) := by
  induction e with
  | literal l =>
    obtain ⟨cs, c, hcs⟩ := (List.eq_nil_or_concat l.text).resolve_left l.text_ne_nil
    rw [List.concat_eq_append] at hcs
    have hc : c ∈ l.text := by
      rw [hcs]
      simp
    refine ⟨cs, c, hcs, isBlank_of_inNumeral (l.inNumeral_of_mem_text hc), ?_⟩
    rintro rfl
    exact absurd hc (l.notMem_text (by decide) (by decide))
  | name x =>
    have hx := hnames x List.mem_cons_self
    obtain ⟨cs, c, hcs⟩ := (List.eq_nil_or_concat x).resolve_left
      (List.ne_nil_of_length_pos hx.length_pos)
    rw [List.concat_eq_append] at hcs
    have hc := hx.chars c (by rw [hcs]; simp)
    refine ⟨cs, c, hcs, isBlank_of_isPlainWord hc, ?_⟩
    rintro rfl
    exact absurd hc (by decide)
  | group e => exact ⟨'(' :: e.text, ')', rfl, by decide, fun _ => List.mem_cons_self⟩
  | ofFactor f ih => exact ih hnames
  | times p f _ ih =>
    obtain ⟨cs, c, hcs, hblank, hopen⟩ := ih fun x hx => hnames x (List.mem_append_right _ hx)
    refine ⟨p.text ++ ' ' :: ("*".toList ++ ' ' :: cs), c, ?_, hblank, fun hc => ?_⟩
    · rw [text, hcs]
      simp
    · rw [text]
      simp [hopen hc]
  | ofProduct p ih => exact ih hnames
  | plus e s p _ ih =>
    obtain ⟨cs, c, hcs, hblank, hopen⟩ := ih fun x hx => hnames x (List.mem_append_right _ hx)
    refine ⟨e.text ++ ' ' :: (s.symbol.toList ++ ' ' :: cs), c, ?_, hblank, fun hc => ?_⟩
    · rw [text, hcs]
      simp
    · rw [text]
      simp [hopen hc]

/-- A word at the start of a text is not followed by a parenthesis, if there is none up to the end
of an operand. -/
lemma append_ne_call {x tail w : List Char} (hx : '(' ∉ x) (htail : EndsOperand tail)
    (hw : ∀ c ∈ w, isWord c = true) (more : List Char) : x ++ tail ≠ w ++ '(' :: more := by
  have hparen (more : List Char) : tail ≠ '(' :: more := by
    rintro rfl
    rcases htail '(' rfl with h | h
    · exact absurd h (by decide)
    · exact absurd h (by decide)
  intro heq
  rcases List.append_eq_append_iff.1 heq with ⟨a, hword, hrest⟩ | ⟨a, hword, hrest⟩
  · cases a with
    | nil => exact hparen more hrest
    | cons c a =>
      -- The word would go past the end of the operand.
      have hc := hw c (by rw [hword]; simp)
      rcases htail c (by rw [hrest]; rfl) with rfl | rfl
      · exact absurd hc (by decide)
      · exact absurd hc (by decide)
  · cases a with
    | nil => exact hparen more hrest.symm
    | cons c a =>
      obtain ⟨rfl, -⟩ := List.cons.inj hrest
      exact hx (by rw [hword]; simp)

/-- No expression is written as a call. -/
lemma text_append_ne (hnames : ∀ x ∈ e.names, IsName x) {tail : List Char}
    (htail : EndsOperand tail)
    {w : List Char} (hne : w ≠ []) (hw : ∀ c ∈ w, isWord c = true) (more : List Char) :
    e.text ++ tail ≠ w ++ '(' :: more := by
  induction e generalizing tail with
  | literal l => exact append_ne_call (l.notMem_text (by decide) (by decide)) htail hw more
  | name x =>
    refine append_ne_call (fun hmem => ?_) htail hw more
    exact absurd ((hnames x List.mem_cons_self).chars '(' hmem) (by decide)
  | group e =>
    intro heq
    obtain ⟨c, w, rfl⟩ := List.exists_cons_of_ne_nil hne
    obtain ⟨rfl, -⟩ := List.cons.inj heq
    exact absurd (hw '(' List.mem_cons_self) (by decide)
  | ofFactor f ih => exact ih hnames htail
  | times p f ih =>
    rw [text, List.append_assoc]
    exact ih (fun x hx => hnames x (List.mem_append_left _ hx)) (endsOperand_cons (.inl rfl) _)
  | ofProduct p ih => exact ih hnames htail
  | plus e s p ih =>
    rw [text, List.append_assoc]
    exact ih (fun x hx => hnames x (List.mem_append_left _ hx)) (endsOperand_cons (.inl rfl) _)

lemma call_text (hnames : ∀ x ∈ e.names, IsName x) : Shape.call e.text = none := by
  rw [Option.eq_none_iff_forall_ne_some]
  rintro ⟨w, args⟩ h
  obtain ⟨more, heq, hne, hw, -⟩ := Script.Shape.exists_of_call h
  exact text_append_ne hnames endsOperand_nil hne hw (args ++ ')' :: more)
    (by rw [List.append_nil, heq])

lemma strip_text (hnames : ∀ x ∈ e.names, IsName x) : strip e.text = e.text := by
  refine strip_eq_self (fun c hc => ?_) (fun c hc => ?_)
  · obtain ⟨d, cs, hcs, hd⟩ := exists_text_cons hnames
    rw [hcs] at hc
    obtain rfl := Option.some.inj hc
    exact hd
  · obtain ⟨cs, d, hcs, hd, -⟩ := exists_text_concat hnames
    rw [hcs, List.getLast?_concat] at hc
    obtain rfl := Option.some.inj hc
    exact hd

lemma text_ne_nil (hnames : ∀ x ∈ e.names, IsName x) : e.text ≠ [] := by
  obtain ⟨c, cs, hcs, -⟩ := exists_text_cons hnames
  rw [hcs]
  exact List.cons_ne_nil c cs

lemma quotedText?_text (hnames : ∀ x ∈ e.names, IsName x) : quotedText? e.text = none :=
  quotedText?_of_head? fun c hc =>
    forall_mem_text (P := fun c => isQuote c = false) hnames (by decide) c
      (List.mem_of_mem_head? hc)

/-- An expression that ends with a parenthesis looks like a call, and no other one does. -/
lemma looksLikeCall_text (hnames : ∀ x ∈ e.names, IsName x) :
    looksLikeCall e.text = endsWith [')'] e.text := by
  unfold looksLikeCall
  cases hends : endsWith [')'] e.text with
  | false => rw [Bool.and_false]
  | true =>
    obtain ⟨cs, c, hcs, -, hopen⟩ := exists_text_concat hnames
    have hlast : c = ')' := by
      obtain ⟨front, hfront⟩ := List.isSuffixOf_iff_suffix.1 hends
      rw [hcs] at hfront
      exact (List.singleton_inj.1 (List.append_inj' hfront rfl).2).symm
    rw [List.contains_iff_mem.2 (hopen hlast), Bool.true_and]

end

/-- A sum is a literal, a name, or has a blank or a parenthesis in it. -/
lemma leaf_or_mark (e : Arithmetic .sum) :
    (∃ l, e = ofProduct (ofFactor (literal l))) ∨ (∃ x, e = ofProduct (ofFactor (name x))) ∨
      ' ' ∈ e.text ∨ '(' ∈ e.text := by
  cases e with
  | ofProduct p =>
    cases p with
    | ofFactor f =>
      cases f with
      | literal l => exact .inl ⟨l, rfl⟩
      | name x => exact .inr (.inl ⟨x, rfl⟩)
      | group e => exact .inr (.inr (.inr List.mem_cons_self))
    | times p f => exact .inr (.inr (.inl (by simp [text])))
  | plus e s p => exact .inr (.inr (.inl (by simp [text])))

end ScriptHost.Formula.Arithmetic

namespace ScriptHost.Script

open ScriptHost.Formula ScriptHost.Number ScriptHost.Text

/-! ### Evaluating an expression -/

/-- A text with a blank or a parenthesis is no name. -/
lemma not_isName_of_mark {t : List Char} (hmark : ' ' ∈ t ∨ '(' ∈ t) : ¬ IsName t := by
  intro h
  rcases hmark with hmark | hmark
  · exact absurd (h.chars ' ' hmark) (by decide)
  · exact absurd (h.chars '(' hmark) (by decide)

lemma endsWith_eq_false {t : List Char} (h : ')' ∉ t) : endsWith [')'] t = false := by
  rw [Bool.eq_false_iff]
  intro hends
  exact h ((List.isSuffixOf_iff_suffix.1 hends).subset List.mem_cons_self)

/-- A name does not end with a parenthesis. -/
lemma IsName.endsWith_eq_false {x : List Char} (hx : IsName x) : endsWith [')'] x = false :=
  Script.endsWith_eq_false fun hmem => absurd (hx.chars ')' hmem) (by decide)

/-- A variable that holds a number under its spelling and its capitals, and that formulas do not
take for anything else. -/
structure HoldsNumber (s : Session) (x : List Char) (n : Int) : Prop where
  isVariable : IsVariable x
  isFree : IsFree x
  spelled : pairGet? (String.ofList x) s.variables = some (.int n)
  capitals : pairGet? (String.ofList (upper x)) s.variables = some (.int n)

/-- A number that is stored under a variable as it is spelled is what formulas find there. -/
lemma IsVariable.formulaScope_eq {s : Session} {x : List Char} (hx : IsVariable x) {n : Int}
    (h : pairGet? (String.ofList x) s.variables = some (.int n)) :
    formulaScope s (String.ofList x) = some (.int n) := by
  unfold formulaScope
  rw [hx.spelledConstant?_eq, ite_self]
  dsimp only
  rw [h]
  rfl

section

variable {e : Arithmetic .sum} {lib : Library} {scene : Scene}

/-- An expression that is no single literal or name is a call if it ends with a parenthesis, and the
call comes to nothing; else it is a formula. -/
lemma evaluate_of_mark (hnames : ∀ x ∈ e.names, IsName x) (hmark : ' ' ∈ e.text ∨ '(' ∈ e.text)
    (hvariable : variableValue? scene.session e.text = none) :
    (evaluate lib e.text).take scene =
      if endsWith [')'] e.text then (.ok (.text ""), scene)
      else (formulaValue lib e.text).take scene := by
  have hjoined : '&' ∉ e.text := fun hmem =>
    Arithmetic.forall_mem_text (P := fun c => c ≠ '&') hnames (by decide) '&' hmem rfl
  have hnumeric : looksNumeric e.text = false := by
    rcases hmark with hmark | hmark
    · exact looksNumeric_of_mem (by decide) (by decide) (by decide) hmark
    · exact looksNumeric_of_mem (by decide) (by decide) (by decide) hmark
  have hword : wordValue? scene.session e.text = none := by
    rcases hmark with hmark | hmark
    · exact wordValue?_of_mem (by decide) (by decide) hmark hvariable
    · exact wordValue?_of_mem (by decide) (by decide) hmark hvariable
  have hcall : callFunction lib e.text = pure .null := by
    rw [callFunction]
    split
    · rfl
    · next name args h =>
      rw [Arithmetic.call_text hnames] at h
      cases h
  rw [evaluate_of_notMem lib hjoined, evaluateOperand, Arithmetic.strip_text hnames,
    if_neg (by simpa using Arithmetic.text_ne_nil hnames), Arithmetic.quotedText?_text hnames]
  dsimp only
  rw [hnumeric, if_neg (by decide), Step.take_bind, Step.take_get]
  dsimp only
  rw [hword]
  dsimp only
  rw [Arithmetic.looksLikeCall_text hnames]
  split
  · rw [hcall]
    rfl
  · rfl

/-- As a formula an expression is a number exactly if none of its names is taken for a function, and
then it is the number that is meant. -/
lemma take_formulaValue_iff {env : List Char → Int} (hlib : lib.ReadsFormula e.text)
    (hnames : ∀ x ∈ e.names, IsName x ∧ reserved.contains (String.ofList x) = false ∧
      formulaScope scene.session (String.ofList x) = some (.int (env x)))
    (hliterals : ∀ l ∈ e.literals, l.IsReadable) (hdepth : e.depth ≤ depthLimit) (n : Int) :
    (formulaValue lib e.text).take scene = (.ok (.int n), scene) ↔ e.number? env = some n := by
  have hisName : ∀ x ∈ e.names, IsName x := fun x hx => (hnames x hx).1
  have hreadable : e.IsReadable :=
    ⟨hliterals, fun x hx => ⟨hisName x hx, (hnames x hx).2.1⟩⟩
  have hscan : Scans [] (e.text ++ []) (some (e.tokens ++ [])) :=
    Arithmetic.scans_text hreadable (by simpa using hdepth) endsOperand_nil scans_nil
  have hnull : ∀ c ∈ e.text, c.toNat ≠ 0 :=
    Arithmetic.forall_mem_text (P := fun c => c.toNat ≠ 0) hisName (by decide)
  have hreturn : '\r' ∉ e.text := fun hmem =>
    Arithmetic.forall_mem_text (P := fun c => c ≠ '\r') hisName (by decide) '\r' hmem rfl
  rw [List.append_nil, List.append_nil] at hscan
  have htree : Tree.ofText? e.text = some e.tree := by
    rw [Tree.ofText?, tokens?_of_scans hnull hreturn hscan]
    exact e.ofTokens?_tokens
  have heval : Formula.evaluate (formulaScope scene.session) e.text =
      e.tree.eval (formulaScope scene.session) := by
    rw [Formula.evaluate, htree]
  have hgives := Arithmetic.gives_tree fun x hx => (hnames x hx).2.2
  generalize e.number? env = number at hgives ⊢
  cases hgives with
  | @value v hv h =>
    rw [hlib.take_formulaValue (heval.trans h)]
    cases hv <;> simp [Value.whole?]
  | fault hexit h =>
    rw [hlib.take_of_fault hexit (heval.trans h)]
    simp

/-- A call is made of every expression in parentheses, and comes to nothing. -/
lemma evaluate_parenthesized (hnames : ∀ x ∈ e.names, IsName x)
    (hvariable : variableValue? scene.session ('(' :: (e.text ++ [')'])) = none) :
    (evaluate lib ('(' :: (e.text ++ [')']))).take scene = (.ok (.text ""), scene) := by
  have htext : '(' :: (e.text ++ [')']) = (Arithmetic.ofProduct (.ofFactor (.group e))).text := rfl
  have hends : endsWith [')'] (Arithmetic.ofProduct (.ofFactor (.group e))).text = true :=
    List.isSuffixOf_iff_suffix.2 ⟨'(' :: e.text, rfl⟩
  have hinner : ∀ x ∈ (Arithmetic.ofProduct (.ofFactor (.group e))).names, IsName x := hnames
  rw [htext] at hvariable ⊢
  rw [evaluate_of_mark hinner (.inr List.mem_cons_self) hvariable, hends, if_pos rfl]

/-- An expression in parentheses always has the empty text as its value. Without them it has the
value that is meant, unless it ends with a parenthesis of its own, if the evaluator reads it. -/
theorem evaluate_group {env : List Char → Int}
    (hlib : endsWith [')'] e.text = false → lib.ReadsFormula e.text)
    (hnames : ∀ x ∈ e.names, HoldsNumber scene.session x (env x))
    (hliterals : ∀ l ∈ e.literals, l.IsReadable ∧ l.digits.length ≤ digitLimit)
    (hdepth : e.depth ≤ depthLimit)
    (hunnamed : ∀ t ∈ [e.text, '(' :: (e.text ++ [')'])], ¬ IsName t →
      variableValue? scene.session t = none) :
    (evaluate lib ('(' :: (e.text ++ [')']))).take scene = (.ok (.text ""), scene) ∧
      (evaluate lib e.text).take scene =
        (.ok (if endsWith [')'] e.text then .text "" else .int (e.value env)), scene) := by
  have hisName : ∀ x ∈ e.names, IsName x := fun x hx => (hnames x hx).isVariable.toIsName
  constructor
  · refine evaluate_parenthesized hisName (hunnamed _ (by simp) ?_)
    exact not_isName_of_mark (.inr List.mem_cons_self)
  · rcases e.leaf_or_mark with ⟨l, rfl⟩ | ⟨x, rfl⟩ | hmark
    · have hshort : ¬ digitLimit < l.digits.length :=
        Nat.not_lt.2 (hliterals l List.mem_cons_self).2
      have hends : endsWith [')'] (Arithmetic.ofProduct (.ofFactor (.literal l))).text = false :=
        endsWith_eq_false (l.notMem_text (by decide) (by decide))
      have hvalue : evaluate lib l.text = pure (.int l.value) :=
        (l.evaluate_text lib).trans (if_neg hshort)
      rw [hends, if_neg (by decide)]
      exact congrArg (Step.take · scene) hvalue
    · have hx := hnames x List.mem_cons_self
      have hends : endsWith [')'] (Arithmetic.ofProduct (.ofFactor (.name x))).text = false :=
        hx.isVariable.endsWith_eq_false
      rw [hends, if_neg (by decide)]
      exact hx.isVariable.evaluate_eq rfl hx.capitals
    · have hvariable := hunnamed e.text List.mem_cons_self (not_isName_of_mark hmark)
      have hnumber : e.number? env = some (e.value env) :=
        if_pos fun x hx => not_not.2 (hnames x hx).isFree.2
      rw [evaluate_of_mark hisName hmark hvariable]
      cases hends : endsWith [')'] e.text with
      | true => rfl
      | false =>
        refine (take_formulaValue_iff (hlib hends) (fun x hx => ?_) (fun l hl => (hliterals l hl).1)
          hdepth _).2 hnumber
        have hx := hnames x hx
        exact ⟨hx.isVariable.toIsName, hx.isFree.1, hx.isVariable.formulaScope_eq hx.spelled⟩

end

/-- The expression `2 * (x + 3) - x`. -/
def twiceLess : Arithmetic .sum :=
  .plus
    (.ofProduct (.times (.ofFactor (.literal (.ofInt 2)))
      (.group (.plus (.ofProduct (.ofFactor (.name ['x']))) .plus
        (.ofFactor (.literal (.ofInt 3)))))))
    .minus (.ofFactor (.name ['x']))

/-- A scene in which `x` is five. -/
def fiveScene : Scene :=
  firstScene.onSession fun s => assign s ['x'] (.int 5)

lemma holdsNumber_x : HoldsNumber fiveScene.session ['x'] 5 where
  isVariable := isVariable_x
  isFree := by decide
  spelled := rfl
  capitals := rfl

/-- The expression is eleven, and nothing in parentheses. -/
theorem evaluate_group_twiceLess :
    (∀ x ∈ twiceLess.names, HoldsNumber fiveScene.session x 5) ∧
      (∀ l ∈ twiceLess.literals, l.IsReadable ∧ l.digits.length ≤ digitLimit) ∧
      twiceLess.depth ≤ depthLimit ∧
      (evaluate (library .capital) "(2 * (x + 3) - x)".toList).take fiveScene =
        (.ok (.text ""), fiveScene) ∧
      (evaluate (library .capital) "2 * (x + 3) - x".toList).take fiveScene =
        (.ok (.int 11), fiveScene) := by
  have hnames : ∀ x ∈ twiceLess.names, HoldsNumber fiveScene.session x 5 := by
    intro x hx
    rcases List.mem_pair.1 hx with rfl | rfl
    · exact holdsNumber_x
    · exact holdsNumber_x
  have hliterals : ∀ l ∈ twiceLess.literals, l.IsReadable ∧ l.digits.length ≤ digitLimit := by
    intro l hl
    rcases List.mem_pair.1 hl with rfl | rfl
    · decide
    · decide
  have hdepth : twiceLess.depth ≤ depthLimit := by decide
  have hunnamed : ∀ t ∈ [twiceLess.text, '(' :: (twiceLess.text ++ [')'])], ¬ IsName t →
      variableValue? fiveScene.session t = none := by
    intro t ht _
    rcases List.mem_pair.1 ht with rfl | rfl
    · decide
    · decide
  have hreads : endsWith [')'] twiceLess.text = false →
      (library .capital).ReadsFormula twiceLess.text :=
    fun _ => rfl
  exact ⟨hnames, hliterals, hdepth, evaluate_group hreads hnames hliterals hdepth hunnamed⟩

/-- The expression `1 + 2`. -/
def onePlusTwo : Arithmetic .sum :=
  .plus (.ofProduct (.ofFactor (.literal (.ofInt 1)))) .plus (.ofFactor (.literal (.ofInt 2)))

/-- A sum in parentheses has no number as its value. -/
theorem parenthesized_sum_lost :
    onePlusTwo.text = "1 + 2".toList ∧ onePlusTwo.value (fun _ => 0) = 3 ∧
      (evaluate (library .capital) "(1 + 2)".toList).take firstScene =
        (.ok (.text ""), firstScene) := by
  have hnames : ∀ x ∈ onePlusTwo.names, IsName x := by
    rintro x ⟨⟩
  have hvariable : variableValue? firstScene.session ('(' :: (onePlusTwo.text ++ [')'])) =
      none := by
    decide
  exact ⟨by decide, by decide, evaluate_parenthesized hnames hvariable⟩

end ScriptHost.Script
