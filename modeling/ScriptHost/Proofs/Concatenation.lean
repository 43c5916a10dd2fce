import Mathlib.Data.List.Forall2
import ScriptHost.Proofs.Turns

/-!
# Concatenations

An expression with ampersands is the concatenation of its operands: `evaluate_joined`. The operands
are evaluated from left to right, each is turned into a text before the next one is evaluated, and a
failure of one of them is a failure of the whole.

The expression is cut by a scanner that knows whether it is inside a quotation. What it does with a
text is settled by two things: the quotation that is open after the text, and whether an ampersand
in it stands outside quotations. So texts that close their quotations and have no such ampersand are
found again as the pieces (`operandPiecesFrom_intercalate`), whatever quotes of the other kind,
ampersands, commas and blanks stand inside the quotations.
-/

namespace ScriptHost.Script

open ScriptHost.Text

/-! ### Texts that can be operands -/

/-- The quotation that is open after a text. -/
def quoteAfter (inside : Option Char) (cs : List Char) : Option Char :=
  cs.foldl (fun open_ c => if isQuote c then afterQuote open_ c else open_) inside

/-- Each ampersand in a text is inside a quotation, if the text is read with a quotation open or
none. -/
def AmpersandsInside (inside : Option Char) (cs : List Char) : Prop :=
  ∀ before after, cs = before ++ '&' :: after → quoteAfter inside before ≠ none

/-- A text that can stand between ampersands: it closes every quotation that it opens, and each
ampersand in it is inside a quotation. -/
structure IsOperand (p : List Char) : Prop where
  closed : quoteAfter none p = none
  inside : AmpersandsInside none p

lemma quoteAfter_append (inside : Option Char) (a b : List Char) :
    quoteAfter inside (a ++ b) = quoteAfter (quoteAfter inside a) b :=
  List.foldl_append

/-- A text without quotes does not change what is open. -/
lemma quoteAfter_of_forall {cs : List Char} (h : ∀ c ∈ cs, isQuote c = false)
    (inside : Option Char) : quoteAfter inside cs = inside := by
  induction cs with
  | nil => rfl
  | cons c cs ih =>
    rw [quoteAfter, List.foldl_cons, h c List.mem_cons_self]
    exact ih fun d hd => h d (List.mem_cons_of_mem c hd)

/-- Inside a quotation, everything but its closing quote leaves it open. -/
lemma quoteAfter_of_notMem {q : Char} {cs : List Char} (h : q ∉ cs) :
    quoteAfter (some q) cs = some q := by
  induction cs with
  | nil => rfl
  | cons c cs ih =>
    rw [List.mem_cons, not_or] at h
    have hc : (c == q) = false := beq_eq_false_iff_ne.2 (Ne.symm h.1)
    have hstep : (if isQuote c then afterQuote (some q) c else some q) = some q := by
      simp [afterQuote, hc]
    rw [quoteAfter, List.foldl_cons, hstep]
    exact ih h.2

lemma AmpersandsInside.append {inside : Option Char} {a b : List Char}
    (ha : AmpersandsInside inside a) (hb : AmpersandsInside (quoteAfter inside a) b) :
    AmpersandsInside inside (a ++ b) := by
  intro before after h
  rcases List.append_eq_append_iff.1 h with ⟨more, rfl, hmore⟩ | ⟨more, hmore, hafter⟩
  · rw [quoteAfter_append]
    exact hb more after hmore
  · cases more with
    | nil =>
      rw [List.append_nil] at hmore
      subst hmore
      exact hb [] after hafter.symm
    | cons c more =>
      obtain ⟨rfl, _⟩ := List.cons.inj hafter
      exact ha before more hmore

lemma ampersandsInside_of_notMem {cs : List Char} (h : '&' ∉ cs) (inside : Option Char) :
    AmpersandsInside inside cs := by
  rintro before after rfl
  simp at h

/-- In an open quotation every ampersand is inside it. -/
lemma ampersandsInside_of_open {q : Char} {cs : List Char} (h : q ∉ cs) :
    AmpersandsInside (some q) cs := by
  rintro before after rfl
  rw [List.mem_append, not_or] at h
  rw [quoteAfter_of_notMem h.1]
  exact Option.some_ne_none q

lemma isQuote_of_isBlank {c : Char} (h : isBlank c = true) : isQuote c = false := by
  unfold isQuote
  rw [Bool.or_eq_false_iff, beq_eq_false_iff_ne, beq_eq_false_iff_ne]
  constructor
  · rintro rfl
    exact absurd h (by decide)
  · rintro rfl
    exact absurd h (by decide)

/-- Blanks are no ampersands. -/
lemma notMem_of_isBlank {l : List Char} (h : ∀ b ∈ l, isBlank b = true) : '&' ∉ l := by
  intro hmem
  exact absurd (h _ hmem) (by decide)

/-- The text `q` is the text `p` with blanks around it. -/
def Padded (p q : List Char) : Prop :=
  ∃ l r, (∀ b ∈ l, isBlank b = true) ∧ (∀ b ∈ r, isBlank b = true) ∧ q = l ++ p ++ r

lemma Padded.strip_eq {p q : List Char} (h : Padded p q) : strip q = strip p := by
  obtain ⟨l, r, hl, hr, rfl⟩ := h
  exact strip_append_append hl p hr

/-- An operand with blanks around it is an operand. -/
lemma IsOperand.padded {p q : List Char} (h : IsOperand p) (hpad : Padded p q) : IsOperand q := by
  obtain ⟨l, r, hl, hr, rfl⟩ := hpad
  have hleft : quoteAfter none l = none :=
    quoteAfter_of_forall (fun b hb => isQuote_of_isBlank (hl b hb)) none
  have hmiddle : quoteAfter none (l ++ p) = none := by rw [quoteAfter_append, hleft, h.closed]
  constructor
  · rw [quoteAfter_append, hmiddle]
    exact quoteAfter_of_forall (fun b hb => isQuote_of_isBlank (hr b hb)) none
  · refine .append (.append (ampersandsInside_of_notMem (notMem_of_isBlank hl) none) ?_)
      (ampersandsInside_of_notMem (notMem_of_isBlank hr) _)
    rw [hleft]
    exact h.inside

lemma isOperand_of_padded {ps qs : List (List Char)} (hpad : List.Forall₂ Padded ps qs)
    (h : ∀ p ∈ ps, IsOperand p) : ∀ q ∈ qs, IsOperand q := by
  induction hpad with
  | nil => simp
  | cons hpq _ ih =>
    rw [List.forall_mem_cons] at h ⊢
    exact ⟨h.1.padded hpq, ih h.2⟩

/-- A text between double quotes. -/
def literal (t : String) : List Char :=
  '"' :: t.toList ++ ['"']

/-- A text without double quotes between double quotes is an operand, whatever it holds. -/
lemma isOperand_literal {t : String} (h : '"' ∉ t.toList) : IsOperand (literal t) := by
  have hopen : quoteAfter none ('"' :: t.toList) = some '"' := quoteAfter_of_notMem h
  constructor
  · rw [literal, quoteAfter_append, hopen]
    rfl
  · refine .append ?_ (ampersandsInside_of_notMem (by simp) _)
    exact .append (a := ['"']) (ampersandsInside_of_notMem (by simp) none)
      (ampersandsInside_of_open h)

/-- A text without quotes and ampersands is an operand. -/
lemma isOperand_of_forall {p : List Char} (hquote : ∀ c ∈ p, isQuote c = false) (h : '&' ∉ p) :
    IsOperand p :=
  ⟨quoteAfter_of_forall hquote none, ampersandsInside_of_notMem h none⟩

/-! ### The scanner -/

/-- A text without ampersands outside quotations goes into the piece that is being read. -/
lemma operandPiecesFrom_append {inside : Option Char} {p : List Char}
    (h : AmpersandsInside inside p) (cur rest : List Char) :
    operandPiecesFrom inside cur (p ++ rest) =
      operandPiecesFrom (quoteAfter inside p) (p.reverse ++ cur) rest := by
  induction p generalizing inside cur with
  | nil => rfl
  | cons c p ih =>
    have hmore (next : Option Char)
        (hnext : (if isQuote c then afterQuote inside c else inside) = next) :
        operandPiecesFrom next (c :: cur) (p ++ rest) =
          operandPiecesFrom (quoteAfter inside (c :: p)) ((c :: p).reverse ++ cur) rest := by
      subst hnext
      rw [ih fun before after hp => h (c :: before) after (by rw [hp, List.cons_append])]
      simp [quoteAfter]
    rw [List.cons_append, operandPiecesFrom]
    split
    · next hquote => exact hmore _ (if_pos hquote)
    · next hquote =>
      split
      · next hcut =>
        rw [Bool.and_eq_true, beq_iff_eq] at hcut
        obtain ⟨rfl, hnone⟩ := hcut
        exact absurd (Option.isNone_iff_eq_none.1 hnone) (h [] p rfl)
      · exact hmore _ (if_neg hquote)

/-- Operands that were joined by ampersands are the pieces between the ampersands. -/
theorem operandPiecesFrom_intercalate {ps : List (List Char)} (hne : ps ≠ [])
    (h : ∀ p ∈ ps, IsOperand p) : operandPiecesFrom none [] (['&'].intercalate ps) = ps := by
  induction ps with
  | nil => exact absurd rfl hne
  | cons p ps ih =>
    obtain ⟨hclosed, hinside⟩ := h p List.mem_cons_self
    cases ps with
    | nil =>
      have hpiece := operandPiecesFrom_append hinside [] []
      simpa [hclosed, operandPiecesFrom] using hpiece
    | cons q ps =>
      have hrest := ih (by simp) fun p' hp' => h p' (List.mem_cons_of_mem p hp')
      rw [List.intercalate_cons_cons, List.append_assoc, operandPiecesFrom_append hinside, hclosed,
        List.append_nil, List.singleton_append, operandPiecesFrom]
      simpa [isQuote] using hrest

/-- An operand alone is the only piece. -/
lemma operandPiecesFrom_of_isOperand {p : List Char} (hp : IsOperand p) :
    operandPiecesFrom none [] p = [p] := by
  have hops : ∀ q ∈ [p], IsOperand q := by simpa using hp
  simpa using operandPiecesFrom_intercalate (by simp) hops

/-- A blank at the start of the piece that is being read does not matter. -/
lemma map_strip_operandPiecesFrom_concat {b : Char} (hb : isBlank b = true) (inside : Option Char)
    (cur cs : List Char) :
    (operandPiecesFrom inside (cur ++ [b]) cs).map strip =
      (operandPiecesFrom inside cur cs).map strip := by
  have hpiece (cur : List Char) : strip (cur ++ [b]).reverse = strip cur.reverse := by
    rw [List.reverse_append, List.reverse_singleton, List.singleton_append,
      strip_cons_of_isBlank hb]
  induction cs generalizing inside cur with
  | nil => simp only [operandPiecesFrom, List.map_cons, List.map_nil, hpiece]
  | cons c cs ih =>
    rw [operandPiecesFrom, operandPiecesFrom]
    split
    · exact ih _ (c :: cur)
    · split
      · simp only [List.map_cons, hpiece]
      · exact ih _ (c :: cur)

/-- A blank goes into the piece that is being read. -/
lemma operandPiecesFrom_cons_blank {b : Char} (hb : isBlank b = true) (inside : Option Char)
    (cur cs : List Char) :
    operandPiecesFrom inside cur (b :: cs) = operandPiecesFrom inside (b :: cur) cs := by
  have hcut : (b == '&') = false := by
    rw [beq_eq_false_iff_ne]
    rintro rfl
    exact absurd hb (by decide)
  simp [operandPiecesFrom, isQuote_of_isBlank hb, hcut]

/-- A blank at the end of a text does not matter to its pieces. -/
lemma map_strip_operandPiecesFrom_blank {b : Char} (hb : isBlank b = true) (inside : Option Char)
    (cur cs : List Char) :
    (operandPiecesFrom inside cur (cs ++ [b])).map strip =
      (operandPiecesFrom inside cur cs).map strip := by
  induction cs generalizing inside cur with
  | nil =>
    rw [List.nil_append, operandPiecesFrom_cons_blank hb]
    simp only [operandPiecesFrom, List.map_cons, List.map_nil, List.reverse_cons,
      strip_concat_of_isBlank hb]
  | cons c cs ih =>
    rw [List.cons_append, operandPiecesFrom, operandPiecesFrom]
    split
    · exact ih _ (c :: cur)
    · split
      · rw [List.map_cons, List.map_cons, ih]
      · exact ih _ (c :: cur)

/-- Blanks around an expression do not matter to its operands. -/
theorem operands_strip (cs : List Char) : operands (strip cs) = operands cs := by
  have hbefore {b : Char} (hb : isBlank b = true) (cs : List Char) :
      (operandPiecesFrom none [] (b :: cs)).map strip =
        (operandPiecesFrom none [] cs).map strip := by
    rw [operandPiecesFrom_cons_blank hb]
    exact map_strip_operandPiecesFrom_concat hb none [] cs
  obtain ⟨l, r, hl, hr, hcs⟩ := exists_strip cs
  have hpieces := eq_of_blanks_around (f := fun cs => (operandPiecesFrom none [] cs).map strip)
    hbefore (fun hb => map_strip_operandPiecesFrom_blank hb none []) hl (strip cs) hr
  unfold operands
  conv => rhs; rw [hcs]
  rw [hpieces]

/-! ### Evaluating operands -/

/-- The texts of operands one after the other: each operand is evaluated and turned into a text
before the next one is looked at. -/
def concatenation (lib : Library) : List (List Char) → Step String
  | [] => pure ""
  | p :: ps => do
    let text ← Step.act (operandText (← evaluateOperand lib p))
    let rest ← concatenation lib ps
    return text ++ rest

section Operands

variable (lib : Library)

/-- Blanks around an operand do not matter. -/
lemma evaluateOperand_congr_strip {p q : List Char} (h : strip p = strip q) :
    evaluateOperand lib p = evaluateOperand lib q := by
  rw [evaluateOperand, evaluateOperand, h]

lemma evaluateOperand_blank {p : List Char} (h : (strip p).isEmpty = true) :
    evaluateOperand lib p = pure (.text "") := by
  rw [evaluateOperand, if_pos h]

lemma operandText_text (t : String) : operandText (.text t) = pure t := rfl

lemma empty_append_eq : (("" : String) ++ ·) = id :=
  funext fun _ => String.empty_append

lemma concatenation_append (ps qs : List (List Char)) :
    concatenation lib (ps ++ qs) = do
      let text ← concatenation lib ps
      let rest ← concatenation lib qs
      return text ++ rest := by
  induction ps with
  | nil => simp [concatenation, empty_append_eq]
  | cons p ps ih => simp [concatenation, ih, ← String.append_assoc]

/-- The texts of operands are joined. -/
lemma mapM_join (ps : List (List Char)) :
    (do
      let texts ← ps.mapM fun p => do Step.act (operandText (← evaluateOperand lib p))
      return String.join texts) = concatenation lib ps := by
  induction ps with
  | nil => simp [concatenation]
  | cons p ps ih =>
    rw [concatenation, ← ih]
    simp [List.mapM_cons, String.join_cons]

/-- Blank operands may be left out, and so may the blanks around operands. -/
lemma concatenation_filter (ps : List (List Char)) :
    concatenation lib ((ps.map strip).filter fun p => !p.isEmpty) = concatenation lib ps := by
  induction ps with
  | nil => rfl
  | cons p ps ih =>
    rw [List.map_cons, concatenation]
    cases hblank : (strip p).isEmpty with
    | true =>
      rw [List.filter_cons_of_neg (by simp [hblank]), ih, evaluateOperand_blank lib hblank]
      simp [operandText_text, empty_append_eq]
    | false =>
      rw [List.filter_cons_of_pos (by simp [hblank]), concatenation, ih,
        evaluateOperand_congr_strip lib (strip_strip p)]

/-- An expression with an ampersand is the concatenation of its operands. -/
lemma evaluate_of_mem {cs : List Char} (h : '&' ∈ cs) :
    evaluate lib cs = do return .text (← concatenation lib (operands cs)) := by
  have hmem : '&' ∈ strip cs := by
    obtain ⟨l, r, hl, hr, hcs⟩ := exists_strip cs
    have hblank : ¬ isBlank '&' = true := by decide
    rw [hcs, List.mem_append, List.mem_append] at h
    rcases h with (h | h) | h
    · exact absurd (hl _ h) hblank
    · exact h
    · exact absurd (hr _ h) hblank
  have hne : ¬ (strip cs).isEmpty = true := by
    rw [List.isEmpty_iff]
    exact List.ne_nil_of_mem hmem
  rw [← operands_strip cs, ← mapM_join, evaluate, if_neg hne, if_pos (List.contains_iff_mem.2 hmem)]
  simp

/-- Blanks around the operands of a concatenation do not matter. -/
lemma concatenation_padded {ps qs : List (List Char)} (h : List.Forall₂ Padded ps qs) :
    concatenation lib qs = concatenation lib ps := by
  induction h with
  | nil => rfl
  | cons hpq _ ih =>
    rw [concatenation, concatenation, evaluateOperand_congr_strip lib hpq.strip_eq, ih]

/-- The value of a text between double quotes is that text. -/
lemma evaluateOperand_literal (t : String) :
    evaluateOperand lib (literal t) = pure (.text t) := by
  have hblank : isBlank '"' = false := by decide
  have hstrip : strip (literal t) = literal t := by
    simp [strip, stripLeft, stripRight, literal, hblank]
  have hlast : (literal t).getLast? = some '"' := List.getLast?_concat
  have hquoted : quotedText? (literal t) = some t.toList := by
    rw [quotedText?, hlast]
    simp [literal, isQuote]
  rw [evaluateOperand, hstrip, if_neg (by simp [literal]), hquoted]
  simp

lemma concatenation_literals (ts : List String) :
    concatenation lib (ts.map literal) = pure (String.join ts) := by
  induction ts with
  | nil => rfl
  | cons t ts ih =>
    rw [List.map_cons, concatenation, evaluateOperand_literal, ih]
    simp [operandText_text, String.join_cons]

/-- Operands that are joined by ampersands are concatenated, with or without blanks around them. -/
lemma evaluate_intercalate {ps qs : List (List Char)} (hlen : 2 ≤ ps.length)
    (hops : ∀ p ∈ ps, IsOperand p) (hpad : List.Forall₂ Padded ps qs) :
    evaluate lib (['&'].intercalate qs) = do return .text (← concatenation lib ps) := by
  have hlen' : 2 ≤ qs.length := hpad.length_eq ▸ hlen
  have hops' := isOperand_of_padded hpad hops
  have hmem : '&' ∈ ['&'].intercalate qs := by
    cases qs with
    | nil => simp at hlen'
    | cons q more =>
      cases more with
      | nil => simp at hlen'
      | cons q' more =>
        rw [List.intercalate_cons_cons]
        simp
  have hpieces : operands (['&'].intercalate qs) =
      (qs.map strip).filter fun q => !q.isEmpty := by
    rw [operands, operandPiecesFrom_intercalate (by rintro rfl; simp at hlen') hops']
  rw [evaluate_of_mem lib hmem, hpieces, concatenation_filter, concatenation_padded lib hpad]

/-- A failing operand is a failure of the concatenation. -/
lemma take_concatenation_error {before after : List (List Char)} {p : List Char}
    {text : String} {e : Fault} {scene mid last : Scene}
    (hbefore : (concatenation lib before).take scene = (.ok text, mid))
    (hp : (evaluateOperand lib p).take mid = (.error e, last)) :
    (concatenation lib (before ++ p :: after)).take scene = (.error e, last) := by
  rw [concatenation_append, Step.take_bind, hbefore]
  dsimp only
  rw [Step.take_bind, concatenation, Step.take_bind, hp]

end Operands

/-- What an expression does that is made of at least two operands with ampersands between them, with
any blanks around them. Its operands are evaluated one after the other, each is turned into a text,
and the value is the concatenation of the texts. If an operand fails, then the expression fails in
the same way, after what the operands before it did. Texts between double quotes are put together as
they are. -/
theorem evaluate_joined (lib : Library) :
    (∀ ps qs : List (List Char), 2 ≤ ps.length → (∀ p ∈ ps, IsOperand p) →
      List.Forall₂ Padded ps qs →
        evaluate lib (['&'].intercalate qs) = (do return .text (← concatenation lib ps)) ∧
        ∀ before p after text e scene mid last, ps = before ++ p :: after →
          (concatenation lib before).take scene = (.ok text, mid) →
          (evaluateOperand lib p).take mid = (.error e, last) →
            (evaluate lib (['&'].intercalate qs)).take scene = (.error e, last)) ∧
    ∀ (ts : List String) (qs : List (List Char)), 2 ≤ ts.length → (∀ t ∈ ts, '"' ∉ t.toList) →
      List.Forall₂ Padded (ts.map literal) qs →
        evaluate lib (['&'].intercalate qs) = pure (.text (String.join ts)) := by
  constructor
  · intro ps qs hlen hops hpad
    have hvalue := evaluate_intercalate lib hlen hops hpad
    refine ⟨hvalue, ?_⟩
    rintro before p after text e scene mid last rfl hbefore hp
    rw [hvalue, Step.take_bind, take_concatenation_error lib hbefore hp]
  · intro ts qs hlen hplain hpad
    have hops : ∀ p ∈ ts.map literal, IsOperand p := by
      intro p hp
      obtain ⟨t, ht, rfl⟩ := List.mem_map.1 hp
      exact isOperand_literal (hplain t ht)
    rw [evaluate_intercalate lib (by rwa [List.length_map]) hops hpad, concatenation_literals]
    rfl

/-- An operand that is taken for a numeral and is none. -/
lemma evaluateOperand_numeralTail (lib : Library) :
    evaluateOperand lib "1-".toList = throw (.badWholeText "1-") := by
  have hstrip : strip "1-".toList = "1-".toList := by decide
  have hquoted : quotedText? "1-".toList = none := by decide
  have hnumeric : looksNumeric "1-".toList = true := by decide
  rw [evaluateOperand, hstrip, if_neg (by decide), hquoted]
  dsimp only
  rw [if_pos hnumeric]
  rfl

/-- The ampersand and the apostrophe in quotations are not those that join and quote, and an operand
that fails is the failure of the expression. -/
theorem evaluate_joined_quoted :
    evaluate (library .capital) "x&\"a & b\" ".toList =
        (do return .text (← concatenation (library .capital)
          ["x".toList, "\"a & b\"".toList])) ∧
      (evaluate (library .capital) "\"a\"&1-".toList).take firstScene =
        (.error (.badWholeText "1-"), firstScene) ∧
      evaluate (library .capital) "\"it's\" & \", a&b\"".toList =
        pure (.text "it's, a&b") := by
  have hplain (p : List Char) : Padded p p := ⟨[], [], by simp, by simp, by simp⟩
  have hspace : ∀ b ∈ [' '], isBlank b = true := List.forall_mem_singleton.2 (by decide)
  have hright (p : List Char) : Padded p (p ++ [' ']) := ⟨[], [' '], by simp, hspace, by simp⟩
  have hleft (p : List Char) : Padded p (' ' :: p) := ⟨[' '], [], hspace, by simp, by simp⟩
  have hname : IsOperand "x".toList := ⟨by decide, ampersandsInside_of_notMem (by decide) none⟩
  have htail : IsOperand "1-".toList := ⟨by decide, ampersandsInside_of_notMem (by decide) none⟩
  have hpair {p q : List Char} (hp : IsOperand p) (hq : IsOperand q) :
      ∀ r ∈ [p, q], IsOperand r := by
    simp [hp, hq]
  have hjoined := evaluate_joined (library .capital)
  refine ⟨?_, ?_, ?_⟩
  · exact (hjoined.1 ["x".toList, literal "a & b"] ["x".toList, literal "a & b" ++ [' ']] (by simp)
      (hpair hname (isOperand_literal (by simp))) (.cons (hplain _) (.cons (hright _) .nil))).1
  · refine (hjoined.1 [literal "a", "1-".toList] [literal "a", "1-".toList] (by simp)
      (hpair (isOperand_literal (by simp)) htail) (.cons (hplain _) (.cons (hplain _) .nil))).2
      [literal "a"] "1-".toList [] "a" _ _ firstScene _ rfl ?_ ?_
    · exact congrArg (Step.take · firstScene)
        (concatenation_literals (library .capital) ["a"])
    · rw [evaluateOperand_numeralTail]
      rfl
  · exact hjoined.2 ["it's", ", a&b"] [literal "it's" ++ [' '], ' ' :: literal ", a&b"] (by simp)
      (by simp) (.cons (hright _) (.cons (hleft _) .nil))

end ScriptHost.Script
