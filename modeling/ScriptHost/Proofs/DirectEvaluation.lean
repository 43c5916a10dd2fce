import ScriptHost.Proofs.Arguments
import ScriptHost.Proofs.Conditionals
import ScriptHost.Proofs.VariableStore

/-!
# Evaluating directly and by way of a variable

An expression can be evaluated directly, or a script of one line can assign it to a variable. The
script replaces the names of constants first, in any mixture of capitals and small letters.
Evaluated directly, a word by itself is looked up in capitals, but a word in a formula only as it is
spelled in the table or in capitals. So the two ways differ by the replacement, and they agree where
it changes nothing or a part that is a word by itself (`assignedValue_eq_directValue`).

A line is not taken for an assignment if ` THEN ` is in its capitals. Capitals of several letters
are the difficulty there: a text could have it in its capitals without having the word, and the
first section shows from the tables that none does.
-/

namespace ScriptHost.Script

open ScriptHost.Number ScriptHost.Text

/-! ### Capitals that make up `THEN` -/

/-- The characters of `THEN` between blanks. -/
def thenCapitals : List Char := " THEN".toList

/-- Their code points. -/
def thenCodes : List Nat := thenCapitals.map Char.toNat

/-- No capital form of several letters has a blank, and after a capital of `THEN` at its start comes
a character that is not plain. -/
lemma longCapitals_then : longCapitals.all (fun p => !p.2.contains ' ' &&
    (!p.2.head?.any thenCapitals.contains || (p.2.drop 1).head?.any fun e => 128 ≤ e.toNat)) =
      true := by
  unfold longCapitals tableItems
  simp only [List.flatMap_cons, List.all_toArray]
  -- The rows are turned into lists of characters here, so that `decide` below does not decode them.
  repeat rw [String.toList_ofList]
  decide

/-- A run of letters that is sent to plain letters is sent to none of these. -/
lemma capitalRuns_then : capitalRuns.all (fun r =>
    r.forward || 128 + r.distance ≤ r.first ||
      (r.first == r.last && !thenCodes.contains (r.first - r.distance))) = true := by
  unfold capitalRuns tableItems
  simp only [List.flatMap_cons, List.all_toArray]
  repeat rw [String.toList_ofList]
  decide

/-- A code point that is not plain is sent to none of the codes, if the runs are like those of the
table. -/
lemma shift_notMem {runs : Array LetterRun} {codes : List Nat} (hcodes : ∀ m ∈ codes, m < 128)
    (hruns : runs.all (fun r => r.forward || 128 + r.distance ≤ r.first ||
      (r.first == r.last && !codes.contains (r.first - r.distance))) = true)
    {n : Nat} (hn : 128 ≤ n) : shift runs n ∉ codes := by
  intro hmem
  have hlt := hcodes _ hmem
  rw [shift] at hmem hlt
  split at hmem
  · next r hr =>
    rw [hr] at hlt
    have hcheck := Array.all_eq_true_iff_forall_mem.1 hruns r (Array.mem_of_find?_eq_some hr)
    have hrange := Array.find?_some hr
    simp only [Bool.and_eq_true, decide_eq_true_eq, beq_iff_eq] at hrange
    simp only [Bool.or_eq_true, Bool.and_eq_true, decide_eq_true_eq, beq_iff_eq,
      Bool.not_eq_true'] at hcheck
    dsimp only at hlt
    split at hmem
    · next hforward =>
      rw [if_pos hforward] at hlt
      omega
    · next hforward =>
      rw [if_neg hforward] at hlt
      rcases hcheck with (hforward' | hfar) | ⟨hone, hfree⟩
      · exact hforward hforward'
      · omega
      · rw [show r.first = n by omega, Bool.eq_false_iff] at hfree
        exact hfree (List.contains_iff_mem.2 hmem)
  · next hnone =>
    rw [hnone] at hlt
    dsimp only at hlt
    omega

lemma mem_thenCodes {n : Nat} (h : Char.ofNat n ∈ thenCapitals) : n ∈ thenCodes := by
  have hcode : (Char.ofNat n).toNat ∈ thenCodes := List.mem_map_of_mem h
  by_cases hvalid : n.isValidChar
  · rwa [Char.ofNat, dif_pos hvalid] at hcode
  · rw [Char.ofNat, dif_neg hvalid] at hcode
    exact absurd hcode (by decide)

/-- A letter whose capital form starts with one of these characters is plain, unless a character
that is not plain comes next. -/
lemma upperChar_cases {c d : Char} {ds : List Char} (h : upperChar c = d :: ds)
    (hd : d ∈ thenCapitals) :
    (c.toNat < 128 ∧ c.toUpper = d ∧ ds = []) ∨ ∃ e ∈ ds.head?, 128 ≤ e.toNat := by
  rw [upperChar] at h
  split at h
  · next hplain =>
    obtain ⟨hupper, hds⟩ := List.cons.inj h
    exact .inl ⟨hplain, hupper, hds.symm⟩
  · next hplain =>
    split at h
    · next form hform =>
      have hcheck :=
        Array.all_eq_true_iff_forall_mem.1 longCapitals_then _ (Array.mem_of_find?_eq_some hform)
      subst h
      rcases (Bool.or_eq_true _ _).mp ((Bool.and_eq_true _ _).mp hcheck).2 with hother | hnext
      · have hstart : (d :: ds).head?.any thenCapitals.contains = true := List.contains_iff_mem.2 hd
        rw [hstart] at hother
        cases hother
      · obtain ⟨e, he, hhigh⟩ := (Option.any_eq_true _ _).1 hnext
        exact .inr ⟨e, he, of_decide_eq_true hhigh⟩
    · obtain ⟨rfl, -⟩ := List.cons.inj h
      exact absurd (mem_thenCodes hd) (shift_notMem (by decide) capitalRuns_then (by omega))

/-- Only the blank has a blank in its capital form. -/
lemma eq_blank_of_mem {c : Char} (h : ' ' ∈ upperChar c) : c = ' ' := by
  rw [upperChar] at h
  split at h
  · next hplain =>
    exact forall_plain (P := fun c => ' ' ∈ [c.toUpper] → c = ' ') (by decide) hplain h
  · next hplain =>
    split at h
    · next form hform =>
      have hcheck := Array.all_eq_true_iff_forall_mem.1 longCapitals_then _
        (Array.mem_of_find?_eq_some hform)
      have hnone := ((Bool.and_eq_true _ _).mp hcheck).1
      rw [List.contains_iff_mem.2 h] at hnone
      cases hnone
    · have hblank : ' ' ∈ thenCapitals := by decide
      rw [List.mem_singleton.1 h] at hblank
      exact absurd (mem_thenCodes hblank) (shift_notMem (by decide) capitalRuns_then (by omega))

/-- A blank in the capitals of a text is one of the text. -/
lemma exists_of_upper_eq {cs a b : List Char} (h : upper cs = a ++ ' ' :: b) :
    ∃ before after, cs = before ++ ' ' :: after ∧ a = upper before ∧ b = upper after := by
  induction cs generalizing a with
  | nil =>
    have hempty := congrArg List.length h
    simp [upper] at hempty
  | cons c cs ih =>
    rw [upper, List.flatMap_cons] at h
    rcases List.append_eq_append_iff.1 h with ⟨x, ha, hrest⟩ | ⟨x, hc, hrest⟩
    · obtain ⟨before, after, rfl, hx, hb⟩ := ih hrest
      refine ⟨c :: before, after, rfl, ?_, hb⟩
      rw [ha, hx]
      rfl
    · cases x with
      | nil =>
        obtain ⟨before, after, rfl, hx, hb⟩ := ih (a := []) hrest.symm
        refine ⟨c :: before, after, rfl, ?_, hb⟩
        rw [List.append_nil] at hc
        rw [← hc, upper, List.flatMap_cons, ← upper, ← hx, List.append_nil]
      | cons d x =>
        obtain ⟨rfl, hb⟩ := List.cons.inj hrest
        obtain rfl := eq_blank_of_mem (c := c) (by rw [hc]; simp)
        obtain ⟨rfl, hx⟩ : a = [] ∧ x = [] := by
          have hone : a ++ ' ' :: x = [' '] := hc.symm
          rcases List.append_eq_singleton_iff.1 hone with ⟨ha, hx⟩ | ⟨-, hx⟩
          · exact ⟨ha, (List.cons.inj hx).2⟩
          · cases hx
        refine ⟨[], cs, rfl, rfl, ?_⟩
        rw [hb, hx]
        rfl

/-- A letter of `THEN` in the capitals of a text is one of the text, if a plain character comes
next. -/
lemma exists_of_upper_eq_cons {cs tail : List Char} {d e : Char} (h : upper cs = d :: e :: tail)
    (hd : d ∈ thenCapitals) (he : e.toNat < 128) :
    ∃ c cs', cs = c :: cs' ∧ c.toNat < 128 ∧ c.toUpper = d ∧ upper cs' = e :: tail := by
  cases cs with
  | nil => cases h
  | cons c cs =>
    obtain ⟨d', ds, hc⟩ := List.exists_cons_of_ne_nil (upperChar_ne_nil c)
    rw [upper, List.flatMap_cons, hc, List.cons_append] at h
    obtain ⟨rfl, hrest⟩ := List.cons.inj h
    rcases upperChar_cases hc hd with ⟨hplain, hupper, rfl⟩ | ⟨e', he', hhigh⟩
    · exact ⟨c, cs, rfl, hplain, hupper, hrest⟩
    · obtain ⟨more, rfl⟩ : ∃ more, ds = e' :: more := ⟨_, List.eq_cons_of_mem_head? he'⟩
      obtain ⟨rfl, -⟩ := List.cons.inj hrest
      omega

/-- What a plain letter with such a capital is. -/
lemma fold_of_toUpper {c d : Char} (hc : c.toNat < 128) (h : c.toUpper = d)
    (hd : d ∈ "THEN".toList) :
    fold c = d.toLower := by
  subst h
  exact forall_plain (P := fun c => c.toUpper ∈ "THEN".toList → fold c = c.toUpper.toLower)
    (by decide) hc hd

/-- If there is a `THEN` between blanks in the capitals of a text, a word of the text is `then`. -/
lemma ThenFree.not_infix_upper {cs : List Char} (h : ThenFree cs) :
    ¬ " THEN ".toList <:+: upper cs := by
  rintro ⟨a, b, hcut⟩
  have hblank : upper cs = a ++ ' ' :: ("THEN ".toList ++ b) := by
    rw [← hcut]
    simp
  obtain ⟨before, rest, rfl, -, hrest⟩ := exists_of_upper_eq hblank
  obtain ⟨t, rest, rfl, ht, htt, hrest⟩ :=
    exists_of_upper_eq_cons hrest.symm (by decide) (by decide)
  obtain ⟨u, rest, rfl, hu, huu, hrest⟩ := exists_of_upper_eq_cons hrest (by decide) (by decide)
  obtain ⟨v, rest, rfl, hv, hvv, hrest⟩ := exists_of_upper_eq_cons hrest (by decide) (by decide)
  obtain ⟨w, rest, rfl, hw, hww, hrest⟩ := exists_of_upper_eq_cons hrest (by decide) (by decide)
  obtain ⟨between, after, rfl, hbetween, -⟩ := exists_of_upper_eq (a := []) hrest
  obtain rfl : between = [] := by
    cases between with
    | nil => rfl
    | cons x between => exact absurd (List.append_eq_nil_iff.1 hbetween.symm).1 (upperChar_ne_nil x)
  have hsame : sameWord [t, u, v, w] "then".toList = true := by
    rw [sameWord, List.map_cons, List.map_cons, List.map_cons, List.map_singleton,
      fold_of_toUpper ht htt (by decide), fold_of_toUpper hu huu (by decide),
      fold_of_toUpper hv hvv (by decide), fold_of_toUpper hw hww (by decide)]
    decide
  have hword : IsWordOf [t, u, v, w] (before ++ ' ' :: (t :: u :: v :: w :: ' ' :: after)) :=
    (isWordOf_append_cons (by simp) (isWord_of_sameWord_then hsame) (by decide) after).append_cons
      (by decide) before
  rw [h _ hword] at hsame
  cases hsame

/-- The words of a text are those of the text without the blanks around it. -/
lemma IsWordOf.of_strip {w cs : List Char} (h : IsWordOf w (strip cs)) : IsWordOf w cs := by
  obtain ⟨l, r, hl, hr, hcs⟩ := exists_strip cs
  obtain ⟨before, after, hcut, hbefore, hafter⟩ := h.whole
  refine ⟨h.ne_nil, h.chars, l ++ before, after ++ r, ?_, fun c hc => ?_, fun c hc => ?_⟩
  · conv_lhs => rw [hcs, hcut]
    simp
  · rw [List.getLast?_append] at hc
    rcases Option.or_eq_some_iff.1 hc with hc | ⟨-, hc⟩
    · exact hbefore c hc
    · exact isWord_of_isBlank (hl c (List.mem_of_getLast? hc))
  · rw [List.head?_append] at hc
    rcases Option.or_eq_some_iff.1 hc with hc | ⟨-, hc⟩
    · exact hafter c hc
    · exact isWord_of_isBlank (hr c (List.mem_of_mem_head? hc))

/-- A line that assigns is one, if no word of the operand is `then`. -/
lemma not_infix_assignLine {e : List Char} (h : ThenFree e) :
    ¬ " THEN ".toList <:+: upper (substitute (strip (assignLine e))) := by
  have hfree : ThenFree (strip (assignLine e)) := by
    intro w hw
    have hline := hw.of_strip
    rw [assignLine_eq] at hline
    rcases hline.of_append_cons (by decide) with hname | hword
    · exact thenFree_of_length_lt (by decide) w hname
    · exact h w hword
  exact hfree.substitute.not_infix_upper

/-! ### Words that name constants -/

/-- Plain texts are the same case aside if they have the same capitals. -/
lemma sameWord_iff_upper_eq {a b : List Char} (ha : ∀ c ∈ a, c.toNat < 128)
    (hb : ∀ c ∈ b, c.toNat < 128) : sameWord a b = true ↔ upper a = upper b := by
  have hup {c : Char} (hc : c.toNat < 128) : (fold c).toUpper = c.toUpper :=
    forall_plain (P := fun c => (fold c).toUpper = c.toUpper) (by decide) hc
  have hdown {c : Char} (hc : c.toNat < 128) : fold c.toUpper = fold c :=
    forall_plain (P := fun c => fold c.toUpper = fold c) (by decide) hc
  have hmapUp {t : List Char} (ht : ∀ c ∈ t, c.toNat < 128) :
      (t.map fold).map Char.toUpper = t.map Char.toUpper := by
    rw [List.map_map]
    exact List.map_congr_left fun c hc => hup (ht c hc)
  have hmapDown {t : List Char} (ht : ∀ c ∈ t, c.toNat < 128) :
      (t.map Char.toUpper).map fold = t.map fold := by
    rw [List.map_map]
    exact List.map_congr_left fun c hc => hdown (ht c hc)
  rw [upper_of_plain ha, upper_of_plain hb, sameWord, beq_iff_eq]
  constructor
  · intro h
    rw [← hmapUp ha, ← hmapUp hb, h]
  · intro h
    rw [← hmapDown ha, ← hmapDown hb, h]

/-- The constant that a plain word names is found under its capitals. -/
lemma capitalConstant?_of_find? {u : List Char} (hu : ∀ c ∈ u, c.toNat < 128) :
    capitalConstant? (String.ofList (upper u)) =
      (constants.find? fun c => sameWord c.1.toList u).map Prod.snd := by
  have hkey {c : String × Nat} (hc : c ∈ constants) :
      (String.ofList (upper u) == capitalName c.1) = sameWord c.1.toList u := by
    have hiff := sameWord_iff_upper_eq (isName_of_mem_constants hc).plain hu
    rw [Bool.eq_iff_iff, hiff, beq_iff_eq, capitalName, String.ofList_inj, eq_comm]
  have htable (table : List (String × Nat)) (htable : ∀ c ∈ table, c ∈ constants) :
      (table.map fun c => (capitalName c.1, c.2)).lookup (String.ofList (upper u)) =
        (table.find? fun c => sameWord c.1.toList u).map Prod.snd := by
    induction table with
    | nil => rfl
    | cons c table ih =>
      rw [List.map_cons, List.lookup_cons, hkey (htable c List.mem_cons_self), List.find?_cons]
      cases sameWord c.1.toList u with
      | true => rfl
      | false => exact ih fun d hd => htable d (List.mem_cons_of_mem c hd)
  exact htable constants fun _ hc => hc

/-- The value of a constant as a numeral. -/
lemma evaluate_natDigits (lib : Library) {c : String × Nat} (hc : c ∈ constants) :
    evaluate lib (natDigits c.2) = pure (.int c.2) := by
  have hall : (constants.map Prod.snd).all (fun n => strip (natDigits n) == natDigits n &&
      !(natDigits n).contains '&' && (quotedText? (natDigits n)).isNone &&
        looksNumeric (natDigits n)) =
      true := by
    decide
  have hnumeral : ∀ n ∈ constants.map Prod.snd, numeral (natDigits n) = .ok (.int n) := by
    simp only [constants, List.map_cons, List.map_nil, List.forall_mem_cons]
    repeat' constructor
    simp
  have hcheck := List.all_eq_true.1 hall c.2 (List.mem_map_of_mem hc)
  simp only [Bool.and_eq_true, beq_iff_eq, Bool.not_eq_true', Option.isNone_iff_eq_none] at hcheck
  obtain ⟨⟨⟨hstrip, hjoined⟩, hquoted⟩, hnumeric⟩ := hcheck
  rw [evaluate_of_looksNumeric hstrip hjoined hquoted hnumeric,
    hnumeral c.2 (List.mem_map_of_mem hc)]
  exact Step.act_pure _

/-- No constant has the name of a truth value. -/
lemma boolean?_capitalName {c : String × Nat} (hc : c ∈ constants) :
    boolean? (capitalName c.1) = none := by
  have hall : constants.all (fun c => (boolean? (capitalName c.1)).isNone) = true := by
    decide
  exact Option.isNone_iff_eq_none.1 (List.all_eq_true.1 hall c hc)

/-- A plain word has the value of what it becomes when constants are replaced. -/
lemma take_evaluate_substitute_word (lib : Library) {scene : Scene}
    (hs : scene.session.constants = true) {u : List Char} (hne : u ≠ [])
    (hu : ∀ c ∈ u, isPlainWord c = true) :
    (evaluate lib (substitute u)).take scene = (evaluate lib u).take scene := by
  have hplain : ∀ c ∈ u, c.toNat < 128 := fun c hc => toNat_lt_of_isPlainWord (hu c hc)
  have hword : ∀ c ∈ u, isWord c = true := fun c hc =>
    forall_plain (P := fun c => isPlainWord c = true → isWord c = true) (by decide) (hplain c hc)
      (hu c hc)
  rw [substitute_word hne hword, constantText]
  cases hfind : constants.find? fun c => sameWord c.1.toList u with
  | none => rfl
  | some c =>
    have hc := List.mem_of_find?_eq_some hfind
    have hname := isName_of_mem_constants hc
    have hsame : sameWord c.1.toList u = true :=
      List.find?_some (p := fun c : String × Nat => sameWord c.1.toList u) hfind
    have hupper : upper u = upper c.1.toList :=
      ((sameWord_iff_upper_eq hname.plain hplain).1 hsame).symm
    have hvalue : wordValue? scene.session u = some (.int c.2) := by
      have hboolean : boolean? (String.ofList (upper u)) = none := by
        rw [hupper]
        exact boolean?_capitalName hc
      rw [wordValue?, hboolean, if_pos hs, capitalConstant?_of_find? hplain, hfind]
      rfl
    rw [Option.map_some, Option.getD_some, evaluate_natDigits lib hc,
      (hname.isWordText hupper).evaluate_eq hvalue, Step.take_pure]

/-! ### Replacing constants in operands -/

/-- An operand that keeps its value when constants are replaced: it has none, or it is a plain
word. -/
def Replaceable (p : List Char) : Prop :=
  FreeOfConstants p ∨ ∀ c ∈ p, isPlainWord c = true

section Replace

variable {lib : Library} (hlib : lib.evaluator.WritesNothing) {scene : Scene} {e : List Char}

lemma take_evaluateOperand_substitute (hs : scene.session.constants = true) {q : List Char}
    (h : strip q ≠ [] → Replaceable (strip q)) :
    (evaluateOperand lib (substitute q)).take scene = (evaluateOperand lib q).take scene := by
  have hstrip : (evaluateOperand lib (substitute (strip q))).take scene =
      (evaluateOperand lib (strip q)).take scene := by
    by_cases hne : strip q = []
    · have hnone : substitute [] = [] := by decide
      rw [hne, hnone]
    · rcases h hne with hfree | hword
      · rw [(substitute_eq_self_iff _).2 hfree]
      · have hjoined : '&' ∉ strip q := fun hmem => absurd (hword '&' hmem) (by decide)
        have hjoined' : '&' ∉ substitute (strip q) :=
          fun hmem => hjoined (mem_of_mem_substitute (by decide) hmem)
        rw [← evaluate_of_notMem lib hjoined, ← evaluate_of_notMem lib hjoined',
          take_evaluate_substitute_word lib hs hne hword]
  rw [evaluateOperand_congr_strip lib (strip_substitute_strip q).symm, hstrip,
    evaluateOperand_congr_strip lib (strip_strip q)]

include hlib in
lemma take_concatenation_substitute (hs : scene.session.constants = true) {qs : List (List Char)}
    (h : ∀ q ∈ qs, strip q ≠ [] → Replaceable (strip q)) :
    (concatenation lib (qs.map substitute)).take scene = (concatenation lib qs).take scene := by
  induction qs generalizing scene with
  | nil => rfl
  | cons q qs ih =>
    -- No operand takes away the constants from the next one.
    have hkept := evaluateOperand_keeps hlib q scene
    rw [List.map_cons, concatenation, concatenation, Step.take_bind, Step.take_bind,
      take_evaluateOperand_substitute hs (h q List.mem_cons_self)]
    rcases hvalue : (evaluateOperand lib q).take scene with ⟨e | v, mid⟩
    · rfl
    · rw [hvalue] at hkept
      dsimp only
      rw [Step.take_bind, Step.take_bind, Step.take_act]
      rcases (operandText v).carryOut mid.world with ⟨e | text, w⟩
      · rfl
      · have hrest : (concatenation lib (qs.map substitute)).take ⟨mid.session, w⟩ =
            (concatenation lib qs).take ⟨mid.session, w⟩ :=
          ih (hkept.constants_eq.symm.trans hs) fun r hr => h r (List.mem_cons_of_mem q hr)
        dsimp only
        rw [Step.take_bind, Step.take_bind, hrest]

/-- Without quotes a text is cut at each ampersand, also after its constants have been replaced. -/
lemma operandPiecesFrom_substitute (hquote : ∀ c ∈ e, isQuote c = false) :
    operandPiecesFrom none [] (substitute e) = (operandPiecesFrom none [] e).map substitute := by
  -- One operand after the other, from the left.
  have hoperand {p : List Char} (hp : ∀ c ∈ p, isQuote c = false) (hjoined : '&' ∉ p) :
      IsOperand p ∧ IsOperand (substitute p) := by
    refine ⟨isOperand_of_forall hp hjoined, isOperand_of_forall (fun c hc => ?_) fun hmem => ?_⟩
    · rw [Bool.eq_false_iff]
      intro hquoted
      have hdigit : c.isDigit = false := by
        rcases (Bool.or_eq_true _ _).mp hquoted with hc | hc
        · rw [eq_of_beq hc]
          decide
        · rw [eq_of_beq hc]
          decide
      rw [hp c (mem_of_mem_substitute hdigit hc)] at hquoted
      cases hquoted
    · exact hjoined (mem_of_mem_substitute (by decide) hmem)
  have hcons {p : List Char} (hp : IsOperand p) (rest : List Char) :
      operandPiecesFrom none [] (p ++ '&' :: rest) = p :: operandPiecesFrom none [] rest := by
    rw [operandPiecesFrom_append hp.inside, hp.closed, List.append_nil, operandPiecesFrom]
    simp [isQuote]
  induction hlen : e.length using Nat.strongRecOn generalizing e with
  | ind n ih =>
    by_cases hmem : '&' ∈ e
    · obtain ⟨p, rest, rfl, hp⟩ := List.eq_append_cons_of_mem hmem
      obtain ⟨hop, hop'⟩ := hoperand (fun c hc => hquote c (List.mem_append_left _ hc)) hp
      have hrest := ih rest.length (by simp [← hlen]; omega)
        (fun c hc => hquote c (List.mem_append_right p (List.mem_cons_of_mem '&' hc))) rfl
      rw [substitute_append_cons (by decide), hcons hop, hcons hop', hrest, List.map_cons]
    · obtain ⟨hop, hop'⟩ := hoperand hquote hmem
      rw [operandPiecesFrom_of_isOperand hop, operandPiecesFrom_of_isOperand hop',
        List.map_singleton]

include hlib in
/-- An expression without quotes keeps its value when constants are replaced, if its operands do. -/
lemma take_evaluate_substitute (hs : scene.session.constants = true)
    (hquote : ∀ c ∈ e, isQuote c = false) (h : ∀ p ∈ operands e, Replaceable p) :
    (evaluate lib (substitute e)).take scene = (evaluate lib e).take scene := by
  have hpieces : ∀ q ∈ operandPiecesFrom none [] e, strip q ≠ [] → Replaceable (strip q) := by
    intro q hq hne
    refine h _ (List.mem_filter.2 ⟨List.mem_map_of_mem hq, ?_⟩)
    simpa using hne
  by_cases hmem : '&' ∈ e
  · have hmem' : '&' ∈ substitute e := by
      obtain ⟨a, b, rfl⟩ := List.append_of_mem hmem
      rw [substitute_append_cons (by decide)]
      simp
    rw [evaluate_of_mem lib hmem, evaluate_of_mem lib hmem', operands, operands,
      concatenation_filter, concatenation_filter, operandPiecesFrom_substitute hquote,
      Step.take_bind, Step.take_bind, take_concatenation_substitute hlib hs hpieces]
  · have hmem' : '&' ∉ substitute e := fun hmem' => hmem (mem_of_mem_substitute (by decide) hmem')
    have hone := operandPiecesFrom_of_isOperand (isOperand_of_forall hquote hmem)
    rw [evaluate_of_notMem lib hmem, evaluate_of_notMem lib hmem',
      take_evaluateOperand_substitute hs (hpieces e (by rw [hone]; exact List.mem_cons_self))]

end Replace

/-! ### The two ways -/

/-- What the variable holds after a script of one line has assigned to it. -/
def assignedValue (lib : Library) (w : World) (e : List Char) : Option Value :=
  variableValue? ((run lib (assignLine e)).take ⟨freshSession, w⟩).2.session ['x']

/-- What evaluating a text directly gives. -/
def directValue (lib : Library) (w : World) (e : List Char) : Option Value :=
  ((evaluateText lib (.text (String.ofList e))).carryOut w).1.toOption

lemma directValue_eq (lib : Library) (w : World) (e : List Char) :
    directValue lib w e = ((evaluate lib e).take ⟨freshSession, w⟩).1.toOption := by
  rw [directValue, evaluateText, String.toList_ofList, Act.carryOut_bind, inSession,
    Act.carryOut_bind, Act.carryOut_get]
  dsimp only
  rcases (evaluate lib e).take ⟨freshSession, w⟩ with ⟨e | v, after⟩ <;> rfl

section

variable {lib : Library} (hlib : lib.evaluator.Confined) (w : World) {e : List Char}

include hlib

/-- The variable holds what evaluating the operand directly gives after its constants have been
replaced. -/
lemma assignedValue_eq (hline : '\n' ∉ e) (hfull : strip e ≠ []) (hthen : ThenFree e) :
    assignedValue lib w e = directValue lib w (substitute e) := by
  rw [assignedValue, variableValue?_run_assignLine hlib w hline hfull,
    if_neg (not_infix_assignLine hthen), directValue_eq]

/-- The variable holds what evaluating the operand directly gives after its constants have been
replaced. That is what the operand itself gives, if its parts between ampersands have no constants
or are plain words. -/
theorem assignedValue_eq_directValue (hline : '\n' ∉ e) (hfull : strip e ≠ [])
    (hquote : ∀ c ∈ e, isQuote c = false) (hthen : ThenFree e) :
    assignedValue lib w e = directValue lib w (substitute e) ∧
      ((∀ p ∈ operands e, Replaceable p) →
        assignedValue lib w e = directValue lib w e) := by
  have hassigned := assignedValue_eq hlib w hline hfull hthen
  refine ⟨hassigned, fun hparts => ?_⟩
  rw [hassigned, directValue_eq, directValue_eq,
    take_evaluate_substitute hlib.writesNothing rfl hquote hparts]

end

/-- No word is `then` where no character stands for its first letter. -/
lemma thenFree_of_all {cs : List Char} (h : cs.all (fold · != 't') = true) : ThenFree cs := by
  intro w hw
  rw [Bool.eq_false_iff]
  intro hsame
  obtain ⟨c, w, rfl⟩ := List.exists_cons_of_ne_nil hw.ne_nil
  obtain ⟨before, after, rfl, -⟩ := hw.whole
  have hfirst : fold c = 't' := (List.cons.inj (eq_of_beq hsame)).1
  have hother := List.all_eq_true.1 h c (by simp)
  rw [hfirst] at hother
  cases hother

/-- A constant that is spelled in an unusual way, joined to a sum. -/
def joinedConstant : List Char := "vbyES & 1 + 2".toList

lemma replaceable_joinedConstant : ∀ p ∈ operands joinedConstant, Replaceable p := by
  have hoperands : operands joinedConstant = ["vbyES".toList, "1 + 2".toList] := by decide
  have hword : ∀ c ∈ "vbyES".toList, isPlainWord c = true := List.all_eq_true.1 (by decide)
  have hsum : substitute "1 + 2".toList = "1 + 2".toList := by decide
  rw [hoperands]
  intro p hp
  rcases List.mem_cons.1 hp with rfl | hp
  · exact .inr hword
  · obtain rfl := List.mem_singleton.1 hp
    exact .inl ((substitute_eq_self_iff _).1 hsum)

/-- The constant is a part of its own. -/
theorem assignedValue_eq_directValue_joinedConstant :
    ('\n' ∉ joinedConstant ∧ strip joinedConstant ≠ [] ∧ ThenFree joinedConstant ∧
      ∀ c ∈ joinedConstant, isQuote c = false) ∧
      assignedValue (library .capital) firstScene.world joinedConstant =
        directValue (library .capital) firstScene.world joinedConstant := by
  have hline : '\n' ∉ joinedConstant := by decide
  have hfull : strip joinedConstant ≠ [] := by decide
  have hthen : ThenFree joinedConstant := thenFree_of_all (by decide)
  have hquote : ∀ c ∈ joinedConstant, isQuote c = false := by
    have hall : joinedConstant.all (!isQuote ·) = true := by decide
    intro c hc
    simpa using List.all_eq_true.1 hall c hc
  exact ⟨⟨hline, hfull, hthen, hquote⟩,
    (assignedValue_eq_directValue (confined_library .capital) firstScene.world hline hfull hquote
      hthen).2 replaceable_joinedConstant⟩

/-- A sum with a constant that is spelled in an unusual way. -/
def constantSum : List Char := "vbyes + 1".toList

/-- The variable holds the sum. Directly the constant is not known, and the text stands for itself.
-/
theorem mixed_case_constant_unknown :
    assignedValue (library .capital) firstScene.world constantSum = some (.int 7) ∧
      directValue (library .capital) firstScene.world constantSum = some (.text "vbyes + 1") := by
  have hreplaced : substitute constantSum = "6 + 1".toList := by decide
  have hsum : (evaluate (library .capital) "6 + 1".toList).take firstScene =
      (formulaValue (library .capital) "6 + 1".toList).take firstScene :=
    take_evaluate_formula _ (by decide) (by decide) (by decide) (by decide) (by decide) (by decide)
      (by decide)
  have hname : (evaluate (library .capital) constantSum).take firstScene =
      (formulaValue (library .capital) constantSum).take firstScene :=
    take_evaluate_formula _ (by decide) (by decide) (by decide) (by decide) (by decide) (by decide)
      (by decide)
  have hreads (cs : List Char) : (library .capital).ReadsFormula cs := rfl
  have htokens : Formula.tokens? "6 + 1".toList =
      some [.number (.int 6), .sign "+", .number (.int 1)] := rfl
  have htokens' : Formula.tokens? constantSum =
      some [.name "vbyes", .sign "+", .number (.int 1)] := rfl
  have htree : Formula.Tree.ofText? "6 + 1".toList =
      some (.binary .add (.value (.int 6)) (.value (.int 1))) := by
    rw [Formula.Tree.ofText?, htokens]
    rfl
  have htree' : Formula.Tree.ofText? constantSum =
      some (.binary .add (.name "vbyes") (.value (.int 1))) := by
    rw [Formula.Tree.ofText?, htokens']
    rfl
  have hunknown : formulaScope freshSession "vbyes" = none := by decide
  have hfault : (Formula.Tree.name "vbyes").eval (formulaScope freshSession) =
      throw (.notFound "vbyes") := by
    rw [Formula.Tree.eval]
    unfold Formula.lookUp
    rw [hunknown]
    rfl
  have hsum' : (formulaValue (library .capital) "6 + 1".toList).take firstScene =
      (.ok (.int 7), firstScene) := by
    refine (hreads _).take_formulaValue ?_
    rw [Formula.evaluate, htree]
    rfl
  have hname' : (formulaValue (library .capital) constantSum).take firstScene =
      (.ok (.text "vbyes + 1"), firstScene) := by
    refine (hreads _).take_of_fault (e := .notFound "vbyes") rfl ?_
    rw [Formula.evaluate, htree']
    dsimp only
    rw [Formula.Tree.eval]
    exact (congrArg (· >>= _) hfault).trans (Act.throw_bind _ _)
  constructor
  · rw [assignedValue_eq (confined_library .capital) _ (by decide) (by decide)
      (thenFree_of_all (by decide)), hreplaced, directValue_eq]
    exact congrArg (fun r => r.1.toOption) (hsum.trans hsum')
  · rw [directValue_eq]
    exact congrArg (fun r => r.1.toOption) (hname.trans hname')

end ScriptHost.Script
