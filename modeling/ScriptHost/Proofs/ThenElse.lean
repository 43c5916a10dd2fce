import ScriptHost.Proofs.Conditionals

/-!
# Conditionals on one line

A conditional on one line is read from left to right, with as little as possible in its parts: the
condition goes up to the first `Then` with blanks around it, and the first statement up to the first
`Else` with blanks around it or else to the end of the line. So the parts are found again if `then`
is no word of the condition and `else` no word of the first statement, words being what stands
between blanks; the second statement may have any words (`Shape.conditional_eq`,
`Shape.branches_eq_some`). The condition is then evaluated once, and the statement that it picks is
executed as a line of its own (`executeLine_thenElse`).
-/

namespace ScriptHost.Script

open ScriptHost.Text

/-! ### Words between blanks -/

/-- A blank divides the words of a text. -/
lemma words_append_cons {b : Char} (hb : isBlank b = true) (x y : List Char) :
    words (x ++ b :: y) = words x ++ words y := by
  have hfrom (cur : List Char) :
      wordsFrom cur (x ++ b :: y) = wordsFrom cur x ++ wordsFrom [] y := by
    induction x generalizing cur with
    | nil =>
      simp only [List.nil_append, wordsFrom, hb, if_true]
      split
      · rw [List.nil_append]
      · rw [List.singleton_append]
    | cons c x ih =>
      rw [List.cons_append, wordsFrom, wordsFrom]
      split
      · split
        · exact ih []
        · rw [ih [], List.cons_append]
      · exact ih (c :: cur)
  exact hfrom []

/-- A text without blanks is its only word. -/
lemma words_of_forall {w : List Char} (hne : w ≠ []) (hw : ∀ c ∈ w, isBlank c = false) :
    words w = [w] := by
  have hfrom (cur : List Char) : wordsFrom cur w = wordsFrom (w.reverse ++ cur) [] := by
    clear hne
    induction w generalizing cur with
    | nil => rfl
    | cons c w ih =>
      have hstep : wordsFrom cur (c :: w) = wordsFrom (c :: cur) w := by
        rw [wordsFrom, hw c List.mem_cons_self, if_neg Bool.false_ne_true]
      rw [hstep, ih fun d hd => hw d (List.mem_cons_of_mem c hd), List.reverse_cons,
        List.append_assoc, List.singleton_append]
  rw [words, hfrom, List.append_nil, wordsFrom, if_neg (by simpa using hne), List.reverse_reverse]

/-- What stands between blanks, or between a blank and an end of the text, is a word. -/
lemma mem_words {before w after : List Char} (hne : w ≠ []) (hw : ∀ c ∈ w, isBlank c = false)
    (hbefore : ∀ c ∈ before.getLast?, isBlank c = true)
    (hafter : ∀ c ∈ after.head?, isBlank c = true) : w ∈ words (before ++ (w ++ after)) := by
  have hright : w ∈ words (w ++ after) := by
    cases after with
    | nil => simp [words_of_forall hne hw]
    | cons b after => simp [words_append_cons (hafter b rfl), words_of_forall hne hw]
  rcases List.eq_nil_or_concat before with rfl | ⟨before, b, rfl⟩
  · exact hright
  · have hb : isBlank b = true := hbefore b (by simp)
    rw [List.concat_eq_append, List.append_assoc, List.singleton_append, words_append_cons hb]
    exact List.mem_append_right _ hright

/-- Blanks have no other case. -/
lemma isBlank_fold {c : Char} (h : isBlank c = true) : isBlank (fold c) = true := by
  by_cases hplain : c.toNat < 128
  · exact forall_plain (P := fun c => isBlank c = true → isBlank (fold c) = true) (by decide) hplain
      h
  · have hsame : fold c = c := by
      simp only [isBlank, Bool.or_eq_true, Bool.and_eq_true, decide_eq_true_eq, beq_iff_eq] at h
      unfold fold
      grind
    rwa [hsame]

/-- A spelling of a word without blanks has none. -/
lemma isBlank_of_sameWord {w key : List Char} (h : sameWord w key = true)
    (hkey : (key.map fold).any isBlank = false) : ∀ c ∈ w, isBlank c = false := by
  intro c hc
  rw [Bool.eq_false_iff]
  intro hblank
  have hmap : w.map fold = key.map fold := eq_of_beq h
  exact List.any_eq_false.1 hkey (fold c) (hmap ▸ List.mem_map_of_mem hc) (isBlank_fold hblank)

/-! ### Reading up to a word -/

namespace Shape

variable {R : Type}

/-- A word with blanks around it is not read within a text that does not have it among its words. -/
lemma between_eq_none {key : String} (hne : key.toList ≠ [])
    (hkey : (key.toList.map fold).any isBlank = false) {x y tail : List Char}
    (hlast : ∀ c ∈ y.getLast?, isBlank c = false)
    (hfree : ∀ w ∈ words (x ++ y), sameWord w key.toList = false) (hy : y = [] → tail = [])
    (htail : ∀ c ∈ tail.head?, isBlank c = true) (next : List Char → Option R) :
    (blanks 1 (y ++ tail) fun cs => keyword key cs fun cs => blanks 1 cs next) = none := by
  rw [Option.eq_none_iff_forall_ne_some]
  intro r h
  obtain ⟨before, m, hcut, hone, hbefore, h⟩ := exists_of_blanks h
  obtain ⟨word, after, rfl, hword, h⟩ := exists_of_keyword h
  obtain ⟨blanks₂, rest, rfl, htwo, hafter, -⟩ := exists_of_blanks h
  have hletters := isBlank_of_sameWord hword hkey
  have hbeforeNe : before ≠ [] := List.ne_nil_of_length_pos hone
  have hafterHead : ∀ c ∈ (blanks₂ ++ rest).head?, isBlank c = true := by
    intro c hc
    rw [List.head?_append_of_ne_nil _ (List.ne_nil_of_length_pos htwo)] at hc
    exact hafter c (List.mem_of_head? hc)
  have hwordNe : word ≠ [] := by
    rintro rfl
    exact hne (List.eq_nil_of_length_eq_zero (length_eq_of_sameWord hword).symm)
  -- The blanks lie in the text, since it does not end with one, and so does the word, since the
  -- tail starts with one.
  obtain ⟨inner, rfl, hinner⟩ :
      ∃ inner, y = before ++ inner ∧ inner ++ tail = word ++ (blanks₂ ++ rest) := by
    rcases List.append_eq_append_iff.1 hcut with ⟨more, hmore, htext⟩ | ⟨more, hmore, htext⟩
    · exact ⟨more, hmore, htext.symm⟩
    · exfalso
      by_cases hnil : y = []
      · rw [hy hnil] at htext
        simp [hwordNe] at htext
      · have hmem : y.getLast hnil ∈ before := by
          rw [hmore]
          exact List.mem_append_left more (List.getLast_mem hnil)
        have hend := hlast _ (List.getLast?_eq_some_getLast hnil)
        rw [hbefore _ hmem] at hend
        cases hend
  obtain ⟨back, rfl, hback⟩ :
      ∃ back, inner = word ++ back ∧ ∀ c ∈ back.head?, isBlank c = true := by
    rcases List.append_eq_append_iff.1 hinner with ⟨more, hmore, htext⟩ | ⟨more, hmore, htext⟩
    · cases more with
      | nil =>
        rw [List.append_nil] at hmore
        exact ⟨[], by rw [hmore, List.append_nil], by simp⟩
      | cons c more =>
        have hc : isBlank c = true := htail c (by rw [htext]; rfl)
        have hmem : c ∈ word := by
          rw [hmore]
          simp
        rw [hletters c hmem] at hc
        cases hc
    · refine ⟨more, hmore, ?_⟩
      intro c hc
      apply hafterHead c
      rw [htext]
      cases more with
      | nil => cases hc
      | cons d more => exact hc
  have hmem : word ∈ words (x ++ (before ++ (word ++ back))) := by
    rw [← List.append_assoc]
    apply mem_words hwordNe hletters _ hback
    intro c hc
    rw [List.getLast?_append_of_ne_nil _ hbeforeNe] at hc
    exact hbefore c (List.mem_of_getLast? hc)
  rw [hfree word hmem] at hword
  cases hword

/-- A word with a blank on either side is read. -/
lemma between_append {key : String} (hkey : (key.toList.map fold).any isBlank = false)
    {word tail : List Char} (hne : word ≠ []) (hword : sameWord word key.toList = true)
    (htail : ∀ c ∈ tail.head?, isBlank c = false) {next : List Char → Option R} {r : R}
    (h : next tail = some r) :
    (blanks 1 (' ' :: (word ++ ' ' :: tail)) fun cs => keyword key cs fun cs => blanks 1 cs next) =
      some r := by
  have hblank : ∀ c ∈ [' '], isBlank c = true := List.forall_mem_singleton.2 (by decide)
  have hafter : blanks 1 ([' '] ++ tail) next = some r := blanks_append hblank le_rfl htail h
  have hbetween : keyword key (word ++ ' ' :: tail) (fun cs => blanks 1 cs next) = some r := by
    rw [keyword_append hword]
    exact hafter
  have hfirst : ∀ c ∈ (word ++ ' ' :: tail).head?, isBlank c = false := by
    intro c hc
    rw [List.head?_append_of_ne_nil _ hne] at hc
    exact isBlank_of_sameWord hword hkey c (List.mem_of_head? hc)
  exact blanks_append hblank le_rfl hfirst hbetween

/-- What is read after the condition of a conditional: a statement, and perhaps another one. -/
def branches (condition cs : List Char) : Option Conditional :=
  part cs fun yes cs =>
    (blanks 1 cs fun cs => keyword "else" cs fun cs => blanks 1 cs fun cs => rest cs fun no cs =>
      done cs ⟨condition, yes, some no⟩).or (done cs ⟨condition, yes, none⟩)

end Shape

/-- A part of a conditional: a text without blanks around it and without line breaks, in which no
constant is named. -/
structure IsPhrase (cs : List Char) : Prop where
  ne_nil : cs ≠ []
  strip_eq : strip cs = cs
  oneLine : '\n' ∉ cs
  free : FreeOfConstants cs

/-- No word between the blanks of a text is `key`, in any case. -/
def Without (key : String) (cs : List Char) : Prop :=
  ∀ w ∈ words cs, sameWord w key.toList = false

instance (key : String) (cs : List Char) : Decidable (Without key cs) :=
  inferInstanceAs (Decidable (∀ w ∈ words cs, sameWord w key.toList = false))

namespace IsPhrase

variable {cs : List Char}

lemma isBlank_of_head? (h : IsPhrase cs) (tail : List Char) :
    ∀ c ∈ (cs ++ tail).head?, isBlank c = false := by
  intro c hc
  rw [List.head?_append_of_ne_nil _ h.ne_nil, ← h.strip_eq] at hc
  exact isBlank_of_head?_strip hc

lemma isBlank_of_getLast? (h : IsPhrase cs) : ∀ c ∈ cs.getLast?, isBlank c = false := by
  intro c hc
  rw [← h.strip_eq] at hc
  exact isBlank_of_getLast?_strip hc

lemma substitute_eq (h : IsPhrase cs) : substitute cs = cs :=
  (substitute_eq_self_iff cs).2 h.free

/-- A piece at the end of a phrase does not end with a blank. -/
lemma isBlank_of_append {x y : List Char} (h : IsPhrase (x ++ y)) :
    ∀ c ∈ y.getLast?, isBlank c = false := by
  intro c hc
  apply h.isBlank_of_getLast?
  cases y with
  | nil => cases hc
  | cons d y =>
    rw [List.getLast?_append_of_ne_nil _ (List.cons_ne_nil d y)]
    exact hc

/-- Phrases with a blank between them are a phrase. -/
lemma blank {x y : List Char} (hx : IsPhrase x) (hy : IsPhrase y) : IsPhrase (x ++ ' ' :: y) where
  ne_nil := List.append_ne_nil_of_left_ne_nil hx.ne_nil _
  strip_eq := by
    refine strip_eq_self (hx.isBlank_of_head? _) fun c hc => ?_
    rw [← List.singleton_append, ← List.append_assoc,
      List.getLast?_append_of_ne_nil _ hy.ne_nil] at hc
    exact hy.isBlank_of_getLast? c hc
  oneLine := by simp [hx.oneLine, hy.oneLine]
  free := by
    rw [← substitute_eq_self_iff, substitute_append_cons (by decide), hx.substitute_eq,
      hy.substitute_eq]

end IsPhrase

lemma isPhrase_iff {cs : List Char} :
    IsPhrase cs ↔ cs ≠ [] ∧ strip cs = cs ∧ '\n' ∉ cs ∧ substitute cs = cs := by
  constructor
  · intro h
    exact ⟨h.ne_nil, h.strip_eq, h.oneLine, h.substitute_eq⟩
  · rintro ⟨hne, hstrip, hline, hsubstitute⟩
    exact ⟨hne, hstrip, hline, (substitute_eq_self_iff cs).1 hsubstitute⟩

instance (cs : List Char) : Decidable (IsPhrase cs) :=
  decidable_of_iff _ isPhrase_iff.symm

lemma Without.blank {key : String} {x y : List Char} (hx : Without key x) (hy : Without key y) :
    Without key (x ++ ' ' :: y) := by
  intro w hw
  rw [words_append_cons (by decide), List.mem_append] at hw
  exact hw.elim (hx w) (hy w)

/-! ### Parts with a word between them -/

namespace Shape

section

variable {R : Type} {key : String} {word x y : List Char}

/-- A part goes up to the first word that ends it, with blanks around it. -/
lemma part_between (hkey : (key.toList.map fold).any isBlank = false) (hne : word ≠ [])
    (hword : sameWord word key.toList = true) (hx : IsPhrase x) (hfree : Without key x)
    {tail : List Char} (htail : ∀ d ∈ tail.head?, isBlank d = false)
    {next : List Char → List Char → Option R} {r : R} (h : next x tail = some r) :
    (part (x ++ ' ' :: (word ++ ' ' :: tail)) fun x cs =>
      blanks 1 cs fun cs => keyword key cs fun cs => blanks 1 cs (next x)) = some r := by
  have hkeyNe : key.toList ≠ [] := by
    intro hnil
    exact hne (List.eq_nil_of_length_eq_zero (by rw [length_eq_of_sameWord hword, hnil]; rfl))
  apply shortest_append (inLine_of_notMem hx.oneLine) (List.length_pos_of_ne_nil hx.ne_nil)
  · exact between_append hkey hne hword htail h
  · intro u v huv _ hv
    subst huv
    exact between_eq_none hkeyNe hkey hx.isBlank_of_append hfree (fun hnil => absurd hnil hv)
      (by rintro d ⟨⟩; decide) _

/-- What is read at the end of a line: a part, and perhaps a word and another part. -/
def lastParts (key : String) (make : List Char → Option (List Char) → R) (cs : List Char) :
    Option R :=
  part cs fun x cs =>
    (blanks 1 cs fun cs => keyword key cs fun cs => blanks 1 cs fun cs => rest cs fun y cs =>
      done cs (make x (some y))).or (done cs (make x none))

variable (make : List Char → Option (List Char) → R)

/-- Without the word, with blanks around it, the part goes to the end of the line. -/
lemma lastParts_eq_none (hkeyNe : key.toList ≠ [])
    (hkey : (key.toList.map fold).any isBlank = false) (hx : IsPhrase x) (hfree : Without key x) :
    lastParts key make x = some (make x none) := by
  apply part_end (d := fun x => make x none) hx.ne_nil hx.oneLine
  intro u v huv
  subst huv
  have hnone := between_eq_none hkeyNe hkey hx.isBlank_of_append hfree (fun _ => rfl) (by simp)
    fun cs => rest cs fun y cs => done cs (make u (some y))
  rwa [List.append_nil] at hnone

/-- The first part goes up to the first such word, and the second one to the end of the line. -/
lemma lastParts_eq_some (hkey : (key.toList.map fold).any isBlank = false) (hne : word ≠ [])
    (hword : sameWord word key.toList = true) (hx : IsPhrase x) (hfree : Without key x)
    (hy : IsPhrase y) :
    lastParts key make (x ++ ' ' :: (word ++ ' ' :: y)) = some (make x (some y)) := by
  have hrest : rest y (fun y cs => done cs (make x (some y))) = some (make x (some y)) := by
    have hall : rest (y ++ []) (fun y cs => done cs (make x (some y))) =
        some (make x (some y)) := by
      apply longest_append (inLine_of_notMem hy.oneLine) (List.length_pos_of_ne_nil hy.ne_nil) rfl
      intro u v huv hu
      exact absurd (List.append_eq_nil_iff.1 huv).1 hu
    rwa [List.append_nil] at hall
  have hkeyNe : key.toList ≠ [] := by
    intro hnil
    exact hne (List.eq_nil_of_length_eq_zero (by rw [length_eq_of_sameWord hword, hnil]; rfl))
  rw [lastParts, part]
  apply shortest_append (inLine_of_notMem hx.oneLine) (List.length_pos_of_ne_nil hx.ne_nil)
  · have hfirst : ∀ d ∈ y.head?, isBlank d = false := by
      simpa using hy.isBlank_of_head? []
    rw [Option.or_eq_some_iff]
    exact .inl (between_append hkey hne hword hfirst hrest)
  · intro u v huv _ hv
    subst huv
    have hmem : ' ' ∈ v ++ ' ' :: (word ++ ' ' :: y) := by simp
    have hbreak : v ++ ' ' :: (word ++ ' ' :: y) ≠ ['\n'] := by
      intro heq
      rw [heq] at hmem
      exact absurd hmem (by decide)
    rw [between_eq_none hkeyNe hkey hx.isBlank_of_append hfree (fun hnil => absurd hnil hv)
      (by rintro d ⟨⟩; decide) _, done_eq_none (List.ne_nil_of_mem hmem) hbreak, Option.or_none]

end

/-! ### The parts of a conditional -/

variable {c yes no : List Char}

/-- The condition goes up to the first `Then` with blanks around it. -/
lemma conditional_eq (hc : IsPhrase c) (hthen : Without "then" c) {tail : List Char}
    {parts : Conditional} (htail : ∀ d ∈ tail.head?, isBlank d = false)
    (h : branches c tail = some parts) :
    conditional ("If ".toList ++ (c ++ (" Then".toList ++ ' ' :: tail))) = some parts := by
  have hsame : sameWord "If".toList "if".toList = true := by decide
  have hif : conditional ("If ".toList ++ (c ++ (" Then".toList ++ ' ' :: tail))) =
      blanks 1 ([' '] ++ (c ++ (" Then".toList ++ ' ' :: tail))) fun cs =>
        part cs fun condition cs =>
        blanks 1 cs fun cs => keyword "then" cs fun cs => blanks 1 cs (branches condition) :=
    keyword_append hsame _ _
  rw [hif]
  apply blanks_append (List.forall_mem_singleton.2 (by decide)) le_rfl (hc.isBlank_of_head? _)
  have hword : sameWord "Then".toList "then".toList = true := by decide
  exact part_between (by decide) (by decide) hword hc hthen htail h

/-- Without an `Else` with blanks around it, the statement goes to the end of the line. -/
lemma branches_eq_none (hyes : IsPhrase yes) (helse : Without "else" yes) :
    branches c yes = some ⟨c, yes, none⟩ :=
  lastParts_eq_none (Conditional.mk c) (by decide) (by decide) hyes helse

/-- The first statement goes up to the first `Else` with blanks around it, and the second one to the
end of the line. -/
lemma branches_eq_some (hyes : IsPhrase yes) (helse : Without "else" yes) (hno : IsPhrase no) :
    branches c (yes ++ (" Else".toList ++ ' ' :: no)) = some ⟨c, yes, some no⟩ := by
  have hword : sameWord "Else".toList "else".toList = true := by decide
  exact lastParts_eq_some (Conditional.mk c) (by decide) (by decide) hword hyes helse hno

end Shape

/-! ### Executing a conditional -/

/-- A conditional on one line with two statements. -/
def elseLine (c yes no : List Char) : List Char :=
  thenLine c (yes ++ (" Else".toList ++ ' ' :: no))

lemma substitute_statements {yes no : List Char} (hyes : IsPhrase yes) (hno : IsPhrase no) :
    substitute (yes ++ (" Else".toList ++ ' ' :: no)) = yes ++ (" Else".toList ++ ' ' :: no) := by
  have hword : substitute "Else".toList = "Else".toList := by decide
  have hcut : yes ++ (" Else".toList ++ ' ' :: no) = yes ++ ' ' :: ("Else".toList ++ ' ' :: no) :=
    rfl
  rw [hcut, substitute_append_cons (by decide), substitute_append_cons (by decide), hword,
    hyes.substitute_eq, hno.substitute_eq]

/-- A line that starts with `If` and in which no constant is named is read as it is. -/
lemma prepare_thenLine (s : Session) {c tail : List Char} (hc : substitute c = c)
    (htail : substitute tail = tail) : prepare s (thenLine c tail) = thenLine c tail := by
  have hline : substitute (thenLine c tail) = thenLine c tail := by
    have hif : substitute "If".toList = "If".toList := by decide
    have hthen : substitute "Then".toList = "Then".toList := by decide
    have hcut : thenLine c tail =
        "If".toList ++ ' ' :: (c ++ ' ' :: ("Then".toList ++ ' ' :: tail)) := rfl
    rw [hcut, substitute_append_cons (by decide), substitute_append_cons (by decide),
      substitute_append_cons (by decide), hif, hthen, hc, htail]
  rw [prepare, hline, ite_self]
  exact withoutLabel_cons (by decide) (by decide) (by decide) _

/-- A conditional on one line does what its parts tell: the statement that is picked is executed as
a line of its own. -/
lemma executeLine_thenLine (lib : Library) {c tail : List Char} {parts : Shape.Conditional}
    (hc : substitute c = c) (htail : substitute tail = tail)
    (h : Shape.conditional (thenLine c tail) = some parts) :
    executeLine lib (thenLine c tail) =
      evaluate lib parts.condition >>= fun v =>
        if v.truthy then executeLine lib parts.yes
        else parts.no.elim (pure ()) (executeLine lib) := by
  apply Step.ext
  intro scene
  rw [take_executeLine, prepare_thenLine _ hc htail, thenLine, kindOf_if, if_pos rfl, ← thenLine,
    executeConditional, h]
  dsimp only
  rw [Step.take_bind, Step.take_bind]
  rcases (evaluate lib parts.condition).take scene with ⟨e | v, after⟩
  · rfl
  · dsimp only [Shape.Conditional.pick]
    cases v.truthy with
    | true => rfl
    | false => cases parts.no <;> rfl

/-- The condition of a conditional on one line is evaluated once. If it holds, the first statement
is executed as a line of its own, and otherwise the second one, or nothing if there is none. -/
theorem executeLine_thenElse (lib : Library) {c yes : List Char} (hc : IsPhrase c)
    (hthen : Without "then" c) (hyes : IsPhrase yes) (helse : Without "else" yes) :
    executeLine lib (thenLine c yes) =
        (do if (← evaluate lib c).truthy then executeLine lib yes) ∧
      ∀ no, IsPhrase no → executeLine lib (elseLine c yes no) =
        (do if (← evaluate lib c).truthy then executeLine lib yes else executeLine lib no) := by
  constructor
  · have hparts : Shape.conditional (thenLine c yes) = some ⟨c, yes, none⟩ := by
      apply Shape.conditional_eq hc hthen _ (Shape.branches_eq_none hyes helse)
      simpa using hyes.isBlank_of_head? []
    rw [executeLine_thenLine lib hc.substitute_eq hyes.substitute_eq hparts]
    rfl
  · intro no hno
    have hparts : Shape.conditional (elseLine c yes no) = some ⟨c, yes, some no⟩ :=
      Shape.conditional_eq hc hthen (hyes.isBlank_of_head? _)
        (Shape.branches_eq_some hyes helse hno)
    rw [elseLine] at hparts ⊢
    rw [executeLine_thenLine lib hc.substitute_eq (substitute_statements hyes hno) hparts]
    rfl

/-- A `then` that is glued to a quote or to letters is no word, a quoted `else` neither, and the
second statement may have an `Else` of its own. -/
theorem executeLine_thenElse_glued :
    (IsPhrase "athen = \"a then\"".toList ∧ Without "then" "athen = \"a then\"".toList ∧
      IsPhrase "If 0 Then y = \"else\"".toList ∧ Without "else" "If 0 Then y = \"else\"".toList ∧
      IsPhrase "z = 1 Else 2".toList) ∧
    executeLine (library .capital)
        "If athen = \"a then\" Then If 0 Then y = \"else\" Else z = 1 Else 2".toList =
      (do
        if (← evaluate (library .capital) "athen = \"a then\"".toList).truthy then
          executeLine (library .capital) "If 0 Then y = \"else\"".toList
        else executeLine (library .capital) "z = 1 Else 2".toList) := by
  have hc : IsPhrase "athen = \"a then\"".toList :=
    ⟨by decide, by decide, by decide, (substitute_eq_self_iff _).1 (by decide)⟩
  have hyes : IsPhrase "If 0 Then y = \"else\"".toList :=
    ⟨by decide, by decide, by decide, (substitute_eq_self_iff _).1 (by decide)⟩
  have hno : IsPhrase "z = 1 Else 2".toList :=
    ⟨by decide, by decide, by decide, (substitute_eq_self_iff _).1 (by decide)⟩
  have hthen : Without "then" "athen = \"a then\"".toList := by decide
  have helse : Without "else" "If 0 Then y = \"else\"".toList := by decide
  exact ⟨⟨hc, hthen, hyes, helse, hno⟩,
    (executeLine_thenElse (library .capital) hc hthen hyes helse).2 _ hno⟩

end ScriptHost.Script
