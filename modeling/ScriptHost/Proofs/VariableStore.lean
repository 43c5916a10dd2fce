import ScriptHost.Proofs.Spelling
import ScriptHost.Proofs.Trail

/-!
# Variables hold what was written last

A write stores its value twice, under the name as it is written and under the name in capitals, and
what was stored under other spellings stays there. An expression that is nothing but a variable is
looked up in capitals first, so it never sees the stale values: in every run and at every moment of
it, each spelling of a variable reads as the value of the last write to any spelling
(`evaluate_lastWrite`). Formulas are not among the writes, so the evaluator has to be one that
writes nothing.
-/

namespace ScriptHost.Script

open ScriptHost.Text

/-! ### What is stored -/

/-- A write stores its value under a key: the name as it is written, or in capitals. -/
def Write.Stores (w : Write) (key : String) : Prop :=
  key = String.ofList w.name ∨ key = String.ofList (upper w.name)

instance (w : Write) (key : String) : Decidable (w.Stores key) :=
  inferInstanceAs (Decidable (_ ∨ _))

lemma pairGet?_assign (s : Session) (w : Write) (key : String) :
    pairGet? key (assign s w.name w.value).variables =
      if w.Stores key then some w.value else pairGet? key s.variables := by
  unfold assign Write.Stores
  rw [pairGet?_pairSet, pairGet?_pairSet]
  by_cases hname : key = String.ofList w.name <;>
    by_cases hupper : key = String.ofList (upper w.name) <;> simp [hname, hupper]

/-- Writes that do not store anything under a key leave what is there. -/
lemma pairGet?_written_of_forall (s : Session) {ws : List Write} {key : String}
    (h : ∀ w ∈ ws, ¬ w.Stores key) :
    pairGet? key (written s ws).variables = pairGet? key s.variables := by
  induction ws generalizing s with
  | nil => rfl
  | cons w ws ih =>
    rw [written_cons, ih _ fun x hx => h x (List.mem_cons_of_mem w hx), pairGet?_assign,
      if_neg (h w List.mem_cons_self)]

/-- What is under a key was stored by the last write that stores something there. -/
lemma pairGet?_written_of_last (s : Session) {before after : List Write} {last : Write}
    {key : String} (hlast : last.Stores key) (hafter : ∀ w ∈ after, ¬ w.Stores key) :
    pairGet? key (written s (before ++ last :: after)).variables = some last.value := by
  rw [written_append, written_cons, pairGet?_written_of_forall _ hafter, pairGet?_assign,
    if_pos hlast]

/-- The writes that store something under the capitals of a name are those to its spellings. -/
lemma stores_upper_iff {v : List Char} (hv : IsName v) (w : Write) :
    w.Stores (String.ofList (upper v)) ↔ upper w.name = upper v := by
  unfold Write.Stores
  rw [String.ofList_inj, String.ofList_inj]
  constructor
  · rintro (h | h)
    · rw [← h, hv.upper_upper]
    · exact h.symm
  · exact fun h => .inr h.symm

/-! ### Words -/

/-- A text that does not start with a quote is no quotation. -/
lemma quotedText?_of_head? {cs : List Char} (h : ∀ c ∈ cs.head?, isQuote c = false) :
    quotedText? cs = none := by
  unfold quotedText?
  split
  · next a b ha _ =>
    rw [h a ha]
    rfl
  · rfl

/-- A text that starts with a letter is no quotation. -/
lemma quotedText?_cons {c : Char} (hc : isMark c = false) (cs : List Char) :
    quotedText? (c :: cs) = none := by
  simp only [isMark, Bool.or_eq_false_iff] at hc
  refine quotedText?_of_head? ?_
  rintro d ⟨⟩
  exact hc.1.1.1.2

/-- A text without an opening parenthesis is no call. -/
lemma looksLikeCall_of_notMem {cs : List Char} (h : '(' ∉ cs) : looksLikeCall cs = false := by
  rw [looksLikeCall, Bool.eq_false_iff.2 (mt List.contains_iff_mem.1 h), Bool.false_and]

/-- A text that starts with a letter is no numeral. -/
lemma looksNumeric_cons {c : Char} (hc : isMark c = false) (hdigit : isDigit c = false)
    (cs : List Char) : looksNumeric (c :: cs) = false := by
  simp only [isMark, Bool.or_eq_false_iff] at hc
  unfold looksNumeric eraseFirst
  rw [List.erase_cons, if_neg (by simp [hc.1.2]), List.erase_cons, if_neg (by simp [hc.2])]
  simp [hdigit]

/-- A text that is read as a word, because it has no marks and does not start with a digit. -/
structure IsWordText (t : List Char) : Prop where
  first : ∃ c cs, t = c :: cs ∧ isDigit c = false
  unmarked : ∀ c ∈ t, isMark c = false

namespace IsWordText

variable {t : List Char}

lemma notMem (h : IsWordText t) {c : Char} (hc : isMark c = true) : c ∉ t := by
  intro hmem
  rw [h.unmarked c hmem] at hc
  cases hc

lemma strip_eq (h : IsWordText t) : strip t = t :=
  strip_eq_self (fun c hc => isBlank_of_isMark_eq_false (h.unmarked c (List.mem_of_mem_head? hc)))
    (fun c hc => isBlank_of_isMark_eq_false (h.unmarked c (List.mem_of_getLast? hc)))

/-- A word that has a value is an expression with that value. -/
lemma evaluate_eq (h : IsWordText t) {lib : Library} {scene : Scene} {v : Value}
    (hv : wordValue? scene.session t = some v) :
    (evaluate lib t).take scene = (.ok v, scene) := by
  obtain ⟨c, cs, hcs, hdigit⟩ := h.first
  have hmark : isMark c = false := h.unmarked c (by rw [hcs]; exact List.mem_cons_self)
  have hfull : ¬ t.isEmpty = true := by simp [hcs]
  have hquoted : quotedText? t = none := by rw [hcs, quotedText?_cons hmark]
  have hnumeric : looksNumeric t = false := by rw [hcs, looksNumeric_cons hmark hdigit]
  have hjoined : ¬ t.contains '&' = true := by
    simpa using h.notMem (c := '&') (by decide)
  rw [evaluate, if_neg (by rwa [h.strip_eq]), if_neg (by rwa [h.strip_eq]), h.strip_eq,
    evaluateOperand, h.strip_eq, if_neg hfull, hquoted]
  dsimp only
  rw [if_neg (by simp [hnumeric]), Step.take_bind, Step.take_get]
  dsimp only
  rw [hv]
  rfl

end IsWordText

/-! ### Variables -/

/-- A name that stands for a variable: no Boolean and no constant. -/
structure IsVariable (v : List Char) : Prop extends IsName v where
  not_boolean : boolean? (String.ofList (upper v)) = none
  not_constant : capitalConstant? (String.ofList (upper v)) = none

lemma capitalConstant?_eq_none_iff {key : String} :
    capitalConstant? key = none ↔ ∀ c ∈ constants, key ≠ capitalName c.1 := by
  unfold capitalConstant? capitalConstants
  rw [List.lookup_eq_none_iff]
  simp only [List.mem_map, bne_iff_ne, ne_eq, forall_exists_index, and_imp]
  constructor
  · intro h c hc
    exact h _ c hc rfl
  · rintro h p c hc rfl
    exact h c hc

/-- The capitals of a variable are a variable. -/
lemma IsVariable.isVariable_upper {v : List Char} (hv : IsVariable v) : IsVariable (upper v) where
  toIsName := hv.isName_upper
  not_boolean := by rw [hv.upper_upper, hv.not_boolean]
  not_constant := by rw [hv.upper_upper, hv.not_constant]

/-- Every spelling of a name is read as a word. -/
lemma IsName.isWordText {v t : List Char} (hv : IsName v) (ht : upper t = upper v) :
    IsWordText t where
  first := hv.exists_cons ht
  unmarked c hc := isMark_of_inSpelling (hv.inSpelling ht c hc)

/-- A spelling of a variable reads as what is stored under its capitals. -/
lemma IsVariable.evaluate_eq {v t : List Char} (hv : IsVariable v) (ht : upper t = upper v)
    {lib : Library} {scene : Scene} {x : Value}
    (hx : pairGet? (String.ofList (upper v)) scene.session.variables = some x) :
    (evaluate lib t).take scene = (.ok (orEmpty x), scene) := by
  refine (hv.isWordText ht).evaluate_eq ?_
  unfold wordValue? variableValue?
  dsimp only
  rw [ht, hv.not_boolean, hv.not_constant, hx]
  simp

/-! ### Constants and marks -/

/-- The names of constants are names. -/
lemma isName_of_mem_constants {c : String × Nat} (hc : c ∈ constants) : IsName c.1.toList := by
  have hall : constants.all (fun c => c.1.toList.head?.any Char.isAlpha &&
      c.1.toList.all isPlainWord) = true := by
    unfold constants
    simp only [List.all_cons]
    repeat rw [String.toList_ofList]
    decide
  have hname := List.all_eq_true.1 hall c hc
  simp only [Bool.and_eq_true] at hname
  obtain ⟨d, hd, halpha⟩ := (Option.any_eq_true _ _).1 hname.1
  obtain ⟨ds, hds⟩ := List.head?_eq_some_iff.1 hd
  exact ⟨⟨d, ds, hds, halpha⟩, List.all_eq_true.1 hname.2⟩

/-- A variable is no constant in whatever way it is spelled. -/
lemma IsVariable.spelledConstant?_eq {x : List Char} (hx : IsVariable x) :
    spelledConstant? (String.ofList x) = none := by
  have hcapital := capitalConstant?_eq_none_iff.1 hx.not_constant
  have hwritten : constants.lookup (String.ofList x) = none := by
    refine List.lookup_eq_none_iff.2 fun c hc => bne_iff_ne.2 fun h => hcapital c hc ?_
    rw [capitalName, ← h, String.toList_ofList]
  have hspelled : capitalConstant? (String.ofList x) = none := by
    refine capitalConstant?_eq_none_iff.2 fun c hc h => hcapital c hc ?_
    have hupper : x = upper c.1.toList := String.ofList_inj.1 h
    rw [capitalName, hupper, (isName_of_mem_constants hc).upper_upper]
  rw [spelledConstant?, hwritten, hspelled]
  rfl

/-- A plain character that no name has is still there in capitals. -/
lemma mem_upper_of_mem {d : Char} (hd : d.toNat < 128) (hword : isPlainWord d = false)
    {cs : List Char} (h : d ∈ cs) : d ∈ upper cs := by
  have hsame : d.toUpper = d :=
    forall_plain (P := fun d => isPlainWord d = false → d.toUpper = d) (by decide) hd hword
  refine List.mem_flatMap.2 ⟨d, h, ?_⟩
  rw [upperChar_of_plain hd, hsame]
  exact List.mem_singleton_self d

/-- A text with a character that no name has is a word with a value only if it is a variable. -/
lemma wordValue?_of_mem {s : Session} {d : Char} (hd : d.toNat < 128)
    (hword : isPlainWord d = false) {cs : List Char} (h : d ∈ cs)
    (hvariable : variableValue? s cs = none) : wordValue? s cs = none := by
  have hupper := mem_upper_of_mem hd hword h
  have hboolean : boolean? (String.ofList (upper cs)) = none := by
    have hkey (key : String) (hkey : key.toList.all isPlainWord = true) :
        (String.ofList (upper cs) == key) = false := by
      refine beq_false_of_ne ?_
      rintro rfl
      rw [String.toList_ofList] at hkey
      rw [List.all_eq_true.1 hkey d hupper] at hword
      cases hword
    simp [boolean?, hkey "TRUE" (by decide), hkey "FALSE" (by decide)]
  have hconstant : capitalConstant? (String.ofList (upper cs)) = none := by
    refine capitalConstant?_eq_none_iff.2 fun c hc heq => ?_
    rw [String.ofList_inj.1 heq] at hupper
    rw [(isName_of_mem_constants hc).isName_upper.chars d hupper] at hword
    cases hword
  rw [wordValue?, hboolean, hconstant, hvariable]
  simp

/-! ### Every spelling of a variable -/

/-- In every run and at every moment of it, every spelling of a variable that has been written reads
as the value of the last write to any of its spellings. The end of the run is its last moment. -/
theorem evaluate_lastWrite {lib : Library} (hlib : lib.evaluator.WritesNothing) (scene : Scene)
    (code : List Char) :
    (∀ m ∈ runTrail lib scene code, ∀ v, IsVariable v → ∀ before last after,
      m.writes = before ++ last :: after → upper last.name = upper v →
      (∀ w ∈ after, upper w.name ≠ upper v) →
      ∀ t, upper t = upper v →
        (evaluate lib t).take m.scene = (.ok (orEmpty last.value), m.scene)) ∧
    ∃ m, (runTrail lib scene code).getLast? = some m ∧
      m.scene.session = ((run lib code).take scene).2.session := by
  have hleads := leads_runTrail hlib scene code
  refine ⟨fun m hm v hv before last after hws hlast hafter t ht => ?_, hleads.last⟩
  have hstored : pairGet? (String.ofList (upper v)) m.scene.session.variables =
      some last.value := by
    rw [← (hleads.alike m hm).variables_eq, hws]
    exact pairGet?_written_of_last _ ((stores_upper_iff hv.toIsName last).2 hlast)
      fun w hw h => hafter w hw ((stores_upper_iff hv.toIsName w).1 h)
  exact hv.evaluate_eq ht hstored

/-! ### A variable under two spellings -/

/-- What is taken for a numeral is read as one. -/
lemma evaluate_of_looksNumeric {t : List Char} (hstrip : strip t = t)
    (hjoined : t.contains '&' = false) (hquoted : quotedText? t = none)
    (hnumeric : looksNumeric t = true) (lib : Library) :
    evaluate lib t = Step.act (Act.ofExcept (numeral t)) := by
  have hfull : ¬ t.isEmpty = true := by
    intro h
    rw [List.isEmpty_iff.1 h] at hnumeric
    cases hnumeric
  rw [evaluate, if_neg (by rwa [hstrip]), if_neg (by rw [hstrip, hjoined]; decide), hstrip,
    evaluateOperand, hstrip, if_neg hfull, hquoted]
  dsimp only
  rw [if_pos hnumeric]

/-- A line with a numeral after the equals sign is an assignment of a number. -/
lemma Assigns.of_numeral {lib : Library} {line t : List Char} {w : Write}
    (hline : strip line = line ∧ isIdle line = false ∧ isHead line = false ∧
      withoutLabel (substitute line) = line ∧ kindOf lib.dialect line = .assignment ∧
      line.contains '=' = true)
    (hname : strip (line.takeWhile (· != '=')) = w.name)
    (ht : strip ((line.dropWhile (· != '=')).drop 1) = t ∧ strip t = t ∧ t.contains '&' = false ∧
      quotedText? t = none ∧ looksNumeric t = true)
    (hvalue : numeral t = .ok w.value) : Assigns lib line w := by
  obtain ⟨hstripped, hbusy, hsingle, hprepared, hkind, hequals⟩ := hline
  obtain ⟨htext, hstrip, hjoined, hquoted, hnumeric⟩ := ht
  refine ⟨hstripped, hbusy, hsingle, fun s hs => ?_, hkind, hequals, hname, ?_⟩
  · rw [prepare, hs, if_pos rfl, hprepared]
  · rw [htext, evaluate_of_looksNumeric hstrip hjoined hquoted hnumeric, hvalue]
    exact Step.act_pure w.value

/-- A script that writes one variable under two spellings. -/
def twoSpellings : List Char := "x = 1\nX = 2".toList

/-- The script makes both writes. -/
lemma exists_mem_trail_twoSpellings :
    ∃ last, ⟨[⟨['x'], .int 1⟩, ⟨['X'], .int 2⟩], last⟩ ∈
      runTrail (library .capital) firstScene twoSpellings := by
  have hlines : lines twoSpellings = ["x = 1".toList, "X = 2".toList] := by decide
  have hsmall : Assigns ((library .capital).within (lines twoSpellings)) "x = 1".toList
      ⟨['x'], .int 1⟩ :=
    .of_numeral (t := ['1']) (by decide) (by decide) (by decide) rfl
  have hcapital : Assigns ((library .capital).within (lines twoSpellings)) "X = 2".toList
      ⟨['X'], .int 2⟩ :=
    .of_numeral (t := ['2']) (by decide) (by decide) (by decide) rfl
  have htrail := Assigns.exists_mem_trail (.cons hsmall (.cons hcapital .nil)) 1 firstScene rfl
  rwa [← hlines] at htrail

/-- No constant is spelled by the single letter. -/
lemma forall_capitalName_ne : ∀ c ∈ constants, String.ofList ['X'] ≠ capitalName c.1 := by
  have hall : constants.all (fun c => upper c.1.toList != ['X']) = true := by
    unfold constants
    simp only [List.all_cons]
    repeat rw [String.toList_ofList]
    decide
  intro c hc h
  exact bne_iff_ne.1 (List.all_eq_true.1 hall c hc) (String.ofList_inj.1 h).symm

lemma isVariable_x : IsVariable ['x'] where
  first := ⟨'x', [], rfl, by decide⟩
  chars := List.forall_mem_singleton.2 (by decide)
  not_boolean := by decide
  not_constant := capitalConstant?_eq_none_iff.2 forall_capitalName_ne

/-- The small letter reads as what was written to the capital. -/
theorem evaluate_lastWrite_twoSpellings :
    ∃ m ∈ runTrail (library .capital) firstScene twoSpellings,
      m.writes = [⟨['x'], .int 1⟩, ⟨['X'], .int 2⟩] ∧
        (evaluate (library .capital) ['x']).take m.scene = (.ok (.int 2), m.scene) := by
  obtain ⟨last, hlast⟩ := exists_mem_trail_twoSpellings
  refine ⟨_, hlast, rfl, ?_⟩
  exact (evaluate_lastWrite (confined_library .capital).writesNothing firstScene twoSpellings).1 _
    hlast ['x'] isVariable_x [⟨['x'], .int 1⟩] ⟨['X'], .int 2⟩ [] rfl (by decide) (by simp) ['x']
      rfl

end ScriptHost.Script
