import Mathlib.Tactic.Lemma
import ScriptHost.Script.Expression

/-!
# Names and their spellings

A name is made of plain letters, digits and the underscore, and starts with a letter. Its spellings
are the texts that have the same capitals. Most of them are mixtures of capital and small letters,
but a few letters outside of the plain ones have plain capitals too: the sharp s, the dotless i, the
long s and the ligatures of f and s.

None of these letters is a blank, a digit or a mark that an expression gives a meaning to, so every
spelling of a name is read as a word: it is no numeral, no quotation and no concatenation.
-/

namespace ScriptHost.Script

open ScriptHost.Text

/-! ### Plain characters -/

/-- What holds of the first 128 characters holds of every plain character. -/
lemma forall_plain {P : Char → Prop} (h : ∀ n < 128, P (Char.ofNat n)) {c : Char}
    (hc : c.toNat < 128) : P c := by
  rw [← Char.ofNat_toNat c]
  exact h c.toNat hc

lemma toNat_lt_of_isPlainWord {c : Char} (h : isPlainWord c = true) : c.toNat < 128 := by
  simp only [isPlainWord, Bool.or_eq_true, Bool.and_eq_true, decide_eq_true_eq, beq_iff_eq] at h
  omega

lemma isPlainWord_of_isAlpha {c : Char} (h : c.isAlpha = true) : isPlainWord c = true := by
  have hrange : 65 ≤ c.toNat ∧ c.toNat ≤ 90 ∨ 97 ≤ c.toNat ∧ c.toNat ≤ 122 := by
    change (decide ('A'.val ≤ c.val ∧ c.val ≤ 'Z'.val) ||
      decide ('a'.val ≤ c.val) && decide (c.val ≤ 'z'.val)) = true at h
    simpa [UInt32.le_iff_toNat_le] using h
  simp only [isPlainWord, Bool.or_eq_true, Bool.and_eq_true, decide_eq_true_eq, beq_iff_eq]
  omega

lemma upperChar_of_plain {c : Char} (hc : c.toNat < 128) : upperChar c = [c.toUpper] := by
  rw [upperChar, if_pos hc]

/-- The capital form of a plain text is taken letter by letter. -/
lemma upper_of_plain {cs : List Char} (h : ∀ c ∈ cs, c.toNat < 128) :
    upper cs = cs.map Char.toUpper := by
  induction cs with
  | nil => rfl
  | cons c cs ih =>
    rw [upper, List.flatMap_cons, upperChar_of_plain (h c List.mem_cons_self)]
    exact congrArg (c.toUpper :: ·) (ih fun d hd => h d (List.mem_cons_of_mem c hd))

/-- Capitals and small letters of names make names. -/
lemma isPlainWord_toUpper {c : Char} (hc : c.toNat < 128) :
    isPlainWord c.toUpper = isPlainWord c :=
  forall_plain (P := fun c => isPlainWord c.toUpper = isPlainWord c) (by decide) hc

lemma isAlpha_toUpper {c : Char} (hc : c.toNat < 128) : c.toUpper.isAlpha = c.isAlpha :=
  forall_plain (P := fun c => c.toUpper.isAlpha = c.isAlpha) (by decide) hc

lemma toUpper_toUpper {c : Char} (hc : c.toNat < 128) : c.toUpper.toUpper = c.toUpper :=
  forall_plain (P := fun c => c.toUpper.toUpper = c.toUpper) (by decide) hc

/-! ### Letters with plain capitals -/

/-- The letters that are not plain and whose capital form starts with a plain letter: the sharp s,
the dotless i, the long s, a few letters with marks, and the ligatures. -/
def strays : List Nat :=
  [0xdf, 0x131, 0x17f, 0x1f0, 0x1e96, 0x1e97, 0x1e98, 0x1e99, 0x1e9a, 0xfb00, 0xfb01, 0xfb02,
    0xfb03, 0xfb04, 0xfb05, 0xfb06]

/-- Capitals of several letters that start with a plain one are those of the strays. -/
lemma longCapitals_plain : longCapitals.all (fun p =>
    p.2.head?.any fun d => 128 ≤ d.toNat || strays.contains p.1) = true := by
  unfold longCapitals tableItems
  simp only [List.flatMap_cons, List.all_toArray]
  -- Reading the rows as lists of characters first saves `decide` the decoding of them.
  repeat rw [String.toList_ofList]
  decide

/-- A run of letters that is sent to plain letters is a stray. -/
lemma capitalRuns_plain : capitalRuns.all (fun r =>
    r.forward || 128 + r.distance ≤ r.first ||
      (r.first == r.last && strays.contains r.first)) = true := by
  unfold capitalRuns tableItems
  simp only [List.flatMap_cons, List.all_toArray]
  repeat rw [String.toList_ofList]
  decide

lemma zeros_strays : zeros.all (fun z => strays.all fun n => n < z || z + 10 ≤ n) = true := by
  unfold zeros tableItems
  simp only [List.flatMap_cons, List.all_toArray]
  repeat rw [String.toList_ofList]
  decide

lemma figures_strays :
    figures.pairs.all (fun p => strays.all fun n => n < p.1 || p.2 < n) = true := by
  unfold figures Ranges.ofRows tableItems
  simp only [List.flatMap_cons, List.all_toArray]
  repeat rw [String.toList_ofList]
  decide

/-- A code point that is sent to a plain one is plain or a stray, if the runs are like those of the
table. -/
lemma mem_strays_of_shift {runs : Array LetterRun}
    (hruns : runs.all (fun r => r.forward || 128 + r.distance ≤ r.first ||
      (r.first == r.last && strays.contains r.first)) = true)
    {n : Nat} (hn : 128 ≤ n) (h : shift runs n < 128) : n ∈ strays := by
  unfold shift at h
  split at h
  · next r hr =>
    have hcheck := Array.all_eq_true_iff_forall_mem.1 hruns r (Array.mem_of_find?_eq_some hr)
    have hrange := Array.find?_some hr
    simp only [Bool.and_eq_true, decide_eq_true_eq, beq_iff_eq] at hrange
    simp only [Bool.or_eq_true, Bool.and_eq_true, decide_eq_true_eq, beq_iff_eq,
      List.contains_iff_mem] at hcheck
    rcases hcheck with (hforward | hfar) | ⟨hone, hstray⟩
    · rw [if_pos hforward] at h
      omega
    · split at h <;> omega
    · rw [show n = r.first by omega]
      exact hstray
  · omega

lemma lt_of_isPlainWord_ofNat {n : Nat} (h : isPlainWord (Char.ofNat n) = true) : n < 128 := by
  have hlt := toNat_lt_of_isPlainWord h
  by_cases hvalid : n.isValidChar
  · rw [Char.ofNat, dif_pos hvalid] at hlt
    exact hlt
  · -- A number that is no code point stands for the null character.
    have hnull : Char.ofNat n = Char.ofNat 0 := by
      rw [Char.ofNat, dif_neg hvalid]
      rfl
    rw [hnull] at h
    exact absurd h (by decide)

/-- A letter that is not plain and has a capital form that starts with a name character is a
stray. -/
lemma mem_strays_of_upperChar {c d : Char} (hc : 128 ≤ c.toNat)
    (hd : (upperChar c).head? = some d) (hname : isPlainWord d = true) : c.toNat ∈ strays := by
  have hplain := toNat_lt_of_isPlainWord hname
  rw [upperChar, if_neg (by omega)] at hd
  split at hd
  · next form hform =>
    have hmem := Array.mem_of_find?_eq_some hform
    have hcheck := Array.all_eq_true_iff_forall_mem.1 longCapitals_plain _ hmem
    have hkey := Array.find?_some hform
    simp only [beq_iff_eq] at hkey
    simp only [hd, Option.any_some, Bool.or_eq_true, decide_eq_true_eq,
      List.contains_iff_mem, hkey] at hcheck
    exact hcheck.resolve_left (by omega)
  · obtain rfl := Option.some.inj hd
    exact mem_strays_of_shift capitalRuns_plain hc (lt_of_isPlainWord_ofNat hname)

lemma upperChar_ne_nil (c : Char) : upperChar c ≠ [] := by
  unfold upperChar
  split
  · simp
  · split
    · next form hform =>
      have hmem := Array.mem_of_find?_eq_some hform
      have hcheck := Array.all_eq_true_iff_forall_mem.1 longCapitals_plain _ hmem
      rintro rfl
      simp at hcheck
    · simp

/-! ### What spellings are made of -/

/-- The characters that occur in spellings of names. -/
def InSpelling (c : Char) : Prop :=
  isPlainWord c = true ∨ c.toNat ∈ strays

/-- A character whose capital form starts with a name character may occur in a spelling. -/
lemma inSpelling_of_head {c d : Char} (hd : (upperChar c).head? = some d)
    (hname : isPlainWord d = true) : InSpelling c := by
  by_cases hc : c.toNat < 128
  · rw [upperChar_of_plain hc] at hd
    obtain rfl := Option.some.inj hd
    exact .inl ((isPlainWord_toUpper hc).symm.trans hname)
  · exact .inr (mem_strays_of_upperChar (by omega) hd hname)

/-- Whether an expression takes a character for something else than a part of a word. -/
def isMark (c : Char) : Bool :=
  isBlank c || isQuote c || c == '&' || c == '.' || c == '-'

lemma isBlank_of_isMark_eq_false {c : Char} (h : isMark c = false) : isBlank c = false := by
  simp only [isMark, Bool.or_eq_false_iff] at h
  exact h.1.1.1.1

lemma isMark_of_inSpelling {c : Char} (h : InSpelling c) : isMark c = false := by
  rcases h with h | h
  · refine forall_plain (P := fun c => isPlainWord c = true → isMark c = false)
      (by decide) (toNat_lt_of_isPlainWord h) h
  · have hall : strays.all (fun n => !isMark (Char.ofNat n)) = true := by decide
    have hc := List.all_eq_true.1 hall _ h
    rw [Char.ofNat_toNat] at hc
    simpa using hc

lemma isDigit_of_mem_strays {c : Char} (h : c.toNat ∈ strays) : isDigit c = false := by
  have hplain : ¬ c.toNat < 128 := by
    have hall : ∀ n ∈ strays, ¬ n < 128 := by decide
    exact hall _ h
  have hdecimal : isDecimal c = false := by
    unfold isDecimal decimalValue?
    simp only [hplain, if_false, Option.isSome_map]
    refine Option.isSome_eq_false_iff.2 (Option.isNone_iff_eq_none.2 ?_)
    refine Array.find?_eq_none.2 fun z hz => ?_
    have hz := Array.all_eq_true_iff_forall_mem.1 zeros_strays z hz
    have hz := List.all_eq_true.1 hz _ h
    simp only [Bool.or_eq_true, decide_eq_true_eq] at hz
    simp only [Bool.and_eq_true, decide_eq_true_eq]
    omega
  have hfigure : figures.contains c.toNat = false := by
    refine Bool.eq_false_iff.2 fun hcontains => ?_
    obtain ⟨p, hp, hlow, hhigh⟩ := Ranges.exists_of_contains hcontains
    have hp := List.all_eq_true.1 (Array.all_eq_true_iff_forall_mem.1 figures_strays p hp) _ h
    simp only [Bool.or_eq_true, decide_eq_true_eq] at hp
    omega
  rw [isDigit, hdecimal, hfigure]
  simp

lemma isDigit_of_isAlpha {c : Char} (h : c.isAlpha = true) : isDigit c = false :=
  forall_plain (P := fun c => c.isAlpha = true → isDigit c = false) (by decide)
    (toNat_lt_of_isPlainWord (isPlainWord_of_isAlpha h)) h

/-- A letter is no digit, also where only its capital form is plain. -/
lemma isDigit_of_head {c d : Char} (hd : (upperChar c).head? = some d) (halpha : d.isAlpha = true) :
    isDigit c = false := by
  by_cases hc : c.toNat < 128
  · rw [upperChar_of_plain hc] at hd
    obtain rfl := Option.some.inj hd
    rw [isAlpha_toUpper hc] at halpha
    exact isDigit_of_isAlpha halpha
  · exact isDigit_of_mem_strays
      (mem_strays_of_upperChar (by omega) hd (isPlainWord_of_isAlpha halpha))

/-! ### Names -/

/-- A name: a plain letter, and then plain letters, digits and underscores. -/
structure IsName (v : List Char) : Prop where
  first : ∃ c cs, v = c :: cs ∧ c.isAlpha = true
  chars : ∀ c ∈ v, isPlainWord c = true

namespace IsName

variable {v t : List Char}

lemma plain (h : IsName v) : ∀ c ∈ v, c.toNat < 128 :=
  fun c hc => toNat_lt_of_isPlainWord (h.chars c hc)

lemma length_pos (h : IsName v) : 0 < v.length := by
  obtain ⟨c, cs, rfl, _⟩ := h.first
  simp

lemma upper_eq (h : IsName v) : upper v = v.map Char.toUpper :=
  upper_of_plain h.plain

/-- The capitals of a name are a name. -/
lemma isName_upper (h : IsName v) : IsName (upper v) := by
  rw [h.upper_eq]
  obtain ⟨c, cs, rfl, hc⟩ := h.first
  refine ⟨⟨c.toUpper, cs.map Char.toUpper, rfl, ?_⟩, fun d hd => ?_⟩
  · rwa [isAlpha_toUpper (h.plain c List.mem_cons_self)]
  · obtain ⟨e, he, rfl⟩ := List.mem_map.1 hd
    rw [isPlainWord_toUpper (h.plain e he)]
    exact h.chars e he

/-- Capitals are their own capitals. -/
lemma upper_upper (h : IsName v) : upper (upper v) = upper v := by
  rw [h.isName_upper.upper_eq, h.upper_eq, List.map_map]
  exact List.map_congr_left fun c hc => toUpper_toUpper (h.plain c hc)

/-- The characters of a spelling. -/
lemma inSpelling (h : IsName v) (ht : upper t = upper v) : ∀ c ∈ t, InSpelling c := by
  intro c hc
  obtain ⟨d, ds, hd⟩ := List.exists_cons_of_ne_nil (upperChar_ne_nil c)
  have hmem : d ∈ upper t := List.mem_flatMap.2 ⟨c, hc, by rw [hd]; exact List.mem_cons_self⟩
  rw [ht] at hmem
  exact inSpelling_of_head (by rw [hd]; rfl) (h.isName_upper.chars d hmem)

/-- A spelling starts with a letter. -/
lemma exists_cons (h : IsName v) (ht : upper t = upper v) :
    ∃ c cs, t = c :: cs ∧ isDigit c = false := by
  obtain ⟨d, ds, hd, halpha⟩ := h.isName_upper.first
  cases t with
  | nil =>
    rw [hd] at ht
    cases ht
  | cons c cs =>
    refine ⟨c, cs, rfl, ?_⟩
    obtain ⟨e, es, he⟩ := List.exists_cons_of_ne_nil (upperChar_ne_nil c)
    have hhead : e :: (es ++ cs.flatMap upperChar) = d :: ds := by
      rw [← hd, ← ht, upper, List.flatMap_cons, he]
      rfl
    obtain rfl := (List.cons.inj hhead).1
    exact isDigit_of_head (by rw [he]; rfl) halpha

end IsName

end ScriptHost.Script
