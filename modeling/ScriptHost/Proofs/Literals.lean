import ScriptHost.Proofs.Numerals
import ScriptHost.Proofs.ThenElse
import ScriptHost.Proofs.Scanning

/-!
# Decimal literals

A literal is a run of plain digits, perhaps with a minus sign before it. There are two readers for
it. An expression that is a literal is its number if there are at most `digitLimit` digits
(`Literal.evaluate_text`). In a formula a literal is a number if it has no zero at its start and at
most `digitLimit` digits, or if it is made of zeros only, however many (`Literal.scans_text`).
-/

namespace ScriptHost.Script

open ScriptHost.Text

lemma isName_of_all {cs : List Char} (hfirst : cs.head?.any Char.isAlpha = true)
    (hchars : cs.all isPlainWord = true) : IsName cs := by
  cases cs with
  | nil => cases hfirst
  | cons c cs => exact ⟨⟨c, cs, rfl, hfirst⟩, List.all_eq_true.1 hchars⟩

end ScriptHost.Script

namespace ScriptHost.Number

open ScriptHost.Script ScriptHost.Text

/-- A decimal literal. -/
structure Literal where
  negative : Bool
  digits : List Char
  ne_nil : digits ≠ []
  isDigit_of_mem : ∀ c ∈ digits, c.isDigit = true

namespace Literal

def text (l : Literal) : List Char :=
  if l.negative then '-' :: l.digits else l.digits

/-- The number without its sign. -/
def size (l : Literal) : Nat :=
  digitsValue l.digits

/-- The number that a literal stands for. -/
def value (l : Literal) : Int :=
  if l.negative then -(l.size : Int) else l.size

/-- The usual literal of a number. -/
def ofInt (n : Int) : Literal where
  negative := decide (n < 0)
  digits := natDigits n.natAbs
  ne_nil := natDigits_ne_nil n.natAbs
  isDigit_of_mem _ := isDigit_of_mem_natDigits

/-! ### The characters of a literal -/

variable (l : Literal)

lemma mem_text {c : Char} (hc : c ∈ l.text) : c.isDigit = true ∨ c = '-' := by
  unfold text at hc
  split at hc
  · rcases List.mem_cons.1 hc with rfl | hc
    · exact .inr rfl
    · exact .inl (l.isDigit_of_mem c hc)
  · exact .inl (l.isDigit_of_mem c hc)

lemma notMem_text {c : Char} (hdigit : c.isDigit = false) (hminus : c ≠ '-') : c ∉ l.text := by
  intro hc
  rcases l.mem_text hc with h | h
  · rw [hdigit] at h
    cases h
  · exact hminus h

lemma inNumeral_of_mem_digits {c : Char} (hc : c ∈ l.digits) : InNumeral c := by
  refine .inl ?_
  rw [isDigit, isDecimal_of_isDigit (l.isDigit_of_mem c hc), Bool.true_or]

lemma inNumeral_of_mem_text {c : Char} (hc : c ∈ l.text) : InNumeral c := by
  rcases l.mem_text hc with hdigit | rfl
  · refine .inl ?_
    rw [isDigit, isDecimal_of_isDigit hdigit, Bool.true_or]
  · exact .inr (.inl rfl)

lemma text_ne_nil : l.text ≠ [] := by
  unfold text
  split
  · exact List.cons_ne_nil _ _
  · exact l.ne_nil

lemma toNat_lt_of_mem_text {c : Char} (hc : c ∈ l.text) : c.toNat < 128 := by
  rcases l.mem_text hc with hdigit | rfl
  · exact toNat_lt_of_isDigit hdigit
  · decide

lemma strip_text : strip l.text = l.text :=
  strip_of_inNumeral fun _ => l.inNumeral_of_mem_text

lemma quotedText?_text : quotedText? l.text = none := by
  refine quotedText?_of_head? fun c hc => ?_
  rcases l.mem_text (List.mem_of_mem_head? hc) with hdigit | rfl
  · exact forall_plain (P := fun c => c.isDigit = true → isQuote c = false) (by decide)
      (toNat_lt_of_isDigit hdigit) hdigit
  · decide

lemma looksNumeric_text : looksNumeric l.text = true := by
  have hpoint : '.' ∉ l.text := l.notMem_text (by decide) (by decide)
  have hminus : '-' ∉ l.digits := by
    intro hmem
    exact absurd (l.isDigit_of_mem '-' hmem) (by decide)
  have herase : eraseFirst '-' (eraseFirst '.' l.text) = l.digits := by
    rw [eraseFirst, eraseFirst, List.erase_of_not_mem hpoint, text]
    split
    · exact List.erase_cons_head '-' l.digits
    · exact List.erase_of_not_mem hminus
  have hall : l.digits.all isDigit = true := List.all_eq_true.2 fun c hc => by
    rw [isDigit, isDecimal_of_isDigit (l.isDigit_of_mem c hc), Bool.true_or]
  rw [looksNumeric, herase, hall]
  simp [l.ne_nil]

lemma isAlpha_of_mem_text {c : Char} (hc : c ∈ l.text) : c.isAlpha = false := by
  rcases l.mem_text hc with hdigit | rfl
  · exact isAlpha_of_isDigit hdigit
  · decide

/-- There are no letters in a literal, so no word of it is the name of a constant. -/
lemma freeOfConstants_text : FreeOfConstants l.text := by
  intro w hw c hc
  obtain ⟨d, ds, rfl⟩ := List.exists_cons_of_ne_nil hw.ne_nil
  obtain ⟨before, after, htext, -⟩ := hw.whole
  have hd : d ∈ l.text := by
    rw [htext]
    simp
  exact (isName_of_mem_constants hc).sameWord_cons (l.toNat_lt_of_mem_text hd)
    (l.isAlpha_of_mem_text hd) ds

lemma isPhrase_text : IsPhrase l.text where
  ne_nil := l.text_ne_nil
  strip_eq := l.strip_text
  oneLine := l.notMem_text (by decide) (by decide)
  free := l.freeOfConstants_text

/-- A literal is one word, which is no keyword. -/
lemma without_text {key : String} (hkey : IsName key.toList) : Without key l.text := by
  intro w hw
  rw [words_of_forall l.text_ne_nil fun c hc => isBlank_of_inNumeral (l.inNumeral_of_mem_text hc),
    List.mem_singleton] at hw
  obtain ⟨d, ds, htext⟩ := List.exists_cons_of_ne_nil l.text_ne_nil
  have hd : d ∈ l.text := by
    rw [htext]
    exact List.mem_cons_self
  have hkey := hkey.sameWord_cons (l.toNat_lt_of_mem_text hd) (l.isAlpha_of_mem_text hd) ds
  rwa [hw, htext, sameWord, BEq.comm]

/-! ### Literals as expressions -/

lemma decimalsValue_digits : decimalsValue l.digits = l.size := by
  unfold decimalsValue size
  rw [List.map_congr_left fun c hc => plainChar_of_isDigit (l.isDigit_of_mem c hc), List.map_id']

/-- A literal is a numeral. -/
lemma readWhole_text :
    readWhole l.text =
      if digitLimit < l.digits.length then .tooLong l.digits.length else .value l.value := by
  have hdecimal : ∀ c ∈ l.digits, isDecimal c = true := fun c hc =>
    isDecimal_of_isDigit (l.isDigit_of_mem c hc)
  have hsign : takeSign (l.text.map plainChar) = (l.negative, (l.digits ++ []).map plainChar) := by
    rw [List.append_nil, text]
    split
    · next hnegative => rw [takeSign_minus, hnegative]
    · next hnegative =>
      have hhead : l.digits.head? ≠ some '-' := by
        intro h
        exact absurd (l.isDigit_of_mem '-' (List.mem_of_head? h)) (by decide)
      rw [takeSign_unsigned (fun _ => l.inNumeral_of_mem_digits) hhead,
        Bool.eq_false_iff.2 hnegative]
  rw [readWhole_of_takeSign (fun _ => l.inNumeral_of_mem_text) hdecimal (by simp) (by simp) hsign,
    if_neg l.ne_nil, if_pos rfl, decimalsValue_digits]
  rfl

/-- An expression that is a literal has its number as value, unless there are too many digits. -/
theorem evaluate_text (lib : Library) :
    evaluate lib l.text =
      if digitLimit < l.digits.length then throw (.numeralTooLong (some l.digits.length))
      else pure (.int l.value) := by
  have hpoint : ¬ l.text.contains '.' = true :=
    mt List.contains_iff_mem.1 (l.notMem_text (by decide) (by decide))
  have hjoined : l.text.contains '&' = false := by
    rw [Bool.eq_false_iff]
    exact mt List.contains_iff_mem.1 (l.notMem_text (by decide) (by decide))
  rw [evaluate_of_looksNumeric l.strip_text hjoined l.quotedText?_text l.looksNumeric_text, numeral,
    if_neg hpoint, Value.toWhole, Value.textToWhole, String.toList_ofList, readWhole_text]
  by_cases hlong : digitLimit < l.digits.length
  · rw [if_pos hlong, if_pos hlong]
    rfl
  · rw [if_neg hlong, if_neg hlong]
    rfl

end Literal

end ScriptHost.Number

namespace ScriptHost.Formula

open ScriptHost.Number

/-! ### Literals in formulas -/

section

variable {ds rest : List Char}

/-- Digits with nothing but their end after them are not taken for a numeral in another base. -/
lemma readNumber_digits (hne : ds ≠ []) (hds : ∀ c ∈ ds, c.isDigit = true)
    (hrest : EndsOperand rest) : readNumber (ds ++ rest) = readDecimal (ds ++ rest) := by
  have hmark {c : Char} (hc : ¬ (c.isDigit = true ∨ c = ' ' ∨ c = ')')) (more : List Char) :
      ds ++ rest ≠ '0' :: c :: more := by
    intro heq
    obtain ⟨d, ds, rfl⟩ := List.exists_cons_of_ne_nil hne
    obtain ⟨rfl, htail⟩ := List.cons.inj heq
    cases ds with
    | nil =>
      obtain rfl : rest = c :: more := htail
      exact hc (.inr (hrest c rfl))
    | cons e ds =>
      obtain ⟨rfl, -⟩ := List.cons.inj htail
      exact hc (.inl (hds e (by simp)))
  rw [readNumber]
  all_goals
    intro more heq
    exact hmark (by decide) more heq

/-- A decimal numeral that is digits only is read if it has no zero at its start and is not too
long, or if it is zeros only. -/
lemma readDecimal_digits (hne : ds ≠ []) (hds : ∀ c ∈ ds, c.isDigit = true)
    (hrest : EndsOperand rest) :
    readDecimal (ds ++ rest) =
      if ds.head? = some '0' then
        if ds.any (· != '0') then none else some (.number (.int 0), rest)
      else if digitLimit < ds.length then none
      else some (.number (.int (digitsValue ds)), rest) := by
  have hhead : ((ds ++ rest).head? == some '.') = false := by
    rw [List.head?_append_of_ne_nil _ hne, beq_eq_false_iff_ne]
    intro h
    exact absurd (hds '.' (List.mem_of_head? h)) (by decide)
  have hend : ∀ c ∈ rest.head?, c.isDigit = false ∧ c ≠ '_' := by
    intro c hc
    rcases hrest c hc with rfl | rfl <;> decide
  have hafter : readFraction rest = some (none, rest) ∧ readPower rest = some (none, rest) ∧
      numeralEnds rest = true := by
    rcases hrest.cases with rfl | ⟨more, rfl⟩ | ⟨more, rfl⟩ <;> exact ⟨rfl, rfl, rfl⟩
  obtain ⟨hfraction, hpower, hends⟩ := hafter
  rw [readDecimal, hhead, if_neg Bool.false_ne_true, takeDigits_append hds hend,
    if_neg fun h => hne h.1]
  simp only [Option.bind_eq_bind, Option.bind_some, hfraction, hpower, hends, Bool.not_true,
    Bool.false_eq_true, if_false, beq_iff_eq]
  rfl

end

end ScriptHost.Formula

namespace ScriptHost.Number.Literal

open ScriptHost.Formula

variable (l : Literal) {rest : List Char}

/-- The literals that formulas read. -/
def IsReadable : Prop :=
  (l.digits.head? ≠ some '0' ∧ l.digits.length ≤ digitLimit) ∨ ∀ c ∈ l.digits, c = '0'

lemma all_zero_iff : l.digits.all (· == '0') = true ↔ ∀ c ∈ l.digits, c = '0' := by
  simp only [List.all_eq_true, beq_iff_eq]

instance : Decidable l.IsReadable :=
  decidable_of_iff ((l.digits.head? ≠ some '0' ∧ l.digits.length ≤ digitLimit) ∨
    l.digits.all (· == '0') = true) (or_congr_right l.all_zero_iff)

/-- The tokens of a literal. -/
def tokens : List Token :=
  if l.negative then [.sign "-", .number (.int l.size)] else [.number (.int l.size)]

lemma size_of_zeros (h : ∀ c ∈ l.digits, c = '0') : l.size = 0 := by
  have hzeros : l.digits = List.replicate l.digits.length '0' := List.eq_replicate_of_mem h
  have hvalue (k : Nat) : digitsValue (List.replicate k '0') = 0 := by
    induction k with
    | zero => rfl
    | succ k ih => exact ih
  rw [size, hzeros, hvalue]

/-- The digits of a literal are one token if formulas read it, and else none. -/
lemma readToken_digits (hrest : EndsOperand rest) :
    readToken (l.digits ++ rest) =
      if l.IsReadable then some (.number (.int l.size), rest) else none := by
  have hread : readToken (l.digits ++ rest) = readDecimal (l.digits ++ rest) := by
    rw [← readNumber_digits l.ne_nil l.isDigit_of_mem hrest]
    obtain ⟨d, ds, hdigits⟩ := List.exists_cons_of_ne_nil l.ne_nil
    have hd : d.isDigit = true := l.isDigit_of_mem d (by rw [hdigits]; exact List.mem_cons_self)
    rw [hdigits, List.cons_append, readToken, hd]
    rfl
  rw [hread, readDecimal_digits l.ne_nil l.isDigit_of_mem hrest]
  by_cases hzero : l.digits.head? = some '0'
  · rw [if_pos hzero]
    cases hany : l.digits.any (· != '0') with
    | false =>
      have hall : ∀ c ∈ l.digits, c = '0' := by simpa using hany
      rw [if_neg Bool.false_ne_true, if_pos (.inr hall), l.size_of_zeros hall]
      rfl
    | true =>
      obtain ⟨c, hc, hother⟩ := List.any_eq_true.1 hany
      rw [if_pos rfl, if_neg]
      rintro (⟨hne, -⟩ | hall)
      · exact hne hzero
      · exact bne_iff_ne.1 hother (hall c hc)
  · rw [if_neg hzero]
    by_cases hlong : digitLimit < l.digits.length
    · rw [if_pos hlong, if_neg]
      rintro (⟨-, hle⟩ | hall)
      · omega
      · obtain ⟨d, ds, hdigits⟩ := List.exists_cons_of_ne_nil l.ne_nil
        refine hzero ?_
        rw [hdigits, List.head?_cons, hall d (by rw [hdigits]; exact List.mem_cons_self)]
    · rw [if_neg hlong, if_pos (.inl ⟨hzero, by omega⟩)]
      rfl

/-- A literal is scanned to its end if formulas read it, and else makes the text unreadable. -/
theorem scans_text {open_ : List String} {ts : Option (List Token)} (hrest : EndsOperand rest)
    (h : Scans open_ rest ts) :
    Scans open_ (l.text ++ rest) (if l.IsReadable then ts.map (l.tokens ++ ·) else none) := by
  have hdigits : Scans open_ (l.digits ++ rest)
      (if l.IsReadable then ts.map (.number (.int l.size) :: ·) else none) := by
    have hread := l.readToken_digits hrest
    obtain ⟨d, ds, hcons⟩ := List.exists_cons_of_ne_nil l.ne_nil
    have hd : d.isDigit = true := l.isDigit_of_mem d (by rw [hcons]; exact List.mem_cons_self)
    have hmark : d ∉ ['\n', '\\', ' ', '\t', '\x0c', '#'] :=
      Script.forall_plain (P := fun c => c.isDigit = true →
        c ∉ ['\n', '\\', ' ', '\t', '\x0c', '#']) (by decide) (Script.toNat_lt_of_isDigit hd) hd
    rw [hcons, List.cons_append] at hread ⊢
    split
    · next hreadable =>
      rw [if_pos hreadable] at hread
      exact .token hmark hread (by simp) rfl h
    · next hreadable =>
      rw [if_neg hreadable] at hread
      exact scans_none hmark hread
  unfold text tokens
  by_cases hnegative : l.negative = true
  · have hminus : readToken ('-' :: (l.digits ++ rest)) = some (.sign "-", l.digits ++ rest) := rfl
    have hscan := Scans.token (by decide) hminus (Nat.le_refl _) rfl hdigits
    rw [if_pos hnegative, if_pos hnegative]
    split
    · next hreadable =>
      rw [if_pos hreadable, Option.map_map] at hscan
      exact hscan
    · next hreadable =>
      rw [if_neg hreadable] at hscan
      exact hscan
  · rw [if_neg hnegative, if_neg hnegative]
    exact hdigits

end ScriptHost.Number.Literal
