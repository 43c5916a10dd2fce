import Mathlib.Tactic.Lemma
import ScriptHost.Text.Letter

/-!
# Small forms of texts

The small form of a text is made from left to right: each letter gives its own small form, and what
it gives depends on its neighbours only if it is a capital sigma. Every small form is one character
long but that of the dotted capital i. So a text that has none of these keeps its length, and a
piece of it that has no sigma either is found in the small form of the text at its place.
-/

namespace ScriptHost.Text

/-- Whether the last character that counts is a letter with a case, after one more character. -/
def inWordAfter (inWord : Bool) (c : Char) : Bool :=
  if c.toNat < 128 then c.isAlpha || (inWord && isTransparent c)
  else if isTransparent c then inWord else isCased c

/-- The small form of a character in front of `cs`. -/
def smallForm (inWord : Bool) (c : Char) (cs : List Char) : List Char :=
  if c = 'Σ' then [if inWord && !goesOn cs then 'ς' else 'σ'] else lowerChar c

lemma lowerFrom_cons (inWord : Bool) (c : Char) (cs : List Char) :
    lowerFrom inWord (c :: cs) = smallForm inWord c cs ++ lowerFrom (inWordAfter inWord c) cs := by
  unfold smallForm inWordAfter
  rw [lowerFrom]
  by_cases hplain : c.toNat < 128
  · have hsigma : c ≠ 'Σ' := by
      rintro rfl
      exact absurd hplain (by decide)
    rw [if_pos hplain, if_neg hsigma, if_pos hplain, lowerChar, if_pos hplain]
    rfl
  · rw [if_neg hplain, if_neg hplain]
    by_cases hsigma : c = 'Σ'
    · subst hsigma
      rw [if_pos rfl, if_pos (by decide)]
      cases inWord && !goesOn cs <;> rfl
    · have hcode : ¬ (c.toNat == 0x3a3) = true := by
        rw [beq_iff_eq]
        exact fun h => hsigma (Char.toNat_inj.1 h)
      rw [if_neg hsigma, if_neg hcode]

lemma smallForm_sigma (inWord : Bool) (cs : List Char) :
    smallForm inWord 'Σ' cs = [if inWord && !goesOn cs then 'ς' else 'σ'] :=
  if_pos rfl

lemma smallForm_of_ne {c : Char} (h : c ≠ 'Σ') (inWord : Bool) (cs : List Char) :
    smallForm inWord c cs = lowerChar c :=
  if_neg h

lemma length_lowerChar (c : Char) : (lowerChar c).length = if c = 'İ' then 2 else 1 := by
  unfold lowerChar
  by_cases hdotted : c = 'İ'
  · subst hdotted
    rfl
  · have hcode : ¬ (c.toNat == 0x130) = true := by
      rw [beq_iff_eq]
      exact fun h => hdotted (Char.toNat_inj.1 h)
    rw [if_neg hdotted, if_neg hcode]
    split <;> rfl

lemma length_smallForm (inWord : Bool) (c : Char) (cs : List Char) :
    (smallForm inWord c cs).length = if c = 'İ' then 2 else 1 := by
  by_cases hsigma : c = 'Σ'
  · subst hsigma
    rfl
  · rw [smallForm_of_ne hsigma, length_lowerChar]

/-- A text grows by one character for each dotted capital i. -/
lemma length_lowerFrom (inWord : Bool) (cs : List Char) :
    (lowerFrom inWord cs).length = cs.length + cs.count 'İ' := by
  induction cs generalizing inWord with
  | nil => rfl
  | cons c cs ih =>
    rw [lowerFrom_cons, List.length_append, ih, length_smallForm, List.length_cons, List.count_cons]
    by_cases hdotted : c = 'İ'
    · rw [if_pos hdotted, if_pos (beq_iff_eq.2 hdotted)]
      omega
    · rw [if_neg hdotted, if_neg (by simpa using hdotted)]
      omega

/-- A text keeps its length exactly if it has no dotted capital i. -/
lemma length_lower_eq_iff {cs : List Char} : (lower cs).length = cs.length ↔ 'İ' ∉ cs := by
  rw [lower, length_lowerFrom, Nat.add_eq_left, List.count_eq_zero]

lemma lower_eq_nil_iff {cs : List Char} : lower cs = [] ↔ cs = [] := by
  have hcount := cs.count_le_length (a := 'İ')
  rw [← List.length_eq_zero_iff, ← List.length_eq_zero_iff, lower, length_lowerFrom]
  omega

/-- After some characters the small form goes on with that of the rest, in some state. -/
lemma exists_drop_lowerFrom {cs : List Char} (h : 'İ' ∉ cs) (inWord : Bool) (n : Nat) :
    ∃ state, (lowerFrom inWord cs).drop n = lowerFrom state (cs.drop n) := by
  induction n generalizing cs inWord with
  | zero => exact ⟨inWord, rfl⟩
  | succ n ih =>
    cases cs with
    | nil => exact ⟨inWord, rfl⟩
    | cons c cs =>
      rw [List.mem_cons, not_or] at h
      obtain ⟨state, hstate⟩ := ih h.2 (inWordAfter inWord c)
      refine ⟨state, ?_⟩
      obtain ⟨d, hd⟩ : ∃ d, smallForm inWord c cs = [d] := by
        rw [← List.length_eq_one_iff, length_smallForm, if_neg (Ne.symm h.1)]
      rw [lowerFrom_cons, hd, List.singleton_append, List.drop_succ_cons, List.drop_succ_cons,
        hstate]

/-- Letters that are no sigma have their own small forms, whatever is before and after them. -/
lemma exists_lowerFrom_append_of_notMem {p : List Char} (h : 'Σ' ∉ p) (inWord : Bool)
    (cs : List Char) :
    ∃ state, lowerFrom inWord (p ++ cs) = p.flatMap lowerChar ++ lowerFrom state cs := by
  induction p generalizing inWord with
  | nil => exact ⟨inWord, rfl⟩
  | cons c p ih =>
    rw [List.mem_cons, not_or] at h
    obtain ⟨state, hstate⟩ := ih h.2 (inWordAfter inWord c)
    refine ⟨state, ?_⟩
    rw [List.cons_append, lowerFrom_cons, hstate, smallForm_of_ne (Ne.symm h.1), List.flatMap_cons,
      List.append_assoc]

lemma lower_of_notMem {p : List Char} (h : 'Σ' ∉ p) : lower p = p.flatMap lowerChar := by
  obtain ⟨state, hstate⟩ := exists_lowerFrom_append_of_notMem h false []
  rwa [lowerFrom, List.append_nil, List.append_nil] at hstate

/-- A piece without a sigma is found in the small form of its text. -/
lemma lower_prefix_drop_lower {p cs : List Char} {n : Nat} (hdotted : 'İ' ∉ cs)
    (hp : p <+: cs.drop n)
    (hsigma : 'Σ' ∉ p) : lower p <+: (lower cs).drop n := by
  obtain ⟨rest, hrest⟩ := hp
  obtain ⟨state, hstate⟩ := exists_drop_lowerFrom hdotted false n
  obtain ⟨next, hnext⟩ := exists_lowerFrom_append_of_notMem hsigma state rest
  rw [lower_of_notMem hsigma, lower, hstate, ← hrest, hnext]
  exact List.prefix_append _ _

end ScriptHost.Text
