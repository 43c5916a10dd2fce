import ScriptHost.Formula.Evaluate
import ScriptHost.Proofs.GbkCodec
import ScriptHost.Proofs.Spelling

/-!
# Scanning formulas

A formula is cut into tokens from the left. What is found in the rest of a text is stated once, with
steps enough for it and the closing brackets that are awaited (`Scans`), and the scanner is followed
over words, over signs with blanks around them and over parentheses.
-/

namespace ScriptHost.Formula

open ScriptHost.Script (IsName)
open ScriptHost.Text

/-! ### Words -/

lemma isNameChar_of_isPlainWord {c : Char} (h : isPlainWord c = true) : isNameChar c = true := by
  rw [isNameChar, if_pos (Script.toNat_lt_of_isPlainWord h), h]

/-- A name is read as a word, up to the first character that could not belong to it. -/
lemma readToken_word {x rest : List Char} (hx : IsName x)
    (hrest : ∀ c ∈ rest.head?, isNameChar c = false ∧ c ≠ '"' ∧ c ≠ '\x27') :
    readToken (x ++ rest) = some (wordToken x, rest) := by
  obtain ⟨c, cs, hcs, hc⟩ := hx.first
  have hplain := hx.plain c (by rw [hcs]; exact List.mem_cons_self)
  have hstart : (!(c.isDigit || c == '.' || c == '"' || c == '\x27') && isNameStart c) = true :=
    Script.forall_plain (P := fun c => c.isAlpha = true →
      (!(c.isDigit || c == '.' || c == '"' || c == '\x27') && isNameStart c) = true)
      (by decide) hplain hc
  simp only [Bool.and_eq_true, Bool.not_eq_true', Bool.or_eq_false_iff] at hstart
  obtain ⟨⟨⟨⟨hdigit, hpoint⟩, hquote⟩, happ⟩, hname⟩ := hstart
  have hword : ∀ d ∈ x, isNameChar d = true := fun d hd => isNameChar_of_isPlainWord (hx.chars d hd)
  have htake : (x ++ rest).takeWhile isNameChar = x := by
    rw [List.takeWhile_append_of_pos hword]
    cases rest with
    | nil => simp
    | cons d rest => simp [(hrest d rfl).1]
  have hdrop : (x ++ rest).dropWhile isNameChar = rest := by
    rw [List.dropWhile_append_of_pos hword]
    cases rest with
    | nil => simp
    | cons d rest => simp [(hrest d rfl).1]
  have hhead : (rest.head? == some '"' || rest.head? == some '\x27') = false := by
    cases rest with
    | nil => rfl
    | cons d rest => simp [(hrest d rfl).2]
  have hread : readWord (x ++ rest) = some (wordToken x, rest) := by
    rw [readWord, htake, hdrop, hhead]
    rfl
  rw [hcs] at hread ⊢
  rw [List.cons_append] at hread ⊢
  simp only [readToken, hdigit, hpoint, hquote, happ, hname, Bool.false_and, Bool.or_false,
    Bool.false_eq_true, if_false, if_true]
  exact hread

/-- A word that formulas take for a name of the scope: it is neither reserved nor a function. -/
def IsFree (x : List Char) : Prop :=
  reserved.contains (String.ofList x) = false ∧ functionKinds.lookup (String.ofList x) = none

instance (x : List Char) : Decidable (IsFree x) :=
  inferInstanceAs (Decidable (_ ∧ _))

/-- Reserved words and functions have small letters in them, so every word in capitals is free. -/
lemma isFree_of_upper_eq {x : List Char} (hx : upper x = x) : IsFree x := by
  have hreserved : ∀ r ∈ reserved, upper r.toList ≠ r.toList := by decide
  have hkinds : ∀ p ∈ functionKinds, upper p.1.toList ≠ p.1.toList := by decide
  constructor
  · rw [Bool.eq_false_iff, ne_eq, List.contains_iff_mem]
    intro hmem
    refine hreserved _ hmem ?_
    rw [String.toList_ofList, hx]
  · refine List.lookup_eq_none_iff.2 fun p hp => bne_iff_ne.2 fun h => hkinds p hp ?_
    rw [← h, String.toList_ofList, hx]

lemma map_plainForm {x : List Char} (hx : IsName x) : x.map plainForm = x := by
  refine (List.map_congr_left fun c hc => ?_).trans (List.map_id x)
  exact Script.forall_plain (P := fun c => plainForm c = c) (by decide) (hx.plain c hc)

lemma wordToken_of_reserved_eq_false {x : List Char} (hx : IsName x)
    (h : reserved.contains (String.ofList x) = false) : wordToken x = .name (String.ofList x) := by
  have hword (s : String) (hs : reserved.contains s = true) : String.ofList x ≠ s := by
    rintro rfl
    rw [h] at hs
    cases hs
  unfold wordToken
  split
  · next heq => exact absurd heq (hword "True" (by decide))
  · next heq => exact absurd heq (hword "False" (by decide))
  · next heq => exact absurd heq (hword "None" (by decide))
  · rw [if_neg (by rw [h]; decide), map_plainForm hx]

/-! ### Tokens -/

/-- Blanks separate tokens. -/
lemma tokensFrom_blank (n : Nat) (open_ : List String) (cs : List Char) :
    tokensFrom (n + 1) open_ (' ' :: cs) = tokensFrom n open_ cs := by
  rw [tokensFrom]
  · rfl
  · decide
  · exact fun _ h => absurd h (by decide)

/-- A token is read and then the tokens after it. -/
lemma tokensFrom_token {n : Nat} {open_ open' : List String} {c : Char} {cs more : List Char}
    {t : Token} (hc : c ∉ ['\n', '\\', ' ', '\t', '\x0c', '#'])
    (ht : readToken (c :: cs) = some (t, more)) (hopen : openAfter open_ t = some open') :
    tokensFrom (n + 1) open_ (c :: cs) = (tokensFrom n open' more).map (t :: ·) := by
  simp only [List.mem_cons, List.not_mem_nil, or_false, not_or] at hc
  obtain ⟨hline, hback, hblank, htab, hpage, hmark⟩ := hc
  rw [tokensFrom]
  · simp only [beq_iff_eq, hblank, htab, hpage, hmark, or_self, Bool.or_eq_true, if_false, ht,
      Option.bind_eq_bind, Option.bind_some, hopen]
    cases tokensFrom n open' more <;> rfl
  · exact hline
  · exact fun _ h => absurd h hback

/-- The tokens of a text, if it has any, with `open_` the closing brackets that are awaited and more
steps than the text is long. -/
def Scans (open_ : List String) (cs : List Char) (ts : Option (List Token)) : Prop :=
  ∀ n, cs.length < n → tokensFrom n open_ cs = ts

lemma scans_nil : Scans [] [] (some []) := by
  intro n hn
  obtain ⟨n, rfl⟩ : ∃ k, n = k + 1 := ⟨n - 1, by simp only [List.length_nil] at hn; omega⟩
  rfl

section

variable {open_ open' : List String} {c : Char} {cs more : List Char} {ts : Option (List Token)}

lemma Scans.blank (h : Scans open_ cs ts) : Scans open_ (' ' :: cs) ts := by
  intro n hn
  rw [List.length_cons] at hn
  obtain ⟨n, rfl⟩ : ∃ k, n = k + 1 := ⟨n - 1, by omega⟩
  rw [tokensFrom_blank]
  exact h n (by omega)

lemma Scans.token {t : Token} (hc : c ∉ ['\n', '\\', ' ', '\t', '\x0c', '#'])
    (ht : readToken (c :: cs) = some (t, more)) (hlen : more.length ≤ cs.length)
    (hopen : openAfter open_ t = some open') (h : Scans open' more ts) :
    Scans open_ (c :: cs) (ts.map (t :: ·)) := by
  intro n hn
  rw [List.length_cons] at hn
  obtain ⟨n, rfl⟩ : ∃ k, n = k + 1 := ⟨n - 1, by omega⟩
  rw [tokensFrom_token hc ht hopen, h n (by omega)]

/-- What is no token at all makes a text unreadable. -/
lemma scans_none (hc : c ∉ ['\n', '\\', ' ', '\t', '\x0c', '#']) (ht : readToken (c :: cs) = none) :
    Scans open_ (c :: cs) none := by
  intro n hn
  rw [List.length_cons] at hn
  obtain ⟨n, rfl⟩ : ∃ k, n = k + 1 := ⟨n - 1, by omega⟩
  simp only [List.mem_cons, List.not_mem_nil, or_false, not_or] at hc
  obtain ⟨hline, hback, hblank, htab, hpage, hmark⟩ := hc
  rw [tokensFrom]
  · simp only [beq_iff_eq, hblank, htab, hpage, hmark, or_self, Bool.or_eq_true, if_false, ht]
    rfl
  · exact hline
  · exact fun _ h => absurd h hback

/-- A text on one line has the tokens that are found in it. -/
lemma tokens?_of_scans (hnull : ∀ c ∈ cs, c.toNat ≠ 0) (hreturn : '\r' ∉ cs) (h : Scans [] cs ts) :
    tokens? cs = ts := by
  have hany : ¬ (cs.any fun c => c.toNat == 0) = true := by
    rw [List.any_eq_true]
    rintro ⟨c, hc, hzero⟩
    exact hnull c hc (by simpa using hzero)
  rw [tokens?, if_neg hany, Text.unifyLineEnds_eq_self hreturn]
  exact h _ (Nat.lt_succ_self _)

end

/-! ### Operands and signs -/

/-- Texts that an operand may end before. -/
def EndsOperand (rest : List Char) : Prop :=
  ∀ c ∈ rest.head?, c = ' ' ∨ c = ')'

lemma endsOperand_nil : EndsOperand [] := by
  rintro c ⟨⟩

lemma endsOperand_cons {c : Char} (hc : c = ' ' ∨ c = ')') (cs : List Char) :
    EndsOperand (c :: cs) := by
  rintro d ⟨⟩
  exact hc

lemma EndsOperand.cases {rest : List Char} (h : EndsOperand rest) :
    rest = [] ∨ (∃ more, rest = ' ' :: more) ∨ ∃ more, rest = ')' :: more := by
  cases rest with
  | nil => exact .inl rfl
  | cons c more =>
    rcases h c rfl with rfl | rfl
    · exact .inr (.inl ⟨more, rfl⟩)
    · exact .inr (.inr ⟨more, rfl⟩)

/-- A word that is not reserved is a name. -/
lemma scans_word {x rest : List Char} (hx : IsName x)
    (hfree : reserved.contains (String.ofList x) = false) (hrest : EndsOperand rest)
    {open_ : List String} {ts : Option (List Token)} (h : Scans open_ rest ts) :
    Scans open_ (x ++ rest) (ts.map (.name (String.ofList x) :: ·)) := by
  have hend : ∀ c ∈ rest.head?, isNameChar c = false ∧ c ≠ '"' ∧ c ≠ '\x27' := by
    intro c hc
    rcases hrest c hc with rfl | rfl <;> decide
  have hread := readToken_word hx hend
  rw [wordToken_of_reserved_eq_false hx hfree] at hread
  obtain ⟨c, cs, rfl, hc⟩ := hx.first
  have hmark : c ∉ ['\n', '\\', ' ', '\t', '\x0c', '#'] :=
    Script.forall_plain (P := fun c => c.isAlpha = true →
      c ∉ ['\n', '\\', ' ', '\t', '\x0c', '#']) (by decide) (hx.plain c List.mem_cons_self) hc
  exact .token hmark hread (by simp) rfl h

/-- Signs that stand between operands. -/
def spacedSigns : List String :=
  ["+", "-", "*", "=", "<", "<=", ">", ">="]

/-- A sign with blanks around it is a token. -/
lemma Scans.spaced {sign : String} (hsign : sign ∈ spacedSigns) {open_ : List String}
    {rest : List Char} {ts : Option (List Token)} (h : Scans open_ rest ts) :
    Scans open_ (' ' :: (sign.toList ++ ' ' :: rest)) (ts.map (.sign sign :: ·)) := by
  have hnext (c : Char) (cs : List Char) (hc : c ∉ ['\n', '\\', ' ', '\t', '\x0c', '#'])
      (hread : readToken (c :: (cs ++ ' ' :: rest)) = some (.sign sign, ' ' :: rest))
      (hopen : openAfter open_ (.sign sign) = some open_) :
      Scans open_ (' ' :: (c :: cs ++ ' ' :: rest)) (ts.map (.sign sign :: ·)) :=
    .blank (.token hc hread (by simp) hopen (.blank h))
  simp only [spacedSigns, List.mem_cons, List.not_mem_nil, or_false] at hsign
  rcases hsign with rfl | rfl | rfl | rfl | rfl | rfl | rfl | rfl
  · exact hnext '+' [] (by decide) rfl rfl
  · exact hnext '-' [] (by decide) rfl rfl
  · exact hnext '*' [] (by decide) rfl rfl
  · exact hnext '=' [] (by decide) rfl rfl
  · exact hnext '<' [] (by decide) rfl rfl
  · exact hnext '<' ['='] (by decide) rfl rfl
  · exact hnext '>' [] (by decide) rfl rfl
  · exact hnext '>' ['='] (by decide) rfl rfl

/-- What is scanned between parentheses is scanned with them. -/
lemma Scans.group {cs rest : List Char} {open_ : List String} {us ts : Option (List Token)}
    (hopen : open_.length < depthLimit) (h : Scans open_ rest ts)
    (hcs : Scans (")" :: open_) (')' :: rest) (ts.map (.sign ")" :: ·)) →
      Scans (")" :: open_) (cs ++ ')' :: rest) us) :
    Scans open_ ('(' :: (cs ++ ')' :: rest)) (us.map (.sign "(" :: ·)) := by
  have hclosed : Scans (")" :: open_) (')' :: rest) (ts.map (.sign ")" :: ·)) :=
    .token (by decide) rfl (Nat.le_refl _) rfl h
  have hopened : openAfter open_ (.sign "(") = some (")" :: open_) := if_pos hopen
  exact .token (by decide) rfl (Nat.le_refl _) hopened (hcs hclosed)

end ScriptHost.Formula
