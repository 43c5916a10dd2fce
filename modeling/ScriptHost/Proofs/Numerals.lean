import Mathlib.Data.List.TakeWhile
import ScriptHost.Proofs.Substitution

/-!
# Numerals

A text is taken for a numeral if nothing but digits is left of it without its first point and its
first minus sign. This says less than that it is one: the minus sign has to come first, every digit
has to be a decimal one, and without a point there may not be too many of them. Nothing else is
missing (`numeral_eq_ok_iff`), so these are the texts on which the conversion fails.
-/

namespace ScriptHost.Number

open ScriptHost.Script ScriptHost.Text

/-! ### Digits of all scripts -/

lemma lt_ten_of_decimalValue? {c : Char} {v : Nat} (h : decimalValue? c = some v) : v < 10 := by
  unfold decimalValue? at h
  dsimp only at h
  split at h
  · split at h
    · obtain rfl := Option.some.inj h
      omega
    · cases h
  · obtain ⟨z, hz, rfl⟩ := Option.map_eq_some_iff.1 h
    have hrange := Array.find?_some hz
    simp only [Bool.and_eq_true, decide_eq_true_eq] at hrange
    omega

/-- The decimal digits lie between the blanks. -/
lemma zeros_wideBlanks :
    zeros.all (fun z => wideBlanks.all fun q => q.2 < z || z + 10 ≤ q.1) = true := by
  unfold zeros tableItems
  simp only [List.flatMap_cons, List.all_toArray]
  repeat rw [String.toList_ofList]
  decide

/-- So do the other digits. -/
lemma figures_wideBlanks :
    figures.pairs.all (fun p => wideBlanks.all fun q => q.2 < p.1 || p.2 < q.1) = true := by
  unfold figures Ranges.ofRows tableItems
  simp only [List.flatMap_cons, List.all_toArray]
  repeat rw [String.toList_ofList]
  decide

/-- A digit that is not plain lies in a range without blanks. -/
lemma exists_range_of_isDigit {c : Char} (hc : 128 ≤ c.toNat) (h : isDigit c = true) :
    ∃ p : Nat × Nat, p.1 ≤ c.toNat ∧ c.toNat ≤ p.2 ∧
      wideBlanks.all (fun q => q.2 < p.1 || p.2 < q.1) = true := by
  rcases (Bool.or_eq_true _ _).mp h with hdecimal | hfigure
  · unfold isDecimal decimalValue? at hdecimal
    simp only [Nat.not_lt.2 hc, if_false, Option.isSome_map] at hdecimal
    obtain ⟨z, hz⟩ := Option.isSome_iff_exists.1 hdecimal
    have hrange := Array.find?_some hz
    have hcheck := Array.all_eq_true_iff_forall_mem.1 zeros_wideBlanks z
      (Array.mem_of_find?_eq_some hz)
    simp only [Bool.and_eq_true, decide_eq_true_eq] at hrange
    refine ⟨(z, z + 9), hrange.1, by omega, List.all_eq_true.2 fun q hq => ?_⟩
    have hq := List.all_eq_true.1 hcheck q hq
    simp only [Bool.or_eq_true, decide_eq_true_eq] at hq ⊢
    omega
  · obtain ⟨p, hp, hlow, hhigh⟩ := Ranges.exists_of_contains ((Bool.and_eq_true _ _).mp hfigure).2
    exact ⟨p, hlow, hhigh, Array.all_eq_true_iff_forall_mem.1 figures_wideBlanks p hp⟩

lemma isBlank_of_isDigit {c : Char} (h : isDigit c = true) : isBlank c = false := by
  by_cases hplain : c.toNat < 128
  · exact forall_plain (P := fun c => isDigit c = true → isBlank c = false) (by decide) hplain h
  · obtain ⟨p, hlow, hhigh, hcheck⟩ := exists_range_of_isDigit (by omega) h
    rw [Bool.eq_false_iff]
    intro hblank
    simp only [wideBlanks, List.all_cons, List.all_nil, Bool.and_eq_true, Bool.or_eq_true,
      decide_eq_true_eq] at hcheck
    simp only [isBlank, Bool.or_eq_true, Bool.and_eq_true, decide_eq_true_eq, beq_iff_eq] at hblank
    omega

lemma isSeparator_of_isDigit {c : Char} (h : isDigit c = true) : isSeparator c = false := by
  by_cases hplain : c.toNat < 128
  · exact forall_plain (P := fun c => isDigit c = true → isSeparator c = false) (by decide) hplain h
  · rw [isSeparator, Bool.and_eq_false_iff, decide_eq_false_iff_not, decide_eq_false_iff_not]
    omega

lemma isDecimal_of_isDigit {c : Char} (h : c.isDigit = true) : isDecimal c = true :=
  forall_plain (P := fun c => c.isDigit = true → isDecimal c = true) (by decide)
    (toNat_lt_of_isDigit h) h

/-! ### Numerals in plain characters -/

/-- A character of a numeral as a plain one. -/
def plainChar (c : Char) : Char :=
  if isSeparator c then '?'
  else if isBlank c then ' '
  else ((decimalValue? c).map fun v => Char.ofNat (48 + v)).getD (if c.toNat < 128 then c else '?')

lemma plainNumeral_eq (cs : List Char) : plainNumeral cs = strip (cs.map plainChar) := by
  unfold plainNumeral
  refine congrArg strip (List.map_congr_left fun c _ => ?_)
  unfold plainChar
  cases decimalValue? c <;> rfl

/-- The characters of a text that is taken for a numeral. -/
def InNumeral (c : Char) : Prop :=
  isDigit c = true ∨ c = '-' ∨ c = '.'

/-- Decimal digits become plain ones, the other digits question marks, and the minus sign and the
point stay. -/
lemma plainChar_cases {c : Char} (h : InNumeral c) :
    (isDecimal c = true ∧ (plainChar c).isDigit = true) ∨ (c = '-' ∧ plainChar c = '-') ∨
      (c = '.' ∧ plainChar c = '.') ∨ (isDecimal c = false ∧ plainChar c = '?') := by
  rcases h with hdigit | rfl | rfl
  · have hplain : plainChar c = ((decimalValue? c).map fun v => Char.ofNat (48 + v)).getD
        (if c.toNat < 128 then c else '?') := by
      rw [plainChar, isSeparator_of_isDigit hdigit, isBlank_of_isDigit hdigit]
      rfl
    cases hvalue : decimalValue? c with
    | some v =>
      have hten : ∀ v < 10, (Char.ofNat (48 + v)).isDigit = true := by decide
      refine .inl ⟨by rw [isDecimal, hvalue]; rfl, ?_⟩
      rw [hplain, hvalue]
      exact hten v (lt_ten_of_decimalValue? hvalue)
    | none =>
      have hdecimal : isDecimal c = false := by
        rw [isDecimal, hvalue]
        rfl
      have hwide : ¬ c.toNat < 128 := by
        rw [isDigit, hdecimal, Bool.false_or, Bool.and_eq_true, decide_eq_true_eq] at hdigit
        omega
      refine .inr (.inr (.inr ⟨hdecimal, ?_⟩))
      rw [hplain, hvalue, if_neg hwide]
      rfl
  · exact .inr (.inl ⟨rfl, by decide⟩)
  · exact .inr (.inr (.inl ⟨rfl, by decide⟩))

lemma isDecimal_of_isDigit_plainChar {c : Char} (hc : InNumeral c)
    (h : (plainChar c).isDigit = true) : isDecimal c = true := by
  rcases plainChar_cases hc with ⟨hdecimal, -⟩ | ⟨-, hplain⟩ | ⟨-, hplain⟩ | ⟨-, hplain⟩
  · exact hdecimal
  all_goals
    rw [hplain] at h
    cases h

lemma isDigit_plainChar {c : Char} (h : isDecimal c = true) : (plainChar c).isDigit = true := by
  have hdigit : isDigit c = true := by rw [isDigit, h, Bool.true_or]
  rcases plainChar_cases (.inl hdigit) with ⟨-, hplain⟩ | ⟨rfl, -⟩ | ⟨rfl, -⟩ | ⟨hdecimal, -⟩
  · exact hplain
  · exact absurd h (by decide)
  · exact absurd h (by decide)
  · rw [h] at hdecimal
    cases hdecimal

/-- A character that is neither a digit nor a mark of numerals does not come up. -/
lemma plainChar_ne {c d : Char} (hc : InNumeral c) (hd : d.isDigit = false)
    (hmark : d ∉ ['-', '.', '?']) : plainChar c ≠ d := by
  rintro rfl
  rcases plainChar_cases hc with ⟨-, hplain⟩ | ⟨-, hplain⟩ | ⟨-, hplain⟩ | ⟨-, hplain⟩
  · rw [hplain] at hd
    cases hd
  all_goals exact hmark (by rw [hplain]; decide)

lemma plainChar_of_isDigit {c : Char} (h : c.isDigit = true) : plainChar c = c :=
  forall_plain (P := fun c => c.isDigit = true → plainChar c = c) (by decide)
    (toNat_lt_of_isDigit h) h

lemma isBlank_of_inNumeral {c : Char} (h : InNumeral c) : isBlank c = false := by
  rcases h with hdigit | rfl | rfl
  · exact isBlank_of_isDigit hdigit
  · decide
  · decide

section Texts

variable {t : List Char}

lemma strip_of_inNumeral (ht : ∀ c ∈ t, InNumeral c) : strip t = t :=
  strip_eq_self (fun c hc => isBlank_of_inNumeral (ht c (List.mem_of_mem_head? hc)))
    (fun c hc => isBlank_of_inNumeral (ht c (List.mem_of_getLast? hc)))

lemma notMem_map_plainChar (ht : ∀ c ∈ t, InNumeral c) {d : Char} (hd : d.isDigit = false)
    (hmark : d ∉ ['-', '.', '?']) : d ∉ t.map plainChar := by
  intro hmem
  obtain ⟨c, hc, rfl⟩ := List.mem_map.1 hmem
  exact plainChar_ne (ht c hc) hd hmark rfl

/-- There are no blanks to be removed. -/
lemma plainNumeral_of_inNumeral (ht : ∀ c ∈ t, InNumeral c) :
    plainNumeral t = t.map plainChar := by
  have hblank : ∀ c ∈ t.map plainChar, isBlank c = false := by
    intro c hc
    obtain ⟨d, hd, rfl⟩ := List.mem_map.1 hc
    rcases plainChar_cases (ht d hd) with ⟨-, hplain⟩ | ⟨-, hplain⟩ | ⟨-, hplain⟩ | ⟨-, hplain⟩
    · exact forall_plain (P := fun c => c.isDigit = true → isBlank c = false) (by decide)
        (toNat_lt_of_isDigit hplain) hplain
    all_goals
      rw [hplain]
      decide
  rw [plainNumeral_eq]
  exact strip_eq_self (fun c hc => hblank c (List.mem_of_mem_head? hc))
    (fun c hc => hblank c (List.mem_of_getLast? hc))

/-- A minus sign is taken off. -/
lemma takeSign_minus (body : List Char) :
    takeSign (('-' :: body).map plainChar) = (true, body.map plainChar) := by
  have hminus : plainChar '-' = '-' := by decide
  rw [List.map_cons, hminus]
  rfl

/-- A text that does not start with one has no sign. -/
lemma takeSign_unsigned (ht : ∀ c ∈ t, InNumeral c) (hminus : t.head? ≠ some '-') :
    takeSign (t.map plainChar) = (false, t.map plainChar) := by
  cases t with
  | nil => rfl
  | cons c t =>
    have hc := ht c List.mem_cons_self
    have hplus : plainChar c ≠ '+' := plainChar_ne hc (by decide) (by decide)
    have hsign : plainChar c ≠ '-' := by
      intro heq
      rcases plainChar_cases hc with ⟨-, h⟩ | ⟨h, -⟩ | ⟨-, h⟩ | ⟨-, h⟩
      · rw [heq] at h
        cases h
      · exact hminus (by rw [h]; rfl)
      all_goals
        rw [heq] at h
        exact absurd h (by decide)
    rw [List.map_cons]
    unfold takeSign
    split
    · next heq => exact absurd (List.cons.inj heq).1 hsign
    · next heq => exact absurd (List.cons.inj heq).1 hplus
    · rfl

end Texts

/-! ### Runs of digits -/

lemma digitRun_of_forall {ds : List Char} (h : ∀ c ∈ ds, c.isDigit = true) {after : Bool}
    (hafter : ds = [] → after = true) : digitRun after ds = some ds := by
  induction ds generalizing after with
  | nil =>
    rw [digitRun, hafter rfl]
    rfl
  | cons d ds ih =>
    rw [digitRun, if_pos (h d List.mem_cons_self),
      ih (fun c hc => h c (List.mem_cons_of_mem d hc)) fun _ => rfl]
    rfl

/-- Without low lines a run of digits is nothing but digits. -/
lemma forall_of_digitRun {cs ds : List Char} {after : Bool} (hline : '_' ∉ cs)
    (h : digitRun after cs = some ds) :
    ds = cs ∧ (cs = [] → after = true) ∧ ∀ c ∈ cs, c.isDigit = true := by
  induction cs generalizing after ds with
  | nil =>
    rw [digitRun] at h
    split at h
    · next hafter =>
      obtain rfl := Option.some.inj h
      exact ⟨rfl, fun _ => hafter, by simp⟩
    · cases h
  | cons c cs ih =>
    have hc : (c == '_') = false := by
      rw [beq_eq_false_iff_ne]
      rintro rfl
      exact hline List.mem_cons_self
    rw [digitRun, hc, Bool.false_and] at h
    split at h
    · next hdigit =>
      obtain ⟨es, hes, rfl⟩ := Option.map_eq_some_iff.1 h
      obtain ⟨rfl, -, hall⟩ := ih (fun hmem => hline (List.mem_cons_of_mem c hmem)) hes
      exact ⟨rfl, by simp, List.forall_mem_cons.2 ⟨hdigit, hall⟩⟩
    · cases h

/-- The digits of a text that has only digits and marks of numerals are found exactly if all of it
is decimal digits. -/
lemma digitRun_map_eq_some_iff {t ds : List Char} (ht : ∀ c ∈ t, InNumeral c) {after : Bool} :
    digitRun after (t.map plainChar) = some ds ↔
      ds = t.map plainChar ∧ (t = [] → after = true) ∧ ∀ c ∈ t, isDecimal c = true := by
  constructor
  · intro h
    obtain ⟨hds, hafter, hall⟩ := forall_of_digitRun
      (notMem_map_plainChar ht (by decide) (by decide)) h
    refine ⟨hds, fun hnil => hafter (by rw [hnil]; rfl), fun c hc => ?_⟩
    exact isDecimal_of_isDigit_plainChar (ht c hc) (hall _ (List.mem_map_of_mem hc))
  · rintro ⟨rfl, hafter, hall⟩
    refine digitRun_of_forall ?_ fun hnil => hafter (List.map_eq_nil_iff.1 hnil)
    intro c hc
    obtain ⟨d, hd, rfl⟩ := List.mem_map.1 hc
    exact isDigit_plainChar (hall d hd)

/-! ### Whole numerals -/

/-- The number that decimal digits stand for. -/
def decimalsValue (ds : List Char) : Nat :=
  digitsValue (ds.map plainChar)

/-- The run of digits at the start of a text goes up to the first character that is neither a digit
nor a low line. -/
lemma takeDigits_append {ds rest : List Char} (hds : ∀ c ∈ ds, c.isDigit = true)
    (hrest : ∀ c ∈ rest.head?, c.isDigit = false ∧ c ≠ '_') (first : Bool) :
    takeDigits Char.isDigit first (ds ++ rest) =
      if ds = [] ∧ first = true then none else some (ds, rest) := by
  induction ds generalizing first with
  | nil =>
    cases rest with
    | nil => cases first <;> rfl
    | cons c rest =>
      obtain ⟨hdigit, hline⟩ := hrest c rfl
      have hc : (c == '_') = false := beq_eq_false_iff_ne.2 hline
      rw [List.nil_append, takeDigits, hdigit, hc]
      cases first <;> rfl
  | cons d ds ih =>
    rw [List.cons_append, takeDigits, if_pos (hds d List.mem_cons_self),
      ih (fun c hc => hds c (List.mem_cons_of_mem d hc)) false]
    simp

/-- Every text starts with as many decimal digits as there are. -/
lemma exists_decimals_append (cs : List Char) :
    ∃ ds rest, cs = ds ++ rest ∧ (∀ c ∈ ds, isDecimal c = true) ∧
      ∀ c ∈ rest.head?, isDecimal c = false := by
  refine ⟨cs.takeWhile isDecimal, cs.dropWhile isDecimal, List.takeWhile_append_dropWhile.symm,
    fun c hc => List.mem_takeWhile_imp hc, fun c hc => ?_⟩
  have hhead := List.head?_dropWhile_not isDecimal cs
  rwa [Option.mem_def.1 hc] at hhead

/-- What a text is as a whole numeral, if its sign is followed by decimal digits and then by
something else. -/
lemma readWhole_of_takeSign {t ds rest : List Char} {negative : Bool} (ht : ∀ c ∈ t, InNumeral c)
    (hds : ∀ c ∈ ds, isDecimal c = true) (hrest : ∀ c ∈ rest, InNumeral c)
    (hhead : ∀ c ∈ rest.head?, isDecimal c = false)
    (hsign : takeSign (t.map plainChar) = (negative, (ds ++ rest).map plainChar)) :
    readWhole t =
      if ds = [] then .notANumeral
      else if digitLimit < ds.length then .tooLong ds.length
      else if rest = [] then
        .value (if negative then -(decimalsValue ds : Int) else decimalsValue ds)
      else .notANumeral := by
  have hplain : ∀ c ∈ ds.map plainChar, c.isDigit = true := by
    intro c hc
    obtain ⟨d, hd, rfl⟩ := List.mem_map.1 hc
    exact isDigit_plainChar (hds d hd)
  have hend : ∀ c ∈ (rest.map plainChar).head?, c.isDigit = false ∧ c ≠ '_' := by
    intro c hc
    rw [List.head?_map] at hc
    obtain ⟨d, hd, rfl⟩ := Option.map_eq_some_iff.1 hc
    have hd' := hrest d (List.mem_of_mem_head? hd)
    refine ⟨?_, plainChar_ne hd' (by decide) (by decide)⟩
    rw [Bool.eq_false_iff]
    intro hdigit
    have hdecimal := hhead d hd
    rw [isDecimal_of_isDigit_plainChar hd' hdigit] at hdecimal
    cases hdecimal
  unfold readWhole
  rw [plainNumeral_of_inNumeral ht, hsign]
  dsimp only
  rw [List.map_append, takeDigits_append hplain hend]
  cases ds with
  | nil => rfl
  | cons d ds =>
    rw [if_neg (by simp), if_neg (List.cons_ne_nil d ds)]
    dsimp only
    rw [List.length_map]
    cases rest <;> rfl

/-- The texts that stand for numbers, without their sign: decimal digits that are not too many, or
decimal digits with a point before, between or after them. -/
inductive IsUnsigned : List Char → Prop
  | whole {ds : List Char} : ds ≠ [] → (∀ c ∈ ds, isDecimal c = true) → ds.length ≤ digitLimit →
      IsUnsigned ds
  | point {a b : List Char} : a ++ b ≠ [] → (∀ c ∈ a ++ b, isDecimal c = true) →
      IsUnsigned (a ++ '.' :: b)

/-- The texts that stand for numbers: a minus sign may come first. -/
inductive IsNumeral : List Char → Prop
  | plain {t : List Char} : IsUnsigned t → IsNumeral t
  | minus {t : List Char} : IsUnsigned t → IsNumeral ('-' :: t)

lemma not_isDecimal_point : ¬ isDecimal '.' = true := by decide

lemma not_isDecimal_minus : ¬ isDecimal '-' = true := by decide

/-- A whole numeral has no point. -/
lemma isUnsigned_iff_of_notMem {t : List Char} (h : '.' ∉ t) :
    IsUnsigned t ↔ t ≠ [] ∧ (∀ c ∈ t, isDecimal c = true) ∧ t.length ≤ digitLimit := by
  constructor
  · intro ht
    cases ht with
    | whole hne hall hlen => exact ⟨hne, hall, hlen⟩
    | point hne hall => simp at h
  · rintro ⟨hne, hall, hlen⟩
    exact .whole hne hall hlen

/-- The first point divides a text in one way. -/
lemma append_point_inj {a b a' b' : List Char} (ha : '.' ∉ a) (ha' : '.' ∉ a')
    (h : a ++ '.' :: b = a' ++ '.' :: b') : a = a' ∧ b = b' := by
  have htake {x y : List Char} (hx : '.' ∉ x) : (x ++ '.' :: y).takeWhile (· != '.') = x := by
    have hall : ∀ c ∈ x, (c != '.') = true := fun c hc => bne_iff_ne.2 fun heq => hx (heq ▸ hc)
    rw [List.takeWhile_append_of_pos hall]
    simp
  have hleft : a = a' := by rw [← htake ha, h, htake ha']
  subst hleft
  exact ⟨rfl, (List.cons.inj (List.append_cancel_left h)).2⟩

/-- Around the first point of a numeral there are digits only. -/
lemma isUnsigned_point_iff {a b : List Char} (ha : '.' ∉ a) :
    IsUnsigned (a ++ '.' :: b) ↔ a ++ b ≠ [] ∧ ∀ c ∈ a ++ b, isDecimal c = true := by
  constructor
  · intro h
    generalize htext : a ++ '.' :: b = t at h
    cases h with
    | whole hne hall hlen =>
      subst htext
      exact absurd (hall '.' (by simp)) not_isDecimal_point
    | @point a' b' hne hall =>
      have ha' : '.' ∉ a' := fun hmem =>
        not_isDecimal_point (hall '.' (List.mem_append_left _ hmem))
      obtain ⟨rfl, rfl⟩ := append_point_inj ha ha' htext
      exact ⟨hne, hall⟩
  · rintro ⟨hne, hall⟩
    exact .point hne hall

/-- A minus sign belongs to a numeral only as its first character. -/
lemma minus_notMem_of_isUnsigned {t : List Char} (h : IsUnsigned t) : '-' ∉ t := by
  intro hmem
  cases h with
  | whole hne hall hlen => exact not_isDecimal_minus (hall '-' hmem)
  | point hne hall =>
    rcases List.mem_append.1 hmem with hmem | hmem
    · exact not_isDecimal_minus (hall '-' (List.mem_append_left _ hmem))
    · rcases List.mem_cons.1 hmem with heq | hmem
      · cases heq
      · exact not_isDecimal_minus (hall '-' (List.mem_append_right _ hmem))

lemma isNumeral_minus_iff {body : List Char} : IsNumeral ('-' :: body) ↔ IsUnsigned body := by
  constructor
  · intro h
    generalize htext : '-' :: body = t at h
    cases h with
    | plain h =>
      subst htext
      exact absurd List.mem_cons_self (minus_notMem_of_isUnsigned h)
    | minus h =>
      obtain rfl := (List.cons.inj htext).2
      exact h
  · exact .minus

lemma isNumeral_iff_of_head? {t : List Char} (h : t.head? ≠ some '-') :
    IsNumeral t ↔ IsUnsigned t := by
  constructor
  · intro ht
    cases ht with
    | plain ht => exact ht
    | minus ht => exact absurd rfl h
  · exact .plain

/-! ### Numerals with a point -/

lemma splitAtFirst_of_notMem {p : Char → Bool} {cs : List Char} (h : ∀ c ∈ cs, p c = false) :
    splitAtFirst p cs = (cs, none) := by
  have hdrop : cs.dropWhile (fun c => !p c) = [] :=
    List.dropWhile_eq_nil_iff.2 fun c hc => by rw [h c hc]; rfl
  rw [splitAtFirst, hdrop]

lemma splitAtFirst_append {p : Char → Bool} {a b : List Char} {c : Char}
    (ha : ∀ d ∈ a, p d = false) (hc : p c = true) :
    splitAtFirst p (a ++ c :: b) = (a, some b) := by
  have hall : ∀ d ∈ a, (!p d) = true := fun d hd => by rw [ha d hd]; rfl
  have hdrop : (a ++ c :: b).dropWhile (fun c => !p c) = c :: b := by
    rw [List.dropWhile_append_of_pos hall]
    simp [hc]
  have htake : (a ++ c :: b).takeWhile (fun c => !p c) = a := by
    rw [List.takeWhile_append_of_pos hall]
    simp [hc]
  rw [splitAtFirst, hdrop, htake]

/-- The digits on one side of a point are found exactly if they are decimal ones. -/
lemma digitRun0_map_eq {t : List Char} (ht : ∀ c ∈ t, InNumeral c) :
    digitRun0 (t.map plainChar) =
      if t.all isDecimal then some (t.map plainChar) else none := by
  unfold digitRun0
  cases t with
  | nil => rfl
  | cons c t =>
    rw [if_neg (by simp)]
    split
    · next hall =>
      exact (digitRun_map_eq_some_iff ht).2 ⟨rfl, by simp, List.all_eq_true.1 hall⟩
    · next hall =>
      rw [Option.eq_none_iff_forall_ne_some]
      intro ds hds
      exact hall (List.all_eq_true.2 ((digitRun_map_eq_some_iff ht).1 hds).2.2)

/-- A text with a point is a decimal numeral exactly if all else in it is decimal digits, and there
are any. -/
lemma isSome_readUnsigned_iff {a b : List Char} (ht : ∀ c ∈ a ++ '.' :: b, InNumeral c)
    (ha : '.' ∉ a) (negative : Bool) :
    (readUnsigned negative ((a ++ '.' :: b).map plainChar)).isSome = true ↔
      a ++ b ≠ [] ∧ ∀ c ∈ a ++ b, isDecimal c = true := by
  have hleft : ∀ c ∈ a, InNumeral c := fun c hc => ht c (List.mem_append_left _ hc)
  have hright : ∀ c ∈ b, InNumeral c := fun c hc =>
    ht c (List.mem_append_right _ (List.mem_cons_of_mem _ hc))
  have hpoint : plainChar '.' = '.' := by decide
  have hmap : (a ++ '.' :: b).map plainChar = a.map plainChar ++ '.' :: b.map plainChar := by
    rw [List.map_append, List.map_cons, hpoint]
  -- A word has no point.
  have hword (w : String) (hw : '.' ∉ w.toList) :
      (String.ofList (((a ++ '.' :: b).map plainChar).map Char.toLower) == w) = false := by
    rw [beq_eq_false_iff_ne]
    rintro rfl
    refine hw ?_
    rw [String.toList_ofList, hmap, List.map_append, List.map_cons]
    simp
  have hexponent : splitAtFirst (fun c => c == 'e' || c == 'E') ((a ++ '.' :: b).map plainChar) =
      ((a ++ '.' :: b).map plainChar, none) := by
    refine splitAtFirst_of_notMem fun c hc => ?_
    rw [Bool.or_eq_false_iff, beq_eq_false_iff_ne, beq_eq_false_iff_ne]
    constructor
    · rintro rfl
      exact notMem_map_plainChar ht (by decide) (by decide) hc
    · rintro rfl
      exact notMem_map_plainChar ht (by decide) (by decide) hc
  have hcut : splitAtFirst (· == '.') ((a ++ '.' :: b).map plainChar) =
      (a.map plainChar, some (b.map plainChar)) := by
    rw [hmap]
    refine splitAtFirst_append (fun d hd => ?_) rfl
    obtain ⟨c, hc, rfl⟩ := List.mem_map.1 hd
    rw [beq_eq_false_iff_ne]
    intro heq
    rcases plainChar_cases (hleft c hc) with ⟨-, h⟩ | ⟨-, h⟩ | ⟨rfl, -⟩ | ⟨-, h⟩
    · rw [heq] at h
      cases h
    · rw [heq] at h
      exact absurd h (by decide)
    · exact ha hc
    · rw [heq] at h
      exact absurd h (by decide)
  rw [readUnsigned, hword "inf" (by decide), hword "infinity" (by decide), hword "nan" (by decide),
    hexponent]
  dsimp only [Bool.or_self]
  rw [if_neg (by decide), if_neg (by decide), hcut]
  dsimp only [Option.map_some, Option.getD_some, readExponent]
  rw [digitRun0_map_eq hleft, digitRun0_map_eq hright]
  rw [← List.all_eq_true, List.all_append]
  cases a.all isDecimal with
  | false => simp
  | true =>
    cases b.all isDecimal with
    | false => simp
    | true =>
      by_cases hnil : a ++ b = []
      · obtain ⟨rfl, rfl⟩ := List.append_eq_nil_iff.1 hnil
        simp
      · have hfull : ¬ ((a.map plainChar).isEmpty && (b.map plainChar).isEmpty) = true := by
          simpa [List.isEmpty_iff] using hnil
        rw [if_pos rfl, if_pos rfl]
        dsimp only
        rw [if_neg hfull]
        exact iff_of_true rfl ⟨hnil, rfl⟩

end ScriptHost.Number

namespace ScriptHost.Script

open ScriptHost.Number ScriptHost.Text

/-! ### The test and the conversion -/

/-- What is taken for a numeral has only digits and marks of numerals in it. -/
lemma inNumeral_of_looksNumeric {t : List Char} (h : looksNumeric t = true) :
    ∀ c ∈ t, InNumeral c := by
  intro c hc
  by_cases hpoint : c = '.'
  · exact .inr (.inr hpoint)
  · by_cases hminus : c = '-'
    · exact .inr (.inl hminus)
    · have hmem : c ∈ eraseFirst '-' (eraseFirst '.' t) :=
        (List.mem_erase_of_ne hminus).2 ((List.mem_erase_of_ne hpoint).2 hc)
      exact .inl (List.all_eq_true.1 ((Bool.and_eq_true _ _).mp h).2 c hmem)

/-- A text splits into a sign, perhaps, and what follows it. -/
lemma exists_takeSign {t : List Char} (ht : ∀ c ∈ t, InNumeral c) :
    ∃ negative body, takeSign (t.map plainChar) = (negative, body.map plainChar) ∧
      (∀ c ∈ body, InNumeral c) ∧ ('.' ∈ body ↔ '.' ∈ t) ∧ (IsNumeral t ↔ IsUnsigned body) := by
  by_cases hminus : t.head? = some '-'
  · obtain ⟨body, rfl⟩ := List.head?_eq_some_iff.1 hminus
    refine ⟨true, body, takeSign_minus body, fun c hc => ht c (List.mem_cons_of_mem _ hc), ?_,
      isNumeral_minus_iff⟩
    simp
  · exact ⟨false, t, takeSign_unsigned ht hminus, ht, .rfl, isNumeral_iff_of_head? hminus⟩

/-- What is taken for a numeral can be converted exactly if it is one. -/
theorem numeral_eq_ok_iff {t : List Char} (h : looksNumeric t = true) :
    (∃ v, numeral t = .ok v) ↔ IsNumeral t := by
  have ht := inNumeral_of_looksNumeric h
  obtain ⟨negative, body, hsign, hbody, hmem, hnumeral⟩ := exists_takeSign ht
  rw [hnumeral]
  by_cases hpoint : '.' ∈ t
  · obtain ⟨a, b, rfl, ha⟩ := List.eq_append_cons_of_mem (hmem.2 hpoint)
    have hread : readFloat? t = readUnsigned negative ((a ++ '.' :: b).map plainChar) := by
      rw [readFloat?, plainNumeral_of_inNumeral ht, hsign]
    rw [isUnsigned_point_iff ha, ← isSome_readUnsigned_iff hbody ha negative, ← hread, numeral,
      if_pos (List.contains_iff_mem.2 hpoint), Value.toFloat, String.toList_ofList]
    cases readFloat? t with
    | none => simp [Except.map]
    | some x => simp [Except.map]
  · obtain ⟨ds, rest, rfl, hds, hhead⟩ := exists_decimals_append body
    have hwhole := readWhole_of_takeSign ht hds
      (fun c hc => hbody c (List.mem_append_right ds hc)) hhead hsign
    rw [isUnsigned_iff_of_notMem (mt hmem.1 hpoint), numeral,
      if_neg (mt List.contains_iff_mem.1 hpoint), Value.toWhole, Value.textToWhole,
      String.toList_ofList, hwhole]
    have hall : (∀ c ∈ ds ++ rest, isDecimal c = true) ↔ rest = [] := by
      constructor
      · intro hall
        cases rest with
        | nil => rfl
        | cons c rest =>
          have hc := hall c (List.mem_append_right ds List.mem_cons_self)
          rw [hhead c rfl] at hc
          cases hc
      · rintro rfl
        rwa [List.append_nil]
    -- Digits are wanted, not too many of them, and nothing after them.
    by_cases hnil : ds = []
    · rw [if_pos hnil]
      refine iff_of_false (by simp [Except.map]) ?_
      rintro ⟨hne, hdecimal, -⟩
      exact hne (by rw [hnil, hall.1 hdecimal]; rfl)
    · by_cases hlong : digitLimit < ds.length
      · rw [if_neg hnil, if_pos hlong]
        refine iff_of_false (by simp [Except.map]) ?_
        rintro ⟨-, -, hle⟩
        rw [List.length_append] at hle
        omega
      · by_cases hrest : rest = []
        · rw [if_neg hnil, if_neg hlong, if_pos hrest]
          refine iff_of_true ⟨_, rfl⟩ ⟨?_, hall.2 hrest, ?_⟩
          · exact List.append_ne_nil_of_left_ne_nil hnil rest
          · rw [hrest, List.append_nil]
            omega
        · rw [if_neg hnil, if_neg hlong, if_neg hrest]
          refine iff_of_false (by simp [Except.map]) ?_
          rintro ⟨-, hdecimal, -⟩
          exact hrest (hall.1 hdecimal)

end ScriptHost.Script
