import ScriptHost.Proofs.FloorDivision
import ScriptHost.Proofs.DateSpans

/-!
# Whole numbers through doubles

`Int`, `Fix`, `CInt` and `CLng` turn their argument into a double first. For a whole number that is
the nearest double, and a half goes to the even mantissa. Beyond `2^53` doubles are whole numbers a
power of two apart, so the number is brought to a multiple of that spacing; it is kept exactly if it
is a number of at most 53 bits times a power of two. From half a spacing above the largest double on
there is no double to go to.
-/

namespace ScriptHost

namespace Number

/-! ### The nearest multiple -/

/-- Rounding misses by half the divisor at most, and by just a half only if the quotient is even. -/
lemma roundDiv_error (n : Nat) {d : Nat} (hd : 0 < d) :
    2 * |((roundDiv n d * d : Nat) : Int) - n| ≤ d ∧
      (2 * |((roundDiv n d * d : Nat) : Int) - n| = d → roundDiv n d % 2 = 0) := by
  have hrest : n % d < d := Nat.mod_lt n hd
  have hdown : ((n / d * d : Nat) : Int) - n = -((n % d : Nat) : Int) := by
    have hwhole := Nat.div_add_mod' n d
    omega
  have hup : (((n / d + 1) * d : Nat) : Int) - n = ((d - n % d : Nat) : Int) := by
    have hwhole := Nat.div_add_mod' n d
    rw [Nat.add_mul, Nat.one_mul]
    omega
  unfold roundDiv
  dsimp only
  split_ifs with hless hmore heven
  · rw [hdown, abs_neg, Nat.abs_cast]
    constructor <;> omega
  · rw [hup, Nat.abs_cast]
    constructor <;> omega
  · rw [hdown, abs_neg, Nat.abs_cast]
    rw [beq_iff_eq] at heven
    constructor <;> omega
  · rw [hup, Nat.abs_cast]
    rw [beq_iff_eq] at heven
    constructor <;> omega

/-- No multiple of the divisor is nearer, and if another one is as near then the quotient is even.
-/
lemma roundDiv_nearest (n : Nat) {d : Nat} (hd : 0 < d) (q : Int) :
    |((roundDiv n d * d : Nat) : Int) - n| ≤ |q * d - n| ∧
      (|q * d - n| = |((roundDiv n d * d : Nat) : Int) - n| → q ≠ roundDiv n d →
        roundDiv n d % 2 = 0) := by
  obtain ⟨herror, htie⟩ := roundDiv_error n hd
  by_cases hq : q = roundDiv n d
  · subst hq
    exact ⟨by rw [Nat.cast_mul], fun _ hne => absurd rfl hne⟩
  · have hapart : (d : Int) ≤ |q * d - ((roundDiv n d * d : Nat) : Int)| := by
      have hone : 1 ≤ |q - roundDiv n d| := Int.one_le_abs (sub_ne_zero.2 hq)
      rw [Nat.cast_mul, ← sub_mul, abs_mul, Nat.abs_cast]
      exact le_mul_of_one_le_left (Int.natCast_nonneg d) hone
    have htriangle := abs_sub_le (q * d) (n : Int) ((roundDiv n d * d : Nat) : Int)
    rw [abs_sub_comm (n : Int)] at htriangle
    refine ⟨by omega, fun hsame _ => htie (by omega)⟩

/-! ### Doubles near a whole number -/

/-- How far apart the doubles are that are as large as a whole number; one if they are less than
that apart. -/
def spacing (n : Nat) : Nat := twoPow (n.log2 - 52)

/-- A whole number brought to a multiple of its spacing, a half to the even one. -/
def rounded (n : Nat) : Nat := roundDiv n (spacing n) * spacing n

lemma twoPow_54 : twoPow 54 = 18014398509481984 := rfl

lemma twoPow_succ (k : Nat) : twoPow (k + 1) = 2 * twoPow k :=
  Nat.pow_succ'

lemma lt_twoPow_log2 (n : Nat) : n < twoPow (n.log2 + 1) :=
  Nat.lt_log2_self

lemma twoPow_log2_le {n : Nat} (hn : 0 < n) : twoPow n.log2 ≤ n :=
  Nat.log2_self_le hn.ne'

lemma pos_of_log2 {n : Nat} (h : 52 ≤ n.log2) : 0 < n := by
  rcases Nat.eq_zero_or_pos n with rfl | hn
  · exact absurd h (by decide)
  · exact hn

lemma spacing_pos (n : Nat) : 0 < spacing n := twoPow_pos _

lemma rounded_of_log2_le {n : Nat} (h : n.log2 ≤ 52) : rounded n = n := by
  have hone : spacing n = 1 := by
    rw [spacing, Nat.sub_eq_zero_of_le h]
    rfl
  have hround := roundDiv_mul n Nat.one_pos
  rw [Nat.mul_one] at hround
  rw [rounded, hone, hround, Nat.mul_one]

lemma spacing_mul_twoPow {n : Nat} (h : 52 ≤ n.log2) : spacing n * twoPow 52 = twoPow n.log2 := by
  rw [spacing, ← twoPow_add, Nat.sub_add_cancel h]

/-- The mantissa of a whole number has 53 bits, or is the power of two above. -/
lemma roundDiv_spacing_between {n : Nat} (h : 52 ≤ n.log2) :
    twoPow 52 ≤ roundDiv n (spacing n) ∧ roundDiv n (spacing n) ≤ twoPow 53 := by
  have hlow : twoPow 52 ≤ n / spacing n := by
    rw [Nat.le_div_iff_mul_le (spacing_pos n), Nat.mul_comm, spacing_mul_twoPow h]
    exact twoPow_log2_le (pos_of_log2 h)
  have hhigh : n / spacing n < twoPow 53 := by
    rw [Nat.div_lt_iff_lt_mul (spacing_pos n), twoPow_add 52 1, Nat.mul_right_comm,
      Nat.mul_comm (twoPow 52), spacing_mul_twoPow h, ← twoPow_add]
    exact lt_twoPow_log2 n
  have hge := roundDiv_ge n (spacing n)
  have hle := roundDiv_le n (spacing n)
  omega

/-- A double that is not less than the power of two below a number is a multiple of the number's
spacing. -/
lemma exists_mul_spacing {c : Binary} (hc : c.IsDouble) {n : Nat} (h : 52 ≤ n.log2)
    (hlarge : (twoPow n.log2 : ℚ) ≤ c.value) : ∃ q : Int, c.value = q * spacing n := by
  have hexponent : ((n.log2 - 52 : Nat) : Int) ≤ c.exponent := by
    by_contra hless
    have hsize : |c.value| < 2 ^ (n.log2 : Int) := by
      rw [c.abs_value]
      calc (c.mantissa : ℚ) * 2 ^ c.exponent < 2 ^ (53 : Int) * 2 ^ c.exponent := by
            gcongr
            have hmantissa := hc.mantissa_lt
            rw [← Nat.cast_lt (α := ℚ), cast_twoPow] at hmantissa
            exact_mod_cast hmantissa
        _ = 2 ^ (53 + c.exponent) := (zpow_add₀ (by norm_num) _ _).symm
        _ ≤ 2 ^ (n.log2 : Int) := zpow_le_zpow_right₀ (by norm_num) (by omega)
    rw [cast_twoPow, ← zpow_natCast] at hlarge
    exact absurd (le_abs_self c.value) (not_le.2 (hsize.trans_le hlarge))
  obtain ⟨j, hj⟩ := Int.le.dest hexponent
  refine ⟨c.signed c.mantissa * twoPow j, ?_⟩
  rw [Binary.value, ← hj, zpow_add₀ (by norm_num), zpow_natCast, zpow_natCast, spacing]
  push_cast [cast_twoPow]
  ring

/-- No double is nearer to a number than its multiple of the spacing, and if another one is as near
then the multiple is an even one. -/
lemma rounded_nearest {c : Binary} (hc : c.IsDouble) (n : Nat) :
    |(rounded n : ℚ) - n| ≤ |c.value - n| ∧
      (|c.value - n| = |(rounded n : ℚ) - n| → c.value ≠ rounded n →
        52 ≤ n.log2 ∧ roundDiv n (spacing n) % 2 = 0) := by
  rcases Nat.lt_or_ge n.log2 52 with hsmall | hlarge
  · rw [rounded_of_log2_le hsmall.le, sub_self, abs_zero]
    refine ⟨abs_nonneg _, fun hsame hne => absurd (sub_eq_zero.1 (abs_eq_zero.1 hsame)) hne⟩
  · have hcast (q : Int) : ((|q * spacing n - n| : Int) : ℚ) = |(q : ℚ) * spacing n - n| := by
      push_cast; rfl
    have hrounded : ((|((roundDiv n (spacing n) * spacing n : Nat) : Int) - n| : Int) : ℚ) =
        |(rounded n : ℚ) - n| := by
      push_cast [rounded]
      rfl
    by_cases hbelow : c.value < twoPow n.log2
    · -- The power of two below the number is nearer, and it is a multiple of the spacing.
      have hle : (twoPow n.log2 : ℚ) ≤ n := Nat.cast_le.2 (twoPow_log2_le (pos_of_log2 hlarge))
      have hpower := (roundDiv_nearest n (spacing_pos n) (twoPow 52 : Nat)).1
      rw [← Int.cast_le (R := ℚ), hrounded, hcast, Int.cast_natCast, mul_comm, ← Nat.cast_mul,
        spacing_mul_twoPow hlarge, abs_of_nonpos (sub_nonpos.2 hle)] at hpower
      have hfar : |c.value - n| = n - c.value := by
        rw [abs_of_nonpos (by linarith), neg_sub]
      rw [hfar]
      exact ⟨by linarith, fun hsame _ => by linarith⟩
    · obtain ⟨q, hq⟩ := exists_mul_spacing hc hlarge (not_lt.1 hbelow)
      obtain ⟨hle, htie⟩ := roundDiv_nearest n (spacing_pos n) q
      rw [hq, ← hcast, ← hrounded]
      refine ⟨Int.cast_le.2 hle, fun hsame hne => ⟨hlarge, htie (Int.cast_inj.1 hsame) ?_⟩⟩
      rintro rfl
      exact hne (by push_cast [rounded]; rfl)

/-! ### The double of a whole number -/

/-- The least whole number without a nearest double: it lies half a spacing above the largest one.
-/
def overflowBound : Nat := twoPow 1024 - twoPow 970

lemma overflowBound_eq : overflowBound = 18014398509481983 * twoPow 970 := by
  rw [overflowBound, show (1024 : Nat) = 54 + 970 from rfl, twoPow_add, twoPow_54]
  generalize twoPow 970 = unit
  omega

lemma overflowBound_between : twoPow 1023 ≤ overflowBound ∧ overflowBound < twoPow 1024 := by
  have hpos := twoPow_pos 970
  rw [overflowBound_eq, show (1024 : Nat) = 54 + 970 from rfl,
    show (1023 : Nat) = 53 + 970 from rfl, twoPow_add, twoPow_add, twoPow_54, twoPow_53]
  generalize twoPow 970 = unit at *
  omega

/-- Numbers of 1024 bits are below the bound if they are not rounded up to the next power of two. -/
lemma lt_overflowBound_iff_of_log2_eq {n : Nat} (h : n.log2 = 1023) :
    n < overflowBound ↔ roundDiv n (spacing n) ≠ twoPow 53 := by
  have hlarge : 52 ≤ n.log2 := h ▸ (by decide)
  have hspacing : spacing n = 2 * twoPow 970 := by
    rw [spacing, h, show 1023 - 52 = 970 + 1 from rfl, twoPow_succ]
  have hlt : n < 18014398509481984 * twoPow 970 := by
    have hlt := lt_twoPow_log2 n
    rwa [h, show 1023 + 1 = 54 + 970 from rfl, twoPow_add, twoPow_54] at hlt
  have hpos := twoPow_pos 970
  have hle := (roundDiv_spacing_between hlarge).2
  obtain ⟨herror, htie⟩ := roundDiv_error n (spacing_pos n)
  rw [Int.abs_eq_natAbs] at herror htie
  rw [overflowBound_eq]
  generalize roundDiv n (spacing n) = m at *
  rw [hspacing] at herror htie
  generalize twoPow 970 = unit at *
  rw [twoPow_53] at hle ⊢
  constructor
  · rintro hless rfl
    omega
  · intro hne
    by_contra hge
    -- A number at the bound or above is half a spacing or more away from every smaller multiple.
    have hmultiple : m * (2 * unit) ≤ 9007199254740991 * (2 * unit) :=
      Nat.mul_le_mul_right _ (by omega)
    have heven : m % 2 = 0 := htie (by omega)
    have hsmaller : m * (2 * unit) ≤ 9007199254740990 * (2 * unit) :=
      Nat.mul_le_mul_right _ (by omega)
    omega

/-- Numbers below the bound are those whose rounded mantissa has an exponent that a double can have.
-/
lemma lt_overflowBound_iff {n : Nat} (h : 52 ≤ n.log2) :
    n < overflowBound ↔ n.log2 ≤ 1022 ∨ n.log2 = 1023 ∧ roundDiv n (spacing n) ≠ twoPow 53 := by
  obtain ⟨hlow, hhigh⟩ := overflowBound_between
  rcases Nat.lt_trichotomy n.log2 1023 with hless | hequal | hgreater
  · have hlt : n < twoPow 1023 := (lt_twoPow_log2 n).trans_le (twoPow_le hless)
    exact iff_of_true (hlt.trans_le hlow) (.inl (by omega))
  · rw [lt_overflowBound_iff_of_log2_eq hequal]
    exact ⟨fun hne => .inr ⟨hequal, hne⟩, fun hor => (hor.resolve_left (by omega)).2⟩
  · have hge : twoPow 1024 ≤ n := (twoPow_le hgreater).trans (twoPow_log2_le (pos_of_log2 h))
    refine iff_of_false (Nat.not_lt.2 (hhigh.le.trans hge)) ?_
    rintro (hle | ⟨hequal, -⟩) <;> omega

lemma exponentOf_one {n : Nat} (h : 52 ≤ n.log2) :
    exponentOf n 1 = ((n.log2 - 52 : Nat) : Int) := by
  have hguess : (n.log2 : Int) - Nat.log2 1 - 52 = ((n.log2 - 52 : Nat) : Int) := by
    have hone : Nat.log2 1 = 0 := rfl
    omega
  have hfull : ¬ n < 1 * twoPow (n.log2 - 52) * twoPow 52 := by
    rw [Nat.one_mul, ← spacing, spacing_mul_twoPow h, Nat.not_lt]
    exact twoPow_log2_le (pos_of_log2 h)
  rw [exponentOf, hguess, scale_neg_natCast, if_neg hfull]
  omega

lemma nearest_one {n : Nat} (h : 52 ≤ n.log2) (s : Bool) :
    nearest s n 1 = assemble s (roundDiv n (spacing n)) ((n.log2 - 52 : Nat) : Int) := by
  have hn : ¬ (n == 0) = true := by simpa using (pos_of_log2 h).ne'
  rw [nearest, if_neg hn, exponentOf_one h]
  dsimp only
  rw [scale_neg_natCast, Nat.one_mul, spacing]

/-- Below the bound the nearest double is finite and has the size of the rounded number, with an
even mantissa if the rounded number is an even multiple. -/
lemma exists_parts_nearest_one {n : Nat} (hn : n < overflowBound) (s : Bool) :
    ∃ b, parts (nearest s n 1) = .finite b ∧ b.negative = s ∧
      (b.mantissa * 2 ^ b.exponent : ℚ) = rounded n ∧
      (52 ≤ n.log2 → roundDiv n (spacing n) % 2 = 0 → b.mantissa % 2 = 0) := by
  rcases Nat.lt_or_ge n.log2 52 with hsmall | hlarge
  · have hlt : n < twoPow 53 := (lt_twoPow_log2 n).trans_le (twoPow_le (by omega))
    obtain ⟨j, hj⟩ := isWhole_nearest s hlt Nat.one_pos
    rw [Nat.mul_one] at hj
    refine ⟨_, hj, rfl, ?_, fun hge => absurd hge (Nat.not_le.2 hsmall)⟩
    rw [rounded_of_log2_le hsmall.le, zpow_neg, zpow_natCast, Nat.cast_mul, cast_twoPow,
      mul_inv_cancel_right₀ (by positivity)]
  · obtain ⟨hlow, hhigh⟩ := roundDiv_spacing_between hlarge
    have hfits := (lt_overflowBound_iff hlarge).1 hn
    have hvalue : (rounded n : ℚ) = roundDiv n (spacing n) * 2 ^ (n.log2 - 52) := by
      rw [rounded, Nat.cast_mul, spacing, cast_twoPow]
    rw [nearest_one hlarge]
    by_cases hcarry : roundDiv n (spacing n) = twoPow 53
    · rw [hcarry] at hfits hvalue ⊢
      rw [assemble_carry]
      have hmantissa : twoPow 52 < twoPow 53 := by decide
      refine ⟨⟨s, twoPow 52, ((n.log2 - 52 : Nat) : Int) + 1⟩,
        parts_assemble ⟨hmantissa, ?_, ?_, .inl le_rfl⟩, rfl, ?_,
        fun _ _ => (by decide : twoPow 52 % 2 = 0)⟩
      · dsimp only
        omega
      · have hless := hfits.resolve_right fun h => h.2 rfl
        dsimp only
        omega
      · rw [hvalue, zpow_add_one₀ (by norm_num), zpow_natCast, cast_twoPow, cast_twoPow]
        ring
    · refine ⟨⟨s, roundDiv n (spacing n), ((n.log2 - 52 : Nat) : Int)⟩,
        parts_assemble ⟨?_, ?_, ?_, .inl hlow⟩, rfl, ?_,
        fun _ heven => heven⟩
      · exact Nat.lt_of_le_of_ne hhigh hcarry
      · dsimp only
        omega
      · dsimp only
        omega
      · rw [hvalue, zpow_natCast]

lemma isInf_assemble {m : Nat} {e : Int} (hm : twoPow 52 ≤ m) (hm' : m < twoPow 53) (he : 972 ≤ e)
    (s : Bool) :
    (assemble s m e).isInf = true := by
  rw [assemble, if_neg (by simpa using hm'.ne)]
  dsimp only
  rw [if_neg (Nat.not_lt.2 hm), if_pos (by omega)]
  cases s with
  | false => rfl
  | true => rfl

/-- From the bound on the nearest double is infinite. -/
lemma isInf_nearest_one {n : Nat} (hn : overflowBound ≤ n) (s : Bool) :
    (nearest s n 1).isInf = true := by
  have hlarge : 52 ≤ n.log2 := by
    have hpower : twoPow 52 ≤ n := (twoPow_le (by decide)).trans (overflowBound_between.1.trans hn)
    exact (Nat.le_log2 (Nat.lt_of_lt_of_le (twoPow_pos 52) hpower).ne').2 hpower
  obtain ⟨hlow, hhigh⟩ := roundDiv_spacing_between hlarge
  have hover := mt (lt_overflowBound_iff hlarge).2 (Nat.not_lt.2 hn)
  rw [not_or, not_and_or, not_not] at hover
  rw [nearest_one hlarge]
  by_cases hcarry : roundDiv n (spacing n) = twoPow 53
  · rw [hcarry, assemble_carry]
    exact isInf_assemble le_rfl (by decide) (by omega) s
  · exact isInf_assemble hlow (Nat.lt_of_le_of_ne hhigh hcarry) (by omega) s

/-- A double as near to a whole number as any, with an even mantissa if another one is as near. -/
structure Binary.IsNearest (b : Binary) (n : Int) : Prop where
  isDouble : b.IsDouble
  le : ∀ c : Binary, c.IsDouble → |b.value - n| ≤ |c.value - n|
  even : ∀ c : Binary, c.IsDouble → |c.value - n| = |b.value - n| → c.value ≠ b.value →
    b.mantissa % 2 = 0

/-- A whole number brought to the whole number that its nearest double stands for. -/
def nearestWhole (n : Int) : Int :=
  if n < 0 then -(rounded n.natAbs : Int) else rounded n.natAbs

lemma Binary.IsDouble.exists_neg {c : Binary} (hc : c.IsDouble) : ∃ d :
    Binary, d.IsDouble ∧ d.value = -c.value := by
  refine ⟨⟨!c.negative, c.mantissa, c.exponent⟩, ⟨hc.mantissa_lt, hc.exponent_ge, hc.exponent_le,
    hc.mantissa_ge⟩, ?_⟩
  rw [Binary.value, Binary.value, ← neg_mul, ← Int.cast_neg]
  congr 2
  unfold Binary.signed
  cases c.negative <;> simp

/-- No double is nearer to a number of any sign, and if another one is as near then the multiple is
an even one. -/
lemma nearestWhole_nearest {c : Binary} (hc : c.IsDouble) (n : Int) :
    |(nearestWhole n : ℚ) - n| ≤ |c.value - n| ∧
      (|c.value - n| = |(nearestWhole n : ℚ) - n| → c.value ≠ nearestWhole n →
        52 ≤ n.natAbs.log2 ∧ roundDiv n.natAbs (spacing n.natAbs) % 2 = 0) := by
  rw [nearestWhole]
  split_ifs with hneg
  · -- A negative number is as far from a double as its size is from the double with the other sign.
    have hsize : (n : ℚ) = -(n.natAbs : ℚ) := by
      rw [← Int.cast_natCast n.natAbs, ← Int.cast_neg, Int.cast_inj]
      omega
    obtain ⟨d, hd, hopposite⟩ := hc.exists_neg
    have hvalue : c.value = -d.value := (neg_eq_iff_eq_neg.2 hopposite).symm
    rw [hsize, hvalue, Int.cast_neg, Int.cast_natCast, neg_sub_neg, neg_sub_neg,
      abs_sub_comm _ d.value, abs_sub_comm _ (rounded n.natAbs : ℚ), neg_inj.ne]
    exact rounded_nearest hd n.natAbs
  · have hsize : (n : ℚ) = n.natAbs := by
      rw [← Int.cast_natCast n.natAbs, Int.cast_inj]
      omega
    rw [hsize, Int.cast_natCast]
    exact rounded_nearest hc n.natAbs

/-- Below the bound a whole number has a nearest double. -/
theorem exists_isNearest {n : Int} (hn : n.natAbs < overflowBound) :
    ∃ x b, ofInt? n = some x ∧ parts x = .finite b ∧ b.IsNearest n ∧ b.value = nearestWhole n := by
  obtain ⟨b, hparts, hsign, hsize, heven⟩ := exists_parts_nearest_one hn (n < 0)
  have hvalue : b.value = nearestWhole n := by
    rw [Binary.value, Binary.signed, hsign, nearestWhole]
    simp only [decide_eq_true_iff]
    split_ifs
    · push_cast
      rw [neg_mul, hsize]
    · push_cast
      exact hsize
  have hfound : ofInt? n = some (nearest (n < 0) n.natAbs 1) := by
    rw [ofInt?, isInf_of_parts hparts]
    rfl
  refine ⟨_, b, hfound, hparts, ⟨isDouble_of_parts hparts, ?_, ?_⟩, hvalue⟩
  · intro c hc
    rw [hvalue]
    exact (nearestWhole_nearest hc n).1
  · intro c hc hsame hne
    rw [hvalue] at hsame hne
    obtain ⟨hlarge, htie⟩ := (nearestWhole_nearest hc n).2 hsame hne
    exact heven hlarge htie

lemma ofInt?_of_overflowBound_le {n : Int} (hn : overflowBound ≤ n.natAbs) : ofInt? n = none := by
  rw [ofInt?, isInf_nearest_one hn]
  rfl

/-- The numbers that are kept have at most 53 bits before the zeros at their end. -/
lemma rounded_eq_iff (n : Nat) : rounded n = n ↔ ∃ k j, k < twoPow 53 ∧ n = k * twoPow j := by
  rcases Nat.lt_or_ge n.log2 53 with hsmall | hlarge
  · refine iff_of_true (rounded_of_log2_le (Nat.lt_succ_iff.1 hsmall)) ⟨n, 0, ?_,
      (Nat.mul_one n).symm⟩
    exact (lt_twoPow_log2 n).trans_le (twoPow_le hsmall)
  · have hlarge' : 52 ≤ n.log2 := Nat.le_of_succ_le hlarge
    constructor
    · intro hsame
      obtain ⟨-, hle⟩ := roundDiv_spacing_between hlarge'
      rcases Nat.lt_or_eq_of_le hle with hless | hcarry
      · exact ⟨_, _, hless, hsame.symm⟩
      · refine ⟨1, 53 + (n.log2 - 52), by decide, ?_⟩
        rw [Nat.one_mul, twoPow_add, ← hcarry]
        exact hsame.symm
    · rintro ⟨k, j, hk, hkj⟩
      have hj : n.log2 - 52 ≤ j := by
        by_contra hless
        have hlt : n < twoPow n.log2 := by
          calc n = k * twoPow j := hkj
            _ < twoPow 53 * twoPow j := Nat.mul_lt_mul_of_pos_right hk (twoPow_pos j)
            _ = twoPow (53 + j) := (twoPow_add 53 j).symm
            _ ≤ twoPow n.log2 := twoPow_le (by omega)
        exact absurd (twoPow_log2_le (pos_of_log2 hlarge')) (Nat.not_le.2 hlt)
      have hmultiple : n = k * twoPow (j - (n.log2 - 52)) * spacing n := by
        rw [spacing, Nat.mul_assoc, ← twoPow_add, Nat.sub_add_cancel hj]
        exact hkj
      have hquotient := roundDiv_mul (k * twoPow (j - (n.log2 - 52))) (spacing_pos n)
      rw [← hmultiple] at hquotient
      rw [rounded, hquotient]
      exact hmultiple.symm

lemma nearestWhole_eq_iff (n : Int) : nearestWhole n = n ↔ ∃ k j, k < twoPow 53 ∧
    n.natAbs = k * twoPow j := by
  rw [← rounded_eq_iff, nearestWhole]
  split_ifs <;> omega

/-- A double that stands for a whole number is that number, whichever way it is rounded. -/
lemma Binary.floor_ceil_round {b : Binary} {m : Int} (h : b.value = m) :
    b.floor = m ∧ b.ceil = m ∧ b.round = m := by
  have hpos : 0 < b.fraction.2 := scale_pos b.mantissa Nat.one_pos b.exponent
  have hsigned : b.signed b.fraction.1 = m * b.fraction.2 := by
    have hratio := scale_ratio b.mantissa 1 b.exponent
    rw [Nat.cast_one, div_one, div_eq_iff (Nat.cast_ne_zero.2 hpos.ne')] at hratio
    rw [← Int.cast_inj (α := ℚ), Int.cast_mul, ← h, Binary.value, b.signed_eq,
      b.signed_eq b.mantissa]
    push_cast
    rw [Binary.fraction, hratio]
    ring
  have hsize : b.fraction.1 = m.natAbs * b.fraction.2 := by
    have hnat := congrArg Int.natAbs hsigned
    rw [Int.natAbs_mul, Int.natAbs_natCast] at hnat
    rw [← hnat, Binary.signed]
    split_ifs <;> simp
  have hne : (b.fraction.2 : Int) ≠ 0 := Int.natCast_ne_zero.2 hpos.ne'
  refine ⟨?_, ?_, ?_⟩
  · rw [Binary.floor]
    dsimp only
    rw [hsigned, Int.mul_fdiv_cancel _ hne]
  · rw [Binary.ceil]
    dsimp only
    rw [hsigned, ← Int.neg_mul, Int.mul_fdiv_cancel _ hne]
    exact Int.neg_neg m
  · rw [Binary.round]
    dsimp only
    rw [hsize, roundDiv_mul _ hpos]
    refine Int.eq_of_mul_eq_mul_right hne ?_
    rw [← hsigned, hsize, b.signed_eq, b.signed_eq (_ * _), Nat.cast_mul, Int.mul_assoc]

end Number

namespace NumberFunction

open Number DateFunction

variable {n : Int}

/-- Below the bound each of the roundings gives the whole number that the nearest double stands for.
-/
lemma exists_floatToWhole (hn : n.natAbs < overflowBound) :
    ∃ x, (Value.int n).toFloat = .ok x ∧ Value.floatToWhole Binary.floor x = .ok (nearestWhole n) ∧
      Value.floatToWhole Binary.ceil x = .ok (nearestWhole n) ∧
      Value.floatToWhole Binary.round x = .ok (nearestWhole n) := by
  obtain ⟨x, b, hx, hparts, -, hvalue⟩ := exists_isNearest hn
  obtain ⟨hfloor, hceil, hround⟩ := Binary.floor_ceil_round hvalue
  have hwhole (round : Binary → Int) : Value.floatToWhole round x = .ok (round b) := by
    rw [Value.floatToWhole, hparts]
  refine ⟨x, ?_, by rw [hwhole, hfloor], by rw [hwhole, hceil], by rw [hwhole, hround]⟩
  simp only [Value.toFloat, Value.whole?, hx]

lemma toFloat_int_of_overflow (hn : overflowBound ≤ n.natAbs) :
    (Value.int n).toFloat = .error .tooLargeForFloat := by
  simp only [Value.toFloat, Value.whole?, ofInt?_of_overflowBound_le hn]

lemma floorOf_int (hn : n.natAbs < overflowBound) :
    floorOf (.int n) = .ok (.int (nearestWhole n)) := by
  obtain ⟨x, hx, hfloor, -, -⟩ := exists_floatToWhole hn
  rw [floorOf, hx, ok_bind, hfloor, ok_bind]
  rfl

/-- Down or up makes no difference, so the sign of the double does not matter. -/
lemma fixOf_int (hn : n.natAbs < overflowBound) : fixOf (.int n) = .ok (.int (nearestWhole n)) := by
  obtain ⟨x, hx, hfloor, hceil, -⟩ := exists_floatToWhole hn
  have hfix : fix x = .ok (nearestWhole n) := by
    rw [fix]
    split_ifs
    · exact hfloor
    · exact hceil
  rw [fixOf, hx, ok_bind, hfix, ok_bind]
  rfl

lemma nearestOrZero_int (hn : n.natAbs < overflowBound) :
    nearestOrZero (.int n) = nearestWhole n := by
  obtain ⟨x, hx, -, -, hround⟩ := exists_floatToWhole hn
  rw [nearestOrZero, hx]
  dsimp only
  rw [hround]
  rfl

end NumberFunction

namespace Catalog

open Number NumberFunction

lemma carryOut_int {int : Routine} (h : numbers.lookup "Int" = some int) (v : Value) (w : World) :
    (int.call [v] []).carryOut w = (floorOf v, w) := by
  obtain rfl : _ = int := Option.some.inj h
  exact carryOut_of_run rfl rfl w

lemma carryOut_fix {fix : Routine} (h : numbers.lookup "Fix" = some fix) (v : Value) (w : World) :
    (fix.call [v] []).carryOut w = (fixOf v, w) := by
  obtain rfl : _ = fix := Option.some.inj h
  exact carryOut_of_run rfl rfl w

lemma carryOut_nearest {name : String} (hname : name = "CInt" ∨ name = "CLng") {routine : Routine}
    (h : conversions.lookup name = some routine) (v : Value) (w : World) :
    (routine.call [v] []).carryOut w = (.ok (.int (nearestOrZero v)), w) := by
  rcases hname with rfl | rfl
  · obtain rfl : _ = routine := Option.some.inj h
    exact carryOut_of_run rfl rfl w
  · obtain rfl : _ = routine := Option.some.inj h
    exact carryOut_of_run rfl rfl w

/-- `Int`, `Fix`, `CInt` and `CLng` give the whole number that the double nearest to a whole number
stands for. That is the number itself exactly if it has at most 53 bits before the zeros at its end.
Where there is no nearest double, `Int` and `Fix` fail, and `CInt` and `CLng` give zero. -/
theorem whole_conversions {int fix cInt cLng : Routine} (hint : numbers.lookup "Int" = some int)
    (hfix : numbers.lookup "Fix" = some fix) (hcInt : conversions.lookup "CInt" = some cInt)
    (hcLng : conversions.lookup "CLng" = some cLng) (n : Int) (w : World) :
    (n.natAbs < overflowBound → ∃ (b : Binary) (m : Int), b.IsNearest n ∧ b.value = m ∧
      (int.call [.int n] []).carryOut w = (.ok (.int m), w) ∧
      (fix.call [.int n] []).carryOut w = (.ok (.int m), w) ∧
      (cInt.call [.int n] []).carryOut w = (.ok (.int m), w) ∧
      (cLng.call [.int n] []).carryOut w = (.ok (.int m), w) ∧
      (m = n ↔ ∃ k j, k < twoPow 53 ∧ n.natAbs = k * twoPow j)) ∧
    (overflowBound ≤ n.natAbs →
      (int.call [.int n] []).carryOut w = (.error .tooLargeForFloat, w) ∧
      (fix.call [.int n] []).carryOut w = (.error .tooLargeForFloat, w) ∧
      (cInt.call [.int n] []).carryOut w = (.ok (.int 0), w) ∧
      (cLng.call [.int n] []).carryOut w = (.ok (.int 0), w)) := by
  rw [carryOut_int hint, carryOut_fix hfix, carryOut_nearest (.inl rfl) hcInt,
    carryOut_nearest (.inr rfl) hcLng]
  constructor
  · intro hn
    obtain ⟨-, b, -, -, hnearest, hvalue⟩ := exists_isNearest hn
    refine ⟨b, nearestWhole n, hnearest, hvalue, ?_, ?_, ?_, ?_, nearestWhole_eq_iff n⟩
    · rw [floorOf_int hn]
    · rw [fixOf_int hn]
    · rw [nearestOrZero_int hn]
    · rw [nearestOrZero_int hn]
  · intro hn
    have htoo := toFloat_int_of_overflow hn
    have hzero : nearestOrZero (.int n) = 0 := by rw [nearestOrZero, htoo]
    refine ⟨?_, ?_, ?_, ?_⟩
    · rw [floorOf, htoo]
      rfl
    · rw [fixOf, htoo]
      rfl
    · rw [hzero]
    · rw [hzero]

/-- A negative number of 53 bits and seven zeros is kept, and a power of two beyond the largest
double is lost. -/
theorem whole_conversions_fullMantissa : ∃ int fix cInt cLng, numbers.lookup "Int" = some int ∧
    numbers.lookup "Fix" = some fix ∧ conversions.lookup "CInt" = some cInt ∧
      conversions.lookup "CLng" = some cLng ∧
    (int.call [.int (-1152921504606846848)] []).carryOut Script.firstScene.world =
      (.ok (.int (-1152921504606846848)), Script.firstScene.world) ∧
    (fix.call [.int (-1152921504606846848)] []).carryOut Script.firstScene.world =
      (.ok (.int (-1152921504606846848)), Script.firstScene.world) ∧
    (cInt.call [.int (-1152921504606846848)] []).carryOut Script.firstScene.world =
      (.ok (.int (-1152921504606846848)), Script.firstScene.world) ∧
    (cLng.call [.int (-1152921504606846848)] []).carryOut Script.firstScene.world =
      (.ok (.int (-1152921504606846848)), Script.firstScene.world) ∧
    (int.call [.int (twoPow 1024 : Nat)] []).carryOut Script.firstScene.world =
      (.error .tooLargeForFloat, Script.firstScene.world) ∧
    (cInt.call [.int (twoPow 1024 : Nat)] []).carryOut Script.firstScene.world =
      (.ok (.int 0), Script.firstScene.world) := by
  obtain ⟨int, hint⟩ : ∃ int, numbers.lookup "Int" = some int := ⟨_, rfl⟩
  obtain ⟨fix, hfix⟩ : ∃ fix, numbers.lookup "Fix" = some fix := ⟨_, rfl⟩
  obtain ⟨cInt, hcInt⟩ : ∃ cInt, conversions.lookup "CInt" = some cInt := ⟨_, rfl⟩
  obtain ⟨cLng, hcLng⟩ : ∃ cLng, conversions.lookup "CLng" = some cLng := ⟨_, rfl⟩
  have hsmall : (-1152921504606846848 : Int).natAbs < overflowBound :=
    Nat.lt_of_lt_of_le (by decide : _ < twoPow 60)
      ((twoPow_le (by decide)).trans overflowBound_between.1)
  have hlarge : overflowBound ≤ ((twoPow 1024 : Nat) : Int).natAbs := by
    rw [Int.natAbs_natCast]
    exact overflowBound_between.2.le
  obtain ⟨-, m, -, -, hint', hfix', hcInt', hcLng', hiff⟩ :=
    (whole_conversions hint hfix hcInt hcLng (-1152921504606846848) Script.firstScene.world).1
      hsmall
  obtain ⟨hfail, -, hlost, -⟩ :=
    (whole_conversions hint hfix hcInt hcLng (twoPow 1024 : Nat) Script.firstScene.world).2 hlarge
  obtain rfl : m = -1152921504606846848 := hiff.2 ⟨9007199254740991, 7, by decide, by decide⟩
  exact ⟨int, fix, cInt, cLng, hint, hfix, hcInt, hcLng, hint', hfix', hcInt', hcLng', hfail, hlost⟩

/-- The first odd number beyond `2^53` goes to the even one below it. -/
theorem whole_conversions_lose_last_bit : ∃ int cLng, numbers.lookup "Int" = some int ∧
    conversions.lookup "CLng" = some cLng ∧
    (int.call [.int 9007199254740993] []).carryOut Script.firstScene.world =
      (.ok (.int 9007199254740992), Script.firstScene.world) ∧
    (cLng.call [.int 9007199254740993] []).carryOut Script.firstScene.world =
      (.ok (.int 9007199254740992), Script.firstScene.world) := by
  obtain ⟨int, hint⟩ : ∃ int, numbers.lookup "Int" = some int := ⟨_, rfl⟩
  obtain ⟨cLng, hcLng⟩ : ∃ cLng, conversions.lookup "CLng" = some cLng := ⟨_, rfl⟩
  have hsmall : (9007199254740993 : Int).natAbs < overflowBound :=
    Nat.lt_of_lt_of_le (by decide : _ < twoPow 60)
      ((twoPow_le (by decide)).trans overflowBound_between.1)
  have hrounded : nearestWhole 9007199254740993 = 9007199254740992 := by decide
  refine ⟨int, cLng, hint, hcLng, ?_, ?_⟩
  · rw [carryOut_int hint, floorOf_int hsmall, hrounded]
  · rw [carryOut_nearest (.inr rfl) hcLng, nearestOrZero_int hsmall, hrounded]

end Catalog

end ScriptHost
