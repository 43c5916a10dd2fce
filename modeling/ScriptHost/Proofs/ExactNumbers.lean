import ScriptHost.Proofs.WholeDoubles
import ScriptHost.Value.Basic

/-!
# Equal numbers

Whole numbers and doubles compare exactly, so two numbers are equal if and only if they stand for
the same exact number: a rational number or one of the two infinities (`Num.order?_eq_iff`). Not a
number stands for none. The two zeros stand for the same number; apart from them a double is
determined by the number it stands for, since a mantissa of 53 bits leaves no choice of the
exponent. So a whole number that is equal to some double is equal to the nearest one
(`ofInt?_of_value`).
-/

namespace ScriptHost

namespace Number

open Float.Model (Format)
open Float.Model.UnpackedFloat

/-! ### The fields of a double -/

/-- What the fields of a double stand for. -/
def ofFields (negative : Bool) (e f : Nat) : Parts :=
  if e = 2047 then if f = 0 then .infinite negative else .notANumber
  else .finite (if e = 0 then ⟨negative, f, -1074⟩ else ⟨negative, f + twoPow 52, (e : Int) - 1075⟩)

/-- A double is its sign, its exponent field and its fraction field. -/
structure HasFields (x : Float) (negative : Bool) (e f : Nat) : Prop where
  exponent_lt : e < 2048
  fraction_lt : f < twoPow 52
  toBits_eq : x.toBits.toNat = negative.toNat * twoPow 63 + e * twoPow 52 + f

lemma HasFields.exponent_eq {x : Float} {negative : Bool} {e f : Nat}
    (h : HasFields x negative e f) :
    x.toBits.toNat / twoPow 52 % 2048 = e := by
  obtain ⟨he, hf, hbits⟩ := h
  have hneg : negative.toNat < 2 := Bool.toNat_lt negative
  rw [twoPow_63, twoPow_52] at hbits
  rw [twoPow_52] at hf ⊢
  omega

lemma HasFields.fraction_eq {x : Float} {negative : Bool} {e f : Nat}
    (h : HasFields x negative e f) :
    x.toBits.toNat % twoPow 52 = f := by
  obtain ⟨he, hf, hbits⟩ := h
  rw [twoPow_63, twoPow_52] at hbits
  rw [twoPow_52] at hf ⊢
  omega

lemma exists_hasFields (x : Float) :
    ∃ negative e f, HasFields x negative e f ∧ parts x = ofFields negative e f := by
  have hlt : x.toBits.toNat < 2 ^ 64 := x.toBits.toNat_lt
  refine ⟨x.toBits.toNat / twoPow 63 == 1, x.toBits.toNat / twoPow 52 % 2048,
    x.toBits.toNat % twoPow 52, ⟨Nat.mod_lt _ (by decide), Nat.mod_lt _ (twoPow_pos 52), ?_⟩, ?_⟩
  · rw [twoPow_63, twoPow_52]
    have hsign : (x.toBits.toNat / 9223372036854775808 == 1).toNat =
        x.toBits.toNat / 9223372036854775808 := by
      have : x.toBits.toNat / 9223372036854775808 < 2 := by omega
      generalize x.toBits.toNat / 9223372036854775808 = s at this
      interval_cases s <;> rfl
    rw [hsign]
    omega
  · simp only [parts, ofFields, beq_iff_eq]
    split <;> split <;> simp_all

/-- Doubles with the same fields are the same. -/
lemma HasFields.eq {x y : Float} {negative : Bool} {e f : Nat} (hx : HasFields x negative e f)
    (hy : HasFields y negative e f) : x = y := by
  refine Float.toBits_inj.1 (UInt64.toNat_inj.1 ?_)
  rw [hx.toBits_eq, hy.toBits_eq]

lemma ofFields_inj {s t : Bool} {e e' f f' : Nat} (hf : f < twoPow 52) (hf' : f' < twoPow 52)
    (h : ofFields s e f = ofFields t e' f') (hnumber : ofFields s e f ≠ .notANumber) :
    s = t ∧ e = e' ∧ f = f' := by
  unfold ofFields at h hnumber
  split_ifs at h hnumber <;> grind

/-- A double that is a number is determined by its parts. -/
lemma eq_of_parts {x y : Float} {p : Parts} (hx : parts x = p) (hy : parts y = p)
    (hp : p ≠ .notANumber) : x = y := by
  obtain ⟨s, e, f, hxf, hxp⟩ := exists_hasFields x
  obtain ⟨t, e', f', hyf, hyp⟩ := exists_hasFields y
  rw [hx] at hxp
  rw [hy] at hyp
  obtain ⟨rfl, rfl, rfl⟩ :=
    ofFields_inj hxf.fraction_lt hyf.fraction_lt (hxp.symm.trans hyp) (hxp ▸ hp)
  exact hxf.eq hyf

/-- The parts of a finite double. -/
lemma isDouble_of_parts {x : Float} {b : Binary} (h : parts x = .finite b) : b.IsDouble := by
  obtain ⟨s, e, f, hx, hp⟩ := exists_hasFields x
  have hlow := twoPow_52
  have hhigh := twoPow_53
  have he := hx.exponent_lt
  have hf := hx.fraction_lt
  rw [h, ofFields] at hp
  split at hp
  · split at hp <;> cases hp
  · cases hp
    split
    · refine ⟨?_, ?_, ?_, .inr rfl⟩ <;> dsimp only <;> omega
    · refine ⟨?_, ?_, ?_, .inl ?_⟩ <;> dsimp only <;> omega

lemma unpackExponent_toBits (x : Float) :
    (@unpackExponent Format.binary64 x.toBits.toBitVec).toNat =
      x.toBits.toNat / twoPow 52 % 2048 := by
  rw [unpackExponent_def, BitVec.extractLsb'_toNat, Nat.shiftRight_eq_div_pow]
  rfl

lemma unpackMantissa_toBits (x : Float) :
    (@unpackMantissa Format.binary64 x.toBits.toBitVec).toNat = x.toBits.toNat % twoPow 52 := by
  rw [unpackMantissa_def, BitVec.extractLsb'_toNat, Nat.shiftRight_zero]
  rfl

/-- A double is finite if not all bits of its exponent field are set. -/
lemma exists_parts_finite_iff {x : Float} :
    (∃ b, parts x = .finite b) ↔ @unpackExponent Format.binary64 x.toBits.toBitVec ≠ -1#11 := by
  obtain ⟨s, e, f, hx, hp⟩ := exists_hasFields x
  have hfield : (@unpackExponent Format.binary64 x.toBits.toBitVec).toNat = e := by
    rw [unpackExponent_toBits, hx.exponent_eq]
  have hones : @unpackExponent Format.binary64 x.toBits.toBitVec = -1#11 ↔ e = 2047 := by
    rw [← hfield]
    exact ⟨fun h => congrArg BitVec.toNat h, fun h => BitVec.eq_of_toNat_eq h⟩
  rw [hp, ofFields, ne_eq, hones]
  split_ifs <;> simp_all

/-- A finite double is not infinite. -/
lemma isInf_of_parts {x : Float} {b : Binary} (h : parts x = .finite b) : x.isInf = false := by
  have hones := exists_parts_finite_iff.1 ⟨b, h⟩
  show (unpack Format.binary64 x.toBits.toBitVec).isInf = false
  unfold unpack
  dsimp only
  rw [if_neg hones]
  split
  · split <;> rfl
  · rfl

/-- Negation keeps the exponent field of a finite double. -/
lemma unpackExponent_pack_neg {b : BitVec Format.binary64.numBits} (h : unpackExponent b ≠ -1#11) :
    unpackExponent (pack Format.binary64 (unpack Format.binary64 b).neg) = unpackExponent b := by
  have hlt : (unpackExponent b).toNat < 2047 := by
    have h2048 : (unpackExponent b).toNat < 2048 := (unpackExponent b).isLt
    have hne : (unpackExponent b).toNat ≠ 2047 := fun hn => h (BitVec.eq_of_toNat_eq hn)
    omega
  have hm : (unpackMantissa b).toNat < 2 ^ 52 := (unpackMantissa b).isLt
  unfold unpack
  simp only [if_neg h]
  by_cases h0 : unpackExponent b = 0#11
  · rw [if_pos h0, h0]
    by_cases hm0 : unpackMantissa b = 0#52
    · rw [dif_pos hm0]
      exact unpackExponent_packComponents
    · have hlog : ¬ (unpackMantissa b).toNat.log2 + 1 = 53 := by
        have hpos : (unpackMantissa b).toNat ≠ 0 := fun h => hm0 (BitVec.eq_of_toNat_eq h)
        have := (Nat.log2_lt hpos).2 hm
        omega
      rw [dif_neg hm0, neg, pack]
      exact (congrArg unpackExponent ((if_neg (by decide)).trans (if_neg hlog))).trans
        unpackExponent_packComponents
  · have hlog : (1#1 ++ unpackMantissa b).toNat.log2 + 1 = 53 := by
      have hone : (1#1 ++ unpackMantissa b).toNat = 2 ^ 52 + (unpackMantissa b).toNat := by
        rw [BitVec.toNat_append, ← Nat.shiftLeft_add_eq_or_of_lt (BitVec.isLt _)]
        rfl
      rw [hone, (Nat.log2_eq_iff (by omega)).2
        (by omega : 2 ^ 52 ≤ 2 ^ 52 + (unpackMantissa b).toNat ∧ _)]
    have hexp : (((unpackExponent b).toNat : Int) - (1023 + 52) + 1023 + 52).toNat =
        (unpackExponent b).toNat := by
      omega
    rw [if_neg h0, neg, pack]
    refine (congrArg unpackExponent ((if_neg ?_).trans (if_pos hlog))).trans ?_
    · change ¬ 2048 ≤ (((unpackExponent b).toNat : Int) - (1023 + 52) + 1023 + 52).toNat + 1
      omega
    · refine unpackExponent_packComponents.trans ((congrArg (BitVec.ofNat 11) hexp).trans ?_)
      rw [BitVec.ofNat_toNat, BitVec.setWidth_eq]

/-- The negation of a finite double is finite. -/
lemma exists_parts_neg {x : Float} (h : ∃ b, parts x = .finite b) :
    ∃ b, parts (-x) = .finite b := by
  rw [exists_parts_finite_iff] at h ⊢
  exact fun hneg => h ((unpackExponent_pack_neg h).symm.trans hneg)

/-- There is one double that is not a number. -/
lemma parts_eq_notANumber_iff {x : Float} : parts x = .notANumber ↔ x = Float.nan := by
  constructor
  · intro h
    obtain ⟨s, e, f, hx, hp⟩ := exists_hasFields x
    obtain ⟨rfl, hf⟩ : e = 2047 ∧ f ≠ 0 := by
      rw [h, ofFields] at hp
      split_ifs at hp
      exact ⟨‹_›, ‹_›⟩
    have hones : @unpackExponent Format.binary64 x.toBits.toBitVec = -1#11 := by
      refine BitVec.eq_of_toNat_eq ?_
      rw [unpackExponent_toBits, hx.exponent_eq]
      rfl
    have hfraction : @unpackMantissa Format.binary64 x.toBits.toBitVec ≠ 0#52 := by
      intro hzero
      have hfield := unpackMantissa_toBits x
      rw [hzero, hx.fraction_eq] at hfield
      exact hf hfield.symm
    have hword : x.toBits.toBitVec = Float.nan.toBits.toBitVec :=
      x.toModel.valid.eq_packedNaN hones hfraction
    exact Float.toBits_inj.1 (UInt64.toBitVec_inj.1 hword)
  · rintro rfl
    rfl

/-! ### The exact value -/

lemma cast_twoPow (k : Nat) : (twoPow k : ℚ) = 2 ^ k :=
  Nat.cast_pow 2 k

namespace Binary

/-- The number itself. -/
def value (b : Binary) : ℚ :=
  b.signed b.mantissa * 2 ^ b.exponent

lemma signed_eq (b : Binary) (n : Nat) : b.signed n = b.signed 1 * n := by
  unfold signed
  split <;> simp

lemma abs_value (b : Binary) : |b.value| = b.mantissa * 2 ^ b.exponent := by
  have hpow : (0 : ℚ) < 2 ^ b.exponent := by positivity
  have hsign : |(b.signed 1 : ℚ)| = 1 := by
    unfold signed
    split <;> simp
  rw [value, signed_eq, abs_mul, Int.cast_mul, abs_mul, hsign, abs_of_pos hpow]
  simp

/-- Comparison with a whole number is exact. -/
lemma compareInt_eq_iff (b : Binary) (k : Int) : b.compareInt k = .eq ↔ b.value = k := by
  have hcompare (n d : Nat) (hfraction : b.fraction = (n, d)) (hd : (d : ℚ) ≠ 0)
      (hvalue : b.value * d = b.signed n) : b.compareInt k = .eq ↔ b.value = k := by
    rw [compareInt, hfraction]
    dsimp only
    rw [compare_eq_iff_eq, ← mul_left_inj' hd, hvalue]
    exact_mod_cast Iff.rfl
  obtain ⟨j, hj | hj⟩ := b.exponent.eq_nat_or_neg
  · refine hcompare _ _ (by rw [fraction, hj, scale_natCast]) (by simp) ?_
    rw [value, hj, signed_eq b (_ * _), signed_eq b b.mantissa]
    push_cast [cast_twoPow]
    rw [mul_one, zpow_natCast, mul_assoc]
  · refine hcompare _ _ (by rw [fraction, hj, scale_neg_natCast]) ?_ ?_
    · have := twoPow_pos j
      positivity
    · have hpow : (2 : ℚ) ^ (-(j : Int)) * 2 ^ j = 1 := by
        rw [zpow_neg, zpow_natCast]
        exact inv_mul_cancel₀ (by positivity)
      rw [value, hj, mul_assoc]
      push_cast [cast_twoPow]
      rw [one_mul, hpow, mul_one]

/-- The size of a number that a double can stand for determines its mantissa and its exponent. -/
lemma eq_of_size_eq {a b : Binary} (ha : a.IsDouble) (hb : b.IsDouble)
    (hle : a.exponent ≤ b.exponent)
    (h : (a.mantissa : ℚ) * 2 ^ a.exponent = b.mantissa * 2 ^ b.exponent) :
    a.mantissa = b.mantissa ∧ a.exponent = b.exponent := by
  obtain ⟨k, hk⟩ := Int.le.dest hle
  have hmantissa : a.mantissa = b.mantissa * 2 ^ k := by
    rw [← hk, zpow_add₀ (by norm_num), mul_left_comm, mul_comm, mul_right_inj' (by positivity),
      zpow_natCast] at h
    exact_mod_cast h
  cases k with
  | zero => exact ⟨by simpa using hmantissa, by simpa using hk⟩
  | succ k =>
    -- The greater exponent is not the least one, so its mantissa has all 53 bits.
    have hfull : twoPow 52 ≤ b.mantissa := hb.mantissa_ge.resolve_right fun hleast => by
      have := ha.exponent_ge
      omega
    have hlarge : twoPow 53 ≤ a.mantissa := by
      rw [hmantissa, Nat.pow_succ]
      calc twoPow 53 = twoPow 52 * (1 * 2) := rfl
        _ ≤ b.mantissa * (2 ^ k * 2) :=
          Nat.mul_le_mul hfull (Nat.mul_le_mul_right 2 (Nat.one_le_two_pow))
    exact absurd ha.mantissa_lt (Nat.not_lt.2 hlarge)

/-- Numbers that doubles can stand for have the same value only if they are the same or zeros. -/
theorem eq_of_value_eq {a b : Binary} (ha : a.IsDouble) (hb : b.IsDouble) (h : a.value = b.value) :
    a = b ∨ a.mantissa = 0 ∧ b.mantissa = 0 := by
  have hsize : (a.mantissa : ℚ) * 2 ^ a.exponent = b.mantissa * 2 ^ b.exponent := by
    rw [← abs_value, ← abs_value, h]
  obtain ⟨hmantissa, hexponent⟩ : a.mantissa = b.mantissa ∧ a.exponent = b.exponent := by
    rcases Int.le_total a.exponent b.exponent with hle | hle
    · exact eq_of_size_eq ha hb hle hsize
    · obtain ⟨hm, he⟩ := eq_of_size_eq hb ha hle hsize.symm
      exact ⟨hm.symm, he.symm⟩
  by_cases hzero : b.mantissa = 0
  · exact .inr ⟨hmantissa.trans hzero, hzero⟩
  · have hsign : a.negative = b.negative := by
      have hpow : (2 : ℚ) ^ b.exponent ≠ 0 := by positivity
      rw [value, value, hmantissa, hexponent, mul_left_inj' hpow] at h
      unfold signed at h
      cases ha : a.negative <;> cases hb : b.negative <;> simp_all
    obtain ⟨s, m, e⟩ := a
    obtain ⟨t, n, f⟩ := b
    dsimp only at hsign hmantissa hexponent
    exact .inl (by rw [hsign, hmantissa, hexponent])

lemma value_eq_zero {b : Binary} (h : b.mantissa = 0) : b.value = 0 := by
  rw [value, signed_eq, h]
  simp

end Binary

/-- There are two doubles that stand for zero. -/
lemma eq_zero_of_parts {x : Float} {b : Binary} (h : parts x = .finite b) (hb : b.mantissa = 0) :
    x = 0 ∨ x = -0 := by
  have hexponent : b.exponent = -1074 := by
    refine (isDouble_of_parts h).mantissa_ge.resolve_left ?_
    rw [hb]
    exact Nat.not_le.2 (twoPow_pos 52)
  obtain ⟨s, m, e⟩ := b
  dsimp only at hb hexponent
  subst hb hexponent
  cases s with
  | false => exact .inl (eq_of_parts h rfl nofun)
  | true => exact .inr (eq_of_parts h rfl nofun)

/-! ### Whole numbers that doubles stand for -/

lemma twoPow_le {j k : Nat} (h : j ≤ k) : twoPow j ≤ twoPow k :=
  Nat.pow_le_pow_right Nat.two_pos h

lemma log2_mul_twoPow {n : Nat} (hn : n ≠ 0) (k : Nat) : (n * twoPow k).log2 = n.log2 + k := by
  rw [Nat.log2_eq_iff (Nat.mul_ne_zero hn (twoPow_pos k).ne')]
  constructor
  · rw [Nat.pow_add]
    exact Nat.mul_le_mul_right _ (Nat.log2_self_le hn)
  · rw [Nat.add_right_comm, Nat.pow_add]
    exact Nat.mul_lt_mul_of_pos_right Nat.lt_log2_self (twoPow_pos k)

lemma mul_twoPow_of_eq {n m j : Nat} (h : (n : ℚ) = m * 2 ^ (-(j : Int))) : n * twoPow j = m := by
  rw [zpow_neg, zpow_natCast, ← cast_twoPow,
    eq_mul_inv_iff_mul_eq₀ (Nat.cast_ne_zero.2 (twoPow_pos j).ne')] at h
  exact_mod_cast h

/-- The exponent of a whole number is the one over which it has a full mantissa. -/
lemma exponentOf_eq {n m : Nat} {e : Int} (hlo : twoPow 52 ≤ m) (hhi : m < twoPow 53)
    (he : -1074 ≤ e) (h : (n : ℚ) = m * 2 ^ e) :
    exponentOf n 1 = e ∧ ∃ d, 0 < d ∧ scale n 1 (-e) = (m * d, d) := by
  have hm : m ≠ 0 := (Nat.lt_of_lt_of_le (twoPow_pos 52) hlo).ne'
  have hfull : m.log2 = 52 := (Nat.log2_eq_iff hm).2 ⟨hlo, hhi⟩
  have hone : Nat.log2 1 = 0 := rfl
  -- The fraction below is the mantissa, so it is not less than the least full one.
  have hguess (hlog : (n.log2 : Int) - Nat.log2 1 - 52 = e) {d : Nat} (hd : 0 < d)
      (hscale : scale n 1 (-e) = (m * d, d)) : exponentOf n 1 = e := by
    have hnot : ¬ m * d < d * twoPow 52 := by
      rw [Nat.mul_comm d, Nat.not_lt]
      exact Nat.mul_le_mul_right d hlo
    rw [exponentOf, hlog, hscale, if_neg hnot]
    omega
  obtain ⟨j, rfl | rfl⟩ := e.eq_nat_or_neg
  · have hn : n = m * twoPow j := by
      rw [zpow_natCast, ← cast_twoPow] at h
      exact_mod_cast h
    have hscale : scale n 1 (-j) = (m * twoPow j, twoPow j) := by
      rw [scale_neg_natCast, hn, Nat.one_mul]
    refine ⟨hguess ?_ (twoPow_pos j) hscale, twoPow j, twoPow_pos j, hscale⟩
    rw [hn, log2_mul_twoPow hm, hfull, hone]
    omega
  · have hn := mul_twoPow_of_eq h
    have hscale : scale n 1 (- -(j : Int)) = (m * 1, 1) := by
      rw [Int.neg_neg, scale_natCast, hn, Nat.mul_one]
    refine ⟨hguess ?_ Nat.one_pos hscale, 1, Nat.one_pos, hscale⟩
    have hlog := log2_mul_twoPow (n := n) (by rintro rfl; exact hm (by simpa using hn.symm)) j
    rw [hn, hfull] at hlog
    omega

/-- A whole number that some double is equal to is the value of the double nearest to it. -/
theorem ofInt?_of_value {b : Binary} (hb : b.IsDouble) {n : Int} (h : b.value = n) :
    ∃ x c, ofInt? n = some x ∧ parts x = .finite c ∧ c.value = n := by
  have hfound {c : Binary} (hc : parts (nearest (n < 0) n.natAbs 1) = .finite c)
      (hvalue : c.value = n) : ∃ x c, ofInt? n = some x ∧ parts x = .finite c ∧ c.value = n := by
    refine ⟨_, c, ?_, hc, hvalue⟩
    rw [ofInt?, isInf_of_parts hc]
    rfl
  by_cases hn : n = 0
  · have hzero : (⟨false, 0, -1074⟩ : Binary).IsDouble :=
      ⟨twoPow_pos 53, Int.le_refl _, (by decide : (-1074 : Int) ≤ 971), .inr rfl⟩
    have hnearest : nearest (n < 0) n.natAbs 1 = assemble false 0 (-1074) := by simp [nearest, hn]
    refine hfound (hnearest ▸ parts_assemble hzero) ?_
    rw [Binary.value_eq_zero rfl, hn, Int.cast_zero]
  · have hsize : (n.natAbs : ℚ) = b.mantissa * 2 ^ b.exponent := by
      rw [← b.abs_value, h, Nat.cast_natAbs, Int.cast_abs]
    have hlo : twoPow 52 ≤ b.mantissa := hb.mantissa_ge.resolve_right fun hleast => by
      -- Over the least exponent a whole number would need a mantissa of more than a thousand bits.
      have hmantissa : n.natAbs * twoPow 1074 = b.mantissa :=
        mul_twoPow_of_eq (j := 1074) (hleast ▸ hsize)
      have hpos : twoPow 53 ≤ n.natAbs * twoPow 1074 :=
        (twoPow_le (by decide)).trans
          (Nat.le_mul_of_pos_left _ (Int.natAbs_pos.2 hn))
      exact absurd hb.mantissa_lt (Nat.not_lt.2 (hmantissa ▸ hpos))
    obtain ⟨hexponent, d, hd, hscale⟩ := exponentOf_eq hlo hb.mantissa_lt hb.exponent_ge hsize
    have hnearest : nearest (n < 0) n.natAbs 1 = assemble (n < 0) b.mantissa b.exponent := by
      have hne : ¬ (n.natAbs == 0) = true := by simpa using hn
      rw [nearest, if_neg hne, hexponent]
      dsimp only
      rw [hscale, roundDiv_mul _ hd]
    have hdouble : (⟨n < 0, b.mantissa, b.exponent⟩ : Binary).IsDouble :=
      ⟨hb.mantissa_lt, hb.exponent_ge, hb.exponent_le, hb.mantissa_ge⟩
    refine hfound (hnearest ▸ parts_assemble hdouble) ?_
    have hsigned : Binary.signed ⟨n < 0, b.mantissa, b.exponent⟩ 1 * (n.natAbs : Int) = n := by
      simp only [Binary.signed, decide_eq_true_eq]
      split <;> omega
    rw [Binary.value, Binary.signed_eq, Int.cast_mul, Int.cast_natCast, mul_assoc, ← hsize]
    rw [← Int.cast_natCast, ← Int.cast_mul, hsigned]

end Number

/-! ### Numbers -/

/-- An exact number or an infinity. -/
inductive Quantity where
  | finite (q : ℚ)
  | infinite (negative : Bool)

namespace Number.Parts

/-- What the parts of a double stand for. -/
def quantity? : Parts → Option Quantity
  | .finite b => some (.finite b.value)
  | .infinite negative => some (.infinite negative)
  | .notANumber => none

lemma exists_finite {p : Parts} {q : ℚ} (h : p.quantity? = some (.finite q)) :
    ∃ b, p = .finite b ∧ b.value = q := by
  cases p with
  | finite b => exact ⟨b, rfl, Quantity.finite.inj (Option.some.inj h)⟩
  | infinite negative => cases h
  | notANumber => cases h

lemma eq_infinite {p : Parts} {negative : Bool} (h : p.quantity? = some (.infinite negative)) :
    p = .infinite negative := by
  cases p with
  | finite b => cases h
  | infinite negative' =>
    cases h
    rfl
  | notANumber => cases h

end Number.Parts

/-- What a number stands for; none if it is not a number at all. -/
def Num.quantity? : Num → Option Quantity
  | .int n => some (.finite n)
  | .float x => (Number.parts x).quantity?

namespace Num

open ScriptHost.Number

/-- Equal doubles are not less than one another: both are told from one comparison. -/
lemma not_lt_of_beq {x y : Float} (h : (x == y) = true) : ¬ x < y := by
  intro hlt
  have heq : x.toModel.unpack.compare y.toModel.unpack = some .eq := eq_of_beq h
  have hless : x.toModel.unpack.compare y.toModel.unpack = some .lt :=
    eq_of_beq (of_decide_eq_true hlt)
  rw [heq] at hless
  cases hless

lemma beq_symm {x y : Float} (h : (x == y) = true) : (y == x) = true := by
  rw [Float.beq_iff_ne_nan_and_eq] at h ⊢
  tauto

lemma order?_float_eq_iff (x y : Float) :
    (float x).order? (.float y) = some .eq ↔ (x == y) = true := by
  rw [order?]
  split_ifs with hlt hgt heq
  · simpa using fun heq => not_lt_of_beq heq hlt
  · simpa using fun heq => not_lt_of_beq (beq_symm heq) hgt
  · simp [heq]
  · simp [heq]

open Float.Model in
/-- Not a number is the only double that is not equal to itself. -/
lemma beq_self_eq_not_isNaN (x : Float) : (x == x) = !x.isNaN := by
  show (x.toModel.unpack.compare x.toModel.unpack == some .eq) = !x.toModel.unpack.isNaN
  cases x.toModel.unpack with
  | notANumber => rfl
  | zero sign => rfl
  | infinity sign => cases sign <;> rfl
  | finite sign m e hm => cases sign <;> simp [UnpackedFloat.compare, UnpackedFloat.isNaN]

/-- Doubles are equal if and only if they stand for the same exact number. -/
lemma beq_iff_quantity? (x y : Float) : (x == y) = true ↔
    ∃ e, (parts x).quantity? = some e ∧ (parts y).quantity? = some e := by
  rw [Float.beq_iff_ne_nan_and_eq, ne_eq, ne_eq, ← parts_eq_notANumber_iff,
    ← parts_eq_notANumber_iff]
  have hsome {p : Parts} (hp : p ≠ .notANumber) : ∃ e, p.quantity? = some e := by
    cases p with
    | finite b => exact ⟨_, rfl⟩
    | infinite negative => exact ⟨_, rfl⟩
    | notANumber => exact absurd rfl hp
  have hnumber {p : Parts} {e : Quantity} (he : p.quantity? = some e) : p ≠ .notANumber := by
    rintro rfl
    cases he
  have hzero : (parts 0).quantity? = some (.finite 0) :=
    congrArg _ (congrArg _ (Binary.value_eq_zero rfl))
  have hminus : (parts (-0)).quantity? = some (.finite 0) :=
    congrArg _ (congrArg _ (Binary.value_eq_zero rfl))
  constructor
  · rintro ⟨hx, -, rfl | ⟨rfl, rfl⟩ | ⟨rfl, rfl⟩⟩
    · obtain ⟨e, he⟩ := hsome hx
      exact ⟨e, he, he⟩
    · exact ⟨_, hzero, hminus⟩
    · exact ⟨_, hminus, hzero⟩
  · rintro ⟨e, hx, hy⟩
    refine ⟨hnumber hx, hnumber hy, ?_⟩
    cases e with
    | infinite negative =>
      exact .inl (eq_of_parts (Parts.eq_infinite hx) (Parts.eq_infinite hy) nofun)
    | finite q =>
      obtain ⟨a, hpx, ha⟩ := Parts.exists_finite hx
      obtain ⟨b, hpy, hb⟩ := Parts.exists_finite hy
      rcases Binary.eq_of_value_eq (isDouble_of_parts hpx) (isDouble_of_parts hpy)
        (ha.trans hb.symm) with rfl | ⟨ha0, hb0⟩
      · exact .inl (eq_of_parts hpx hpy nofun)
      · rcases eq_zero_of_parts hpx ha0 with rfl | rfl <;>
          rcases eq_zero_of_parts hpy hb0 with rfl | rfl <;> simp

/-- Two numbers are equal if and only if they stand for the same exact number. -/
theorem order?_eq_iff (m n : Num) :
    m.order? n = some .eq ↔ ∃ e, m.quantity? = some e ∧ n.quantity? = some e := by
  cases m with
  | int a =>
    cases n with
    | int b => simp [order?, quantity?, eq_comm (a := a)]
    | float y =>
      rw [order?, quantity?, quantity?]
      cases parts y with
      | finite b => simp [Parts.quantity?, Ordering.swap_eq_eq, b.compareInt_eq_iff]
      | infinite negative => cases negative <;> simp [Parts.quantity?]
      | notANumber => simp [Parts.quantity?]
  | float x =>
    cases n with
    | int b =>
      rw [order?, quantity?, quantity?]
      cases parts x with
      | finite a => simp [Parts.quantity?, a.compareInt_eq_iff, eq_comm (a := a.value)]
      | infinite negative => cases negative <;> simp [Parts.quantity?]
      | notANumber => simp [Parts.quantity?]
    | float y => exact (order?_float_eq_iff x y).trans (beq_iff_quantity? x y)

end Num

end ScriptHost
