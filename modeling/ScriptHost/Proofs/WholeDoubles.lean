import Mathlib
import ScriptHost.Number.Binary

/-!
# Whole numbers as doubles

A double is put together from a sign, an exponent field and a fraction field, and taken apart into
the same three. So the double nearest to a quotient that is a whole number below `2^53` stands for
that number exactly, and dividing such doubles to the floor divides the numbers, if they divide.
-/

namespace ScriptHost.Number

open Float.Model (Format)
open Float.Model.UnpackedFloat

/-! ### Words and doubles -/

/-- A word whose exponent field is not all ones is the word of the double it makes. -/
lemma toBits_ofBits {w : UInt64} (h : w.toNat / twoPow 52 % 2048 ≠ 2047) :
    (Float.ofBits w).toBits = w := by
  have hexponent : (@unpackExponent Format.binary64 w.toBitVec).toNat =
      w.toNat / twoPow 52 % 2048 := by
    rw [unpackExponent_def, BitVec.extractLsb'_toNat, Nat.shiftRight_eq_div_pow]
    rfl
  have hones : @unpackExponent Format.binary64 w.toBitVec ≠ -1#11 := by
    intro hones
    rw [hones] at hexponent
    exact h hexponent.symm
  have hnumber : ¬ @isNaNBits Format.binary64 w.toBitVec = true := by
    simp only [isNaNBits, decide_eq_true_eq]
    exact fun hnan => hones hnan.1
  have hword := @pack_unpack Format.binary64 w.toBitVec (by decide)
  rw [if_neg hnumber] at hword
  exact congrArg UInt64.ofBitVec hword

/-! ### Parts of a double that was put together -/

lemma twoPow_52 : twoPow 52 = 4503599627370496 := rfl

lemma twoPow_53 : twoPow 53 = 9007199254740992 := rfl

lemma twoPow_63 : twoPow 63 = 9223372036854775808 := rfl

lemma twoPow_add (j k : Nat) : twoPow (j + k) = twoPow j * twoPow k :=
  Nat.pow_add 2 j k

lemma twoPow_pos (k : Nat) : 0 < twoPow k :=
  Nat.two_pow_pos k

lemma parts_ofBits (negative : Bool) {e f : Nat} (he : e < 2047) (hf : f < twoPow 52) :
    parts (Float.ofBits ((if negative then twoPow 63 else 0) + e * twoPow 52 + f).toUInt64) =
      .finite (if e = 0 then ⟨negative, f, -1074⟩ else ⟨negative, f + twoPow 52,
        (e : Int) - 1075⟩) := by
  have hsign : (if negative then twoPow 63 else 0) = negative.toNat * twoPow 63 := by
    cases negative <;> rfl
  have hneg : negative.toNat < 2 := Bool.toNat_lt negative
  rw [hsign]
  generalize hn : negative.toNat * twoPow 63 + e * twoPow 52 + f = n
  rw [twoPow_63, twoPow_52] at hn
  rw [twoPow_52] at hf
  have hword : n.toUInt64.toNat = n := UInt64.toNat_ofNat_of_lt' (by rw [UInt64.size]; omega)
  have hexponent : n / twoPow 52 % 2048 = e := by rw [twoPow_52]; omega
  have htop : n / twoPow 63 = negative.toNat := by rw [twoPow_63]; omega
  have hfraction : n % twoPow 52 = f := by rw [twoPow_52]; omega
  have hbits : (Float.ofBits n.toUInt64).toBits = n.toUInt64 :=
    toBits_ofBits (by rw [hword, hexponent]; exact Nat.ne_of_lt he)
  have hnegative : (negative.toNat == 1) = negative := by cases negative <;> rfl
  have hfinite : (e == 2047) = false := beq_false_of_ne (Nat.ne_of_lt he)
  simp only [parts, hbits, hword, hexponent, htop, hfraction, hnegative, hfinite]
  by_cases h0 : e = 0
  · simp [h0]
  · simp [h0]

/-- The finite numbers that a double can stand for. -/
structure Binary.IsDouble (b : Binary) : Prop where
  mantissa_lt : b.mantissa < twoPow 53
  exponent_ge : -1074 ≤ b.exponent
  exponent_le : b.exponent ≤ 971
  mantissa_ge : twoPow 52 ≤ b.mantissa ∨ b.exponent = -1074

lemma parts_assemble {negative : Bool} {m : Nat} {e : Int} (h : Binary.IsDouble ⟨negative, m, e⟩) :
    parts (assemble negative m e) = .finite ⟨negative, m, e⟩ := by
  obtain ⟨hm, he, he', hmin⟩ := h
  dsimp only at hm he he' hmin
  have hlow := twoPow_52
  have hhigh := twoPow_53
  rw [assemble, if_neg (by simpa using Nat.ne_of_lt hm)]
  dsimp only
  split
  · next hsmall =>
    have hparts := parts_ofBits negative (show 0 < 2047 by decide) hsmall
    rw [Nat.zero_mul, Nat.add_zero] at hparts
    rw [hparts, if_pos rfl, hmin.resolve_left (by omega)]
  · next hlarge =>
    have hlt : (e + 1075).toNat < 2047 := by omega
    have hpos : (e + 1075).toNat ≠ 0 := by omega
    have hfraction : m - twoPow 52 < twoPow 52 := by omega
    have hmantissa : m - twoPow 52 + twoPow 52 = m := Nat.sub_add_cancel (Nat.not_lt.1 hlarge)
    have hexponent : ((e + 1075).toNat : Int) - 1075 = e := by omega
    rw [if_neg (Nat.not_le.2 hlt), parts_ofBits negative hlt hfraction, if_neg hpos, hmantissa,
      hexponent]

/-! ### The double nearest to a whole number -/

lemma roundDiv_mul (q : Nat) {d : Nat} (hd : 0 < d) : roundDiv (q * d) d = q := by
  simp [roundDiv, Nat.mul_div_cancel q hd, hd]

@[simp] lemma scale_natCast (n d k : Nat) : scale n d k = (n * twoPow k, d) := by
  simp [scale]

@[simp] lemma scale_neg_natCast (n d k : Nat) : scale n d (-k) = (n, d * twoPow k) := by
  cases k with
  | zero => simp [scale, twoPow]
  | succ k =>
    have hneg : ¬ 0 ≤ -((k + 1 : Nat) : Int) := by omega
    rw [scale, if_neg hneg, Int.neg_neg, Int.toNat_natCast]

lemma log2_mul_cases {q d : Nat} (hq : 0 < q) (hd : 0 < d) :
    (q * d).log2 = q.log2 + d.log2 ∨ (q * d).log2 = q.log2 + d.log2 + 1 := by
  have hq0 : q ≠ 0 := Nat.ne_of_gt hq
  have hd0 : d ≠ 0 := Nat.ne_of_gt hd
  have hqd : q * d ≠ 0 := Nat.mul_ne_zero hq0 hd0
  have hlo : 2 ^ (q.log2 + d.log2) ≤ q * d := by
    rw [Nat.pow_add]
    exact Nat.mul_le_mul (Nat.log2_self_le hq0) (Nat.log2_self_le hd0)
  have hhi : q * d < 2 ^ (q.log2 + 1 + (d.log2 + 1)) := by
    rw [Nat.pow_add]
    exact Nat.mul_lt_mul_of_lt_of_le Nat.lt_log2_self (Nat.le_of_lt Nat.lt_log2_self)
      (Nat.two_pow_pos _)
  have hge := (Nat.le_log2 hqd).2 hlo
  have hlt := (Nat.log2_lt hqd).2 hhi
  omega

/-- The first guess at the exponent is right or one too large, and the mantissa tells which. -/
lemma exponentOf_mul {q d : Nat} (hq : 0 < q) (hlog : q.log2 ≤ 52) (hd : 0 < d) :
    exponentOf (q * d) d = -((52 - q.log2 : Nat) : Int) := by
  have hlo : twoPow q.log2 ≤ q := Nat.log2_self_le (Nat.ne_of_gt hq)
  have hhi : q < twoPow (q.log2 + 1) := Nat.lt_log2_self
  rw [exponentOf]
  rcases log2_mul_cases hq hd with h | h
  · have hguess : ((q * d).log2 : Int) - d.log2 - 52 = -((52 - q.log2 : Nat) : Int) := by omega
    have hge : ¬ q * d * twoPow (52 - q.log2) < d * twoPow 52 := by
      rw [Nat.not_lt]
      calc d * twoPow 52 = twoPow q.log2 * d * twoPow (52 - q.log2) := by
            rw [Nat.mul_right_comm, ← twoPow_add, Nat.add_sub_cancel' hlog, Nat.mul_comm]
        _ ≤ q * d * twoPow (52 - q.log2) := Nat.mul_le_mul_right _ (Nat.mul_le_mul_right _ hlo)
    rw [hguess, Int.neg_neg, scale_natCast, if_neg hge]
    omega
  · by_cases hfull : q.log2 = 52
    · have hguess : ((q * d).log2 : Int) - d.log2 - 52 = ((1 : Nat) : Int) := by omega
      have hlt : q * d < d * twoPow 1 * twoPow 52 := by
        rw [Nat.mul_assoc, ← twoPow_add, Nat.mul_comm q]
        rw [hfull] at hhi
        exact Nat.mul_lt_mul_of_pos_left hhi hd
      rw [hguess, scale_neg_natCast, if_pos hlt]
      omega
    · have hguess : ((q * d).log2 : Int) - d.log2 - 52 = -((51 - q.log2 : Nat) : Int) := by omega
      have hlt : q * d * twoPow (51 - q.log2) < d * twoPow 52 := by
        have hexponent : q.log2 + 1 + (51 - q.log2) = 52 := by omega
        calc q * d * twoPow (51 - q.log2) = d * (q * twoPow (51 - q.log2)) := by
              rw [Nat.mul_comm q, Nat.mul_assoc]
          _ < d * (twoPow (q.log2 + 1) * twoPow (51 - q.log2)) :=
              Nat.mul_lt_mul_of_pos_left (Nat.mul_lt_mul_of_pos_right hhi (twoPow_pos _)) hd
          _ = d * twoPow 52 := by rw [← twoPow_add, hexponent]
      rw [hguess, Int.neg_neg, scale_natCast, if_pos hlt]
      omega

lemma nearest_mul {q d : Nat} (negative : Bool) (hq : 0 < q) (hlog : q.log2 ≤ 52) (hd : 0 < d) :
    nearest negative (q * d) d =
      assemble negative (q * twoPow (52 - q.log2)) (-((52 - q.log2 : Nat) : Int)) := by
  have hne : ¬ (q * d == 0) = true := by
    simpa using Nat.ne_of_gt (Nat.mul_pos hq hd)
  rw [nearest, if_neg hne, exponentOf_mul hq hlog hd]
  dsimp only
  rw [Int.neg_neg, scale_natCast, Nat.mul_right_comm, roundDiv_mul _ hd]

/-- The double stands for a whole number with the given sign. -/
def IsWhole (x : Float) (negative : Bool) (n : Nat) : Prop :=
  ∃ j : Nat, parts x = .finite ⟨negative, n * twoPow j, -j⟩

lemma isWhole_nearest {q d : Nat} (negative : Bool) (hq : q < twoPow 53) (hd : 0 < d) :
    IsWhole (nearest negative (q * d) d) negative q := by
  rcases Nat.eq_zero_or_pos q with rfl | hpos
  · refine ⟨1074, ?_⟩
    have hzero : (⟨negative, 0, -1074⟩ : Binary).IsDouble :=
      ⟨twoPow_pos 53, Int.le_refl _, (by decide : (-1074 : Int) ≤ 971), .inr rfl⟩
    have hne : (0 == 0) = true := rfl
    rw [Nat.zero_mul, nearest, if_pos hne, parts_assemble hzero, Nat.zero_mul]
    rfl
  · have hlog : q.log2 ≤ 52 := Nat.lt_succ_iff.1 ((Nat.log2_lt (Nat.ne_of_gt hpos)).2 hq)
    refine ⟨52 - q.log2, ?_⟩
    have hlo : twoPow q.log2 ≤ q := Nat.log2_self_le (Nat.ne_of_gt hpos)
    have hhi : q < twoPow (q.log2 + 1) := Nat.lt_log2_self
    have hexponent : q.log2 + 1 + (52 - q.log2) = 53 := by omega
    have hdouble :
        (⟨negative, q * twoPow (52 - q.log2), -((52 - q.log2 : Nat) : Int)⟩ : Binary).IsDouble := by
      refine ⟨?_, by dsimp only; omega, by dsimp only; omega, .inl ?_⟩
      · calc q * twoPow (52 - q.log2) < twoPow (q.log2 + 1) * twoPow (52 - q.log2) :=
              Nat.mul_lt_mul_of_pos_right hhi (twoPow_pos _)
          _ = twoPow 53 := by rw [← twoPow_add, hexponent]
      · calc twoPow 52 = twoPow q.log2 * twoPow (52 - q.log2) := by
              rw [← twoPow_add, Nat.add_sub_cancel' hlog]
          _ ≤ q * twoPow (52 - q.log2) := Nat.mul_le_mul_right _ hlo
    rw [nearest_mul negative hpos hlog hd]
    exact parts_assemble hdouble

namespace IsWhole

variable {x y : Float} {s t : Bool} {m n : Nat}

lemma truncate_eq {b : Binary} (h : IsWhole x s n) (hb : parts x = .finite b) :
    b.truncate = if s then -(n : Int) else n := by
  obtain ⟨j, hj⟩ := h
  obtain rfl : _ = b := Parts.finite.inj (hj.symm.trans hb)
  rw [Binary.truncate, Binary.fraction, scale_neg_natCast, Nat.one_mul]
  dsimp only
  rw [Nat.mul_div_cancel _ (twoPow_pos j), Binary.signed]

/-- Over their lesser exponent, whole numbers have multiples of themselves by one power of two as
mantissas. -/
lemma aligned_eq (m n i j : Nat) :
    Binary.aligned ⟨s, m * twoPow i, -i⟩ ⟨t, n * twoPow j, -j⟩ =
      (m * twoPow (max i j), n * twoPow (max i j), -((max i j : Nat) : Int)) := by
  have hmin : min (-(i : Int)) (-j) = -((max i j : Nat) : Int) := by omega
  have hi : (-(i : Int) - -((max i j : Nat) : Int)).toNat = max i j - i := by omega
  have hj : (-(j : Int) - -((max i j : Nat) : Int)).toNat = max i j - j := by omega
  have hi' : i + (max i j - i) = max i j := by omega
  have hj' : j + (max i j - j) = max i j := by omega
  simp only [Binary.aligned, hmin, hi, hj]
  rw [Nat.mul_assoc, ← twoPow_add, hi', Nat.mul_assoc, ← twoPow_add, hj']

/-- Division to the floor of a multiple is exact. -/
lemma floorDiv_eq (hx : IsWhole x s (m * n)) (hy : IsWhole y t n) (hn : 0 < n) :
    floorDiv x y = nearest (s != t) m 1 := by
  obtain ⟨i, hi⟩ := hx
  obtain ⟨j, hj⟩ := hy
  have hpos : 0 < n * twoPow (max i j) := Nat.mul_pos hn (twoPow_pos _)
  have hmod : m * n * twoPow (max i j) % (n * twoPow (max i j)) = 0 := by
    rw [Nat.mul_assoc]
    exact Nat.mul_mod_left _ _
  have hdiv : m * n * twoPow (max i j) / (n * twoPow (max i j)) = m := by
    rw [Nat.mul_assoc]
    exact Nat.mul_div_cancel _ hpos
  have hquotient : wholeQuotient? x y = some (nearest (s != t) m 1) := by
    simp only [wholeQuotient?, hi, hj, aligned_eq, hmod, hdiv]
    rw [if_pos (by simpa using Nat.ne_of_gt hpos)]
  rw [floorDiv, hquotient]

end IsWhole

end ScriptHost.Number
