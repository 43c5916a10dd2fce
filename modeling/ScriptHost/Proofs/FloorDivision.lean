import ScriptHost.Proofs.ExactNumbers

/-!
# Division of doubles to the floor

The double nearest to a fraction of either sign has the same mantissa and exponent, since the
fraction is scaled to lie between `2^52` and `2^53` before it is rounded. Dividing a double by a
whole number to the floor is exact below `2^52`: what the remainder leaves of the double is a
multiple of the divisor, so every step on the way is a whole number that a double stands for.
-/

namespace ScriptHost.Number

/-! ### The double nearest to a fraction -/

lemma roundDiv_ge (n d : Nat) : n / d ≤ roundDiv n d := by
  unfold roundDiv
  dsimp only
  split_ifs <;> omega

lemma roundDiv_le (n d : Nat) : roundDiv n d ≤ n / d + 1 := by
  unfold roundDiv
  dsimp only
  split_ifs <;> omega

lemma scale_pos (n : Nat) {d : Nat} (hd : 0 < d) (e : Int) : 0 < (scale n d e).2 := by
  unfold scale
  split
  · exact hd
  · exact Nat.mul_pos hd (twoPow_pos _)

/-- Scaling multiplies the fraction. -/
lemma scale_ratio (n d : Nat) (e : Int) : ((scale n d e).1 : ℚ) /
    (scale n d e).2 = n / d * 2 ^ e := by
  obtain ⟨k, rfl | rfl⟩ := e.eq_nat_or_neg
  · rw [scale_natCast, zpow_natCast]
    push_cast [cast_twoPow]
    ring
  · rw [scale_neg_natCast, zpow_neg, zpow_natCast]
    push_cast [cast_twoPow]
    rw [div_mul_eq_div_div]
    ring

/-- A fraction lies between the powers of two that the lengths of its parts give. -/
lemma ratio_between {n d : Nat} (hn : 0 < n) (hd : 0 < d) :
    (2 : ℚ) ^ ((n.log2 : Int) - d.log2 - 1) < n / d ∧
      (n / d : ℚ) < 2 ^ ((n.log2 : Int) - d.log2 + 1) := by
  have htwo : (2 : ℚ) ≠ 0 := by norm_num
  have hdq : (0 : ℚ) < d := Nat.cast_pos.2 hd
  have hlow : (2 : ℚ) ^ (n.log2 : Int) ≤ n := by
    rw [zpow_natCast]
    exact_mod_cast Nat.log2_self_le hn.ne'
  have hhigh : (n : ℚ) < 2 ^ ((n.log2 : Int) + 1) := by
    rw [zpow_add_one₀ htwo, zpow_natCast, ← pow_succ]
    exact_mod_cast Nat.lt_log2_self
  have hlow' : (2 : ℚ) ^ (d.log2 : Int) ≤ d := by
    rw [zpow_natCast]
    exact_mod_cast Nat.log2_self_le hd.ne'
  have hhigh' : (d : ℚ) < 2 ^ ((d.log2 : Int) + 1) := by
    rw [zpow_add_one₀ htwo, zpow_natCast, ← pow_succ]
    exact_mod_cast Nat.lt_log2_self
  constructor
  · rw [lt_div_iff₀ hdq]
    calc (2 : ℚ) ^ ((n.log2 : Int) - d.log2 - 1) * d
        < 2 ^ ((n.log2 : Int) - d.log2 - 1) * 2 ^ ((d.log2 : Int) + 1) := by gcongr
      _ = 2 ^ (n.log2 : Int) := by
        rw [← zpow_add₀ htwo]
        congr 1
        omega
      _ ≤ n := hlow
  · rw [div_lt_iff₀ hdq]
    calc (n : ℚ) < 2 ^ ((n.log2 : Int) + 1) := hhigh
      _ = 2 ^ ((n.log2 : Int) - d.log2 + 1) * 2 ^ (d.log2 : Int) := by
        rw [← zpow_add₀ htwo]
        congr 1
        omega
      _ ≤ 2 ^ ((n.log2 : Int) - d.log2 + 1) * d := by gcongr

/-- The exponent of a fraction that is neither too large nor too small scales it to a full mantissa.
-/
lemma exponentOf_between {n d : Nat} (hn : 0 < n) (hd : 0 < d) (hn' : n.log2 ≤ 1000)
    (hd' : d.log2 ≤ 1000) :
    -1053 ≤ exponentOf n d ∧ exponentOf n d ≤ 948 ∧
      (2 : ℚ) ^ 52 ≤ n / d * 2 ^ (-exponentOf n d) ∧
        (n / d : ℚ) * 2 ^ (-exponentOf n d) < 2 ^ 53 := by
  have htwo : (2 : ℚ) ≠ 0 := by norm_num
  obtain ⟨hlow, hhigh⟩ := ratio_between hn hd
  generalize hguess : (n.log2 : Int) - d.log2 - 52 = guess
  have hscaled (e : Int) {k : Int} (h : (2 : ℚ) ^ (e + k) ≤ n / d) :
      (2 : ℚ) ^ k ≤ n / d * 2 ^ (-e) := by
    rw [zpow_neg, ← div_eq_mul_inv, le_div_iff₀ (by positivity), ← zpow_add₀ htwo, Int.add_comm k]
    exact h
  have hscaled' (e : Int) {k : Int} (h : (n / d : ℚ) < 2 ^ (e + k)) :
      (n / d : ℚ) * 2 ^ (-e) < 2 ^ k := by
    rw [zpow_neg, ← div_eq_mul_inv, div_lt_iff₀ (by positivity), ← zpow_add₀ htwo, Int.add_comm k]
    exact h
  have hfull : (scale n d (-guess)).1 < (scale n d (-guess)).2 * twoPow 52 ↔
      (n / d : ℚ) * 2 ^ (-guess) < 2 ^ 52 := by
    have hpos : (0 : ℚ) < (scale n d (-guess)).2 := Nat.cast_pos.2 (scale_pos n hd _)
    rw [← scale_ratio, div_lt_iff₀ hpos, mul_comm, ← cast_twoPow]
    exact_mod_cast Iff.rfl
  have hexponent : exponentOf n d = if (n / d : ℚ) * 2 ^ (-guess) < 2 ^ 52 then guess - 1
      else guess := by
    rw [exponentOf, hguess]
    simp only [hfull]
    split <;> omega
  rw [hexponent]
  split
  · next hshort =>
    -- One power of two less makes up for the missing bit.
    refine ⟨by omega, by omega, ?_, ?_⟩
    · refine hscaled (guess - 1) (k := 52) (le_of_lt ?_)
      rwa [← hguess, show (n.log2 : Int) - d.log2 - 52 - 1 + 52 = n.log2 - d.log2 - 1 by omega]
    · rw [neg_sub, sub_eq_add_neg, add_comm, zpow_add_one₀ htwo, ← mul_assoc]
      calc (n / d : ℚ) * 2 ^ (-guess) * 2 < 2 ^ 52 * 2 := by gcongr
        _ = 2 ^ 53 := by norm_num
  · next hlong =>
    refine ⟨by omega, by omega, not_lt.1 hlong, hscaled' guess (k := 53) ?_⟩
    rwa [← hguess, show (n.log2 : Int) - d.log2 - 52 + 53 = n.log2 - d.log2 + 1 by omega]

/-- A mantissa that rounding makes too long by one bit is halved. -/
lemma assemble_carry (s : Bool) (e : Int) :
    assemble s (twoPow 53) e = assemble s (twoPow 52) (e + 1) := by
  have hne : (twoPow 52 == twoPow 53) = false := by decide
  simp only [assemble, beq_self_eq_true, hne, if_true]
  rfl

/-- The double nearest to a fraction has one mantissa and one exponent for both signs, and is at
most twice as large. -/
lemma exists_parts_nearest {n d : Nat} (hn : 0 < n) (hd : 0 < d) (hn' : n.log2 ≤ 1000)
    (hd' : d.log2 ≤ 1000) :
    ∃ (m : Nat) (e : Int), (m * 2 ^ e : ℚ) ≤ 2 * (n / d) ∧
      ∀ s, parts (nearest s n d) = .finite ⟨s, m, e⟩ := by
  obtain ⟨hlow, hhigh, hfull, hshort⟩ := exponentOf_between hn hd hn' hd'
  generalize hexponent : exponentOf n d = e at *
  generalize hscale : scale n d (-e) = f at *
  have hpos : 0 < f.2 := hscale ▸ scale_pos n hd (-e)
  have hratio : (f.1 : ℚ) / f.2 = n / d * 2 ^ (-e) := hscale ▸ scale_ratio n d (-e)
  have hnearest (s : Bool) : nearest s n d = assemble s (roundDiv f.1 f.2) e := by
    rw [nearest, if_neg (by simpa using hn.ne'), hexponent]
    dsimp only
    rw [hscale]
  have hge : twoPow 52 ≤ f.1 / f.2 := by
    rw [Nat.le_div_iff_mul_le hpos, ← Nat.cast_le (α := ℚ), Nat.cast_mul,
      ← le_div_iff₀ (Nat.cast_pos.2 hpos), hratio, cast_twoPow]
    exact hfull
  have hlt : f.1 / f.2 < twoPow 53 := by
    rw [Nat.div_lt_iff_lt_mul hpos, ← Nat.cast_lt (α := ℚ), Nat.cast_mul,
      ← div_lt_iff₀ (Nat.cast_pos.2 hpos), hratio, cast_twoPow]
    exact hshort
  have hround := roundDiv_ge f.1 f.2
  have hround' := roundDiv_le f.1 f.2
  have htwo := twoPow_52
  have htwo' := twoPow_53
  have hbound : (roundDiv f.1 f.2 * 2 ^ e : ℚ) ≤ 2 * (n / d) := by
    have hdouble : (roundDiv f.1 f.2 : ℚ) ≤ 2 * (f.1 / f.2) := by
      calc (roundDiv f.1 f.2 : ℚ) ≤ ((2 * (f.1 / f.2) : Nat) : ℚ) := by
            rw [Nat.cast_le]
            omega
        _ ≤ 2 * (f.1 / f.2) := by
          rw [Nat.cast_mul, Nat.cast_ofNat]
          gcongr
          exact Nat.cast_div_le
    calc (roundDiv f.1 f.2 * 2 ^ e : ℚ) ≤ 2 * (f.1 / f.2) * 2 ^ e := by gcongr
      _ = 2 * (n / d) := by
        rw [hratio, mul_assoc, mul_assoc, ← zpow_add₀ (by norm_num), neg_add_cancel, zpow_zero,
          mul_one]
  by_cases hcarry : roundDiv f.1 f.2 = twoPow 53
  · refine ⟨twoPow 52, e + 1, ?_, ?_⟩
    · rw [hcarry, cast_twoPow] at hbound
      rw [cast_twoPow, zpow_add_one₀ (by norm_num)]
      refine le_trans (le_of_eq ?_) hbound
      ring
    · intro s
      rw [hnearest, hcarry, assemble_carry]
      refine parts_assemble ⟨(by decide : twoPow 52 < twoPow 53), ?_, ?_, .inl (Nat.le_refl _)⟩
      · dsimp only
        omega
      · dsimp only
        omega
  · refine ⟨roundDiv f.1 f.2, e, hbound, ?_⟩
    intro s
    rw [hnearest]
    refine parts_assemble ⟨?_, ?_, ?_, .inl ?_⟩
    all_goals
      dsimp only
      omega

/-! ### The steps of division to the floor -/

namespace IsWhole

variable {x y : Float} {s t : Bool} {n u : Nat}

/-- A whole number is written over a power of two. -/
lemma exists_fraction (h : IsWhole x s n) :
    ∃ b j, parts x = .finite b ∧ b.negative = s ∧ b.fraction = (n * twoPow j, twoPow j) := by
  obtain ⟨j, hj⟩ := h
  refine ⟨_, j, hj, rfl, ?_⟩
  rw [Binary.fraction, scale_neg_natCast, Nat.one_mul]

lemma snap (h : IsWhole x s n) (hn : n < twoPow 53) : IsWhole (snap x) s n := by
  obtain ⟨b, j, hb, rfl, hfraction⟩ := h.exists_fraction
  have hpos := twoPow_pos j
  have hnone : (if b.negative then decide (twoPow j ≤ 2 * 0) else decide (twoPow j < 2 * 0)) =
      false := by
    split <;> simp [hpos.ne']
  have hsnap : Number.snap x = nearest b.negative (n * 1) 1 := by
    simp only [Number.snap, hb, hfraction, Nat.mul_mod_left, Nat.mul_div_cancel n hpos, hnone,
      Nat.mul_one]
    rfl
  rw [hsnap]
  exact isWhole_nearest b.negative hn Nat.one_pos

lemma oneLess (h : IsWhole x s n) (hn : n + 1 < twoPow 53) : IsWhole (oneLess x) true (n + 1) := by
  obtain ⟨b, j, hb, -, hfraction⟩ := h.exists_fraction
  have hless : Number.oneLess x = nearest true ((n + 1) * twoPow j) (twoPow j) := by
    simp only [Number.oneLess, hb, hfraction, Nat.add_mul, Nat.one_mul]
  rw [hless]
  exact isWhole_nearest true hn (twoPow_pos j)

lemma quotient (hx : IsWhole x s (n * u)) (hy : IsWhole y t u) (hu : 0 < u) (hn : n < twoPow 53) :
    IsWhole (quotient x y) (s != t) n := by
  obtain ⟨i, hi⟩ := hx
  obtain ⟨j, hj⟩ := hy
  have hpos : 0 < u * twoPow (max i j) := Nat.mul_pos hu (twoPow_pos _)
  have hquotient : Number.quotient x y = nearest (s != t) (n * (u * twoPow (max i j)))
      (u * twoPow (max i j)) := by
    simp only [Number.quotient, hi, hj, aligned_eq]
    rw [Nat.mul_assoc]
  rw [hquotient]
  exact isWhole_nearest _ hn hpos

end IsWhole

/-- Over a common power of two, a double and a whole number are a fraction of their mantissas. -/
lemma exists_aligned (a : Binary) (u j : Nat) :
    ∃ m k, a.aligned ⟨false, u * twoPow j, -j⟩ = (m, u * twoPow k, -(k : Int)) ∧
      a.value * 2 ^ k = a.signed m := by
  obtain ⟨k, hk⟩ : ∃ k : Nat, min a.exponent (-(j : Int)) = -(k : Int) := by
    refine ⟨(-min a.exponent (-(j : Int))).toNat, ?_⟩
    omega
  refine ⟨a.mantissa * twoPow (a.exponent - -(k : Int)).toNat, k, ?_, ?_⟩
  · have hpower : j + (-(j : Int) - -(k : Int)).toNat = k := by omega
    simp only [Binary.aligned, hk]
    rw [Nat.mul_assoc, ← twoPow_add, hpower]
  · have hpower : a.exponent + k = ((a.exponent - -(k : Int)).toNat : Int) := by omega
    rw [Binary.value, mul_assoc, ← zpow_natCast, ← zpow_add₀ (by norm_num), hpower, zpow_natCast,
      a.signed_eq, a.signed_eq (_ * _)]
    push_cast [cast_twoPow]
    ring

/-- A quotient to the floor is one further from zero below it, unless it is whole. -/
lemma Binary.signed_ediv (b : Binary) (m d : Nat) (hd : 0 < d) :
    b.signed m / (d : Int) =
      if b.negative then -((m / d + if m % d = 0 then 0 else 1 : Nat) : Int)
      else ((m / d : Nat) : Int) := by
  have hsign : (d : Int).sign = 1 := Int.sign_eq_one_of_pos (Int.natCast_pos.2 hd)
  rw [Binary.signed]
  split
  · rw [Int.neg_ediv, hsign]
    simp only [Int.natCast_dvd_natCast, Nat.dvd_iff_mod_eq_zero]
    split <;> push_cast <;> omega
  · rfl

section Aligned

variable {x y : Float} {a : Binary} {u j m k : Nat} (hx : parts x = .finite a)
  (hy : parts y = .finite ⟨false, u * twoPow j, -j⟩)
  (haligned : a.aligned ⟨false, u * twoPow j, -j⟩ = (m, u * twoPow k, -(k : Int))) (hu : 0 < u)
  (hsmall : m / (u * twoPow k) * u < twoPow 52)

include hx hy haligned hu hsmall

lemma isWhole_floorDiv_of_whole (hwhole : m % (u * twoPow k) = 0) :
    IsWhole (floorDiv x y) a.negative (m / (u * twoPow k)) := by
  have hpos : 0 < u * twoPow k := Nat.mul_pos hu (twoPow_pos k)
  have hle : m / (u * twoPow k) < twoPow 52 :=
    Nat.lt_of_le_of_lt (Nat.le_mul_of_pos_right _ hu) hsmall
  have hquotient : wholeQuotient? x y = some (nearest a.negative (m / (u * twoPow k) * 1) 1) := by
    simp only [wholeQuotient?, hx, hy, haligned, hwhole, Bool.bne_false, Nat.mul_one]
    rw [if_pos (by simpa using hpos.ne')]
  rw [floorDiv, hquotient]
  exact isWhole_nearest a.negative (Nat.lt_trans hle (by decide)) Nat.one_pos

/-- A quotient that is not whole goes through what the remainder leaves, a multiple of the divisor.
-/
lemma isWhole_floorDiv_of_rest (hrest : m % (u * twoPow k) ≠ 0) :
    IsWhole (floorDiv x y) a.negative (m / (u * twoPow k) + if a.negative then 1 else 0) := by
  have hpos : 0 < u * twoPow k := Nat.mul_pos hu (twoPow_pos k)
  have hquotient : wholeQuotient? x y = none := by
    simp only [wholeQuotient?, hx, hy, haligned]
    rw [if_neg (by simp [hrest])]
  generalize hq : m / (u * twoPow k) = q at *
  have hle : q < twoPow 52 := Nat.lt_of_le_of_lt (Nat.le_mul_of_pos_right q hu) hsmall
  have h52 := twoPow_52
  have h53 := twoPow_53
  have hleft : IsWhole (nearest a.negative (q * u * twoPow k) (twoPow k)) a.negative (q * u) :=
    isWhole_nearest a.negative (by omega) (twoPow_pos k)
  have hzero := hleft.quotient ⟨j, hy⟩ hu (by omega)
  have hdiv : floorDiv x y =
      snap (if a.negative == false then
          quotient (nearest a.negative (q * u * twoPow k) (twoPow k)) y
        else oneLess (quotient (nearest a.negative (q * u * twoPow k) (twoPow k)) y)) := by
    rw [floorDiv, hquotient]
    simp only [hx, hy, haligned, hq, scale_neg_natCast, Nat.one_mul, Nat.mul_assoc]
    rw [if_neg (by simpa using hpos.ne')]
  rw [hdiv]
  cases hsign : a.negative with
  | false =>
    rw [hsign] at hzero
    exact hzero.snap (by omega)
  | true =>
    rw [hsign] at hzero
    exact (hzero.oneLess (by omega)).snap (by omega)

end Aligned

/-- Division to the floor by a whole number is exact. -/
theorem floorDiv_eq_floor {x y : Float} {a : Binary} {u : Nat} (hx : parts x = .finite a)
    (hsmall : |a.value| < 2 ^ 52) (hy : IsWhole y false u) (hu : 0 < u) :
    ∃ n : Nat, IsWhole (floorDiv x y) a.negative n ∧ (if a.negative then -(n : Int) else n) =
      ⌊a.value / u⌋ := by
  obtain ⟨j, hj⟩ := hy
  obtain ⟨m, k, haligned, hvalue⟩ := exists_aligned a u j
  have hk : (0 : ℚ) < 2 ^ k := by positivity
  have hpos : 0 < u * twoPow k := Nat.mul_pos hu (twoPow_pos k)
  have hfloor : ⌊a.value / u⌋ = a.signed m / (u * twoPow k : Nat) := by
    rw [← Rat.floor_intCast_div_natCast, ← hvalue, Nat.cast_mul, cast_twoPow,
      mul_div_mul_right _ _ hk.ne']
  have hsize : m < twoPow 52 * twoPow k := by
    have hsigned : |(a.signed m : ℚ)| = m := by
      rw [Binary.signed]
      split <;> simp
    rw [← Nat.cast_lt (α := ℚ), Nat.cast_mul, cast_twoPow, cast_twoPow, ← hsigned, ← hvalue,
      abs_mul, abs_of_pos hk]
    gcongr
  have hle : m / (u * twoPow k) * u < twoPow 52 := by
    refine Nat.lt_of_mul_lt_mul_right (a := twoPow k) (Nat.lt_of_le_of_lt ?_ hsize)
    rw [Nat.mul_assoc]
    exact Nat.div_mul_le_self m _
  rw [hfloor, a.signed_ediv m _ hpos]
  by_cases hwhole : m % (u * twoPow k) = 0
  · refine ⟨_, isWhole_floorDiv_of_whole hx hj haligned hu hle hwhole, ?_⟩
    rw [if_pos hwhole, Nat.add_zero]
  · refine ⟨_, isWhole_floorDiv_of_rest hx hj haligned hu hle hwhole, ?_⟩
    rw [if_neg hwhole]
    split <;> simp_all

end ScriptHost.Number
