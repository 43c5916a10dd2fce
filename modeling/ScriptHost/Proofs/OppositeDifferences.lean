import ScriptHost.Proofs.FloorDivision
import ScriptHost.Proofs.YearsAndMonths

/-!
# Differences in the opposite direction

The difference of two dates is a quotient brought down to the floor: of months for quarters, of
microseconds for days and weeks, of a double of seconds for hours and minutes. A quotient and its
opposite come down to opposite numbers exactly if the quotient is whole, and to numbers that miss by
one otherwise. Years and months are not divided, and seconds lose their fraction toward zero, so
these are opposite always.
-/

namespace ScriptHost

open Calendar Number

/-- The double stands for a multiple of a whole number. -/
def Number.IsMultiple (x : Float) (u : Nat) : Prop :=
  ∃ b, parts x = .finite b ∧ ∃ k : Int, b.value = k * u

namespace DateFunction

/-! ### Opposite floors -/

/-- Numbers that are the floors of opposite quotients are opposite if the quotient is whole, and
otherwise add up to minus one. -/
lemma opposite_of_floor {v : ℚ} {m n : Int} {whole : Prop} (hm : m = ⌊v⌋) (hn : n = ⌊-v⌋)
    (hwhole : whole ↔ ∃ k : Int, v = k) : (m = -n ↔ whole) ∧ (¬ whole → m = -n - 1) := by
  rw [Int.floor_neg] at hn
  by_cases h : ∃ k : Int, v = k
  · obtain ⟨k, rfl⟩ := h
    rw [Int.floor_intCast] at hm
    rw [Int.ceil_intCast] at hn
    have hyes : whole := hwhole.2 ⟨k, rfl⟩
    constructor
    · exact ⟨fun _ => hyes, fun _ => by omega⟩
    · exact fun hno => absurd hyes hno
  · have hceil : ⌈v⌉ = ⌊v⌋ + 1 := by
      rw [Int.ceil_eq_floor_add_one_iff_notMem]
      rintro ⟨k, hk⟩
      exact h ⟨k, hk.symm⟩
    have hno : ¬ whole := fun hyes => h (hwhole.1 hyes)
    constructor
    · constructor
      · intro hopposite
        omega
      · intro hyes
        exact absurd hyes hno
    · intro _
      omega

lemma fdiv_eq_floor (n : Int) (d : Nat) : n.fdiv d = ⌊(n / d : ℚ)⌋ := by
  rw [Rat.floor_intCast_div_natCast, Int.fdiv_eq_ediv_of_nonneg _ (Int.natCast_nonneg d)]

lemma exists_div_eq_iff {n : Int} {d : Nat} (hd : 0 < d) : (d : Int) ∣ n ↔ ∃ k :
    Int, (n / d : ℚ) = k := by
  have hne : (d : ℚ) ≠ 0 := Nat.cast_ne_zero.2 hd.ne'
  constructor
  · rintro ⟨k, rfl⟩
    refine ⟨k, ?_⟩
    rw [Int.cast_mul, Int.cast_natCast, mul_div_cancel_left₀ _ hne]
  · rintro ⟨k, hk⟩
    rw [div_eq_iff hne] at hk
    refine ⟨k, ?_⟩
    rw [Int.mul_comm]
    exact_mod_cast hk

/-- Opposite whole numbers divided to the floor. -/
lemma opposite_of_fdiv {n : Int} {d : Nat} (hd : 0 < d) :
    (n.fdiv d = -(-n).fdiv d ↔ (d : Int) ∣ n) ∧
      (¬ (d : Int) ∣ n → n.fdiv d = -(-n).fdiv d - 1) := by
  refine opposite_of_floor (fdiv_eq_floor n d) ?_ (exists_div_eq_iff hd)
  rw [fdiv_eq_floor, Int.cast_neg, neg_div]

/-! ### Opposite seconds -/

/-- The seconds of a span of the calendar and of its opposite differ by the sign alone. -/
lemma exists_parts_seconds {n : Int} (hn : n.natAbs ≤ 4000000 * Moment.dayMicros) :
    ∃ (m : Nat) (e : Int), (m * 2 ^ e : ℚ) < 2 ^ 52 ∧ (n = 0 → m = 0) ∧
      parts (seconds n) = .finite ⟨n < 0, m, e⟩ ∧ parts (seconds (-n)) =
        .finite ⟨-n < 0, m, e⟩ := by
  rcases Nat.eq_zero_or_pos n.natAbs with hzero | hpos
  · obtain rfl : n = 0 := Int.natAbs_eq_zero.1 hzero
    exact ⟨0, -1074, by norm_num, fun _ => rfl, rfl, rfl⟩
  · have hlog : n.natAbs.log2 < 60 := (Nat.log2_lt hpos.ne').2 (Nat.lt_of_le_of_lt hn (by decide))
    have hlog' : Nat.log2 1000000 ≤ 1000 := by decide
    obtain ⟨m, e, hbound, hparts⟩ :=
      exists_parts_nearest hpos (show 0 < 1000000 by decide) (by omega) hlog'
    refine ⟨m, e, lt_of_le_of_lt hbound ?_, fun h => absurd h (by omega), hparts _, ?_⟩
    · have hsize : (n.natAbs : ℚ) ≤ 4000000 * 86400000000 := by exact_mod_cast hn
      calc (2 : ℚ) * (n.natAbs / (1000000 : Nat)) ≤
        2 * (4000000 * 86400000000 / (1000000 : Nat)) := by gcongr
        _ < 2 ^ 52 := by norm_num
    · rw [seconds, Int.natAbs_neg]
      exact hparts _

lemma signed_neg {n : Int} {m : Nat} (e : Int) {k : Nat} (hk : n = 0 → k = 0) :
    Binary.signed ⟨-n < 0, m, e⟩ k = -Binary.signed ⟨n < 0, m, e⟩ k := by
  simp only [Binary.signed, decide_eq_true_eq]
  split_ifs <;> omega

lemma wholeOf_eq {x : Float} {s : Bool} {n : Nat} (h : IsWhole x s n) :
    wholeOf x = if s then -(n : Int) else n := by
  obtain ⟨j, hj⟩ := h
  rw [wholeOf, hj]
  exact IsWhole.truncate_eq ⟨j, hj⟩ hj

/-- Seconds lose their fraction in the same way on both sides of zero. -/
lemma wholeOf_seconds_neg {n : Int} (hn : n.natAbs ≤ 4000000 * Moment.dayMicros) :
    wholeOf (seconds (-n)) = -wholeOf (seconds n) := by
  obtain ⟨m, e, -, hzero, hparts, hparts'⟩ := exists_parts_seconds hn
  have htruncate (b : Binary) : b.truncate = b.signed (b.fraction.1 / b.fraction.2) := rfl
  rw [wholeOf, wholeOf, hparts, hparts']
  simp only [htruncate]
  refine signed_neg e fun h => ?_
  rw [Binary.fraction, hzero h, scale]
  split <;> simp

/-- Hours and minutes come down to the floor of the seconds' quotient. -/
lemma opposite_of_floorDiv {n : Int} (hn : n.natAbs ≤ 4000000 * Moment.dayMicros) {y : Float}
    {u : Nat} (hy : IsWhole y false u) (hu : 0 < u) :
    (wholeOf (floorDiv (seconds n) y) = -wholeOf (floorDiv (seconds (-n)) y) ↔
      IsMultiple (seconds n) u) ∧
      (¬ IsMultiple (seconds n) u →
        wholeOf (floorDiv (seconds n) y) = -wholeOf (floorDiv (seconds (-n)) y) - 1) := by
  obtain ⟨m, e, hbound, hzero, hparts, hparts'⟩ := exists_parts_seconds hn
  have hvalue : Binary.value ⟨-n < 0, m, e⟩ = -Binary.value ⟨n < 0, m, e⟩ := by
    rw [Binary.value, Binary.value, signed_neg e hzero, Int.cast_neg, neg_mul]
  have hsmall : |Binary.value ⟨n < 0, m, e⟩| < 2 ^ 52 := by
    rw [Binary.abs_value]
    exact hbound
  have hne : (u : ℚ) ≠ 0 := Nat.cast_ne_zero.2 hu.ne'
  obtain ⟨p, hp, hfloor⟩ := floorDiv_eq_floor hparts hsmall hy hu
  obtain ⟨q, hq, hfloor'⟩ := floorDiv_eq_floor hparts' (by rwa [hvalue, abs_neg]) hy hu
  refine opposite_of_floor ((wholeOf_eq hp).trans hfloor) ?_ ?_
  · rw [wholeOf_eq hq, hfloor', hvalue, neg_div]
  · constructor
    · rintro ⟨b, hb, k, hk⟩
      obtain rfl : _ = b := Parts.finite.inj (hparts.symm.trans hb)
      exact ⟨k, (div_eq_iff hne).2 hk⟩
    · rintro ⟨k, hk⟩
      exact ⟨_, hparts, k, (div_eq_iff hne).1 hk⟩

/-! ### Differences -/

/-- Whether two moments are a whole number of intervals apart. Hours and minutes are told from the
seconds, as the nearest double has them. -/
def Interval.WholeApart (a b : Moment) : Interval → Prop
  | year => True
  | quarter => 3 ∣ monthsBetween a b
  | month => True
  | day => (Moment.dayMicros : Int) ∣ b.micros - a.micros
  | week => (7 * Moment.dayMicros : Int) ∣ b.micros - a.micros
  | hour => IsMultiple (seconds (b.micros - a.micros)) 3600
  | minute => IsMultiple (seconds (b.micros - a.micros)) 60
  | second => True

lemma monthsBetween_swap (a b : Moment) : monthsBetween b a = -monthsBetween a b := by
  rw [monthsBetween, monthsBetween]
  omega

/-- The differences in the two directions are opposite if the moments are whole intervals apart, and
otherwise add up to minus one. -/
lemma difference_swap (a b : Moment) (i : Interval) :
    (difference a b i = -difference b a i ↔ i.WholeApart a b) ∧
      (¬ i.WholeApart a b → difference a b i = -difference b a i - 1) := by
  have hspan := Moment.natAbs_micros_sub_le a b
  have hswap : a.micros - b.micros = -(b.micros - a.micros) := (Int.neg_sub _ _).symm
  have halways {m n : Int} (h : m = -n) : (m = -n ↔ True) ∧ (¬ True → m = -n - 1) :=
    ⟨iff_of_true h trivial, fun hno => absurd trivial hno⟩
  cases i with
  | year => exact halways (Int.neg_sub _ _).symm
  | quarter =>
    simp only [difference, Interval.WholeApart, monthsBetween_swap a b]
    exact opposite_of_fdiv (d := 3) (by decide)
  | month =>
    refine halways ?_
    rw [difference, difference, monthsBetween_swap]
  | day =>
    simp only [difference, Interval.WholeApart, hswap]
    exact opposite_of_fdiv (by decide)
  | week =>
    have hweek (n : Int) : (n.fdiv Moment.dayMicros).fdiv 7 =
        n.fdiv (7 * Moment.dayMicros : Nat) := by
      rw [Int.fdiv_eq_ediv_of_nonneg _ (by decide), Int.fdiv_eq_ediv_of_nonneg _ (by decide),
        Int.fdiv_eq_ediv_of_nonneg _ (by decide), Int.ediv_ediv_of_nonneg (by decide)]
      rfl
    simp only [difference, Interval.WholeApart, hswap, hweek]
    exact opposite_of_fdiv (d := 7 * Moment.dayMicros) (by decide)
  | hour =>
    simp only [difference, Interval.WholeApart, hswap]
    exact opposite_of_floorDiv hspan isWhole_hour (by decide)
  | minute =>
    simp only [difference, Interval.WholeApart, hswap]
    exact opposite_of_floorDiv hspan isWhole_minute (by decide)
  | second =>
    refine halways ?_
    rw [difference, difference, hswap, wholeOf_seconds_neg hspan, Int.neg_neg]

end DateFunction

namespace Catalog

open DateFunction

/-- `DateDiff` in the two directions: the results are opposite exactly if the dates are whole
intervals apart, and otherwise miss that by one. -/
theorem dateDiff_swap {diff : Routine} (hdiff : dates.lookup "DateDiff" = some diff) {name : String}
    {i : Interval}
    (hname : String.ofList (Text.lower name.toList) = i.name) (a b : When) (w w' : World) :
    ∃ m n : Int,
      (diff.call [.text name, a.value, b.value] []).carryOut w = (.ok (.int m), w) ∧
      (diff.call [.text name, b.value, a.value] []).carryOut w' = (.ok (.int n), w') ∧
      (m = -n ↔ i.WholeApart a.start b.start) ∧ (¬ i.WholeApart a.start b.start → m = -n - 1) := by
  have hi : Interval.ofName? name.toList = some i := Interval.ofName?_of_lower hname
  refine ⟨difference a.start b.start i, difference b.start a.start i, ?_, ?_,
    difference_swap a.start b.start i⟩
  · rw [carryOut_dateDiff hdiff, differenceOf_value _ _ _ _ hi]
  · rw [carryOut_dateDiff hdiff, differenceOf_value _ _ _ _ hi]

/-- Three weeks from the first of January 2024, there and back. -/
theorem dateDiff_swap_threeWeeks : ∃ diff new later,
    dates.lookup "DateDiff" = some diff ∧
    Date.ofParts? 2024 1 1 = some new ∧ Date.ofParts? 2024 1 22 = some later ∧
    ∃ m n : Int,
      (diff.call [.text "W", .date new, .date later] []).carryOut Script.firstScene.world =
        (.ok (.int m), Script.firstScene.world) ∧
      (diff.call [.text "W", .date later, .date new] []).carryOut Script.firstScene.world =
        (.ok (.int n), Script.firstScene.world) ∧ m = -n := by
  obtain ⟨diff, hdiff⟩ : ∃ diff, dates.lookup "DateDiff" = some diff := ⟨_, rfl⟩
  obtain ⟨new, hnew⟩ : ∃ new, Date.ofParts? 2024 1 1 = some new := ⟨_, rfl⟩
  obtain ⟨later, hlater⟩ : ∃ later, Date.ofParts? 2024 1 22 = some later := ⟨_, rfl⟩
  have hname : String.ofList (Text.lower "W".toList) = Interval.week.name := by decide
  have hwhole : Interval.week.WholeApart (When.date new).start (When.date later).start := by
    refine ⟨3, ?_⟩
    cases hnew
    cases hlater
    decide
  obtain ⟨m, n, hthere, hback, hiff, -⟩ := dateDiff_swap hdiff hname (.date new) (.date later)
    Script.firstScene.world Script.firstScene.world
  exact ⟨diff, new, later, hdiff, hnew, hlater, m, n, hthere, hback, hiff.2 hwhole⟩

/-- A month is no quarter in one direction and a quarter in the other. -/
theorem month_counts_back_as_quarter : ∃ diff january february,
    dates.lookup "DateDiff" = some diff ∧
    Date.ofParts? 2024 1 1 = some january ∧ Date.ofParts? 2024 2 1 = some february ∧
    ∃ m n : Int,
      (diff.call [.text "q", .date january, .date february] []).carryOut Script.firstScene.world =
        (.ok (.int m), Script.firstScene.world) ∧
      (diff.call [.text "q", .date february, .date january] []).carryOut Script.firstScene.world =
        (.ok (.int n), Script.firstScene.world) ∧ m = 0 ∧ n = -1 ∧ m ≠ -n := by
  obtain ⟨diff, hdiff⟩ : ∃ diff, dates.lookup "DateDiff" = some diff := ⟨_, rfl⟩
  obtain ⟨january, hjanuary⟩ : ∃ january, Date.ofParts? 2024 1 1 = some january := ⟨_, rfl⟩
  obtain ⟨february, hfebruary⟩ : ∃ february, Date.ofParts? 2024 2 1 = some february := ⟨_, rfl⟩
  refine ⟨diff, january, february, hdiff, hjanuary, hfebruary, 0, -1, ?_, ?_, rfl, rfl, by decide⟩
  · rw [carryOut_dateDiff hdiff]
    cases hjanuary
    cases hfebruary
    rfl
  · rw [carryOut_dateDiff hdiff]
    cases hjanuary
    cases hfebruary
    rfl

end Catalog

end ScriptHost
