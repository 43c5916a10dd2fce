import ScriptHost.Proofs.DateSpans

/-!
# Numbers of days

The days of the calendar are numbered without gaps and without repetition, from 1 to the number of
the last day: the years cut this range into pieces, the months cut a year, and the search for a
day's year and month finds the pieces that contain its number. So a number within the range belongs
to exactly one day.
-/

namespace ScriptHost.Calendar

/-! ### Years and months as pieces -/

lemma isLeap_iff (y : Nat) : isLeap y = true ↔ 4 ∣ y ∧ (¬ 100 ∣ y ∨ 400 ∣ y) := by
  simp [isLeap, Nat.dvd_iff_mod_eq_zero]

lemma daysBeforeMonth_succ (y : Nat) {m : Nat} (hm : 1 ≤ m) :
    daysBeforeMonth y (m + 1) = daysBeforeMonth y m + daysInMonth y m := by
  obtain ⟨m, rfl⟩ := Nat.exists_eq_add_of_le' hm
  rfl

lemma monotone_daysBeforeMonth (y : Nat) : Monotone (daysBeforeMonth y) := by
  apply monotone_nat_of_le_succ
  intro m
  cases m with
  | zero => exact Nat.le_refl 0
  | succ m =>
    rw [daysBeforeMonth_succ y (Nat.succ_pos m)]
    exact Nat.le_add_right _ _

/-- The twelve months together. -/
lemma daysBeforeMonth_thirteen (y : Nat) : daysBeforeMonth y 13 = if isLeap y then 366
    else 365 := by
  cases h : isLeap y <;> simp [daysBeforeMonth, daysInMonth, h]

lemma daysBeforeYear_add (p : Nat) :
    daysBeforeYear (p + 1) + p / 100 = p * 365 + p / 4 + p / 400 := by
  have hle : p / 100 ≤ p / 4 := Nat.div_le_div_left (by decide) (by decide)
  change p * 365 + p / 4 - p / 100 + p / 400 + p / 100 = _
  omega

/-- A year is as long as its months together. -/
lemma daysBeforeYear_succ {y : Nat} (hy : 1 ≤ y) :
    daysBeforeYear (y + 1) = daysBeforeYear y + daysBeforeMonth y 13 := by
  obtain ⟨p, rfl⟩ := Nat.exists_eq_add_of_le' hy
  have hnow := daysBeforeYear_add p
  have hnext := daysBeforeYear_add (p + 1)
  have hfour : 100 ∣ p + 1 → 4 ∣ p + 1 := Nat.dvd_trans (by decide)
  have hcentury : 400 ∣ p + 1 → 100 ∣ p + 1 := Nat.dvd_trans (by decide)
  rw [Nat.succ_div, Nat.succ_div, Nat.succ_div] at hnext
  simp only [daysBeforeMonth_thirteen, isLeap_iff]
  split_ifs at hnext ⊢ <;> omega

lemma daysBeforeYear_succ_ge {y : Nat} (hy : 1 ≤ y) :
    daysBeforeYear y + 365 ≤ daysBeforeYear (y + 1) := by
  rw [daysBeforeYear_succ hy, daysBeforeMonth_thirteen]
  split <;> omega

lemma monotone_daysBeforeYear : Monotone daysBeforeYear := by
  apply monotone_nat_of_le_succ
  intro y
  rcases Nat.eq_zero_or_pos y with rfl | hy
  · exact Nat.le_refl 0
  · rw [daysBeforeYear_succ hy]
    exact Nat.le_add_right _ _

/-- Pieces with monotone bounds do not overlap. -/
lemma eq_of_between {bound : Nat → Nat} (h : Monotone bound) {a b n : Nat} (ha : bound a < n)
    (ha' : n ≤ bound (a + 1))
    (hb : bound b < n) (hb' : n ≤ bound (b + 1)) : a = b := by
  have hlt : a < b + 1 := h.reflect_lt (Nat.lt_of_lt_of_le ha hb')
  have hgt : b < a + 1 := h.reflect_lt (Nat.lt_of_lt_of_le hb ha')
  omega

namespace Date

variable (d : Date)

lemma dayOfYear_le : daysBeforeMonth d.year d.month + d.day ≤ daysBeforeMonth d.year
    (d.month + 1) := by
  rw [daysBeforeMonth_succ _ d.month_pos]
  exact Nat.add_le_add_left d.day_le _

lemma daysBeforeYear_lt_ordinal : daysBeforeYear d.year < d.ordinal := by
  have hday := d.day_pos
  rw [ordinal]
  omega

lemma ordinal_le_daysBeforeYear : d.ordinal ≤ daysBeforeYear (d.year + 1) := by
  have hday := d.dayOfYear_le
  have hmonth : daysBeforeMonth d.year (d.month + 1) ≤ daysBeforeMonth d.year 13 :=
    monotone_daysBeforeMonth d.year (Nat.succ_le_succ d.month_le)
  rw [daysBeforeYear_succ d.year_pos, ordinal]
  omega

/-- The number of a day determines it. -/
theorem ordinal_injective : Function.Injective ordinal := by
  intro d e h
  have hyear : d.year = e.year := by
    refine eq_of_between monotone_daysBeforeYear d.daysBeforeYear_lt_ordinal
      d.ordinal_le_daysBeforeYear ?_ ?_
    · rw [h]
      exact e.daysBeforeYear_lt_ordinal
    · rw [h]
      exact e.ordinal_le_daysBeforeYear
  have hdays : daysBeforeMonth e.year d.month + d.day = daysBeforeMonth e.year e.month + e.day := by
    rw [ordinal, ordinal, hyear] at h
    omega
  have hmonth : d.month = e.month := by
    have hd := hyear ▸ d.dayOfYear_le
    have hd' := d.day_pos
    have he' := e.day_pos
    refine eq_of_between (monotone_daysBeforeMonth e.year) ?_ hd ?_ ?_
    · omega
    · omega
    · exact hdays ▸ e.dayOfYear_le
  have hday : d.day = e.day := by
    rw [hmonth] at hdays
    omega
  cases d
  cases e
  dsimp only at hyear hmonth hday
  subst hyear hmonth hday
  rfl

/-! ### Finding a day by its number -/

/-- The days before a year told by cycles of four hundred, one hundred, four and one years. -/
lemma daysBeforeYear_cycles (a : Nat) {b c k : Nat} (hb : b < 4) (hc : c < 25) (hk : k < 4) :
    daysBeforeYear (a * 400 + b * 100 + c * 4 + k + 1) =
      146097 * a + 36524 * b + 1461 * c + 365 * k := by
  have hadd := daysBeforeYear_add (a * 400 + b * 100 + c * 4 + k)
  have hfours : (a * 400 + b * 100 + c * 4 + k) / 4 = a * 100 + b * 25 + c := by omega
  have hhundreds : (a * 400 + b * 100 + c * 4 + k) / 100 = a * 4 + b := by omega
  have hcycles : (a * 400 + b * 100 + c * 4 + k) / 400 = a := by omega
  rw [hfours, hhundreds, hcycles] at hadd
  omega

/-- The year found for a number is the one whose days contain it. -/
lemma yearOfOrdinal_between {n : Nat} (hn : 1 ≤ n) :
    1 ≤ yearOfOrdinal n ∧ daysBeforeYear (yearOfOrdinal n) < n ∧
      n ≤ daysBeforeYear (yearOfOrdinal n + 1) := by
  unfold yearOfOrdinal
  dsimp only
  generalize ha : (n - 1) / 146097 = a
  generalize hr : (n - 1) % 146097 = r
  generalize hb : r / 36524 = b
  generalize hr' : r % 36524 = r'
  generalize hc : r' / 1461 = c
  generalize hr'' : r' % 1461 = r''
  generalize hk : r'' / 365 = k
  have hsum : n = 146097 * a + 36524 * b + 1461 * c + r'' + 1 := by omega
  have hc' : c < 25 := by omega
  split
  · next hlast =>
    -- The last day of a leap year that ends a cycle counts as one year too many, and no day of it.
    have hend : a * 400 + b * 100 + c * 4 + k ≠ 0 ∧
        n = daysBeforeYear (a * 400 + b * 100 + c * 4 + k + 1) := by
      simp only [Bool.or_eq_true, beq_iff_eq] at hlast
      by_cases hcycle : b = 4
      · have hyears : a * 400 + b * 100 + c * 4 + k = (a + 1) * 400 + 0 * 100 + 0 * 4 + 0 := by
          omega
        rw [hyears, daysBeforeYear_cycles (a + 1) (show 0 < 4 by decide) (show 0 < 25 by decide)
          (show 0 < 4 by decide)]
        omega
      · have hyears : a * 400 + b * 100 + c * 4 + k = a * 400 + b * 100 + (c + 1) * 4 + 0 := by
          omega
        rw [hyears, daysBeforeYear_cycles a (show b < 4 by omega) (show c + 1 < 25 by omega)
          (show 0 < 4 by decide)]
        omega
    have hyear := daysBeforeYear_succ_ge (Nat.pos_of_ne_zero hend.1)
    omega
  · next hwithin =>
    simp only [Bool.or_eq_true, beq_iff_eq, not_or] at hwithin
    have hstart := daysBeforeYear_cycles a (show b < 4 by omega) hc' (show k < 4 by omega)
    have hyear := daysBeforeYear_succ_ge (Nat.le_add_left 1 (a * 400 + b * 100 + c * 4 + k))
    omega

/-- The search for a month stops at the one whose days contain the day of the year. -/
lemma monthOfDay_between (y : Nat) {k m left : Nat} (hlow : daysBeforeMonth y m < k)
    (hhigh : k ≤ daysBeforeMonth y (m + left + 1)) :
    m ≤ monthOfDay y k m left ∧ monthOfDay y k m left ≤ m + left ∧
      daysBeforeMonth y (monthOfDay y k m left) < k ∧
        k ≤ daysBeforeMonth y (monthOfDay y k m left + 1) := by
  induction left generalizing m with
  | zero => exact ⟨Nat.le_refl m, Nat.le_refl m, hlow, hhigh⟩
  | succ left ih =>
    rw [monthOfDay]
    split
    · next hstop => exact ⟨Nat.le_refl m, Nat.le_add_right m _, hlow, hstop⟩
    · next hgo =>
      obtain ⟨hge, hle, hfound⟩ := ih (Nat.lt_of_not_le hgo) (by rwa [Nat.add_right_comm m 1 left])
      exact ⟨by omega, by omega, hfound⟩

/-- Every number within the calendar's range belongs to a day. -/
theorem exists_ofOrdinal? {n : Int} (hlow : 1 ≤ n) (hhigh : n ≤ lastOrdinal) :
    ∃ d, ofOrdinal? n = some d := by
  obtain ⟨n, rfl⟩ := Int.eq_ofNat_of_zero_le (Int.le_trans (by decide) hlow)
  have hn : 1 ≤ n := by omega
  have hrange : ¬ ((n : Int) < 1 ∨ (lastOrdinal : Int) < n) := by omega
  obtain ⟨hpos, hbefore, hwithin⟩ := yearOfOrdinal_between hn
  rw [ofOrdinal?, if_neg hrange]
  dsimp only
  rw [Int.toNat_natCast]
  generalize yearOfOrdinal n = y at *
  have hyear : y < 10000 := by
    refine monotone_daysBeforeYear.reflect_lt (Nat.lt_of_lt_of_le hbefore ?_)
    exact Int.ofNat_le.1 hhigh
  have hday : n - daysBeforeYear y ≤ daysBeforeMonth y (1 + 11 + 1) := by
    rw [daysBeforeYear_succ hpos] at hwithin
    exact Nat.sub_le_of_le_add (by rwa [Nat.add_comm])
  obtain ⟨hmonth, hmonth', hlow', hhigh'⟩ := monthOfDay_between y (Nat.sub_pos_of_lt hbefore) hday
  generalize monthOfDay y (n - daysBeforeYear y) 1 11 = m at *
  rw [daysBeforeMonth_succ y hmonth] at hhigh'
  rw [ofParts?, dif_pos ⟨⟨hpos, Nat.le_of_lt_succ hyear⟩, ⟨hmonth, hmonth'⟩, by omega, by omega⟩]
  exact ⟨_, rfl⟩

lemma ordinal_pos : 1 ≤ d.ordinal :=
  Nat.lt_of_le_of_lt (Nat.zero_le _) d.daysBeforeYear_lt_ordinal

lemma ordinal_le_last : d.ordinal ≤ lastOrdinal :=
  Nat.le_trans d.ordinal_le_daysBeforeYear (monotone_daysBeforeYear (Nat.succ_le_succ d.year_le))

/-- A day is found by its number. -/
theorem ofOrdinal?_ordinal : ofOrdinal? d.ordinal = some d := by
  obtain ⟨e, he⟩ :=
    exists_ofOrdinal? (Int.ofNat_le.2 d.ordinal_pos) (Int.ofNat_le.2 d.ordinal_le_last)
  have hsame : e.ordinal = d.ordinal := Int.ofNat_inj.1 (ordinal_of_ofOrdinal? he)
  rw [he, ordinal_injective hsame]

end Date

end ScriptHost.Calendar
