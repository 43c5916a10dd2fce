import ScriptHost.Proofs.DayNumbers

/-!
# Adding years and months

Years and months are added on the calendar and keep the time of day. Where the day is missing in the
month that is reached, adding months takes the twenty-eighth. Adding years counts days instead, 365
a year and one more for every fourth: beyond the ends of the calendar that leads outside too, and
within it the leap day comes as many days after the twenty-eighth of February as the count had years
for leap years that are none.
-/

namespace ScriptHost

open Calendar Number

namespace Calendar

/-! ### Days with given parts -/

lemma twentyEight_le_daysInMonth (y m : Nat) : 28 ≤ daysInMonth y m := by
  unfold daysInMonth
  split
  · split <;> decide
  · split <;> decide

namespace Date

@[simp] lemma ofParts?_parts (d : Date) : ofParts? d.year d.month d.day = some d :=
  dif_pos ⟨⟨d.year_pos, d.year_le⟩, ⟨d.month_pos, d.month_le⟩, d.day_pos, d.day_le⟩

lemma ofParts?_of_daysInMonth_lt {y m k : Nat} (h : daysInMonth y m < k) : ofParts? y m k = none :=
  dif_neg fun hparts => Nat.not_lt.2 hparts.2.2.2 h

lemma ofParts?_of_lastYear_lt {y : Nat} (h : lastYear < y) (m k : Nat) : ofParts? y m k = none :=
  dif_neg fun hparts => Nat.not_lt.2 hparts.1.2 h

/-- The twenty-ninth of February. -/
def IsLeapDay (d : Date) : Prop :=
  d.month = 2 ∧ d.day = 29

instance (d : Date) : Decidable d.IsLeapDay :=
  inferInstanceAs (Decidable (_ ∧ _))

lemma IsLeapDay.isLeap {d : Date} (h : d.IsLeapDay) : isLeap d.year = true := by
  have hle := d.day_le
  rw [h.1, h.2, daysInMonth, if_pos (by decide)] at hle
  by_contra hnot
  rw [if_neg hnot] at hle
  exact absurd hle (by decide)

/-- Only the leap day is missing in some years. -/
lemma day_le_daysInMonth_iff (d : Date) (y : Nat) :
    d.day ≤ daysInMonth y d.month ↔ ¬ (d.IsLeapDay ∧ isLeap y = false) := by
  have hle := d.day_le
  unfold daysInMonth at *
  by_cases hmonth : d.month = 2
  · have hleap : d.IsLeapDay ↔ d.day = 29 := and_iff_right hmonth
    rw [hleap]
    rw [if_pos (beq_iff_eq.2 hmonth)] at hle ⊢
    split at hle <;> cases isLeap y <;> simp <;> omega
  · have hleap : ¬ d.IsLeapDay := fun h => hmonth h.1
    rw [if_neg (by simpa using hmonth)] at hle ⊢
    exact ⟨fun _ h => hleap h.1, fun _ => hle⟩

end Date

/-! ### Moving by whole days -/

lemma TimeOfDay.ofMicros_micros (t : TimeOfDay) : ofMicros t.micros = t := by
  have h := t.hour_lt
  have m := t.minute_lt
  have s := t.second_lt
  have u := t.micro_lt
  obtain ⟨hour, minute, second, micro, _, _, _, _⟩ := t
  simp only [ofMicros, micros, TimeOfDay.mk.injEq] at *
  omega

/-- Whole days after a moment, the time of day is the same. -/
lemma Moment.ofMicros?_days (m : Moment) (k : Int) :
    ofMicros? (m.micros + k * dayMicros) = (Date.ofOrdinal? (m.date.ordinal + k)).map fun d =>
      ⟨d, m.time⟩ := by
  have hpos : (dayMicros : Int) ≠ 0 := by decide
  have hlt : (m.time.micros : Int) < dayMicros := Int.ofNat_lt.2 m.time.micros_lt
  have hmicros : m.micros + k * dayMicros = m.time.micros + (m.date.ordinal + k) * dayMicros := by
    rw [micros, Int.add_mul]
    omega
  have hday : (m.micros + k * dayMicros).fdiv dayMicros = m.date.ordinal + k := by
    rw [hmicros, Int.add_mul_fdiv_right _ _ hpos, Int.fdiv_eq_ediv_of_nonneg _ (by omega),
      Int.ediv_eq_zero_of_lt (by omega) hlt, Int.zero_add]
  have htime : (m.micros + k * dayMicros).fmod dayMicros = m.time.micros := by
    have hsplit := Int.mul_fdiv_add_fmod (m.micros + k * dayMicros) dayMicros
    rw [hday, Int.mul_comm] at hsplit
    omega
  rw [ofMicros?, hday, htime, Int.toNat_natCast, TimeOfDay.ofMicros_micros]

end Calendar

namespace DateFunction

lemma shiftMoment_days (m : Moment) (k : Int) :
    shiftMoment m (k * Moment.dayMicros) =
      (span (k * Moment.dayMicros)).bind fun _ => (shiftDay m.date k).map fun d => ⟨d, m.time⟩ := by
  unfold shiftMoment shiftDay
  cases hspan : span (k * Moment.dayMicros) with
  | error e => rfl
  | ok n =>
    rw [eq_of_span hspan, ok_bind, Moment.ofMicros?_days]
    cases Date.ofOrdinal? (m.date.ordinal + k) <;> rfl

lemma span_of_days_le {k : Int} (h : k.natAbs ≤ 999999999) :
    span (k * Moment.dayMicros) = .ok (k * Moment.dayMicros) := by
  have hdays : (k * (Moment.dayMicros : Int)).fdiv Moment.dayMicros = k :=
    Int.mul_fdiv_cancel k (by decide)
  have hword : twoPow 31 = 2147483648 := rfl
  unfold span
  dsimp only
  rw [hdays, hword, if_neg (by simp; omega), if_pos h]

lemma kind_of_span {n : Int} {e : Fault} (h : span n = .error e) : e.kind = .overflow := by
  unfold span at h
  dsimp only at h
  split at h
  · cases h
    rfl
  · split at h
    · cases h
    · cases h
      rfl

/-! ### Years that can be asked for -/

lemma kind_of_askYear {y : Int} {e : Fault} (h : askYear y = .error e) : e.kind = .overflow := by
  unfold askYear at h
  split at h
  · cases h
    rfl
  · split at h
    · cases h
      rfl
    · split at h
      · cases h
        rfl
      · cases h

lemma askYear_of_le {y : Int} (hlow : 1 ≤ y) (hhigh : y ≤ lastYear) : askYear y = .ok y := by
  have hword : twoPow 31 = 2147483648 := rfl
  have hlong := twoPow_63
  have hlast : lastYear = 9999 := rfl
  rw [askYear, hword, hlong, if_neg (by simp; omega), if_neg (by omega), if_neg (by omega)]

/-- A day that exists is reached with the time of day unchanged. -/
lemma withDay_parts (m : Moment) (d : Date) :
    withDay m d.year d.month d.day = some ⟨d, m.time⟩ := by
  have hyear := d.year_pos
  rw [withDay, if_neg (by omega), Int.toNat_natCast, Date.ofParts?_parts]
  rfl

lemma withDay_of_daysInMonth_lt (m : Moment) {y month k : Nat} (h : daysInMonth y month < k) :
    withDay m y month k = none := by
  unfold withDay
  split
  · rfl
  · rw [Int.toNat_natCast, Date.ofParts?_of_daysInMonth_lt h]
    rfl

lemma withDay_of_outside (m : Moment) {y : Int} (h : y < 1 ∨ lastYear < y) (month k : Nat) :
    withDay m y month k = none := by
  unfold withDay
  split
  · rfl
  · next hpos =>
    rw [Date.ofParts?_of_lastYear_lt (by omega)]
    rfl

/-! ### Years outside of the calendar -/

/-- Counting 365 and a quarter days a year from any day of the calendar to a year outside of it
leads outside of it. The count is too large forward and too small back by the leap years that
centuries leave out; at the ends of the calendar there is no day to spare. -/
lemma ordinal_count_outside (d : Date) {n : Int} (h : d.year + n < 1 ∨ lastYear < d.year + n) :
    (d.ordinal : Int) + (365 * n + n.fdiv 4) < 1 ∨
      (Date.lastOrdinal : Int) < d.ordinal + (365 * n + n.fdiv 4) := by
  have hlow := d.daysBeforeYear_lt_ordinal
  have hhigh := d.ordinal_le_daysBeforeYear
  have hyear : d.year ≤ 9999 := d.year_le
  obtain ⟨p, hp⟩ := Nat.exists_eq_add_of_le' d.year_pos
  have hbefore := daysBeforeYear_add p
  have hbefore' := daysBeforeYear_add (p + 1)
  rw [hp] at h hlow hhigh hyear
  rw [Int.fdiv_eq_ediv_of_nonneg _ (by decide)]
  rcases h with h | h
  · left
    omega
  · right
    simp only [lastYear, Date.lastOrdinal] at *
    omega

lemma shiftDay_of_outside (d : Date) {k : Int}
    (h : (d.ordinal : Int) + k < 1 ∨ (Date.lastOrdinal : Int) < d.ordinal + k) :
      shiftDay d k = .error .dateRange := by
  rw [shiftDay, Date.ofOrdinal?, if_pos h]

lemma kind_of_addYears_outside (m : Moment) {n : Int}
    (h : m.date.year + n < 1 ∨ lastYear < m.date.year + n) :
    ∃ e, addYears m n = .error e ∧ e.kind = .overflow := by
  unfold addYears
  cases hask : askYear (m.date.year + n) with
  | error e => exact ⟨e, rfl, kind_of_askYear hask⟩
  | ok y =>
    obtain rfl := eq_of_askYear hask
    rw [ok_bind, withDay_of_outside m h]
    dsimp only
    rw [shiftMoment_days, shiftDay_of_outside m.date (ordinal_count_outside m.date h)]
    cases hspan : span ((365 * n + n.fdiv 4) * Moment.dayMicros) with
    | error e => exact ⟨e, rfl, kind_of_span hspan⟩
    | ok k => exact ⟨.dateRange, rfl, rfl⟩

/-! ### Months -/

/-- Adding months reaches the month that lies so many months away. Its day is the same, or the
twenty-eighth if the month has no such day. -/
lemma addMonths_eq (m : Moment) {n : Int} {e : Date} (hmonths : monthsBetween m ⟨e, m.time⟩ = n)
    (hday : e.day = if m.date.day ≤ daysInMonth e.year e.month then m.date.day else 28) :
    addMonths m n = .ok ⟨e, m.time⟩ := by
  have hmonth := e.month_pos
  have hmonth' := e.month_le
  rw [monthsBetween] at hmonths
  dsimp only at hmonths
  have hindex : (m.date.month : Int) + n - 1 = (e.month : Int) - 1 + ((e.year : Int) - m.date.year)
      * 12 := by omega
  have hyears : ((m.date.month : Int) + n - 1).fdiv 12 = (e.year : Int) - m.date.year := by
    rw [hindex, Int.add_mul_fdiv_right _ _ (by decide), Int.fdiv_eq_ediv_of_nonneg _ (by decide)]
    omega
  have hrest : (((m.date.month : Int) + n - 1).fmod 12).toNat + 1 = e.month := by
    rw [hindex, Int.add_mul_fmod_self_right, Int.fmod_eq_emod_of_nonneg _ (by decide)]
    omega
  have hyear : (m.date.year : Int) + ((e.year : Int) - m.date.year) = e.year := by omega
  have hask := askYear_of_le (Int.ofNat_le.2 e.year_pos) (Int.ofNat_le.2 e.year_le)
  rw [addMonths, hyears, hrest, hyear, hask, ok_bind]
  dsimp only
  by_cases hfits : m.date.day ≤ daysInMonth e.year e.month
  · rw [if_pos hfits] at hday
    rw [← hday, withDay_parts]
    rfl
  · have hmin : min m.date.day 28 = e.day := by
      have hle := twentyEight_le_daysInMonth e.year e.month
      rw [if_neg hfits] at hday
      omega
    rw [withDay_of_daysInMonth_lt m (Nat.lt_of_not_le hfits), hmin, withDay_parts]
    rfl

lemma exists_date_in_month {y month : Nat} (hyear : 1 ≤ y ∧ y ≤ lastYear)
    (hmonth : 1 ≤ month ∧ month ≤ 12) {k : Nat} (hk : 1 ≤ k) :
    ∃ e : Date, e.year = y ∧ e.month = month ∧
      e.day = if k ≤ daysInMonth y month then k else 28 := by
  have hle := twentyEight_le_daysInMonth y month
  have hday : 1 ≤ (if k ≤ daysInMonth y month then k else 28) ∧
      (if k ≤ daysInMonth y month then k else 28) ≤ daysInMonth y month := by
    split <;> omega
  exact ⟨⟨y, month, _, hyear.1, hyear.2, hmonth.1, hmonth.2, hday.1, hday.2⟩, rfl, rfl, rfl⟩

/-! ### Years within the calendar -/

/-- The years up to `y` that end a century and are no leap years. -/
def commonCenturies (y : Nat) : Nat :=
  y / 100 - y / 400

/-- By how many days adding years misses the twenty-eighth of February, coming from a leap day to a
year without one. -/
def drift (d : Date) (y : Nat) : Int :=
  if d.IsLeapDay ∧ isLeap y = false then commonCenturies y - commonCenturies d.year else 0

/-- Every fourth year is a leap year or ends a century without one. -/
lemma daysBeforeYear_add_commonCenturies {y : Nat} (hy : 1 ≤ y) :
    daysBeforeYear y + (if isLeap y then 1 else 0) + commonCenturies y + 365 = 365 * y + y / 4 := by
  obtain ⟨p, rfl⟩ := Nat.exists_eq_add_of_le' hy
  have hbefore := daysBeforeYear_add p
  have hcycles : p / 400 ≤ p / 100 := Nat.div_le_div_left (by decide) (by decide)
  have hfour : 100 ∣ p + 1 → 4 ∣ p + 1 := Nat.dvd_trans (by decide)
  have hcentury : 400 ∣ p + 1 → 100 ∣ p + 1 := Nat.dvd_trans (by decide)
  simp only [commonCenturies, isLeap_iff, Nat.succ_div]
  split_ifs <;> omega

/-- From a leap year to a common year, the count of days is the distance of their ends of February
and the drift. -/
lemma daysBeforeYear_count {y z : Nat} {n : Int} (hyear : (z : Int) = y + n) (hy : 1 ≤ y)
    (hz : 1 ≤ z) (hleap : isLeap y = true) (hcommon : isLeap z = false) :
    (daysBeforeYear y : Int) + 1 + (365 * n + n.fdiv 4) =
      daysBeforeYear z + (commonCenturies z - commonCenturies y) := by
  have hstart := daysBeforeYear_add_commonCenturies hy
  have hend := daysBeforeYear_add_commonCenturies hz
  have hfour : 4 ∣ y := ((isLeap_iff y).1 hleap).1
  rw [hleap, if_pos rfl] at hstart
  rw [hcommon, if_neg Bool.false_ne_true] at hend
  rw [Int.fdiv_eq_ediv_of_nonneg _ (by decide)]
  omega

lemma ordinal_count_leapDay {d e : Date} {n : Int} (hyear : (e.year : Int) = d.year + n)
    (hd : d.IsLeapDay)
    (hcommon : isLeap e.year = false) (hmonth : e.month = 2) (hday : e.day = 28) :
    (d.ordinal : Int) + (365 * n + n.fdiv 4) =
      e.ordinal + (commonCenturies e.year - commonCenturies d.year) := by
  have hcount := daysBeforeYear_count hyear d.year_pos e.year_pos hd.isLeap hcommon
  have hjanuary (y : Nat) : daysBeforeMonth y 2 = 31 := by
    simp [daysBeforeMonth, daysInMonth]
  rw [Date.ordinal, Date.ordinal, hd.1, hd.2, hmonth, hday, hjanuary, hjanuary]
  omega

lemma natAbs_count_le {y z : Nat} {n : Int} (hyear : (z : Int) = y + n) (hy : y ≤ lastYear)
    (hz : z ≤ lastYear) :
    (365 * n + n.fdiv 4).natAbs ≤ 999999999 := by
  rw [Int.fdiv_eq_ediv_of_nonneg _ (by decide)]
  simp only [lastYear] at *
  omega

/-- Adding years within the calendar reaches the same day of the year, or the twenty-eighth of
February for a leap day that the year does not have, missed by the drift. -/
lemma addYears_eq (m : Moment) {n : Int} {e : Date} (hyear : (e.year : Int) = m.date.year + n)
    (hmonth : e.month = m.date.month)
    (hday : e.day = if m.date.IsLeapDay ∧ isLeap e.year = false then 28 else m.date.day) :
    addYears m n = (shiftDay e (drift m.date e.year)).map fun d => ⟨d, m.time⟩ := by
  have hask := askYear_of_le (Int.ofNat_le.2 e.year_pos) (Int.ofNat_le.2 e.year_le)
  rw [addYears, ← hyear, hask, ok_bind]
  by_cases hlost : m.date.IsLeapDay ∧ isLeap e.year = false
  · have hmissing : daysInMonth e.year m.date.month < m.date.day := by
      rw [← Nat.not_le, Date.day_le_daysInMonth_iff, not_not]
      exact hlost
    have hspan := span_of_days_le (natAbs_count_le hyear m.date.year_le e.year_le)
    have hcount := ordinal_count_leapDay hyear hlost.1 hlost.2 (hmonth.trans hlost.1.1)
      (by rw [hday, if_pos hlost])
    rw [withDay_of_daysInMonth_lt m hmissing, drift, if_pos hlost]
    dsimp only
    rw [shiftMoment_days, hspan, shiftDay, hcount]
    rfl
  · rw [if_neg hlost] at hday
    rw [drift, if_neg hlost, shiftDay, Int.add_zero, Date.ofOrdinal?_ordinal, ← hmonth, ← hday,
      withDay_parts]
    rfl

lemma exists_date_in_year (d : Date) {y : Nat} (hyear : 1 ≤ y ∧ y ≤ lastYear) :
    ∃ e : Date, e.year = y ∧ e.month = d.month ∧
      e.day = if d.IsLeapDay ∧ isLeap y = false then 28 else d.day := by
  obtain ⟨e, hy, hmonth, hday⟩ := exists_date_in_month hyear ⟨d.month_pos, d.month_le⟩ d.day_pos
  refine ⟨e, hy, hmonth, ?_⟩
  rw [hday]
  simp only [Date.day_le_daysInMonth_iff]
  rw [ite_not]

/-- Days later is what the numbers of the days say. -/
lemma shiftDay_eq_ok_iff {d e : Date} {k : Int} :
    shiftDay d k = .ok e ↔ (d.ordinal : Int) + k = e.ordinal := by
  constructor
  · intro h
    unfold shiftDay at h
    split at h
    · next hfound =>
      cases h
      exact (Date.ordinal_of_ofOrdinal? hfound).symm
    · cases h
  · intro h
    rw [shiftDay, h, Date.ofOrdinal?_ordinal]

@[simp] lemma When.day_date (d : Date) : (When.date d).day = d := rfl

/-! ### Intervals by name -/

/-- The abbreviation of an interval. -/
def Interval.name : Interval → String
  | year => "yyyy"
  | quarter => "q"
  | month => "m"
  | day => "d"
  | week => "w"
  | hour => "h"
  | minute => "n"
  | second => "s"

lemma Interval.ofName?_of_lower {cs : List Char} {i : Interval}
    (h : String.ofList (Text.lower cs) = i.name) :
    ofName? cs = some i := by
  rw [ofName?, h]
  cases i <;> rfl

end DateFunction

namespace Catalog

open DateFunction

/-- `DateAdd` does not take a year out of the calendar: the years before the first and after the
last overflow, from every day, although days are counted then. -/
theorem dateAdd_years_outside {add : Routine} (hadd : dates.lookup "DateAdd" = some add)
    {name : String} (hname : String.ofList (Text.lower name.toList) = "yyyy") (d : When) {n : Int}
    (hn : d.day.year + n < 1 ∨ 9999 < d.day.year + n) (w : World) :
    ∃ e : Fault, e.kind = .overflow ∧
      (add.call [.text name, .int n, d.value] []).carryOut w = (.error e, w) := by
  have hi : Interval.ofName? name.toList = some .year := Interval.ofName?_of_lower hname
  obtain ⟨e, he, hkind⟩ := kind_of_addYears_outside d.start hn
  refine ⟨e, hkind, ?_⟩
  rw [carryOut_dateAdd hadd, addOf_value _ _ _ _ hi, addInterval, he]
  rfl

/-- Four years before the last day of year 4 there is one day too few, and a year after the first
day of the last year there is one too many. -/
theorem dateAdd_years_outside_ends : ∃ add december january,
    dates.lookup "DateAdd" = some add ∧
    Date.ofParts? 4 12 31 = some december ∧ Date.ofParts? 9999 1 1 = some january ∧
    (∃ e : Fault, e.kind = .overflow ∧
      (add.call [.text "yyyy", .int (-4), .date december] []).carryOut Script.firstScene.world =
        (.error e, Script.firstScene.world)) ∧
    ∃ e : Fault, e.kind = .overflow ∧
      (add.call [.text "YYYY", .int 1, .date january] []).carryOut Script.firstScene.world =
        (.error e, Script.firstScene.world) := by
  obtain ⟨add, hadd⟩ : ∃ add, dates.lookup "DateAdd" = some add := ⟨_, rfl⟩
  obtain ⟨december, hdecember⟩ : ∃ december, Date.ofParts? 4 12 31 = some december := ⟨_, rfl⟩
  obtain ⟨january, hjanuary⟩ : ∃ january, Date.ofParts? 9999 1 1 = some january := ⟨_, rfl⟩
  have hbefore : (december.year : Int) + -4 < 1 := by
    rw [(Date.parts_of_ofParts? hdecember).1]
    decide
  have hafter : 9999 < (january.year : Int) + 1 := by
    rw [(Date.parts_of_ofParts? hjanuary).1]
    decide
  exact ⟨add, december, january, hadd, hdecember, hjanuary,
    dateAdd_years_outside hadd (by decide) (.date december) (.inl hbefore) _,
    dateAdd_years_outside hadd (by decide) (.date january) (.inr hafter) _⟩

/-- `DateAdd` of months, or of quarters by threes, reaches the month that lies so many months away
and keeps the time of day. The day is the same if the month has it, and otherwise the twenty-eighth.
-/
theorem dateAdd_months {add : Routine} (hadd : dates.lookup "DateAdd" = some add) {name : String}
    {k n : Int}
    (hname : String.ofList (Text.lower name.toList) = "m" ∧ n = k ∨
      String.ofList (Text.lower name.toList) = "q" ∧ n = 3 * k)
    (d : When) {y month : Nat} (hyear : 1 ≤ y ∧ y ≤ 9999) (hmonth : 1 ≤ month ∧ month ≤ 12)
    (hn : ((y : Int) - d.day.year) * 12 + ((month : Int) - d.day.month) = n) (w : World) :
    ∃ e : Date, e.year = y ∧ e.month = month ∧
      e.day = (if d.day.day ≤ daysInMonth y month then d.day.day else 28) ∧
      (add.call [.text name, .int k, d.value] []).carryOut w = (.ok (.moment ⟨e, d.time⟩), w) := by
  obtain ⟨e, rfl, rfl, hday⟩ := exists_date_in_month hyear hmonth d.day.day_pos
  refine ⟨e, rfl, rfl, hday, ?_⟩
  have hreach : addMonths d.start n = .ok ⟨e, d.time⟩ := addMonths_eq d.start hn hday
  rw [carryOut_dateAdd hadd]
  rcases hname with ⟨hname, rfl⟩ | ⟨hname, rfl⟩
  · have hi : Interval.ofName? name.toList = some .month := Interval.ofName?_of_lower hname
    rw [addOf_value _ _ _ _ hi, addInterval, hreach]
    rfl
  · have hi : Interval.ofName? name.toList = some .quarter := Interval.ofName?_of_lower hname
    rw [addOf_value _ _ _ _ hi, addInterval, hreach]
    rfl

/-- A quarter before the end of May 2023 there is no thirty-first, nor a twenty-ninth. -/
theorem dateAdd_months_quarterBack : ∃ add may february,
    dates.lookup "DateAdd" = some add ∧
    Date.ofParts? 2023 5 31 = some may ∧ Date.ofParts? 2023 2 28 = some february ∧
    (add.call [.text "Q", .int (-1), .date may] []).carryOut Script.firstScene.world =
      (.ok (.moment (.ofDate february)), Script.firstScene.world) := by
  obtain ⟨add, hadd⟩ : ∃ add, dates.lookup "DateAdd" = some add := ⟨_, rfl⟩
  obtain ⟨may, hmay⟩ : ∃ may, Date.ofParts? 2023 5 31 = some may := ⟨_, rfl⟩
  have hname : String.ofList (Text.lower "Q".toList) = "q" := by decide
  obtain ⟨hy, hm, hd⟩ := Date.parts_of_ofParts? hmay
  have hback : ((2023 : Nat) - (may.year : Int)) * 12 + ((2 : Nat) - (may.month : Int)) =
      3 * -1 := by
    rw [hy, hm]
    decide
  obtain ⟨e, hyear, hmonth, hday, hcall⟩ :=
    dateAdd_months hadd (.inr ⟨hname, rfl⟩) (.date may) (by decide) (by decide)
    hback Script.firstScene.world
  have hfebruary : Date.ofParts? 2023 2 28 = some e := by
    have hparts := e.ofParts?_parts
    rw [hyear, hmonth, hday] at hparts
    change Date.ofParts? 2023 2 (if may.day ≤ daysInMonth 2023 2 then may.day else 28) =
      some e at hparts
    rwa [hd] at hparts
  exact ⟨add, may, e, hadd, hmay, hfebruary, hcall⟩

/-- Three months after the end of January 2024 is the twenty-eighth of April, not the end of April.
-/
theorem month_end_missed : ∃ add january found,
    dates.lookup "DateAdd" = some add ∧ Date.ofParts? 2024 1 31 = some january ∧
    (add.call [.text "m", .int 3, .date january] []).carryOut Script.firstScene.world =
      (.ok (.moment (.ofDate found)), Script.firstScene.world) ∧
    found.year = 2024 ∧ found.month = 4 ∧ found.day ≠
      min january.day (daysInMonth found.year found.month) := by
  obtain ⟨add, hadd⟩ : ∃ add, dates.lookup "DateAdd" = some add := ⟨_, rfl⟩
  obtain ⟨january, hjanuary⟩ : ∃ january, Date.ofParts? 2024 1 31 = some january := ⟨_, rfl⟩
  obtain ⟨found, hfound⟩ : ∃ found, Date.ofParts? 2024 4 28 = some found := ⟨_, rfl⟩
  obtain ⟨hy, hm, hd⟩ := Date.parts_of_ofParts? hfound
  obtain ⟨-, -, hlast⟩ := Date.parts_of_ofParts? hjanuary
  refine ⟨add, january, found, hadd, hjanuary, ?_, hy, hm, ?_⟩
  · rw [carryOut_dateAdd hadd]
    cases hjanuary
    cases hfound
    rfl
  · rw [hy, hm, hd, hlast]
    decide

/-- `DateAdd` of years within the calendar reaches the same month, day and time of day, the
twenty-eighth of February standing for a leap day that the year does not have. That day is missed by
the drift, and so it is the result exactly if there is none. -/
theorem dateAdd_years_within {add : Routine} (hadd : dates.lookup "DateAdd" = some add)
    {name : String} (hname : String.ofList (Text.lower name.toList) = "yyyy") (d : When) {n : Int}
    (hn : 1 ≤ d.day.year + n ∧ d.day.year + n ≤ 9999) (w : World) :
    ∃ e : Date, (e.year : Int) = d.day.year + n ∧ e.month = d.day.month ∧
      e.day = (if d.day.IsLeapDay ∧ isLeap e.year = false then 28 else d.day.day) ∧
      (add.call [.text name, .int n, d.value] []).carryOut w =
        ((shiftDay e (drift d.day e.year)).map fun found => .moment ⟨found, d.time⟩, w) ∧
      ((add.call [.text name, .int n, d.value] []).carryOut w = (.ok (.moment ⟨e, d.time⟩), w) ↔
        drift d.day e.year = 0) := by
  have hi : Interval.ofName? name.toList = some .year := Interval.ofName?_of_lower hname
  obtain ⟨y, hy⟩ := Int.eq_ofNat_of_zero_le (Int.le_trans (by decide) hn.1)
  obtain ⟨e, rfl, hmonth, hday⟩ :=
    exists_date_in_year d.day (y := y) ⟨by omega, by rw [lastYear]; omega⟩
  have hcall : (add.call [.text name, .int n, d.value] []).carryOut w =
      ((shiftDay e (drift d.day e.year)).map fun found => .moment ⟨found, d.time⟩, w) := by
    have hreach : addYears d.start n = (shiftDay e (drift d.day e.year)).map fun found =>
        ⟨found, d.time⟩ :=
      addYears_eq d.start hy.symm hmonth hday
    rw [carryOut_dateAdd hadd, addOf_value _ _ _ _ hi, addInterval, hreach]
    cases shiftDay e (drift d.day e.year) <;> rfl
  refine ⟨e, hy.symm, hmonth, hday, hcall, ?_⟩
  have hself : shiftDay e (drift d.day e.year) = .ok e ↔ drift d.day e.year = 0 :=
    shiftDay_eq_ok_iff.trans (by omega)
  rw [hcall, ← hself]
  cases shiftDay e (drift d.day e.year) with
  | error fault => simp [Except.map]
  | ok found => simp [Except.map]

/-- From the last leap day to the first year the drift is seventy-five days back, which leads out of
the calendar although the year is in it. -/
theorem dateAdd_years_within_firstYear : ∃ add leapDay february,
    dates.lookup "DateAdd" = some add ∧
    Date.ofParts? 9996 2 29 = some leapDay ∧ Date.ofParts? 1 2 28 = some february ∧
    drift leapDay february.year = -75 ∧
    (add.call [.text "yyyy", .int (-9995), .date leapDay] []).carryOut Script.firstScene.world =
      (.error .dateRange, Script.firstScene.world) := by
  obtain ⟨add, hadd⟩ : ∃ add, dates.lookup "DateAdd" = some add := ⟨_, rfl⟩
  obtain ⟨leapDay, hleapDay⟩ : ∃ leapDay, Date.ofParts? 9996 2 29 = some leapDay := ⟨_, rfl⟩
  obtain ⟨hy, hm, hd⟩ := Date.parts_of_ofParts? hleapDay
  have hyears : 1 ≤ (leapDay.year : Int) + -9995 ∧ (leapDay.year : Int) + -9995 ≤ 9999 := by
    rw [hy]
    decide
  have hname : String.ofList (Text.lower "yyyy".toList) = "yyyy" := by decide
  obtain ⟨e, hyear, hmonth, hday, hcall, -⟩ :=
    dateAdd_years_within hadd hname (.date leapDay) hyears
    Script.firstScene.world
  rw [When.day_date] at hyear hmonth hday hcall
  have hfirst : e.year = 1 := by
    rw [hy] at hyear
    omega
  have hlost : leapDay.IsLeapDay ∧ isLeap e.year = false := ⟨⟨hm, hd⟩, by rw [hfirst]; decide⟩
  have hfebruary : Date.ofParts? 1 2 28 = some e := by
    have hparts := e.ofParts?_parts
    rwa [hfirst, hmonth.trans hm, hday, if_pos hlost] at hparts
  have hdrift : drift leapDay e.year = -75 := by
    rw [drift, if_pos hlost, hfirst, hy]
    decide
  have houtside : (e.ordinal : Int) + -75 < 1 ∨ (Date.lastOrdinal : Int) < e.ordinal + -75 := by
    cases hfebruary
    decide
  rw [hdrift, shiftDay_of_outside e houtside] at hcall
  exact ⟨add, leapDay, e, hadd, hleapDay, hfebruary, hdrift, hcall⟩

/-- Four years after the leap day of 2096 comes the first of March 2100, not the twenty-eighth of
February. -/
theorem leap_day_moved_to_march : ∃ add leapDay february found,
    dates.lookup "DateAdd" = some add ∧ Date.ofParts? 2096 2 29 = some leapDay ∧
      isLeap 2100 = false ∧
    Date.ofParts? 2100 2 28 = some february ∧ Date.ofParts? 2100 3 1 = some found ∧
    (add.call [.text "yyyy", .int 4, .date leapDay] []).carryOut Script.firstScene.world =
      (.ok (.moment (.ofDate found)), Script.firstScene.world) ∧
    found ≠ february := by
  obtain ⟨add, hadd⟩ : ∃ add, dates.lookup "DateAdd" = some add := ⟨_, rfl⟩
  obtain ⟨leapDay, hleapDay⟩ : ∃ leapDay, Date.ofParts? 2096 2 29 = some leapDay := ⟨_, rfl⟩
  obtain ⟨february, hfebruary⟩ : ∃ february, Date.ofParts? 2100 2 28 = some february := ⟨_, rfl⟩
  obtain ⟨found, hfound⟩ : ∃ found, Date.ofParts? 2100 3 1 = some found := ⟨_, rfl⟩
  have hreach : addYears (.ofDate leapDay) 4 =
      (shiftDay february (drift leapDay february.year)).map fun d => ⟨d, .midnight⟩ := by
    cases hleapDay
    cases hfebruary
    exact addYears_eq (.ofDate _) rfl rfl rfl
  have hnext : shiftDay february (drift leapDay february.year) = .ok found := by
    rw [shiftDay_eq_ok_iff]
    cases hleapDay
    cases hfebruary
    cases hfound
    decide
  refine ⟨add, leapDay, february, found, hadd, hleapDay, by decide, hfebruary, hfound, ?_, ?_⟩
  · have hi : Interval.ofName? "yyyy".toList = some .year := Interval.ofName?_of_lower (by decide)
    have hadded := addOf_value Script.firstScene.world.clock (.date leapDay) "yyyy" 4 hi
    rw [addInterval, show (When.date leapDay).start = .ofDate leapDay from rfl, hreach,
      hnext] at hadded
    rw [carryOut_dateAdd hadd]
    exact Prod.ext hadded rfl
  · cases hfebruary
    cases hfound
    decide

end Catalog

end ScriptHost
