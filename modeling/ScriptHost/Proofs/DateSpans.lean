import ScriptHost.Builtin.Catalog
import ScriptHost.Proofs.Turns
import ScriptHost.Proofs.Members
import ScriptHost.Proofs.WholeDoubles

/-!
# Adding intervals to a date and measuring them

Days are numbered without gaps, and so are the microseconds of the calendar: the day or moment found
under a number has that number. Therefore a moment moved by a span lies that span away from where it
was, and the months between a moment and the one reached by adding months are the months added, also
where the day had to be cut. The difference of two dates in an interval thus undoes adding
intervals, for every interval but the year.
-/

namespace ScriptHost

open Calendar Number

/-! ### Numbers of days and moments -/

namespace Calendar

/-- A date is put together from its parts. -/
lemma Date.parts_of_ofParts? {y m k : Nat} {d : Date} (h : ofParts? y m k = some d) :
    d.year = y ∧ d.month = m ∧ d.day = k := by
  unfold ofParts? at h
  split at h
  · cases h
    exact ⟨rfl, rfl, rfl⟩
  · cases h

/-- The day with a number has that number. -/
lemma Date.ordinal_of_ofOrdinal? {n : Int} {d : Date} (h : ofOrdinal? n = some d) :
    (d.ordinal : Int) = n := by
  unfold ofOrdinal? at h
  split at h
  · cases h
  · next hn =>
    obtain ⟨hy, hm, hd⟩ := parts_of_ofParts? h
    have hpos := d.day_pos
    rw [ordinal, hy, hm, hd]
    omega

/-- No month is longer than 31 days. -/
lemma daysInMonth_le (y m : Nat) : daysInMonth y m ≤ 31 := by
  unfold daysInMonth
  split
  · split <;> decide
  · split <;> decide

lemma daysBeforeMonth_le (y m : Nat) : daysBeforeMonth y m ≤ 31 * m := by
  induction m with
  | zero => exact Nat.le_refl 0
  | succ m ih =>
    cases m with
    | zero => exact Nat.zero_le 31
    | succ m =>
      have hdays := daysInMonth_le y (m + 1)
      rw [daysBeforeMonth]
      omega

lemma Date.ordinal_lt (d : Date) : d.ordinal < 4000000 := by
  have hyear : d.year ≤ 9999 := d.year_le
  have hmonth := d.month_le
  have hday := Nat.le_trans d.day_le (daysInMonth_le d.year d.month)
  have hmonths := daysBeforeMonth_le d.year d.month
  simp only [ordinal, daysBeforeYear]
  omega

/-- A time of day is less than a day. -/
lemma TimeOfDay.micros_lt (t : TimeOfDay) : t.micros < Moment.dayMicros := by
  have h := t.hour_lt
  have m := t.minute_lt
  have s := t.second_lt
  have u := t.micro_lt
  rw [micros, Moment.dayMicros]
  omega

/-- A time of day is known by its microseconds. -/
lemma TimeOfDay.micros_ofMicros {n : Nat} (h : n < Moment.dayMicros) : (ofMicros n).micros = n := by
  rw [Moment.dayMicros] at h
  simp only [ofMicros, micros]
  omega

/-- The moment at a number of microseconds lies there. -/
lemma Moment.micros_of_ofMicros? {n : Int} {m : Moment} (h : ofMicros? n = some m) :
    m.micros = n := by
  obtain ⟨d, hd, rfl⟩ := Option.map_eq_some_iff.1 h
  have hday := Date.ordinal_of_ofOrdinal? hd
  have hpos : (0 : Int) < dayMicros := by decide
  have hlt := Int.fmod_lt_of_pos n hpos
  have hnonneg := Int.fmod_nonneg_of_pos n hpos
  have htime : (TimeOfDay.ofMicros (n.fmod dayMicros).toNat).micros = (n.fmod dayMicros).toNat :=
    TimeOfDay.micros_ofMicros (by omega)
  rw [micros, hday, htime, Int.toNat_of_nonneg hnonneg, Int.mul_comm]
  exact Int.mul_fdiv_add_fmod n dayMicros

lemma Moment.natAbs_micros_sub_le (a b : Moment) :
    (b.micros - a.micros).natAbs ≤ 4000000 * dayMicros := by
  have ha := a.date.ordinal_lt
  have hb := b.date.ordinal_lt
  have ha' := a.time.micros_lt
  have hb' := b.time.micros_lt
  rw [micros, micros]
  rw [dayMicros] at *
  omega

/-- The calendar is so short that its seconds are counted exactly by doubles. -/
lemma Moment.natAbs_micros_sub_lt (a b : Moment) :
    (b.micros - a.micros).natAbs < 1000000 * twoPow 53 :=
  (natAbs_micros_sub_le a b).trans_lt (by decide)

end Calendar

namespace DateFunction

/-! ### Adding and measuring -/

/-- A span that is not refused is the number itself. -/
lemma eq_of_span {n k : Int} (h : span n = .ok k) : k = n := by
  unfold span at h
  dsimp only at h
  split at h
  · cases h
  · split at h
    · cases h
      rfl
    · cases h

/-- A moment moved by a span lies that span away. -/
lemma micros_of_shiftMoment {m r : Moment} {n : Int} (h : shiftMoment m n = .ok r) :
    r.micros - m.micros = n := by
  obtain ⟨k, hspan, hmove⟩ := exists_of_bind_eq_ok h
  obtain rfl := eq_of_span hspan
  split at hmove
  · next hfound =>
    cases hmove
    have hlies := Moment.micros_of_ofMicros? hfound
    omega
  · cases hmove

/-- Changing the day keeps the year and the month that were asked for. -/
lemma year_month_of_withDay {m r : Moment} {y : Int} {month day : Nat}
    (h : withDay m y month day = some r) :
    (r.date.year : Int) = y ∧ r.date.month = month := by
  unfold withDay at h
  split at h
  · cases h
  · next hy =>
    obtain ⟨d, hd, rfl⟩ := Option.map_eq_some_iff.1 h
    obtain ⟨hyear, hmonth, -⟩ := Date.parts_of_ofParts? hd
    exact ⟨by rw [hyear]; omega, hmonth⟩

/-- A year that is not refused is the number itself. -/
lemma eq_of_askYear {y k : Int} (h : askYear y = .ok k) : k = y := by
  unfold askYear at h
  split at h
  · cases h
  · split at h
    · cases h
    · split at h
      · cases h
      · cases h
        rfl

/-- Adding months moves the month by as many, whether or not the day has to be cut. -/
lemma monthsBetween_of_addMonths {m r : Moment} {n : Int} (h : addMonths m n = .ok r) :
    monthsBetween m r = n := by
  obtain ⟨y, hask, hmove⟩ := exists_of_bind_eq_ok h
  obtain rfl := eq_of_askYear hask
  dsimp only at hmove
  have hreached : (r.date.year : Int) = m.date.year + ((m.date.month : Int) + n - 1).fdiv 12 ∧
      r.date.month = (((m.date.month : Int) + n - 1).fmod 12).toNat + 1 := by
    split at hmove
    · next hday =>
      cases hmove
      exact year_month_of_withDay hday
    · split at hmove
      · next hday =>
        cases hmove
        exact year_month_of_withDay hday
      · cases hmove
  have hsum := Int.mul_fdiv_add_fmod ((m.date.month : Int) + n - 1) 12
  have hnonneg := Int.fmod_nonneg_of_pos ((m.date.month : Int) + n - 1) (show (0 : Int) < 12 by
    decide)
  rw [monthsBetween, hreached.1, hreached.2]
  omega

/-- The seconds of a span of whole seconds, counted in the calendar, are exact. -/
lemma isWhole_seconds {s : Int} (h : (s * 1000000).natAbs < 1000000 * twoPow 53) :
    IsWhole (seconds (s * 1000000)) (s < 0) s.natAbs := by
  have hsize : (s * 1000000).natAbs = s.natAbs * 1000000 := by omega
  have hsign : decide (s * 1000000 < 0) = decide (s < 0) := by
    rw [decide_eq_decide]
    omega
  rw [seconds, hsign, hsize]
  refine isWhole_nearest _ ?_ (by decide)
  rw [twoPow_53] at *
  omega

/-- A double that stands for a whole number is turned into it. -/
lemma wholeOf_of_isWhole {x : Float} {n : Int} (h : IsWhole x (n < 0) n.natAbs) :
    wholeOf x = n := by
  obtain ⟨j, hj⟩ := h
  have htruncate := IsWhole.truncate_eq ⟨j, hj⟩ hj
  rw [wholeOf, hj]
  dsimp only
  rw [htruncate]
  split <;> grind

/-- Hours and minutes come out of their seconds undivided by rounding. -/
lemma wholeOf_floorDiv_seconds {unit : Nat} {y : Float} {n : Int} (hunit : 0 < unit)
    (hy : IsWhole y false unit) (h : (n * unit * 1000000).natAbs < 1000000 * twoPow 53) :
    wholeOf (floorDiv (seconds (n * unit * 1000000)) y) = n := by
  have hsize : (n * unit).natAbs = n.natAbs * unit := by
    rw [Int.natAbs_mul, Int.natAbs_natCast]
  have hpos : (0 : Int) < unit := Int.natCast_pos.2 hunit
  have hsign : decide (n * unit < 0) = decide (n < 0) := by
    rw [decide_eq_decide]
    refine ⟨fun hneg => Int.not_le.1 fun hn => ?_, fun hneg => Int.mul_neg_of_neg_of_pos hneg hpos⟩
    exact Int.not_le.2 hneg (Int.mul_nonneg hn (Int.le_of_lt hpos))
  have hseconds := isWhole_seconds h
  rw [hsize, hsign] at hseconds
  have hsmall : n.natAbs < twoPow 53 := by
    have hle : n.natAbs * 1 ≤ n.natAbs * unit := Nat.mul_le_mul_left _ hunit
    have hmicros : (n * unit * 1000000).natAbs = n.natAbs * unit * 1000000 := by omega
    omega
  have hquotient := hseconds.floorDiv_eq hy hunit
  have hwhole := isWhole_nearest (decide (n < 0)) hsmall (show 0 < 1 by decide)
  rw [hquotient, Bool.bne_false]
  rw [Nat.mul_one] at hwhole
  exact wholeOf_of_isWhole hwhole

lemma isWhole_hour : IsWhole 3600.0 false 3600 := ⟨41, rfl⟩

lemma isWhole_minute : IsWhole 60.0 false 60 := ⟨47, rfl⟩

/-- Measuring undoes adding. Years are left out: a day that the year does not have is reached by
counting days, which may end in another year. -/
theorem difference_of_addInterval {m r : Moment} {n : Int} {i : Interval} (hi : i ≠ .year)
    (h : addInterval m n i = .ok r) : difference m r i = n := by
  have hbound := Moment.natAbs_micros_sub_lt m r
  cases i with
  | year => exact absurd rfl hi
  | quarter =>
    have hmonths := monthsBetween_of_addMonths h
    rw [difference, hmonths]
    exact Int.mul_fdiv_cancel_left n (by decide)
  | month => exact monthsBetween_of_addMonths h
  | day =>
    have hspan : r.micros - m.micros = n * Moment.dayMicros := micros_of_shiftMoment h
    rw [difference, hspan]
    exact Int.mul_fdiv_cancel n (by decide)
  | week =>
    have hspan : r.micros - m.micros = n * 7 * Moment.dayMicros := by
      rw [Int.mul_assoc]
      exact micros_of_shiftMoment h
    rw [difference, hspan, Int.mul_fdiv_cancel _ (by decide)]
    exact Int.mul_fdiv_cancel n (by decide)
  | hour =>
    have hspan : r.micros - m.micros = n * (3600 : Nat) * 1000000 := by
      rw [Int.mul_assoc]
      exact micros_of_shiftMoment h
    rw [hspan] at hbound
    rw [difference, hspan]
    exact wholeOf_floorDiv_seconds (by decide) isWhole_hour hbound
  | minute =>
    have hspan : r.micros - m.micros = n * (60 : Nat) * 1000000 := by
      rw [Int.mul_assoc]
      exact micros_of_shiftMoment h
    rw [hspan] at hbound
    rw [difference, hspan]
    exact wholeOf_floorDiv_seconds (by decide) isWhole_minute hbound
  | second =>
    have hspan : r.micros - m.micros = n * 1000000 := micros_of_shiftMoment h
    rw [hspan] at hbound
    rw [difference, hspan]
    exact wholeOf_of_isWhole (isWhole_seconds hbound)

/-! ### The functions by name -/

@[simp] lemma toWhen_value (now : Moment) (w : When) : toWhen now w.value = .ok w := by
  cases w <;> rfl

/-- Each of these letters names an interval other than years. -/
lemma exists_interval_of_name {cs : List Char}
    (h : String.ofList (Text.lower cs) ∈ ["m", "q", "d", "w", "h", "n", "s"]) :
    ∃ i, i ≠ Interval.year ∧ Interval.ofName? cs = some i := by
  unfold Interval.ofName?
  generalize String.ofList (Text.lower cs) = word at h
  simp only [List.mem_cons, List.not_mem_nil, or_false] at h
  rcases h with rfl | rfl | rfl | rfl | rfl | rfl | rfl
  · exact ⟨.month, by decide, rfl⟩
  · exact ⟨.quarter, by decide, rfl⟩
  · exact ⟨.day, by decide, rfl⟩
  · exact ⟨.week, by decide, rfl⟩
  · exact ⟨.hour, by decide, rfl⟩
  · exact ⟨.minute, by decide, rfl⟩
  · exact ⟨.second, by decide, rfl⟩

/-- `DateAdd` with a whole number. -/
lemma addOf_value (now : Moment) (w : When) (name : String) (n : Int) {i : Interval}
    (hi : Interval.ofName? name.toList = some i) :
    addOf now (.text name) (.int n) w.value = (addInterval w.start n i).map .moment := by
  have hwhole : Value.toWhole (.int n) = .ok n := rfl
  unfold addOf
  simp only [toWhen_value, hwhole, intervalName, ok_bind, hi]
  cases addInterval w.start n i <;> rfl

/-- `DateDiff` of two dates. -/
lemma differenceOf_value (now : Moment) (a b : When) (name : String) {i : Interval}
    (hi : Interval.ofName? name.toList = some i) :
    differenceOf now (.text name) a.value b.value = .ok (.int (difference a.start b.start i)) := by
  unfold differenceOf
  simp only [toWhen_value, intervalName, ok_bind, hi]
  rfl

end DateFunction

namespace Catalog

open DateFunction

/-- What looks at the clock only leaves the world as it is. -/
lemma carryOut_clock (f : Moment → Except Fault Value) (w : World) :
    (do Act.ofExcept (f (← get).clock) : Act Value).carryOut w = (f w.clock, w) := by
  rw [Act.carryOut_bind, Act.carryOut_get]
  exact Act.carryOut_ofExcept _ w

/-- The routine `DateAdd`. -/
lemma carryOut_dateAdd {add : Routine} (h : dates.lookup "DateAdd" = some add)
    (interval number date : Value) (w : World) :
    (add.call [interval, number, date] []).carryOut w =
      (addOf w.clock interval number date, w) := by
  obtain rfl : _ = add := Option.some.inj h
  rw [Routine.call_of_bind rfl]
  exact carryOut_clock (addOf · interval number date) w

/-- The routine `DateDiff`. -/
lemma carryOut_dateDiff {diff : Routine} (h : dates.lookup "DateDiff" = some diff)
    (interval a b : Value) (w : World) :
    (diff.call [interval, a, b] []).carryOut w = (differenceOf w.clock interval a b, w) := by
  obtain rfl : _ = diff := Option.some.inj h
  rw [Routine.call_of_bind rfl]
  exact carryOut_clock (differenceOf · interval a b) w

/-- `DateDiff` undoes `DateAdd`: if an interval can be added to a date or a moment so many times,
the difference of the two in that interval is that many. -/
theorem dateDiff_dateAdd {add diff : Routine} (hadd : dates.lookup "DateAdd" = some add)
    (hdiff : dates.lookup "DateDiff" = some diff) {name : String}
    (hname : String.ofList (Text.lower name.toList) ∈ ["m", "q", "d", "w", "h", "n", "s"])
    (d : When) (n : Int) {later : Value} {w w₁ w₂ : World}
    (h : (add.call [.text name, .int n, d.value] []).carryOut w = (.ok later, w₁)) :
    (diff.call [.text name, d.value, later] []).carryOut w₂ = (.ok (.int n), w₂) := by
  obtain ⟨i, hyear, hi⟩ := exists_interval_of_name hname
  rw [carryOut_dateAdd hadd, addOf_value _ _ _ _ hi] at h
  rw [carryOut_dateDiff hdiff]
  cases hreach : addInterval d.start n i with
  | error e =>
    rw [hreach] at h
    cases h
  | ok r =>
    rw [hreach] at h
    cases h
    have hdifference := differenceOf_value w₂.clock d (.moment r) name hi
    rw [show Value.moment r = (When.moment r).value from rfl, hdifference]
    rw [show (When.moment r).start = r from rfl, difference_of_addInterval hyear hreach]

/-- Eleven months before the end of January 2024 the day has to be cut, and the difference is still
eleven months. -/
theorem dateDiff_dateAdd_cutDay : ∃ add diff january february,
    dates.lookup "DateAdd" = some add ∧ dates.lookup "DateDiff" = some diff ∧
    Date.ofParts? 2024 1 31 = some january ∧ Date.ofParts? 2023 2 28 = some february ∧
    (add.call [.text "M", .int (-11), .date january] []).carryOut Script.firstScene.world =
      (.ok (.moment (.ofDate february)), Script.firstScene.world) ∧
    (diff.call [.text "M", .date january, .moment (.ofDate february)] []).carryOut
      Script.firstScene.world =
      (.ok (.int (-11)), Script.firstScene.world) := by
  obtain ⟨add, hadd⟩ : ∃ add, dates.lookup "DateAdd" = some add := ⟨_, rfl⟩
  obtain ⟨diff, hdiff⟩ : ∃ diff, dates.lookup "DateDiff" = some diff := ⟨_, rfl⟩
  obtain ⟨january, hjanuary⟩ : ∃ january, Date.ofParts? 2024 1 31 = some january := ⟨_, rfl⟩
  obtain ⟨february, hfebruary⟩ : ∃ february, Date.ofParts? 2023 2 28 = some february := ⟨_, rfl⟩
  have hname : String.ofList (Text.lower "M".toList) ∈ ["m", "q", "d", "w", "h", "n", "s"] := by
    decide
  have hreach : (add.call [.text "M", .int (-11), (When.date january).value] []).carryOut
      Script.firstScene.world = (.ok (.moment (.ofDate february)), Script.firstScene.world) := by
    rw [carryOut_dateAdd hadd]
    cases hjanuary
    cases hfebruary
    rfl
  exact ⟨add, diff, january, february, hadd, hdiff, hjanuary, hfebruary, hreach,
    dateDiff_dateAdd hadd hdiff hname (.date january) (-11) hreach⟩

end Catalog

end ScriptHost
