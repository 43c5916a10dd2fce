import ScriptHost.Calendar.Date

/-!
# Times of day and moments

A moment is a date and a time of day, exact to the microsecond. Moments are also counted in
microseconds, which is what spans of time are added to.
-/

namespace ScriptHost.Calendar

open ScriptHost.Number

/-- A time of day. -/
structure TimeOfDay where
  hour : Nat
  minute : Nat
  second : Nat
  micro : Nat
  hour_lt : hour < 24
  minute_lt : minute < 60
  second_lt : second < 60
  micro_lt : micro < 1000000
  deriving DecidableEq

namespace TimeOfDay

/-- The time with the given parts, if there is one. -/
def ofParts? (h m s u : Nat) : Option TimeOfDay :=
  if p : h < 24 ∧ m < 60 ∧ s < 60 ∧ u < 1000000 then some ⟨h, m, s, u, p.1, p.2.1, p.2.2.1, p.2.2.2⟩
  else none

/-- Midnight. -/
def midnight : TimeOfDay := ⟨0, 0, 0, 0, by decide, by decide, by decide, by decide⟩

/-- The microseconds since midnight. -/
def micros (t : TimeOfDay) : Nat :=
  ((t.hour * 60 + t.minute) * 60 + t.second) * 1000000 + t.micro

/-- The time so many microseconds after midnight; the day's length is taken off as often as needed.
-/
def ofMicros (n : Nat) : TimeOfDay :=
  let u := n % 86400000000
  ⟨u / 3600000000, u / 60000000 % 60, u / 1000000 % 60, u % 1000000,
    by omega, by omega, by omega, by omega⟩

/-- Hours, minutes and seconds with colons, and six digits of microseconds unless they are zero. -/
def text (t : TimeOfDay) : List Char :=
  padded 2 t.hour ++ ':' :: padded 2 t.minute ++ ':' :: padded 2 t.second ++
    (if t.micro == 0 then [] else '.' :: padded 6 t.micro)

end TimeOfDay

/-- A date and a time of day. -/
structure Moment where
  date : Date
  time : TimeOfDay
  deriving DecidableEq

namespace Moment

/-- The length of a day in microseconds. -/
def dayMicros : Nat := 86400000000

/-- The microseconds from the start of day 0. -/
def micros (m : Moment) : Int :=
  m.date.ordinal * dayMicros + m.time.micros

/-- The moment so many microseconds after the start of day 0, if the calendar has it. -/
def ofMicros? (n : Int) : Option Moment :=
  (Date.ofOrdinal? (n.fdiv dayMicros)).map fun d => ⟨d, .ofMicros (n.fmod dayMicros).toNat⟩

/-- The start of a day. -/
def ofDate (d : Date) : Moment := ⟨d, .midnight⟩

/-- Date and time with a separator between them. -/
def text (sep : Char) (m : Moment) : List Char :=
  m.date.text ++ sep :: m.time.text

/-- The day number of the first of January 1970. -/
def epochOrdinal : Nat := 719163

/-- The microseconds since the first of January 1970. -/
def epochMicros (m : Moment) : Int :=
  m.micros - epochOrdinal * dayMicros

/-- The moment so many microseconds after the first of January 1970. -/
def ofEpochMicros? (n : Int) : Option Moment :=
  ofMicros? (n + epochOrdinal * dayMicros)

end Moment

end ScriptHost.Calendar
