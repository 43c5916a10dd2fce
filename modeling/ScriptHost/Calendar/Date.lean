import ScriptHost.Number.Shortest

/-!
# Calendar dates

Dates of the years 1 to 9999 in the calendar that is Gregorian throughout. A date is numbered by the
days up to and including it, the first of January of year 1 being day 1.
-/

namespace ScriptHost.Calendar

open ScriptHost.Number

/-- Whether a year has a twenty-ninth of February. -/
def isLeap (y : Nat) : Bool :=
  y % 4 == 0 && (y % 100 != 0 || y % 400 == 0)

/-- The number of days of a month. -/
def daysInMonth (y m : Nat) : Nat :=
  if m == 2 then (if isLeap y then 29 else 28)
  else if m == 4 || m == 6 || m == 9 || m == 11 then 30
  else 31

/-- The first and the last year. -/
def lastYear : Nat := 9999

/-- A day of the calendar. -/
structure Date where
  year : Nat
  month : Nat
  day : Nat
  year_pos : 1 ≤ year
  year_le : year ≤ lastYear
  month_pos : 1 ≤ month
  month_le : month ≤ 12
  day_pos : 1 ≤ day
  day_le : day ≤ daysInMonth year month
  deriving DecidableEq

/-- The date with the given parts, if there is one. -/
def Date.ofParts? (y m d : Nat) : Option Date :=
  if h : (1 ≤ y ∧ y ≤ lastYear) ∧ (1 ≤ m ∧ m ≤ 12) ∧ (1 ≤ d ∧ d ≤ daysInMonth y m) then
    some ⟨y, m, d, h.1.1, h.1.2, h.2.1.1, h.2.1.2, h.2.2.1, h.2.2.2⟩
  else none

/-- The days of the years before `y`. -/
def daysBeforeYear (y : Nat) : Nat :=
  let p := y - 1
  p * 365 + p / 4 - p / 100 + p / 400

/-- The days of the months of year `y` before `m`. -/
def daysBeforeMonth (y : Nat) : Nat → Nat
  | 0 => 0
  | 1 => 0
  | m + 2 => daysBeforeMonth y (m + 1) + daysInMonth y (m + 1)

namespace Date

/-- The number of a day. -/
def ordinal (d : Date) : Nat :=
  daysBeforeYear d.year + daysBeforeMonth d.year d.month + d.day

/-- The first day of the calendar. -/
def first : Date := ⟨1, 1, 1, by decide, by decide, by decide, by decide, by decide, by decide⟩

/-- The number of the last day of the calendar. -/
def lastOrdinal : Nat := 3652059

/-- The year that day `n` falls into, by cycles of four hundred, one hundred, four and one years. -/
def yearOfOrdinal (n : Nat) : Nat :=
  let n := n - 1
  let n400 := n / 146097
  let r := n % 146097
  let n100 := r / 36524
  let r := r % 36524
  let n4 := r / 1461
  let r := r % 1461
  let n1 := r / 365
  let y := n400 * 400 + n100 * 100 + n4 * 4 + n1
  if n100 == 4 || n1 == 4 then y else y + 1

/-- The month of year `y` that its day `k` falls into; `left` months are still to be tried after
`m`. -/
def monthOfDay (y k m : Nat) : Nat → Nat
  | 0 => m
  | left + 1 => if k ≤ daysBeforeMonth y (m + 1) then m else monthOfDay y k (m + 1) left

/-- The day with a number, if the calendar has it. -/
def ofOrdinal? (n : Int) : Option Date :=
  if n < 1 ∨ (lastOrdinal : Int) < n then none
  else
    let n := n.toNat
    let y := yearOfOrdinal n
    let k := n - daysBeforeYear y
    let m := monthOfDay y k 1 11
    ofParts? y m (k - daysBeforeMonth y m)

end Date

/-- A number with zeros in front up to a width. -/
def padded (width n : Nat) : List Char :=
  let ds := natDigits n
  List.replicate (width - ds.length) '0' ++ ds

/-- Year, month and day, two digits each and four for the year, with hyphens. -/
def Date.text (d : Date) : List Char :=
  padded 4 d.year ++ '-' :: padded 2 d.month ++ '-' :: padded 2 d.day

end ScriptHost.Calendar
