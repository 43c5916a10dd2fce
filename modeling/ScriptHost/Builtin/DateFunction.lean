import ScriptHost.Calendar.Pattern
import ScriptHost.Number.Binary
import ScriptHost.Text.Letter
import ScriptHost.Text.Search
import ScriptHost.Value.Basic

/-!
# Functions on dates

A text is read as a date by a list of patterns tried in order; what fits none of them stands for the
present moment. Intervals are added on the calendar (years, quarters, months) or on the count of
microseconds (all others), and differences are taken the same way.
-/

namespace ScriptHost.DateFunction

open ScriptHost.Calendar ScriptHost.Number ScriptHost.Text

/-- A day, or a moment of a day. -/
inductive When where
  | date (d : Date)
  | moment (m : Moment)

namespace When

/-- The day. -/
def day : When → Date
  | date d => d
  | moment m => m.date

/-- The time of day; a day alone has none, which counts as midnight. -/
def time : When → TimeOfDay
  | date _ => .midnight
  | moment m => m.time

/-- The moment; a day stands for its start. -/
def start (w : When) : Moment :=
  ⟨w.day, w.time⟩

/-- As a value. -/
def value : When → Value
  | date d => .date d
  | moment m => .moment m

end When

/-- Year, month and day with a mark between them. -/
def yearFirst (c : Char) : List Field := [.year, .mark c, .month, .mark c, .day]

/-- Hours, minutes and seconds. -/
def clock : List Field := [.hour, .mark ':', .minute, .mark ':', .second]

/-- How a pattern's outcome is used: as a moment, as a day, or as a time of the present day. -/
inductive Use where
  | moment
  | day
  | today

/-- The patterns in the order in which they are tried. -/
def patterns : List (List Field × Use) :=
  [(yearFirst '-' ++ .blanks :: clock, .moment),
    (yearFirst '/' ++ .blanks :: clock, .moment),
    (yearFirst '-', .day),
    (yearFirst '/', .day),
    (clock, .today),
    ([.month, .mark '/', .day, .mark '/', .year], .day),
    ([.day, .mark '/', .month, .mark '/', .year], .day),
    ([.day, .mark '-', .monthName, .mark '-', .year], .day),
    ([.month, .mark '/', .day, .mark '/', .shortYear], .day),
    ([.day, .mark '/', .month, .mark '/', .shortYear], .day)]

/-- What the first pattern that fits makes of a text. -/
def byPatterns (now : Moment) (cs : List Char) : List (List Field × Use) → Option When
  | [] => none
  | (p, use) :: rest =>
    match parse? p cs with
    | some m =>
      some (match use with
        | .moment => .moment m
        | .day => .date m.date
        | .today => .moment ⟨now.date, m.time⟩)
    | none => byPatterns now cs rest

/-- A time of the present day, or which of its parts is out of range. -/
def clockToday (now : Moment) (h m s : Nat) : Except Fault When :=
  match TimeOfDay.ofParts? h m s 0 with
  | some t => .ok (.moment ⟨now.date, t⟩)
  | none => .error (if 24 ≤ h then .hourRange else if 60 ≤ m then .minuteRange else .secondRange)

/-- The day so many days after another. -/
def shiftDay (d : Date) (n : Int) : Except Fault Date :=
  match Date.ofOrdinal? (d.ordinal + n) with
  | some e => .ok e
  | none => .error .dateRange

/-- What a text without blanks at its ends says of a date. -/
def readWhen (now : Moment) (cs : List Char) : Except Fault When :=
  let word := String.ofList (lower cs)
  if cs.isEmpty || word == "now" then .ok (.moment now)
  else if word == "today" || word == "date" then .ok (.date now.date)
  else if word == "tomorrow" then (shiftDay now.date 1).map .date
  else if word == "yesterday" then (shiftDay now.date (-1)).map .date
  else match byPatterns now cs patterns with
    | some w => .ok w
    | none =>
      match clockAtHead cs with
      | some (h, m, s) => clockToday now h m s
      | none => .ok (.moment now)

/-- The date a value stands for; nothing stands for the present moment. -/
def toWhen (now : Moment) : Value → Except Fault When
  | .moment m => .ok (.moment m)
  | .date d => .ok (.date d)
  | .null => .ok (.moment now)
  | v => do
    let s ← v.display
    readWhen now (strip s.toList)

/-- The units in which dates are moved and compared. -/
inductive Interval where
  | year
  | quarter
  | month
  | day
  | week
  | hour
  | minute
  | second
  deriving DecidableEq

/-- The interval with an abbreviation. -/
def Interval.ofName? (cs : List Char) : Option Interval :=
  match String.ofList (lower cs) with
  | "yyyy" => some .year
  | "q" => some .quarter
  | "m" => some .month
  | "d" => some .day
  | "w" => some .week
  | "h" => some .hour
  | "n" => some .minute
  | "s" => some .second
  | _ => none

/-- The microseconds of an interval of fixed length. -/
def Interval.micros : Interval → Nat
  | .week => 7 * 86400000000
  | .hour => 3600000000
  | .minute => 60000000
  | .second => 1000000
  | _ => 86400000000

/-- A span in microseconds, if it is not too long. -/
def span (n : Int) : Except Fault Int :=
  let days := n.fdiv Moment.dayMicros
  if days < -(twoPow 31 : Int) || twoPow 31 ≤ days then .error (.tooLargeForC "int")
  else if days.natAbs ≤ 999999999 then .ok n
  else .error (.spanTooLong days)

/-- A moment moved by microseconds. -/
def shiftMoment (m : Moment) (n : Int) : Except Fault Moment := do
  let n ← span n
  match Moment.ofMicros? (m.micros + n) with
  | some r => return r
  | none => throw .dateRange

/-- A year that can be asked for at all. -/
def askYear (y : Int) : Except Fault Int :=
  if y < -(twoPow 63 : Int) || twoPow 63 ≤ y then .error (.tooLargeForC "long")
  else if twoPow 31 ≤ y then .error (.beyondCInt true)
  else if y < -(twoPow 31 : Int) then .error (.beyondCInt false)
  else .ok y

/-- The moment with the same time on another day, if there is such a day. -/
def withDay (m : Moment) (y : Int) (month day : Nat) : Option Moment :=
  if y < 1 then none else (Date.ofParts? y.toNat month day).map fun d => ⟨d, m.time⟩

/-- Adds years. A day that the year does not have is reached by counting days instead, about 365 and
a quarter a year. -/
def addYears (m : Moment) (n : Int) : Except Fault Moment := do
  let y ← askYear (m.date.year + n)
  match withDay m y m.date.month m.date.day with
  | some r => return r
  | none => shiftMoment m ((365 * n + n.fdiv 4) * Moment.dayMicros)

/-- Adds months. A day that the month does not have becomes the twenty-eighth at the latest. -/
def addMonths (m : Moment) (n : Int) : Except Fault Moment := do
  let k := (m.date.month : Int) + n - 1
  let y ← askYear (m.date.year + k.fdiv 12)
  let month := (k.fmod 12).toNat + 1
  match withDay m y month m.date.day with
  | some r => return r
  | none =>
    match withDay m y month (min m.date.day 28) with
    | some r => return r
    | none => throw (.yearRange y)

/-- Adds intervals to a moment. -/
def addInterval (m : Moment) (n : Int) : Interval → Except Fault Moment
  | .year => addYears m n
  | .quarter => addMonths m (3 * n)
  | .month => addMonths m n
  | i => shiftMoment m (n * i.micros)

/-- The months from one moment's month to another's. -/
def monthsBetween (a b : Moment) : Int :=
  ((b.date.year : Int) - a.date.year) * 12 + ((b.date.month : Int) - a.date.month)

/-- Microseconds as seconds. -/
def seconds (n : Int) : Float :=
  nearest (n < 0) n.natAbs 1000000

/-- A double that is a whole number, as such. -/
def wholeOf (x : Float) : Int :=
  match parts x with
  | .finite b => b.truncate
  | _ => 0

/-- The difference of two moments in intervals. Hours and minutes are divided as doubles, down to
the floor; seconds lose their fraction. -/
def difference (a b : Moment) : Interval → Int
  | .year => (b.date.year : Int) - a.date.year
  | .quarter => (monthsBetween a b).fdiv 3
  | .month => monthsBetween a b
  | .day => (b.micros - a.micros).fdiv Moment.dayMicros
  | .week => ((b.micros - a.micros).fdiv Moment.dayMicros).fdiv 7
  | .hour => wholeOf (floorDiv (seconds (b.micros - a.micros)) 3600.0)
  | .minute => wholeOf (floorDiv (seconds (b.micros - a.micros)) 60.0)
  | .second => wholeOf (seconds (b.micros - a.micros))

/-! ### On values -/

/-- The text of an interval's abbreviation; only texts have one. -/
def intervalName : Value → Except Fault (List Char)
  | .text s => .ok s.toList
  | v => .error (.noAttribute v.typeName "lower")

/-- Adds intervals to a date; an unknown interval adds nothing. -/
def addOf (now : Moment) (interval number date : Value) : Except Fault Value := do
  let w ← toWhen now date
  let n ← number.toWhole
  let name ← intervalName interval
  match Interval.ofName? name with
  | some i => return .moment (← addInterval w.start n i)
  | none => return .moment w.start

/-- The difference of two dates in intervals; zero for an unknown interval. -/
def differenceOf (now : Moment) (interval a b : Value) : Except Fault Value := do
  let a ← toWhen now a
  let b ← toWhen now b
  let name ← intervalName interval
  match Interval.ofName? name with
  | some i => return .int (difference a.start b.start i)
  | none => return .int 0

/-- A part of a date. -/
def partOf (part : When → Nat) (now : Moment) (v : Value) : Except Fault Value := do
  return .int (part (← toWhen now v))

/-- The seconds since midnight. -/
def timer (now : Moment) : Value :=
  .float (seconds now.time.micros)

/-- Whether a value stands for a date. -/
def isDate (now : Moment) (v : Value) : Bool :=
  match toWhen now v with
  | .ok _ => true
  | .error _ => false

end ScriptHost.DateFunction
