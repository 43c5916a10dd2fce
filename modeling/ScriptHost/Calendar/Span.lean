import ScriptHost.Calendar.Moment

/-!
# Spans of time

A span is the difference of two moments, in microseconds. It is told as whole days, the seconds of a
day and the microseconds of a second; a negative span has negative days, and the rest of it counts
forward from there.
-/

namespace ScriptHost.Calendar

open ScriptHost.Number

/-- A span of time. -/
structure Span where
  micros : Int
  deriving DecidableEq

namespace Span

/-- The span of so many days, seconds and microseconds. -/
def ofParts (days seconds micros : Int) : Span :=
  ⟨(days * 86400 + seconds) * 1000000 + micros⟩

/-- The whole days of a span, to the floor. -/
def days (s : Span) : Int :=
  s.micros.fdiv Moment.dayMicros

/-- The whole seconds of the part of a day. -/
def seconds (s : Span) : Nat :=
  (s.micros.fmod Moment.dayMicros).toNat / 1000000

/-- The microseconds of the part of a second. -/
def microPart (s : Span) : Nat :=
  (s.micros.fmod Moment.dayMicros).toNat % 1000000

/-- The three parts make up the span. -/
theorem ofParts_parts (s : Span) : ofParts s.days s.seconds s.microPart = s := by
  obtain ⟨m⟩ := s
  have split := Int.mul_fdiv_add_fmod m Moment.dayMicros
  have nonneg : 0 ≤ m.fmod Moment.dayMicros := Int.fmod_nonneg_of_pos m (by decide)
  simp only [ofParts, days, seconds, microPart, Span.mk.injEq]
  simp only [Moment.dayMicros] at *
  omega

/-- A span spelled out by its parts that are not zero. -/
def form (s : Span) : String :=
  let parts :=
    (if s.days == 0 then [] else ["days=" ++ toString s.days]) ++
    (if s.seconds == 0 then [] else ["seconds=" ++ toString s.seconds]) ++
    (if s.microPart == 0 then [] else ["microseconds=" ++ toString s.microPart])
  "datetime.timedelta(" ++ (if parts.isEmpty then "0" else ", ".intercalate parts) ++ ")"

/-- A span as a clock shows it, behind its days. -/
def text (s : Span) : String :=
  let two (n : Nat) := String.ofList (padded 2 n)
  let clock := toString (s.seconds / 3600) ++ ":" ++ two (s.seconds / 60 % 60) ++ ":" ++
    two (s.seconds % 60)
  (if s.days == 0 then ""
    else toString s.days ++ (if s.days.natAbs == 1 then " day, " else " days, ")) ++ clock ++
    (if s.microPart == 0 then "" else "." ++ String.ofList (padded 6 s.microPart))

end Span

end ScriptHost.Calendar
