import ScriptHost.Proofs.DirectEvaluation
import ScriptHost.Proofs.SmallForms
import ScriptHost.Proofs.WrittenDates

/-!
# Which texts are taken for dates

A text counts as a date unless reading it as one fails. That happens if it starts with a clock time
that is out of range, and with the words for the days beside the present one at the ends of the
calendar. A text that says nothing of a date stands for the present moment, so it is taken for a
date too.
-/

namespace ScriptHost

open Calendar Number Text

namespace Calendar

/-! ### Clock times at the head of a text -/

lemma ShortNumber.value_unique {u v : Nat} {cs rest : List Char} (hu : ShortNumber u cs rest)
    (hv : ShortNumber v cs rest) : u = v := by
  cases hu with
  | one ha rest =>
    cases hv with
    | one hb => exact Option.some.inj (ha.symm.trans hb)
  | two ha hb hu rest =>
    cases hv with
    | two ha' hb' hv =>
      rw [hu, hv, Option.some.inj (ha.symm.trans ha'), Option.some.inj (hb.symm.trans hb')]

/-- As many of one or two digits as there are. -/
def LongestNumber (v : Nat) (cs rest : List Char) : Prop :=
  ShortNumber v cs rest ∧ ∀ u more, ShortNumber u cs more → rest.length ≤ more.length

lemma LongestNumber.unique {u v : Nat} {cs rest more : List Char} (hu : LongestNumber u cs rest)
    (hv : LongestNumber v cs more) : u = v ∧ rest = more := by
  have hlength : rest.length = more.length := Nat.le_antisymm (hu.2 v more hv.1) (hv.2 u rest hu.1)
  have hrest : rest = more :=
    (List.suffix_of_suffix_length_le hu.1.suffix hv.1.suffix hlength.le).eq_of_length hlength
  subst hrest
  exact ⟨hu.1.value_unique hv.1, rfl⟩

/-- A number is as long as can be if no digit follows. -/
lemma ShortNumber.longest {v : Nat} {cs rest : List Char} (h : ShortNumber v cs rest)
    (hrest : ∀ c ∈ rest.head?, decimalValue? c = none) : LongestNumber v cs rest := by
  refine ⟨h, ?_⟩
  intro u more hmore
  cases h with
  | one ha rest =>
    cases hmore with
    | one => exact Nat.le_refl _
    | two _ hb =>
      rw [hrest _ rfl] at hb
      cases hb
  | two ha hb hv rest =>
    cases hmore with
    | one => exact Nat.le_succ _
    | two => exact Nat.le_refl _

lemma longestNumber_of_upToTwoDigits {v : Nat} {cs rest : List Char}
    (h : upToTwoDigits cs = some (v, rest)) :
    LongestNumber v cs rest := by
  unfold upToTwoDigits at h
  split at h
  · next a b cs =>
    split at h
    · next m n ha hb =>
      cases h
      refine ⟨.two ha hb rfl rest, ?_⟩
      intro u more hmore
      cases hmore with
      | one => exact Nat.le_succ _
      | two => exact Nat.le_refl _
    · next m ha hb =>
      cases h
      refine (ShortNumber.one ha (b :: cs)).longest ?_
      rintro c ⟨⟩
      exact hb
    · cases h
  · next a =>
    obtain ⟨u, hu, heq⟩ := Option.map_eq_some_iff.1 h
    cases heq
    exact (ShortNumber.one hu []).longest (by simp)
  · cases h

lemma upToTwoDigits_eq_some_iff {v : Nat} {cs rest : List Char} :
    upToTwoDigits cs = some (v, rest) ↔ LongestNumber v cs rest := by
  constructor
  · exact longestNumber_of_upToTwoDigits
  · intro h
    have hsome : ∃ u more, upToTwoDigits cs = some (u, more) := by
      cases h.1 with
      | @one a ha rest =>
        cases rest with
        | nil => exact ⟨v, [], by simp [upToTwoDigits, ha]⟩
        | cons b rest =>
          cases hb : decimalValue? b with
          | none => exact ⟨v, b :: rest, by simp [upToTwoDigits, ha, hb]⟩
          | some n => exact ⟨10 * v + n, rest, by simp [upToTwoDigits, ha, hb]⟩
      | @two a b m n ha hb hv rest => exact ⟨10 * m + n, rest, by simp [upToTwoDigits, ha, hb]⟩
    obtain ⟨u, more, hread⟩ := hsome
    obtain ⟨rfl, rfl⟩ := (longestNumber_of_upToTwoDigits hread).unique h
    exact hread

/-- A clock time at the head of a text: hours and minutes, and seconds if a colon and a digit
follow. -/
inductive ClockHead : Nat → Nat → Nat → List Char → Prop
  | minutes {h m : Nat} {cs rest more : List Char} (hhour : LongestNumber h cs (':' :: rest))
      (hminute : LongestNumber m rest more)
      (hend : ∀ next s last, more = ':' :: next → ¬ LongestNumber s next last) : ClockHead h m 0 cs
  | seconds {h m s : Nat} {cs rest more last : List Char} (hhour : LongestNumber h cs (':' :: rest))
      (hminute : LongestNumber m rest (':' :: more)) (hsecond : LongestNumber s more last) :
        ClockHead h m s cs

lemma clockAtHead_eq_some_iff {h m s : Nat} {cs : List Char} :
    clockAtHead cs = some (h, m, s) ↔ ClockHead h m s cs := by
  constructor
  · intro hclock
    unfold clockAtHead at hclock
    split at hclock
    · next h' rest hhour =>
      rw [upToTwoDigits_eq_some_iff] at hhour
      split at hclock
      · next m' more hminute =>
        rw [upToTwoDigits_eq_some_iff] at hminute
        split at hclock
        · next s' last hsecond =>
          cases hclock
          exact .seconds hhour hminute (upToTwoDigits_eq_some_iff.1 hsecond)
        · next hnone =>
          cases hclock
          refine .minutes hhour hminute ?_
          rintro next s last ⟨⟩ hsecond
          rw [upToTwoDigits_eq_some_iff.2 hsecond] at hnone
          cases hnone
      · next m' more hother hminute =>
        rw [upToTwoDigits_eq_some_iff] at hminute
        cases hclock
        refine .minutes hhour hminute ?_
        rintro next s last rfl
        exact absurd rfl (hother _)
      · cases hclock
    · cases hclock
  · intro hclock
    cases hclock with
    | minutes hhour hminute hend =>
      simp only [clockAtHead, upToTwoDigits_eq_some_iff.2 hhour,
        upToTwoDigits_eq_some_iff.2 hminute]
      split
      · next heq =>
        cases heq
        split
        · next hsecond => exact absurd (upToTwoDigits_eq_some_iff.1 hsecond) (hend _ _ _ rfl)
        · rfl
      · next heq =>
        cases heq
        rfl
      · next heq => cases heq
    | seconds hhour hminute hsecond =>
      simp only [clockAtHead, upToTwoDigits_eq_some_iff.2 hhour,
        upToTwoDigits_eq_some_iff.2 hminute, upToTwoDigits_eq_some_iff.2 hsecond]

lemma ClockHead.unique {h m s h' m' s' : Nat} {cs : List Char} (hclock : ClockHead h m s cs)
    (hclock' : ClockHead h' m' s' cs) : h = h' ∧ m = m' ∧ s = s' := by
  have heq := (clockAtHead_eq_some_iff.2 hclock).symm.trans (clockAtHead_eq_some_iff.2 hclock')
  simpa using heq

/-- A text that starts with a clock time has a colon after one or two digits. -/
lemma ClockHead.exists_hour {h m s : Nat} {cs : List Char} (hclock : ClockHead h m s cs) :
    ∃ rest, LongestNumber h cs (':' :: rest) := by
  cases hclock with
  | minutes hhour => exact ⟨_, hhour⟩
  | seconds hhour => exact ⟨_, hhour⟩

lemma ClockHead.exactDigits {h m s : Nat} {cs : List Char} (hclock : ClockHead h m s cs) :
    exactDigits 0 4 cs = none := by
  have hcolon : decimalValue? ':' = none := by decide
  obtain ⟨rest, hhour, -⟩ := hclock.exists_hour
  cases hhour with
  | one ha => simp only [Calendar.exactDigits, ha, hcolon]
  | two ha hb => simp only [Calendar.exactDigits, ha, hb, hcolon]

/-! ### Clock times and patterns -/

namespace Field

lemma exists_of_readAll_cons {f : Field} {p : List Field} {r r' : Reading} {cs rest : List Char}
    (h : readAll (f :: p) r cs = some (r', rest)) :
    ∃ r₁ cs₁, f.read r cs = some (r₁, cs₁) ∧ readAll p r₁ cs₁ = some (r', rest) := by
  rw [readAll] at h
  split at h
  · next r₁ cs₁ hread => exact ⟨r₁, cs₁, hread, h⟩
  · cases h

lemma exists_of_readAll_mark {c : Char} {p : List Field} {r r' : Reading} {cs rest : List Char}
    (h : readAll (mark c :: p) r cs = some (r', rest)) : ∃ cs₁, cs = c :: cs₁ ∧
      readAll p r cs₁ = some (r', rest) := by
  obtain ⟨r₁, cs₁, hread, hrest⟩ := exists_of_readAll_cons h
  cases cs with
  | nil => cases hread
  | cons d cs =>
    rw [read] at hread
    split at hread
    · next hd =>
      cases hread
      exact ⟨cs₁, congrArg (· :: cs₁) hd, hrest⟩
    · cases hread

/-- A number in front of a mark. -/
lemma exists_of_readAll_short {f : Field} (hf : f.IsShort) {c : Char} {p : List Field}
    {r r' : Reading} {cs rest : List Char} (h : readAll (f :: mark c :: p) r cs = some (r', rest)) :
    ∃ v cs₁, readAll p (f.put r v) cs₁ = some (r', rest) ∧
      (ShortNumber v cs (c :: cs₁) ∨ f = day ∧ ∃ more, cs = ' ' :: more) := by
  obtain ⟨r₁, cs₁, hread, hmark⟩ := exists_of_readAll_cons h
  obtain ⟨cs₂, rfl, hrest⟩ := exists_of_readAll_mark hmark
  obtain ⟨v, rfl, hnumber | ⟨hday, more, hcs, -⟩⟩ := exists_shortNumber_of_read hf hread
  · exact ⟨v, cs₂, hrest, .inl hnumber⟩
  · exact ⟨v, cs₂, hrest, .inr ⟨hday, more, hcs⟩⟩

end Field

end Calendar

namespace DateFunction

/-- What the pattern of a clock time reads is the clock time at the head of the text. -/
lemma clockHead_of_readAll {r : Reading} {cs : List Char}
    (h : Field.readAll clock {} cs = some (r, [])) :
    ClockHead r.hour r.minute r.second cs := by
  have hcolon : decimalValue? ':' = none := by decide
  obtain ⟨hour, cs₁, h₁, hhour | ⟨hday, -⟩⟩ := Field.exists_of_readAll_short (f := .hour) trivial h
  · obtain ⟨minute, cs₂, h₂, hminute | ⟨hday, -⟩⟩ :=
      Field.exists_of_readAll_short (f := .minute) trivial h₁
    · obtain ⟨r₃, cs₃, hread, hend⟩ := Field.exists_of_readAll_cons h₂
      obtain ⟨second, rfl, hsecond | ⟨hday, -⟩⟩ :=
        Field.exists_shortNumber_of_read (f := .second) trivial hread
      · cases hend
        exact .seconds (hhour.longest (by simp [hcolon])) (hminute.longest (by simp [hcolon]))
          (hsecond.longest (by simp))
      · cases hday
    · cases hday
  · cases hday

/-- A pattern is that of a clock time, or starts with the year, or with a number and another mark
than a colon. -/
lemma patterns_cases {p : List Field × Use} (hp : p ∈ patterns) :
    p.1 = clock ∨ (∃ q, p.1 = .year :: q) ∨
      ∃ f c q, Field.IsShort f ∧ c ≠ ':' ∧ decimalValue? c = none ∧ p.1 = f :: .mark c :: q := by
  simp only [patterns, List.mem_cons, List.not_mem_nil, or_false] at hp
  rcases hp with rfl | rfl | rfl | rfl | rfl | rfl | rfl | rfl | rfl | rfl
  · exact .inr (.inl ⟨_, rfl⟩)
  · exact .inr (.inl ⟨_, rfl⟩)
  · exact .inr (.inl ⟨_, rfl⟩)
  · exact .inr (.inl ⟨_, rfl⟩)
  · exact .inl rfl
  · exact .inr (.inr ⟨.month, '/', _, trivial, by decide, by decide, rfl⟩)
  · exact .inr (.inr ⟨.day, '/', _, trivial, by decide, by decide, rfl⟩)
  · exact .inr (.inr ⟨.day, '-', _, trivial, by decide, by decide, rfl⟩)
  · exact .inr (.inr ⟨.month, '/', _, trivial, by decide, by decide, rfl⟩)
  · exact .inr (.inr ⟨.day, '/', _, trivial, by decide, by decide, rfl⟩)

/-- Hours, minutes and seconds that a day has. -/
def InRange (h m s : Nat) : Prop :=
  h < 24 ∧ m < 60 ∧ s < 60

lemma isSome_ofParts?_iff {h m s : Nat} : (TimeOfDay.ofParts? h m s 0).isSome = true ↔
    InRange h m s := by
  unfold TimeOfDay.ofParts? InRange
  split <;> simp <;> omega

lemma exists_of_parse? {p : List Field} {cs : List Char} (h : (parse? p cs).isSome = true) :
    ∃ r, Field.readAll p {} cs = some (r, []) ∧ InRange r.hour r.minute r.second := by
  unfold parse? at h
  split at h
  · next r hread =>
    refine ⟨r, hread, ?_⟩
    split at h
    · next htime => exact isSome_ofParts?_iff.1 (by rw [htime]; rfl)
    · cases h
  · cases h

/-- A clock time at the head of a text that fits a pattern is in range. -/
lemma inRange_of_clockHead {h m s : Nat} {cs : List Char} (hclock : ClockHead h m s cs)
    {p : List Field × Use}
    (hp : p ∈ patterns) (hfits : (parse? p.1 cs).isSome = true) : InRange h m s := by
  obtain ⟨r, hread, hrange⟩ := exists_of_parse? hfits
  rcases patterns_cases hp with hpattern | ⟨q, hpattern⟩ | ⟨f, c, q, hf, hcolon, hc, hpattern⟩
  · rw [hpattern] at hread
    obtain ⟨rfl, rfl, rfl⟩ := hclock.unique (clockHead_of_readAll hread)
    exact hrange
  · have hunfit : Unfit p.1 cs := .inr ⟨⟨q, hpattern⟩, hclock.exactDigits⟩
    rw [hunfit.parse?] at hfits
    cases hfits
  · rw [hpattern] at hread
    obtain ⟨rest, hhour⟩ := hclock.exists_hour
    obtain ⟨v, cs₁, -, hnumber | ⟨-, more, rfl⟩⟩ := Field.exists_of_readAll_short hf hread
    · -- The number ends at the mark as well as at the colon.
      have hlongest : LongestNumber v cs (c :: cs₁) := hnumber.longest (by simp [hc])
      exact absurd (List.cons.inj (hlongest.unique hhour).2).1 hcolon
    · have hspace : decimalValue? ' ' = none := by decide
      cases hhour.1 with
      | one ha =>
        rw [hspace] at ha
        cases ha
      | two ha =>
        rw [hspace] at ha
        cases ha

/-! ### Words -/

/-- The first letters of the words that stand for a date. -/
def wordCodes : List Nat :=
  [110, 116, 100, 121]

/-- No letter beyond the plain ones has one of these as its small form. -/
lemma smallRuns_wordCodes : smallRuns.all (fun r =>
    r.forward || 128 + r.distance ≤ r.first ||
      (r.first == r.last && !wordCodes.contains (r.first - r.distance))) = true := by
  unfold smallRuns tableItems
  simp only [List.flatMap_cons, List.all_toArray]
  repeat rw [String.toList_ofList]
  decide

lemma mem_wordCodes_of_ofNat {n : Nat} (h : (Char.ofNat n).toNat ∈ wordCodes) : n ∈ wordCodes := by
  by_cases hvalid : n.isValidChar
  · rwa [Char.ofNat, dif_pos hvalid] at h
  · rw [Char.ofNat, dif_neg hvalid] at h
    exact absurd h (by decide)

/-- A text whose small form starts with one of these letters starts with no digit. -/
lemma decimalValue?_of_lower {c d : Char} {cs ds : List Char} (h : lower (c :: cs) = d :: ds)
    (hd : d.toNat ∈ wordCodes) : decimalValue? c = none := by
  rw [lower, lowerFrom_cons] at h
  have hplain : c.toNat < 128 := by
    by_contra hwide
    by_cases hsigma : c = 'Σ'
    · subst hsigma
      change 'σ' :: _ = d :: ds at h
      obtain ⟨rfl, -⟩ := List.cons.inj h
      exact absurd hd (by decide)
    · rw [smallForm_of_ne hsigma, lowerChar, if_neg hwide] at h
      split at h
      · obtain ⟨rfl, -⟩ := List.cons.inj h
        exact absurd hd (by decide)
      · obtain ⟨rfl, -⟩ := List.cons.inj h
        exact Script.shift_notMem (by decide) smallRuns_wordCodes (Nat.not_lt.1 hwide)
          (mem_wordCodes_of_ofNat hd)
  have hsigma : c ≠ 'Σ' := by
    rintro rfl
    exact absurd hplain (by decide)
  rw [smallForm_of_ne hsigma, lowerChar, if_pos hplain] at h
  obtain ⟨rfl, -⟩ := List.cons.inj h
  exact Script.forall_plain (P := fun c => c.toLower.toNat ∈ wordCodes → decimalValue? c = none)
    (by decide) hplain hd

lemma not_clockHead_of_word {cs : List Char} (hword : String.ofList (lower cs) ∈ dateWords)
    (h m s : Nat) :
    ¬ ClockHead h m s cs := by
  have hwords : dateWords.all (fun s => s.toList.head?.any fun c => wordCodes.contains c.toNat) =
      true := by decide
  have hletter := List.all_eq_true.1 hwords _ hword
  rw [String.toList_ofList, Option.any_eq_true] at hletter
  obtain ⟨d, hd, hcode⟩ := hletter
  obtain ⟨ds, hds⟩ := List.head?_eq_some_iff.1 hd
  intro hclock
  obtain ⟨rest, hhour, -⟩ := hclock.exists_hour
  have hnone {c : Char} {more : List Char} (hcs : cs = c :: more) : decimalValue? c = none :=
    decimalValue?_of_lower (hcs ▸ hds) (List.contains_iff_mem.1 hcode)
  cases hhour with
  | one ha =>
    rw [hnone rfl] at ha
    cases ha
  | two ha =>
    rw [hnone rfl] at ha
    cases ha

/-! ### The outcome of reading -/

lemma exists_shiftDay_iff {d : Date} {k : Int} :
    (∃ e, shiftDay d k = .ok e) ↔ 1 ≤ (d.ordinal : Int) + k ∧ (d.ordinal : Int) + k ≤
      Date.lastOrdinal := by
  constructor
  · rintro ⟨e, he⟩
    rw [shiftDay_eq_ok_iff] at he
    have hlow := e.ordinal_pos
    have hhigh := e.ordinal_le_last
    omega
  · rintro ⟨hlow, hhigh⟩
    obtain ⟨e, he⟩ := Date.exists_ofOrdinal? hlow hhigh
    exact ⟨e, by rw [shiftDay, he]⟩

/-- The word for a day beside the present one, where the calendar does not have it. -/
def BeyondCalendar (today : Date) (cs : List Char) : Prop :=
  String.ofList (lower cs) = "tomorrow" ∧ today.ordinal = Date.lastOrdinal ∨
    String.ofList (lower cs) = "yesterday" ∧ today.ordinal = 1

lemma mem_dateWords_of_beyondCalendar {today : Date} {cs : List Char}
    (h : BeyondCalendar today cs) :
    String.ofList (lower cs) ∈ dateWords := by
  rcases h with ⟨hword, -⟩ | ⟨hword, -⟩
  · rw [hword]
    decide
  · rw [hword]
    decide

lemma exists_readWhen_of_word (now : Moment) {cs : List Char}
    (hword : String.ofList (lower cs) ∈ dateWords) :
    (∃ found, readWhen now cs = .ok found) ↔ ¬ BeyondCalendar now.date cs := by
  have hempty : cs ≠ [] := by
    rintro rfl
    exact absurd hword (by decide)
  have hlow := now.date.ordinal_pos
  have hhigh := now.date.ordinal_le_last
  have hmap (k : Int) :
      (∃ found, (shiftDay now.date k).map When.date = .ok found) ↔
        ∃ e, shiftDay now.date k = .ok e := by
    cases shiftDay now.date k <;> simp [Except.map]
  simp only [dateWords, List.mem_cons, List.not_mem_nil, or_false] at hword
  rcases hword with hword | hword | hword | hword | hword
  · simp [readWhen, BeyondCalendar, hword]
  · simp [readWhen, BeyondCalendar, hword, hempty]
  · simp [readWhen, BeyondCalendar, hword, hempty]
  · have hread : readWhen now cs = (shiftDay now.date 1).map .date := by
      simp [readWhen, hword, hempty]
    rw [hread, hmap, exists_shiftDay_iff]
    simp only [BeyondCalendar, hword, true_and, String.reduceEq, false_and, or_false]
    omega
  · have hread : readWhen now cs = (shiftDay now.date (-1)).map .date := by
      simp [readWhen, hword, hempty]
    rw [hread, hmap, exists_shiftDay_iff]
    simp only [BeyondCalendar, hword, true_and, String.reduceEq, false_and, false_or]
    omega

lemma isSome_byPatterns_iff (now : Moment) (cs : List Char) (ps : List (List Field × Use)) :
    (byPatterns now cs ps).isSome = true ↔ ∃ p ∈ ps, (parse? p.1 cs).isSome = true := by
  induction ps with
  | nil => simp [byPatterns]
  | cons p ps ih =>
    rw [byPatterns, List.exists_mem_cons_iff, ← ih]
    cases parse? p.1 cs with
    | none => simp
    | some m => simp

lemma exists_clockToday_iff (now : Moment) {h m s : Nat} :
    (∃ found, clockToday now h m s = .ok found) ↔ InRange h m s := by
  rw [← isSome_ofParts?_iff, clockToday]
  cases TimeOfDay.ofParts? h m s 0 <;> simp

lemma exists_readWhen_of_not_word (now : Moment) {cs : List Char}
    (hword : String.ofList (lower cs) ∉ dateWords) :
    (∃ found, readWhen now cs = .ok found) ↔ ∀ h m s, ClockHead h m s cs → InRange h m s := by
  by_cases hempty : cs = []
  · subst hempty
    refine iff_of_true ⟨.moment now, rfl⟩ ?_
    intro h m s hclock
    obtain ⟨rest, hhour, -⟩ := hclock.exists_hour
    cases hhour
  · cases hpattern : byPatterns now cs patterns with
    | some found =>
      refine iff_of_true ⟨found, readWhen_of_byPatterns hempty hword hpattern⟩ ?_
      intro h m s hclock
      obtain ⟨p, hp, hfits⟩ := (isSome_byPatterns_iff now cs patterns).1 (by rw [hpattern]; rfl)
      exact inRange_of_clockHead hclock hp hfits
    | none =>
      simp only [dateWords, List.mem_cons, List.not_mem_nil, or_false, not_or] at hword
      obtain ⟨hnow, htoday, hdate, htomorrow, hyesterday⟩ := hword
      cases hclock : clockAtHead cs with
      | none =>
        have hread : readWhen now cs = .ok (.moment now) := by
          simp [readWhen, hpattern, hclock, hempty, hnow, htoday, hdate, htomorrow, hyesterday]
        refine iff_of_true ⟨_, hread⟩ ?_
        intro h m s hhead
        rw [clockAtHead_eq_some_iff.2 hhead] at hclock
        cases hclock
      | some found =>
        obtain ⟨h, m, s⟩ := found
        have hread : readWhen now cs = clockToday now h m s := by
          simp [readWhen, hpattern, hclock, hempty, hnow, htoday, hdate, htomorrow, hyesterday]
        have hhead : ClockHead h m s cs := clockAtHead_eq_some_iff.1 hclock
        rw [hread, exists_clockToday_iff]
        constructor
        · intro hrange h' m' s' hhead'
          obtain ⟨rfl, rfl, rfl⟩ := hhead.unique hhead'
          exact hrange
        · intro hall
          exact hall h m s hhead

/-- Reading a text as a date fails at the ends of the calendar and for clock times out of range
only. -/
lemma exists_readWhen_iff (now : Moment) (cs : List Char) :
    (∃ found, readWhen now cs = .ok found) ↔
      ¬ BeyondCalendar now.date cs ∧ ∀ h m s, ClockHead h m s cs → InRange h m s := by
  by_cases hword : String.ofList (lower cs) ∈ dateWords
  · rw [exists_readWhen_of_word now hword]
    exact (and_iff_left fun h m s hclock => absurd hclock (not_clockHead_of_word hword h m s)).symm
  · rw [exists_readWhen_of_not_word now hword]
    exact (and_iff_right fun hbeyond => hword (mem_dateWords_of_beyondCalendar hbeyond)).symm

/-- A text that says something of a date: one of the words, a text that fits a pattern, or one that
starts with a clock time in range. -/
def Recognised (cs : List Char) : Prop :=
  String.ofList (lower cs) ∈ dateWords ∨ (∃ p ∈ patterns, (parse? p.1 cs).isSome = true) ∨
    ∃ h m s, ClockHead h m s cs ∧ InRange h m s

lemma Recognised.inRange {cs : List Char} (hcs : Recognised cs) {h m s : Nat}
    (hclock : ClockHead h m s cs) :
    InRange h m s := by
  rcases hcs with hword | ⟨p, hp, hfits⟩ | ⟨h', m', s', hclock', hrange⟩
  · exact absurd hclock (not_clockHead_of_word hword h m s)
  · exact inRange_of_clockHead hclock hp hfits
  · obtain ⟨rfl, rfl, rfl⟩ := hclock'.unique hclock
    exact hrange

end DateFunction

namespace Catalog

open DateFunction

lemma carryOut_isDate {isDate : Routine} (h : lists.lookup "IsDate" = some isDate) (v : Value)
    (w : World) :
    (isDate.call [v] []).carryOut w = (.ok (.bool (DateFunction.isDate w.clock v)), w) := by
  obtain rfl : _ = isDate := Option.some.inj h
  rw [Routine.call_of_bind rfl]
  exact carryOut_clock (fun now => .ok (.bool (DateFunction.isDate now v))) w

lemma isDate_eq_true_iff (now : Moment) (s : String) :
    DateFunction.isDate now (.text s) = true ↔ ∃ found, readWhen now (strip s.toList) =
      .ok found := by
  have hread : toWhen now (.text s) = readWhen now (strip s.toList) := rfl
  rw [DateFunction.isDate, hread]
  cases readWhen now (strip s.toList) <;> simp

/-- `IsDate` answers no exactly if a text starts with a clock time out of range, or asks for a day
beyond an end of the calendar. So it tells dates apart among the texts that say something of a date
or start with a clock time, and takes every other text for a date. -/
theorem isDate_text {isDate : Routine} (hisDate : lists.lookup "IsDate" = some isDate) (s : String)
    (w : World) :
    ∃ answer : Bool, (isDate.call [.text s] []).carryOut w = (.ok (.bool answer), w) ∧
      (answer = false ↔ BeyondCalendar w.clock.date (strip s.toList) ∨
        ∃ h m second, ClockHead h m second (strip s.toList) ∧ ¬ InRange h m second) ∧
      ((answer = true ↔ Recognised (strip s.toList)) ↔
        (Recognised (strip s.toList) ∨ ∃ h m second, ClockHead h m second (strip s.toList)) ∧
          ¬ BeyondCalendar w.clock.date (strip s.toList)) := by
  refine ⟨DateFunction.isDate w.clock (.text s), carryOut_isDate hisDate _ w, ?_, ?_⟩
  · rw [← Bool.not_eq_true, isDate_eq_true_iff, exists_readWhen_iff, not_and_or, not_not]
    push Not
    rfl
  · rw [isDate_eq_true_iff, exists_readWhen_iff]
    constructor
    · intro hexact
      have hinside : ¬ BeyondCalendar w.clock.date (strip s.toList) := by
        intro hbeyond
        exact (hexact.2 (.inl (mem_dateWords_of_beyondCalendar hbeyond))).1 hbeyond
      refine ⟨?_, hinside⟩
      by_contra! hneither
      exact hneither.1 (hexact.1 ⟨hinside, fun h m second hclock =>
        absurd hclock (hneither.2 h m second)⟩)
    · rintro ⟨hclear, hinside⟩
      constructor
      · rintro ⟨-, hrange⟩
        rcases hclear with hcs | ⟨h, m, second, hclock⟩
        · exact hcs
        · exact .inr (.inr ⟨h, m, second, hclock, hrange h m second hclock⟩)
      · intro hcs
        exact ⟨hinside, fun h m second hclock => hcs.inRange hclock⟩

/-- A leap second is out of range. -/
theorem isDate_leapSecond : ∃ isDate, lists.lookup "IsDate" = some isDate ∧
    (isDate.call [.text " 23:59:60"] []).carryOut Script.firstScene.world =
      (.ok (.bool false), Script.firstScene.world) := by
  obtain ⟨isDate, hisDate⟩ : ∃ isDate, lists.lookup "IsDate" = some isDate := ⟨_, rfl⟩
  obtain ⟨answer, hanswer, hno, -⟩ := isDate_text hisDate " 23:59:60" Script.firstScene.world
  have hhead : ClockHead 23 59 60 (strip " 23:59:60".toList) :=
    clockAtHead_eq_some_iff.1 (by decide)
  obtain rfl : answer = false := hno.2 (.inr ⟨23, 59, 60, hhead, by simp [InRange]⟩)
  exact ⟨isDate, hisDate, hanswer⟩

/-- A text that says nothing of a date is taken for one. -/
theorem isDate_greeting : (∃ isDate, lists.lookup "IsDate" = some isDate ∧
      (isDate.call [.text "hello"] []).carryOut Script.firstScene.world =
        (.ok (.bool true), Script.firstScene.world)) ∧
    ¬ Recognised (strip "hello".toList) := by
  obtain ⟨isDate, hisDate⟩ : ∃ isDate, lists.lookup "IsDate" = some isDate := ⟨_, rfl⟩
  have hstrip : strip "hello".toList = "hello".toList := by decide
  have hword : String.ofList (lower "hello".toList) ∉ dateWords := by decide
  have hclock (h m s : Nat) : ¬ ClockHead h m s "hello".toList := by
    have hnone : clockAtHead "hello".toList = none := by decide
    rw [← clockAtHead_eq_some_iff, hnone]
    exact (Option.some_ne_none _).symm
  have hpatterns : patterns.all (fun p => (parse? p.1 "hello".toList).isNone) = true := by decide
  rw [hstrip]
  refine ⟨⟨isDate, hisDate, ?_⟩, ?_⟩
  · rw [carryOut_isDate hisDate, (isDate_eq_true_iff _ _).2]
    rw [hstrip, exists_readWhen_of_not_word _ hword]
    intro h m s hhead
    exact absurd hhead (hclock h m s)
  · rintro (hcs | ⟨p, hp, hfits⟩ | ⟨h, m, s, hhead, -⟩)
    · exact hword hcs
    · rw [← Option.not_isNone, List.all_eq_true.1 hpatterns p hp] at hfits
      cases hfits
    · exact hclock h m s hhead

end Catalog

end ScriptHost
