import ScriptHost.Proofs.DatePatterns

/-!
# Dates and times read as they were written

The patterns are tried one after the other and the first that fits decides. For a date or a time
that was written by one of the patterns it has to be seen that no earlier one fits: one of its marks
does not occur in the text, or it starts with the year and the text does not start with four digits.
-/

namespace ScriptHost

open Calendar Number Text

namespace Calendar

/-! ### Ways to write dates and times -/

/-- Year, month and day with a mark between them. -/
def Date.marked (c : Char) (d : Date) : List Char :=
  padded 4 d.year ++ c :: padded 2 d.month ++ c :: padded 2 d.day

/-- Hours, minutes and seconds with colons between them. -/
def TimeOfDay.clock (t : TimeOfDay) : List Char :=
  padded 2 t.hour ++ ':' :: padded 2 t.minute ++ ':' :: padded 2 t.second

/-- The ways to write a date of which day and month are not taken for each other. -/
inductive DateStyle where
  /-- Year, month and day with hyphens. -/
  | hyphens
  /-- Year, month and day with slashes. -/
  | slashes
  /-- Month, day and year with slashes. -/
  | monthFirst
  /-- Day, name of the month and year with hyphens. -/
  | monthNamed

/-- A date in some style. -/
def DateStyle.write (d : Date) : DateStyle → List Char
  | hyphens => d.marked '-'
  | slashes => d.marked '/'
  | monthFirst => padded 2 d.month ++ '/' :: padded 2 d.day ++ '/' :: padded 4 d.year
  | monthNamed => padded 2 d.day ++ '-' :: monthShort d.month ++ '-' :: padded 4 d.year

lemma TimeOfDay.ofParts?_parts {t : TimeOfDay} (ht : t.micro = 0) :
    ofParts? t.hour t.minute t.second 0 = some t := by
  obtain ⟨hour, minute, second, micro, hh, hm, hs, hu⟩ := t
  cases ht
  exact dif_pos ⟨hh, hm, hs, hu⟩

lemma TimeOfDay.text_eq_clock {t : TimeOfDay} (ht : t.micro = 0) : t.text = t.clock := by
  simp [text, clock, ht]

end Calendar

namespace DateFunction

/-! ### The first pattern that fits -/

/-- What becomes of the moment that a pattern has found. -/
def Use.outcome (now m : Moment) : Use → When
  | moment => .moment m
  | day => .date m.date
  | today => .moment ⟨now.date, m.time⟩

/-- A text is read by a pattern if no earlier one fits. -/
lemma byPatterns_of_getElem? {ps : List (List Field × Use)} {k : Nat} {p : List Field} {use : Use}
    (hk : ps[k]? = some (p, use)) {cs : List Char} (hearlier : ∀ q ∈ ps.take k, Unfit q.1 cs)
    {m : Moment} (h : parse? p cs = some m) (now : Moment) :
      byPatterns now cs ps = some (use.outcome now m) := by
  induction ps generalizing k with
  | nil => cases hk
  | cons q ps ih =>
    cases k with
    | zero =>
      cases hk
      rw [byPatterns, h]
      cases use <;> rfl
    | succ k =>
      rw [List.take_succ_cons, List.forall_mem_cons] at hearlier
      rw [byPatterns, hearlier.1.parse?]
      exact ih hk hearlier.2

/-- The words that stand for a date. -/
def dateWords : List String :=
  ["now", "today", "date", "tomorrow", "yesterday"]

lemma readWhen_of_byPatterns {now : Moment} {cs : List Char} {found : When} (hempty : cs ≠ [])
    (hword : String.ofList (lower cs) ∉ dateWords) (h : byPatterns now cs patterns = some found) :
    readWhen now cs = .ok found := by
  simp only [dateWords, List.mem_cons, List.not_mem_nil, or_false, not_or] at hword
  obtain ⟨hnow, htoday, hdate, htomorrow, hyesterday⟩ := hword
  simp [readWhen, h, hempty, hnow, htoday, hdate, htomorrow, hyesterday]

/-- No word that stands for a date starts with a digit. -/
lemma lower_padded_notMem_dateWords (width n : Nat) (rest : List Char) :
    String.ofList (lower (padded width n ++ rest)) ∉ dateWords := by
  obtain ⟨c, cs, hcs⟩ := List.exists_cons_of_ne_nil (padded_ne_nil width n)
  have hc : c.isDigit = true := isDigit_of_mem_padded (hcs ▸ List.mem_cons_self)
  have hplain : c.toNat < 128 := Script.toNat_lt_of_isDigit hc
  have hhead : ∃ more, lower (padded width n ++ rest) = c.toLower :: more := by
    rw [hcs, List.cons_append, lower, lowerFrom, if_pos hplain]
    exact ⟨_, rfl⟩
  have hdigit : c.toLower.isDigit = true :=
    Script.forall_plain (P := fun c => c.isDigit = true → c.toLower.isDigit = true)
      (by decide) hplain hc
  have hwords : dateWords.all (fun s => s.toList.head?.all fun c => !c.isDigit) = true := by decide
  intro hword
  obtain ⟨more, hmore⟩ := hhead
  have hletter := List.all_eq_true.1 hwords _ hword
  rw [hmore, String.toList_ofList, List.head?_cons, Option.all_some, hdigit] at hletter
  cases hletter

/-! ### Reading what was written -/

/-- A text that starts and ends with a number. -/
def BetweenNumbers (cs : List Char) : Prop :=
  ∃ width n mid width' n', cs = padded width n ++ (mid ++ padded width' n')

lemma BetweenNumbers.strip {cs : List Char} (h : BetweenNumbers cs) : strip cs = cs := by
  obtain ⟨width, n, mid, width', n', rfl⟩ := h
  refine strip_eq_self ?_ ?_
  · intro c hc
    rw [List.head?_append_of_ne_nil _ (padded_ne_nil width n)] at hc
    exact isBlank_of_mem_padded (List.mem_of_head? hc)
  · intro c hc
    rw [← List.append_assoc, List.getLast?_append_of_ne_nil _ (padded_ne_nil width' n')] at hc
    exact isBlank_of_mem_padded (List.mem_of_getLast? hc)

/-- A text that starts and ends with a number is read by the first pattern that fits, whatever
blanks are around it. -/
lemma toWhen_between {before after : List Char} (hbefore : ∀ b ∈ before, isBlank b = true)
    (hafter : ∀ b ∈ after, isBlank b = true) {now : Moment} {cs : List Char}
    (hcs : BetweenNumbers cs) {found : When} (h : byPatterns now cs patterns = some found) :
    toWhen now (.text (String.ofList (before ++ cs ++ after))) = .ok found := by
  have hstrip : strip (before ++ cs ++ after) = cs := by
    rw [strip_append_append hbefore cs hafter, hcs.strip]
  change readWhen now (strip (String.ofList (before ++ cs ++ after)).toList) = .ok found
  rw [String.toList_ofList, hstrip]
  obtain ⟨width, n, mid, width', n', rfl⟩ := hcs
  have hempty : padded width n ++ (mid ++ padded width' n') ≠ [] :=
    List.append_ne_nil_of_left_ne_nil (padded_ne_nil width n) _
  exact readWhen_of_byPatterns hempty (lower_padded_notMem_dateWords width n _) h

lemma betweenNumbers_style (d : Date) (style : DateStyle) : BetweenNumbers (style.write d) := by
  cases style with
  | hyphens =>
    exact ⟨4, d.year, '-' :: padded 2 d.month ++ ['-'], 2,
      d.day, by simp [DateStyle.write, Date.marked]⟩
  | slashes =>
    exact ⟨4, d.year, '/' :: padded 2 d.month ++ ['/'], 2,
      d.day, by simp [DateStyle.write, Date.marked]⟩
  | monthFirst =>
    exact ⟨2, d.month, '/' :: padded 2 d.day ++ ['/'], 4, d.year, by simp [DateStyle.write]⟩
  | monthNamed =>
    exact ⟨2, d.day, '-' :: monthShort d.month ++ ['-'], 4, d.year, by simp [DateStyle.write]⟩

lemma betweenNumbers_clock (t : TimeOfDay) : BetweenNumbers t.clock :=
  ⟨2, t.hour, ':' :: padded 2 t.minute ++ [':'], 2, t.second, by simp [TimeOfDay.clock]⟩

lemma betweenNumbers_moment (d : Date) (t : TimeOfDay) (c : Char) :
    BetweenNumbers (d.marked c ++ ' ' :: t.clock) :=
  ⟨4, d.year,
    c :: padded 2 d.month ++ c :: padded 2 d.day ++ ' ' :: padded 2 t.hour ++
      ':' :: padded 2 t.minute ++ [':'],
    2, t.second, by simp [Date.marked, TimeOfDay.clock]⟩

/-- The pattern of a style. -/
def stylePattern : DateStyle → List Field
  | .hyphens => yearFirst '-'
  | .slashes => yearFirst '/'
  | .monthFirst => [.month, .mark '/', .day, .mark '/', .year]
  | .monthNamed => [.day, .mark '-', .monthName, .mark '-', .year]

lemma parse?_style (d : Date) (style : DateStyle) :
    parse? (stylePattern style) (style.write d) = some (.ofDate d) := by
  have hwrite : style.write d = (stylePattern style).flatMap (Field.write (.ofDate d)) ++ [] := by
    cases style <;> simp [DateStyle.write, Date.marked, stylePattern, yearFirst, Field.write,
      Moment.ofDate]
  have hplain : ∀ f ∈ stylePattern style, ¬ f.IsBlanks := by
    cases style <;> simp [stylePattern, yearFirst, Field.IsBlanks]
  have hread := Field.readAll_write (.ofDate d) hplain {} []
  rw [← hwrite] at hread
  refine parse?_of_readAll hread ?_ ?_
  · cases style <;> exact Date.ofParts?_parts d
  · cases style <;> rfl

/-- A date is read by the pattern of its style: the earlier ones have a mark that the text lacks, or
four digits at the start. -/
lemma byPatterns_style (now : Moment) (d : Date) (style : DateStyle) :
    byPatterns now (style.write d) patterns = some (.date d) := by
  have hparse := parse?_style d style
  have hcolon : ':' ∉ style.write d := by
    have hname := notMem_monthShort (c := ':') rfl d.month_pos d.month_le
    cases style <;> simp [DateStyle.write, Date.marked, notMem_padded, hname]
  have hmoment (c : Char) : Unfit (yearFirst c ++ .blanks :: clock) (style.write d) :=
    .inl ⟨':', by simp [clock], hcolon⟩
  have hclock : Unfit clock (style.write d) := .inl ⟨':', by simp [clock], hcolon⟩
  have hmonth : d.month < 100 := Nat.lt_of_le_of_lt d.month_le (by decide)
  have hday : d.day < 100 :=
    Nat.lt_of_le_of_lt (Nat.le_trans d.day_le (daysInMonth_le d.year d.month)) (by decide)
  cases style with
  | hyphens =>
    have hplace : patterns[2]? = some (stylePattern .hyphens, .day) := rfl
    refine byPatterns_of_getElem? hplace ?_ hparse now
    simp only [patterns, List.take, List.forall_mem_cons]
    exact ⟨hmoment '-', hmoment '/', by simp⟩
  | slashes =>
    have hminus : '-' ∉ DateStyle.slashes.write d := by
      simp [DateStyle.write, Date.marked, notMem_padded]
    have hplace : patterns[3]? = some (stylePattern .slashes, .day) := rfl
    refine byPatterns_of_getElem? hplace ?_ hparse now
    simp only [patterns, List.take, List.forall_mem_cons]
    exact ⟨hmoment '-', hmoment '/', .inl ⟨'-', by simp [yearFirst], hminus⟩, by simp⟩
  | monthFirst =>
    have hminus : '-' ∉ DateStyle.monthFirst.write d := by
      simp [DateStyle.write, notMem_padded]
    have hyear : exactDigits 0 4 (DateStyle.monthFirst.write d) = none := by
      rw [DateStyle.write, List.append_assoc]
      exact exactDigits_padded_two hmonth (by decide) _
    have hplace : patterns[5]? = some (stylePattern .monthFirst, .day) := rfl
    refine byPatterns_of_getElem? hplace ?_ hparse now
    simp only [patterns, List.take, List.forall_mem_cons]
    exact ⟨hmoment '-', hmoment '/', .inl ⟨'-', by simp [yearFirst], hminus⟩,
      .inr ⟨⟨_, rfl⟩, hyear⟩, hclock, by simp⟩
  | monthNamed =>
    have hslash : '/' ∉ DateStyle.monthNamed.write d := by
      have hname := notMem_monthShort (c := '/') rfl d.month_pos d.month_le
      simp [DateStyle.write, notMem_padded, hname]
    have hyear : exactDigits 0 4 (DateStyle.monthNamed.write d) = none := by
      rw [DateStyle.write, List.append_assoc]
      exact exactDigits_padded_two hday (by decide) _
    have hplace : patterns[7]? = some (stylePattern .monthNamed, .day) := rfl
    refine byPatterns_of_getElem? hplace ?_ hparse now
    simp only [patterns, List.take, List.forall_mem_cons]
    exact ⟨hmoment '-', hmoment '/', .inr ⟨⟨_, rfl⟩, hyear⟩,
      .inl ⟨'/', by simp [yearFirst], hslash⟩, hclock,
      .inl ⟨'/', by simp, hslash⟩, .inl ⟨'/', by simp, hslash⟩, by simp⟩

lemma readAll_clock (m : Moment) (r : Reading) :
    Field.readAll clock r m.time.clock =
      some ({ r with hour := m.time.hour, minute := m.time.minute, second := m.time.second },
        []) := by
  have hwrite : m.time.clock = clock.flatMap (Field.write m) ++ [] := by
    simp [TimeOfDay.clock, clock, Field.write]
  rw [hwrite, Field.readAll_write m (by simp [clock, Field.IsBlanks])]
  rfl

lemma readAll_marked (m : Moment) (c : Char) (r : Reading) (rest : List Char) :
    Field.readAll (yearFirst c) r (m.date.marked c ++ rest) =
      some ({ r with year := m.date.year, month := m.date.month, day := m.date.day }, rest) := by
  have hwrite : m.date.marked c = (yearFirst c).flatMap (Field.write m) := by
    simp [Date.marked, yearFirst, Field.write]
  rw [hwrite, Field.readAll_write m (by simp [yearFirst, Field.IsBlanks])]
  rfl

/-- A moment is read by the pattern with its mark. -/
lemma parse?_moment (m : Moment) (hm : m.time.micro = 0) (c : Char) :
    parse? (yearFirst c ++ .blanks :: clock) (m.date.marked c ++ ' ' :: m.time.clock) = some m := by
  have hdigit : m.time.clock.dropWhile isBlank = m.time.clock := by
    obtain ⟨b, bs, hbs⟩ := List.exists_cons_of_ne_nil (padded_ne_nil 2 m.time.hour)
    have hb : isBlank b = false := isBlank_of_mem_padded (hbs ▸ List.mem_cons_self)
    rw [TimeOfDay.clock, hbs, List.cons_append, List.cons_append,
      List.dropWhile_cons_of_neg (by simp [hb])]
  have hblanks (r : Reading) : Field.read r (' ' :: m.time.clock) .blanks =
      some (r, m.time.clock) := by
    rw [Field.read, if_pos (by decide), hdigit]
  have hread : Field.readAll (yearFirst c ++ .blanks :: clock) {}
      (m.date.marked c ++ ' ' :: m.time.clock) =
      some (⟨m.date.year, m.date.month, m.date.day, m.time.hour, m.time.minute, m.time.second⟩,
        []) := by
    rw [Field.readAll_append, readAll_marked, Option.bind_some, Field.readAll, hblanks]
    exact readAll_clock m _
  exact parse?_of_readAll hread (Date.ofParts?_parts m.date) (TimeOfDay.ofParts?_parts hm)

lemma byPatterns_moment (now m : Moment) (hm : m.time.micro = 0) {c : Char}
    (hc : c = '-' ∨ c = '/') :
    byPatterns now (m.date.marked c ++ ' ' :: m.time.clock) patterns = some (.moment m) := by
  have hparse := parse?_moment m hm c
  rcases hc with rfl | rfl
  · have hplace : patterns[0]? = some (yearFirst '-' ++ .blanks :: clock, .moment) := rfl
    exact byPatterns_of_getElem? hplace (by simp) hparse now
  · have hplace : patterns[1]? = some (yearFirst '/' ++ .blanks :: clock, .moment) := rfl
    have hminus : '-' ∉ m.date.marked '/' ++ ' ' :: m.time.clock := by
      simp [Date.marked, TimeOfDay.clock, notMem_padded]
    refine byPatterns_of_getElem? hplace ?_ hparse now
    simp only [patterns, List.take, List.forall_mem_cons]
    exact ⟨.inl ⟨'-', by simp [yearFirst], hminus⟩, by simp⟩

lemma byPatterns_clock (now : Moment) {t : TimeOfDay} (ht : t.micro = 0) :
    byPatterns now t.clock patterns = some (.moment ⟨now.date, t⟩) := by
  obtain ⟨d, hd⟩ : ∃ d, Date.ofParts? 1900 1 1 = some d := ⟨_, rfl⟩
  have hparse : parse? clock t.clock = some ⟨d, t⟩ :=
    parse?_of_readAll (readAll_clock ⟨d, t⟩ {}) hd (TimeOfDay.ofParts?_parts ht)
  have hplace : patterns[4]? = some (clock, .today) := rfl
  have hminus : '-' ∉ t.clock := by simp [TimeOfDay.clock, notMem_padded]
  have hslash : '/' ∉ t.clock := by simp [TimeOfDay.clock, notMem_padded]
  refine byPatterns_of_getElem? hplace ?_ hparse now
  simp only [patterns, List.take, List.forall_mem_cons]
  exact ⟨.inl ⟨'-', by simp [yearFirst], hminus⟩, .inl ⟨'/', by simp [yearFirst], hslash⟩,
    .inl ⟨'-', by simp [yearFirst], hminus⟩, .inl ⟨'/', by simp [yearFirst], hslash⟩, by simp⟩

end DateFunction

namespace Catalog

open DateFunction

lemma carryOut_cDate {cdate : Routine} (h : conversions.lookup "CDate" = some cdate) (v : Value)
    (w : World) :
    (cdate.call [v] []).carryOut w = ((toWhen w.clock v).map When.value, w) := by
  obtain rfl : _ = cdate := Option.some.inj h
  rw [Routine.call_of_bind rfl]
  exact carryOut_clock (fun now => (toWhen now v).map When.value) w

lemma carryOut_cStr {cstr : Routine} (h : conversions.lookup "CStr" = some cstr) (v : Value)
    (w : World) :
    (cstr.call [v] []).carryOut w = (v.display.map .text, w) := by
  obtain rfl : _ = cstr := Option.some.inj h
  exact carryOut_of_run rfl rfl w

/-- `CDate` reads dates and times as they were written, with any blanks around them: dates in every
style, moments with hyphens or slashes, and so the texts that `CStr` makes of moments without a
fraction of a second, and clock times as those of the present day. -/
theorem cDate_written {cdate cstr : Routine} (hcdate : conversions.lookup "CDate" = some cdate)
    (hcstr : conversions.lookup "CStr" = some cstr) {before after : List Char}
    (hbefore : ∀ b ∈ before, isBlank b = true) (hafter : ∀ b ∈ after, isBlank b = true) (d : Date)
    {t : TimeOfDay} (ht : t.micro = 0) (w : World) :
    (∀ style : DateStyle,
      (cdate.call [.text (String.ofList (before ++ style.write d ++ after))] []).carryOut w =
        (.ok (.date d), w)) ∧
    (∀ c ∈ ['-', '/'],
      (cdate.call [.text (String.ofList (before ++ (d.marked c ++ ' ' :: t.clock) ++ after))]
        []).carryOut w =
        (.ok (.moment ⟨d, t⟩), w)) ∧
    (cdate.call [.text (String.ofList (before ++ t.clock ++ after))] []).carryOut w =
      (.ok (.moment ⟨w.clock.date, t⟩), w) ∧
    ∃ s, (cstr.call [.moment ⟨d, t⟩] []).carryOut w = (.ok (.text s), w) ∧
      (cdate.call [.text s] []).carryOut w = (.ok (.moment ⟨d, t⟩), w) := by
  have hmoment {c : Char} (hc : c = '-' ∨ c = '/') := byPatterns_moment w.clock ⟨d, t⟩ ht hc
  refine ⟨?_, ?_, ?_, ?_⟩
  · intro style
    rw [carryOut_cDate hcdate,
      toWhen_between hbefore hafter (betweenNumbers_style d style)
        (byPatterns_style w.clock d style)]
    rfl
  · intro c hc
    have hmark : c = '-' ∨ c = '/' := by simpa using hc
    rw [carryOut_cDate hcdate, toWhen_between hbefore hafter (betweenNumbers_moment d t c)
      (hmoment hmark)]
    rfl
  · rw [carryOut_cDate hcdate, toWhen_between hbefore hafter (betweenNumbers_clock t)
      (byPatterns_clock w.clock ht)]
    rfl
  · have hshown : Moment.text ' ' ⟨d, t⟩ = [] ++ (d.marked '-' ++ ' ' :: t.clock) ++ [] := by
      simp [Moment.text, Date.text, Date.marked, TimeOfDay.text_eq_clock ht]
    refine ⟨String.ofList (Moment.text ' ' ⟨d, t⟩), carryOut_cStr hcstr _ w, ?_⟩
    rw [carryOut_cDate hcdate, hshown,
      toWhen_between (by simp) (by simp) (betweenNumbers_moment d t '-') (hmoment (.inl rfl))]
    rfl

/-- The last second of a leap day, and the day itself by the name of its month. -/
theorem cDate_written_leapDay : ∃ cdate leapDay last,
    conversions.lookup "CDate" = some cdate ∧
    Date.ofParts? 2024 2 29 = some leapDay ∧ TimeOfDay.ofParts? 23 59 59 0 = some last ∧
    (cdate.call [.text " 29-Feb-2024\t"] []).carryOut Script.firstScene.world =
      (.ok (.date leapDay), Script.firstScene.world) ∧
    (cdate.call [.text " 2024/02/29 23:59:59\t"] []).carryOut Script.firstScene.world =
      (.ok (.moment ⟨leapDay, last⟩), Script.firstScene.world) := by
  obtain ⟨cdate, hcdate⟩ : ∃ cdate, conversions.lookup "CDate" = some cdate := ⟨_, rfl⟩
  obtain ⟨cstr, hcstr⟩ : ∃ cstr, conversions.lookup "CStr" = some cstr := ⟨_, rfl⟩
  obtain ⟨leapDay, hleapDay⟩ : ∃ leapDay, Date.ofParts? 2024 2 29 = some leapDay := ⟨_, rfl⟩
  obtain ⟨last, hlast⟩ : ∃ last, TimeOfDay.ofParts? 23 59 59 0 = some last := ⟨_, rfl⟩
  have hmicro : last.micro = 0 := by
    cases hlast
    rfl
  have hnamed : String.ofList ([' '] ++ DateStyle.monthNamed.write leapDay ++ ['\t']) =
      " 29-Feb-2024\t" := by
    cases hleapDay
    rfl
  have hwhole : String.ofList ([' '] ++ (leapDay.marked '/' ++ ' ' :: last.clock) ++ ['\t']) =
      " 2024/02/29 23:59:59\t" := by
    cases hleapDay
    cases hlast
    rfl
  have hspace : ∀ b ∈ [' '], isBlank b = true := List.forall_mem_singleton.2 rfl
  have htab : ∀ b ∈ ['\t'], isBlank b = true := List.forall_mem_singleton.2 rfl
  have hwritten := cDate_written hcdate hcstr hspace htab leapDay hmicro Script.firstScene.world
  rw [← hnamed, ← hwhole]
  exact ⟨cdate, leapDay, last, hcdate, hleapDay, hlast, hwritten.1 .monthNamed,
    hwritten.2.1 '/' (by simp)⟩

end Catalog

end ScriptHost
