import ScriptHost.Proofs.Numerals
import ScriptHost.Proofs.YearsAndMonths

/-!
# Patterns of dates

A pattern is also a way to write: every field writes its part of a moment, numbers with zeros in
front. What the fields of a pattern have written they take off a text again, whatever follows
(`Field.readAll_write`). In the other direction, a field that is a number has found one or two
digits of some script (`Field.exists_shortNumber_of_read`), and a pattern does not fit a text that
lacks one of its marks.
-/

namespace ScriptHost

open Calendar Number Text

namespace Calendar

/-! ### Numbers with zeros in front -/

/-- The character of a digit stands for that digit. -/
lemma decimalValue?_digitChar {n : Nat} (h : n < 10) : decimalValue? n.digitChar = some n := by
  have hcode := Nat.toNat_digitChar_of_lt_ten h
  unfold decimalValue?
  dsimp only
  rw [hcode, if_pos (by omega), if_pos (by omega), Nat.add_sub_cancel_left]

/-- A digit is read if it is between the two that bound it. -/
lemma plainDigit?_digitChar {n a b : Nat} (h : n < 10) {low high : Char} (hlow : low.toNat = a + 48)
    (hhigh : high.toNat = b + 48) :
    plainDigit? low high n.digitChar = if a ≤ n ∧ n ≤ b then some n else none := by
  have hcode := Nat.toNat_digitChar_of_lt_ten h
  have horder : (low ≤ n.digitChar ∧ n.digitChar ≤ high) ↔ a ≤ n ∧ n ≤ b := by
    change low.toNat ≤ n.digitChar.toNat ∧ n.digitChar.toNat ≤ high.toNat ↔ _
    omega
  simp only [plainDigit?, horder, hcode, Nat.add_sub_cancel_left]

/-- One more place is one more digit at the end. -/
lemma padded_succ {width : Nat} (hwidth : 0 < width) (n : Nat) :
    padded (width + 1) n = padded width (n / 10) ++ [(n % 10).digitChar] := by
  unfold padded natDigits
  dsimp only
  by_cases hn : n < 10
  · obtain ⟨width, rfl⟩ := Nat.exists_eq_add_of_le' hwidth
    have hzero : Nat.toDigits 10 0 = ['0'] := rfl
    rw [Nat.toDigits_of_lt_base hn, Nat.div_eq_of_lt hn, Nat.mod_eq_of_lt hn, hzero,
      ← List.replicate_succ']
    rfl
  · rw [Nat.toDigits_of_base_le (by decide) (by omega), ← List.append_assoc, List.length_append]
    simp

/-- Two places hold the tens and the ones. -/
lemma padded_two {n : Nat} (h : n < 100) :
    padded 2 n = [(n / 10).digitChar, (n % 10).digitChar] := by
  have htens : n / 10 < 10 := by omega
  have hone : padded 1 (n / 10) = [(n / 10).digitChar] := by
    unfold padded natDigits
    dsimp only
    rw [Nat.toDigits_of_lt_base htens]
    rfl
  rw [padded_succ (by decide), hone]
  rfl

/-- Four places hold the four digits of a year. -/
lemma padded_four {n : Nat} (h : n < 10000) :
    padded 4 n = [(n / 1000).digitChar, (n / 100 % 10).digitChar, (n / 10 % 10).digitChar,
      (n % 10).digitChar] := by
  have hcenturies : n / 10 / 10 < 100 := by omega
  rw [padded_succ (by decide), padded_succ (by decide), padded_two hcenturies]
  simp [Nat.div_div_eq_div_mul]

/-- A padded number consists of digits. -/
lemma isDigit_of_mem_padded {width n : Nat} {c : Char} (h : c ∈ padded width n) :
    c.isDigit = true := by
  unfold padded at h
  dsimp only at h
  rcases List.mem_append.1 h with hzero | hdigit
  · rw [(List.mem_replicate.1 hzero).2]
    rfl
  · exact isDigit_of_mem_natDigits hdigit

/-- Nothing but digits is in a padded number. -/
lemma notMem_padded {c : Char} (hc : c.isDigit = false) (width n : Nat) : c ∉ padded width n := by
  intro h
  rw [isDigit_of_mem_padded h] at hc
  cases hc

/-- A padded number is not empty. -/
lemma padded_ne_nil (width n : Nat) : padded width n ≠ [] := by
  intro h
  exact Script.natDigits_ne_nil n (List.append_eq_nil_iff.1 h).2

/-- There is no blank in a padded number. -/
lemma isBlank_of_mem_padded {width n : Nat} {c : Char} (h : c ∈ padded width n) :
    isBlank c = false :=
  isBlank_of_isDigit (Bool.or_eq_true_iff.2 (.inl (isDecimal_of_isDigit (isDigit_of_mem_padded h))))

/-! ### Reading numbers -/

/-- The first of two alternative forms that fits: the tens lie between the bounds. -/
lemma twoDigits_of_tens {n a b : Nat} (hn : n < 100) {low high : Char} (hlow : low.toNat = a + 48)
    (hhigh : high.toNat = b + 48) (htens : a ≤ n / 10 ∧ n / 10 ≤ b) {second? : Char → Option Nat}
    (hlast : second? (n % 10).digitChar = some (n % 10)) (rest : List Char) :
    twoDigits low high second? (padded 2 n ++ rest) = some (n, rest) := by
  have hfirst : plainDigit? low high (n / 10).digitChar = some (n / 10) := by
    rw [plainDigit?_digitChar (by omega) hlow hhigh, if_pos htens]
  rw [padded_two hn]
  simp only [List.cons_append, List.nil_append, twoDigits, hfirst, hlast, Nat.div_add_mod]

/-- Two digits are not read if the tens are out of bounds. -/
lemma twoDigits_of_not_tens {n a b : Nat} (hn : n < 100) {low high : Char}
    (hlow : low.toNat = a + 48) (hhigh : high.toNat = b + 48) (htens : n / 10 < a ∨ b < n / 10)
    (second? : Char → Option Nat) (rest : List Char) :
    twoDigits low high second? (padded 2 n ++ rest) = none := by
  have hfirst : plainDigit? low high (n / 10).digitChar = none := by
    rw [plainDigit?_digitChar (by omega) hlow hhigh, if_neg (by omega)]
  rw [padded_two hn]
  simp only [List.cons_append, List.nil_append, twoDigits, hfirst]

/-- A year is read back. -/
lemma exactDigits_padded {n : Nat} (h : n < 10000) (rest : List Char) :
    exactDigits 0 4 (padded 4 n ++ rest) = some (n, rest) := by
  have hfirst : n / 1000 < 10 := by omega
  have hmod (k : Nat) : k % 10 < 10 := Nat.mod_lt k (by decide)
  have hvalue : 10 * (10 * (10 * (10 * 0 + n / 1000) + n / 100 % 10) + n / 10 % 10) + n % 10 =
      n := by omega
  rw [padded_four h]
  simp only [List.cons_append, List.nil_append, exactDigits, decimalValue?_digitChar hfirst,
    decimalValue?_digitChar (hmod _), hvalue]

/-- A number of two digits is read back. -/
lemma exactDigits_short {n : Nat} (h : n < 100) (rest : List Char) :
    exactDigits 0 2 (padded 2 n ++ rest) = some (n, rest) := by
  have hfirst : n / 10 < 10 := by omega
  have hlast : n % 10 < 10 := Nat.mod_lt n (by decide)
  have hvalue : 10 * (10 * 0 + n / 10) + n % 10 = n := by omega
  rw [padded_two h]
  simp only [List.cons_append, List.nil_append, exactDigits, decimalValue?_digitChar hfirst,
    decimalValue?_digitChar hlast, hvalue]

/-- After two digits there have to be two more. -/
lemma exactDigits_padded_two {n : Nat} (h : n < 100) {c : Char} (hc : decimalValue? c = none)
    (rest : List Char) :
    exactDigits 0 4 (padded 2 n ++ c :: rest) = none := by
  have hfirst : n / 10 < 10 := by omega
  have hlast : n % 10 < 10 := Nat.mod_lt n (by decide)
  rw [padded_two h]
  simp only [List.cons_append, List.nil_append, exactDigits, decimalValue?_digitChar hfirst,
    decimalValue?_digitChar hlast, hc]

/-- A day of the month is read back. -/
lemma readDay_padded {n : Nat} (hlow : 1 ≤ n) (hhigh : n ≤ 31) (rest : List Char) :
    readDay (padded 2 n ++ rest) = some (n, rest) := by
  have hn : n < 100 := by omega
  have hlast : n % 10 < 10 := Nat.mod_lt n (by decide)
  unfold readDay
  by_cases hthirty : 30 ≤ n
  · have hdigit : plainDigit? '0' '1' (n % 10).digitChar = some (n % 10) := by
      rw [plainDigit?_digitChar hlast rfl rfl, if_pos (by omega)]
    rw [twoDigits_of_tens hn rfl rfl (by omega) hdigit]
    rfl
  · rw [twoDigits_of_not_tens hn rfl rfl (by omega)]
    by_cases hten : 10 ≤ n
    · rw [twoDigits_of_tens hn rfl rfl (by omega) (decimalValue?_digitChar hlast)]
      rfl
    · have hdigit : plainDigit? '1' '9' (n % 10).digitChar = some (n % 10) := by
        rw [plainDigit?_digitChar hlast rfl rfl, if_pos (by omega)]
      rw [twoDigits_of_not_tens hn rfl rfl (by omega),
        twoDigits_of_tens hn rfl rfl (by omega) hdigit]
      rfl

/-! ### Fields that are written and read -/

/-- The short name of a month. -/
def monthShort (m : Nat) : List Char :=
  (["Jan", "Feb", "Mar", "Apr", "May", "Jun", "Jul", "Aug", "Sep", "Oct", "Nov", "Dec"].getD
    (m - 1) "").toList

/-- The short name of a month is read back. -/
lemma readMonthName_monthShort {m : Nat} (hlow : 1 ≤ m) (hhigh : m ≤ 12) (rest : List Char) :
    readMonthName (monthShort m ++ rest) = some (m, rest) := by
  interval_cases m <;> rfl

/-- The short names of months consist of letters. -/
lemma notMem_monthShort {c : Char} (hc : c.isAlpha = false) {m : Nat} (hlow : 1 ≤ m)
    (hhigh : m ≤ 12) :
    c ∉ monthShort m := by
  have hletters : (monthShort m).all Char.isAlpha = true := by interval_cases m <;> decide
  intro h
  rw [List.all_eq_true.1 hletters c h] at hc
  cases hc

namespace Field

/-- A field's part of a moment as a text, numbers with zeros in front. -/
def write (m : Moment) : Field → List Char
  | year => padded 4 m.date.year
  | shortYear => padded 2 (m.date.year % 100)
  | month => padded 2 m.date.month
  | monthName => monthShort m.date.month
  | day => padded 2 m.date.day
  | hour => padded 2 m.time.hour
  | minute => padded 2 m.time.minute
  | second => padded 2 m.time.second
  | mark c => [c]
  | blanks => [' ']

/-- A field's part of a moment as a number. -/
def number (m : Moment) : Field → Nat
  | year => m.date.year
  | shortYear => m.date.year % 100
  | month => m.date.month
  | monthName => m.date.month
  | day => m.date.day
  | hour => m.time.hour
  | minute => m.time.minute
  | second => m.time.second
  | mark _ => 0
  | blanks => 0

/-- What is known after a number has been found for a field. -/
def put (r : Reading) (v : Nat) : Field → Reading
  | year => { r with year := v }
  | shortYear => { r with year := if v ≤ 68 then 2000 + v else 1900 + v }
  | month => { r with month := v }
  | monthName => { r with month := v }
  | day => { r with day := v }
  | hour => { r with hour := v }
  | minute => { r with minute := v }
  | second => { r with second := v }
  | mark _ => r
  | blanks => r

/-- A field that takes blanks does not stop at the end of what it wrote if more of them follow. -/
def IsBlanks : Field → Prop
  | blanks => True
  | _ => False

/-- A field takes off a text what it has written there. -/
lemma read_write (m : Moment) (r : Reading) (rest : List Char) {f : Field} (hf : ¬ f.IsBlanks) :
    f.read r (f.write m ++ rest) = some (f.put r (f.number m), rest) := by
  have hmod (k : Nat) : k % 10 < 10 := Nat.mod_lt k (by decide)
  cases f with
  | year =>
    have hyear : m.date.year < 10000 := Nat.lt_succ_of_le m.date.year_le
    rw [read, write, exactDigits_padded hyear]
    rfl
  | shortYear =>
    rw [read, write, exactDigits_short (Nat.mod_lt _ (by decide))]
    rfl
  | month =>
    have hlow := m.date.month_pos
    have hhigh := m.date.month_le
    rw [read, write]
    by_cases hten : 10 ≤ m.date.month
    · have hdigit : plainDigit? '0' '2' (m.date.month % 10).digitChar =
          some (m.date.month % 10) := by
        rw [plainDigit?_digitChar (hmod _) rfl rfl, if_pos (by omega)]
      rw [twoDigits_of_tens (by omega) rfl rfl (by omega) hdigit]
      rfl
    · have hdigit : plainDigit? '1' '9' (m.date.month % 10).digitChar =
          some (m.date.month % 10) := by
        rw [plainDigit?_digitChar (hmod _) rfl rfl, if_pos (by omega)]
      rw [twoDigits_of_not_tens (by omega) rfl rfl (by omega),
        twoDigits_of_tens (by omega) rfl rfl (by omega) hdigit]
      rfl
  | monthName =>
    rw [read, write, readMonthName_monthShort m.date.month_pos m.date.month_le]
    rfl
  | day =>
    have hhigh := Nat.le_trans m.date.day_le (daysInMonth_le m.date.year m.date.month)
    rw [read, write, readDay_padded m.date.day_pos hhigh]
    rfl
  | hour =>
    have hhigh := m.time.hour_lt
    rw [read, write]
    by_cases htwenty : 20 ≤ m.time.hour
    · have hdigit : plainDigit? '0' '3' (m.time.hour % 10).digitChar = some (m.time.hour % 10) := by
        rw [plainDigit?_digitChar (hmod _) rfl rfl, if_pos (by omega)]
      rw [twoDigits_of_tens (by omega) rfl rfl (by omega) hdigit]
      rfl
    · rw [twoDigits_of_not_tens (by omega) rfl rfl (by omega),
        twoDigits_of_tens (by omega) rfl rfl (by omega) (decimalValue?_digitChar (hmod _))]
      rfl
  | minute =>
    have hhigh := m.time.minute_lt
    rw [read, write, twoDigits_of_tens (by omega) rfl rfl (by omega)
      (decimalValue?_digitChar (hmod _))]
    rfl
  | second =>
    have hhigh := m.time.second_lt
    rw [read, write, twoDigits_of_not_tens (by omega) rfl rfl (by omega),
      twoDigits_of_tens (by omega) rfl rfl (by omega) (decimalValue?_digitChar (hmod _))]
    rfl
  | mark c => simp [read, write, put]
  | blanks => exact absurd trivial hf

/-- The fields of a pattern take off a text what they have written there. -/
lemma readAll_write (m : Moment) {p : List Field} (hp : ∀ f ∈ p, ¬ f.IsBlanks) (r : Reading)
    (rest : List Char) :
    readAll p r (p.flatMap (write m) ++ rest) =
      some (p.foldl (fun r f => f.put r (f.number m)) r, rest) := by
  induction p generalizing r with
  | nil => rfl
  | cons f p ih =>
    rw [List.flatMap_cons, List.append_assoc, readAll, read_write m r _ (hp f List.mem_cons_self)]
    exact ih (fun g hg => hp g (List.mem_cons_of_mem f hg)) _

/-- Fields are read one after the other. -/
lemma readAll_append (p q : List Field) (r : Reading) (cs : List Char) :
    readAll (p ++ q) r cs = (readAll p r cs).bind fun found => readAll q found.1 found.2 := by
  induction p generalizing r cs with
  | nil => rfl
  | cons f p ih =>
    rw [List.cons_append, readAll, readAll]
    cases f.read r cs with
    | none => rfl
    | some found => exact ih found.1 found.2

end Field

/-! ### Numbers found in a text -/

/-- One or two digits of any script at the head of a text, their value and what follows them. -/
inductive ShortNumber (v : Nat) : List Char → List Char → Prop
  | one {a : Char} (ha : decimalValue? a = some v) (rest : List Char) :
    ShortNumber v (a :: rest) rest
  | two {a b : Char} {m n : Nat} (ha : decimalValue? a = some m) (hb : decimalValue? b = some n)
      (hv : v = 10 * m + n) (rest : List Char) : ShortNumber v (a :: b :: rest) rest

/-- A short number is taken from the head of the text. -/
lemma ShortNumber.suffix {v : Nat} {cs rest : List Char} (h : ShortNumber v cs rest) :
    rest <:+ cs := by
  cases h with
  | one _ rest => exact List.suffix_cons _ rest
  | two _ _ _ rest => exact (List.suffix_cons _ rest).trans (List.suffix_cons _ _)

/-- A way to read a digit that knows decimal digits only. -/
def ReadsDecimals (digit? : Char → Option Nat) : Prop :=
  ∀ c v, digit? c = some v → decimalValue? c = some v

/-- A bounded digit stands for its value. -/
lemma readsDecimals_plainDigit? {low high : Char} (hlow : 48 ≤ low.toNat)
    (hhigh : high.toNat ≤ 57) :
    ReadsDecimals (plainDigit? low high) := by
  intro c v h
  unfold plainDigit? at h
  split at h
  · next hc =>
    have hbounds : low.toNat ≤ c.toNat ∧ c.toNat ≤ high.toNat := hc
    unfold decimalValue?
    dsimp only
    rw [if_pos (by omega), if_pos (by omega)]
    exact h
  · cases h

lemma readsDecimals_decimalValue? : ReadsDecimals decimalValue? := fun _ _ h => h

/-- A way to read a number that takes one or two digits. -/
def ReadsNumber (number? : List Char → Option (Nat × List Char)) : Prop :=
  ∀ cs v rest, number? cs = some (v, rest) → ShortNumber v cs rest

/-- One digit is read as a number of one digit. -/
lemma readsNumber_oneDigit {digit? : Char → Option Nat} (hdigit : ReadsDecimals digit?) :
    ReadsNumber (oneDigit digit?) := by
  intro cs v rest h
  cases cs with
  | nil => cases h
  | cons c cs =>
    obtain ⟨u, hu, heq⟩ := Option.map_eq_some_iff.1 h
    cases heq
    exact .one (hdigit c v hu) rest

/-- Two digits are read as a number of two digits. -/
lemma readsNumber_twoDigits {low high : Char} (hlow : 48 ≤ low.toNat) (hhigh : high.toNat ≤ 57)
    {second? : Char → Option Nat} (hsecond : ReadsDecimals second?) :
      ReadsNumber (twoDigits low high second?) := by
  intro cs v rest h
  unfold twoDigits at h
  split at h
  · next a b cs =>
    split at h
    · next m n hm hn =>
      cases h
      exact .two (readsDecimals_plainDigit? hlow hhigh a m hm) (hsecond b n hn) rfl rest
    · cases h
  · cases h

/-- Of two ways to read a number the second is tried if the first fails. -/
lemma ReadsNumber.orElse {first? second? : List Char → Option (Nat × List Char)}
    (hfirst : ReadsNumber first?)
    (hsecond : ReadsNumber second?) : ReadsNumber fun cs => first? cs <|> second? cs := by
  intro cs v rest h
  rcases (Option.orElse_eq_some _ _ _).1 h with h | ⟨-, h⟩
  · exact hfirst cs v rest h
  · exact hsecond cs v rest h

/-- A day is a short number, perhaps behind a blank. -/
lemma shortNumber_of_readDay {v : Nat} {cs rest : List Char} (h : readDay cs = some (v, rest)) :
    ShortNumber v cs rest ∨ ∃ more, cs = ' ' :: more ∧ ShortNumber v more rest := by
  have hplain : ReadsDecimals (plainDigit? '1' '9') :=
    readsDecimals_plainDigit? (by decide) (by decide)
  have hthirty : ReadsDecimals (plainDigit? '0' '1') :=
    readsDecimals_plainDigit? (by decide) (by decide)
  simp only [readDay, Option.orElse_eq_some] at h
  rcases h with h | ⟨-, h | ⟨-, h | ⟨-, h | ⟨-, h⟩⟩⟩⟩
  · exact .inl (readsNumber_twoDigits (by decide) (by decide) hthirty cs v rest h)
  · exact .inl
      (readsNumber_twoDigits (by decide) (by decide) readsDecimals_decimalValue? cs v rest h)
  · exact .inl (readsNumber_twoDigits (by decide) (by decide) hplain cs v rest h)
  · exact .inl (readsNumber_oneDigit hplain cs v rest h)
  · split at h
    · next more => exact .inr ⟨more, rfl, readsNumber_oneDigit hplain more v rest h⟩
    · cases h

/-- Digits are taken from the head of the text. -/
lemma suffix_of_exactDigits {n v v' : Nat} {cs rest : List Char}
    (h : exactDigits v n cs = some (v', rest)) :
    rest <:+ cs := by
  induction n generalizing v cs with
  | zero =>
    cases h
    exact List.suffix_rfl
  | succ n ih =>
    cases cs with
    | nil => cases h
    | cons c cs =>
      unfold exactDigits at h
      split at h
      · exact (ih h).trans (List.suffix_cons c cs)
      · cases h

namespace Field

/-- The fields that are one or two digits, though a space may stand for the first digit of a day. -/
def IsShort : Field → Prop
  | month => True
  | day => True
  | hour => True
  | minute => True
  | second => True
  | _ => False

/-- A short field is read from a short number. -/
lemma exists_shortNumber_of_read {f : Field} (hf : f.IsShort) {r r' : Reading} {cs rest : List Char}
    (h : f.read r cs = some (r', rest)) :
    ∃ v, r' = f.put r v ∧ (ShortNumber v cs rest ∨ f = day ∧ ∃ more, cs = ' ' :: more ∧
      ShortNumber v more rest) := by
  have hplain {low high : Char} (hlow : 48 ≤ low.toNat) (hhigh : high.toNat ≤ 57) :
      ReadsDecimals (plainDigit? low high) := readsDecimals_plainDigit? hlow hhigh
  have hdecimal := readsDecimals_decimalValue?
  have found {number? : List Char → Option (Nat × List Char)} (hnumber : ReadsNumber number?)
      (h : (number? cs).map (fun p => (f.put r p.1, p.2)) = some (r', rest)) :
      ∃ v, r' = f.put r v ∧ (ShortNumber v cs rest ∨ f = day ∧ ∃ more, cs = ' ' :: more ∧
        ShortNumber v more rest) := by
    obtain ⟨⟨v, rest⟩, hread, heq⟩ := Option.map_eq_some_iff.1 h
    cases heq
    exact ⟨v, rfl, .inl (hnumber cs v rest hread)⟩
  cases f with
  | month =>
    exact found
      ((readsNumber_twoDigits (by decide) (by decide) (hplain (by decide) (by decide))).orElse
      ((readsNumber_twoDigits (by decide) (by decide) (hplain (by decide) (by decide))).orElse
        (readsNumber_oneDigit (hplain (by decide) (by decide))))) h
  | day =>
    obtain ⟨⟨v, rest⟩, hread, heq⟩ := Option.map_eq_some_iff.1 h
    cases heq
    exact ⟨v, rfl, (shortNumber_of_readDay hread).imp_right fun hspace => ⟨rfl, hspace⟩⟩
  | hour =>
    exact found
      ((readsNumber_twoDigits (by decide) (by decide) (hplain (by decide) (by decide))).orElse
      ((readsNumber_twoDigits (by decide) (by decide) hdecimal).orElse
        (readsNumber_oneDigit hdecimal))) h
  | minute =>
    exact found ((readsNumber_twoDigits (by decide) (by decide) hdecimal).orElse
      (readsNumber_oneDigit hdecimal)) h
  | second =>
    exact found
      ((readsNumber_twoDigits (by decide) (by decide) (hplain (by decide) (by decide))).orElse
      ((readsNumber_twoDigits (by decide) (by decide) hdecimal).orElse
        (readsNumber_oneDigit hdecimal))) h
  | year => exact hf.elim
  | shortYear => exact hf.elim
  | monthName => exact hf.elim
  | mark c => exact hf.elim
  | blanks => exact hf.elim

/-- What follows a field is an end of the text. -/
lemma suffix_of_read {f : Field} {r r' : Reading} {cs rest : List Char}
    (h : f.read r cs = some (r', rest)) :
    rest <:+ cs := by
  have short (hf : f.IsShort) : rest <:+ cs := by
    obtain ⟨v, -, hnumber | ⟨-, more, rfl, hnumber⟩⟩ := exists_shortNumber_of_read hf h
    · exact hnumber.suffix
    · exact hnumber.suffix.trans (List.suffix_cons _ more)
  cases f with
  | month => exact short trivial
  | day => exact short trivial
  | hour => exact short trivial
  | minute => exact short trivial
  | second => exact short trivial
  | year =>
    obtain ⟨⟨v, rest⟩, hread, heq⟩ := Option.map_eq_some_iff.1 h
    cases heq
    exact suffix_of_exactDigits hread
  | shortYear =>
    obtain ⟨⟨v, rest⟩, hread, heq⟩ := Option.map_eq_some_iff.1 h
    cases heq
    exact suffix_of_exactDigits hread
  | monthName =>
    obtain ⟨⟨v, rest⟩, hread, heq⟩ := Option.map_eq_some_iff.1 h
    cases heq
    unfold readMonthName at hread
    split at hread
    · next a b c cs =>
      obtain ⟨i, -, heq⟩ := Option.map_eq_some_iff.1 hread
      cases heq
      exact ⟨[a, b, c], rfl⟩
    · cases hread
  | mark c =>
    cases cs with
    | nil => cases h
    | cons d cs =>
      rw [read] at h
      split at h
      · cases h
        exact List.suffix_cons d _
      · cases h
  | blanks =>
    cases cs with
    | nil => cases h
    | cons d cs =>
      rw [read] at h
      split at h
      · cases h
        exact (List.dropWhile_suffix isBlank).trans (List.suffix_cons d cs)
      · cases h

/-- A pattern that reads a text finds its marks there. -/
lemma mem_of_readAll {p : List Field} {c : Char} (hc : mark c ∈ p) {r r' : Reading}
    {cs rest : List Char}
    (h : readAll p r cs = some (r', rest)) : c ∈ cs := by
  induction p generalizing r cs with
  | nil => cases hc
  | cons f p ih =>
    unfold readAll at h
    split at h
    · next r₁ rest₁ hread =>
      rcases List.mem_cons.1 hc with rfl | hc
      · cases cs with
        | nil => cases hread
        | cons d cs =>
          rw [read] at hread
          split at hread
          · next hd => exact hd ▸ List.mem_cons_self
          · cases hread
      · exact (suffix_of_read hread).subset (ih hc h)
    · cases h

end Field

/-! ### Patterns -/

/-- A pattern cannot fit a text: the text lacks one of its marks, or the four digits of the year at
its start. -/
def Unfit (p : List Field) (cs : List Char) : Prop :=
  (∃ c, .mark c ∈ p ∧ c ∉ cs) ∨ ((∃ q, p = .year :: q) ∧ exactDigits 0 4 cs = none)

/-- A text that does not fit a pattern is not read by it. -/
lemma Unfit.parse? {p : List Field} {cs : List Char} (h : Unfit p cs) : parse? p cs = none := by
  have hread : Field.readAll p {} cs = none := by
    rcases h with ⟨c, hmark, hc⟩ | ⟨⟨q, rfl⟩, hdigits⟩
    · rw [Option.eq_none_iff_forall_not_mem]
      intro ⟨r, rest⟩ hread
      exact hc (Field.mem_of_readAll hmark hread)
    · rw [Field.readAll, Field.read, hdigits]
      rfl
  rw [Calendar.parse?, hread]

/-- A text is read by a pattern if its fields are read to the end and make a moment. -/
lemma parse?_of_readAll {p : List Field} {cs : List Char} {r : Reading}
    (h : Field.readAll p {} cs = some (r, []))
    {m : Moment} (hdate : Date.ofParts? r.year r.month r.day = some m.date)
    (htime : TimeOfDay.ofParts? r.hour r.minute r.second 0 = some m.time) :
      parse? p cs = some m := by
  rw [parse?, h]
  dsimp only
  rw [hdate, htime]

end Calendar

end ScriptHost
