import Mathlib.Tactic.Lemma
import ScriptHost.Builtin.Catalog
import ScriptHost.Proofs.Members
import ScriptHost.Proofs.Turns

/-!
# Numerals in base sixteen and base eight

A numeral is read digit by digit from the left, in the digits of its base. `Hex` and `Oct` write
numerals of the numbers that are not negative, and reading gives the number back. Of a negative
number they write the letter of the base before the numeral of its size, and that letter is no
digit.
-/

namespace ScriptHost

namespace NumberFunction

/-- The digits of a base up to sixteen, in order. -/
def digitsIn (base : Nat) : List Char :=
  "0123456789ABCDEF".toList.take base

/-- Reads one more digit after those that have been read. -/
def readDigit? (base n : Nat) (c : Char) : Option Nat :=
  ((digitsIn base).idxOf? c).map (base * n + ·)

/-- The number that a numeral stands for; a text without digits and one with anything else is no
numeral. -/
def numeralValue? (base : Nat) (cs : List Char) : Option Nat :=
  if cs.isEmpty then none else cs.foldlM (readDigit? base) 0

lemma mem_digitsIn_of_readDigit? {base n m : Nat} {c : Char} (h : readDigit? base n c = some m) :
    c ∈ digitsIn base := by
  obtain ⟨i, hi, -⟩ := Option.map_eq_some_iff.1 h
  rw [← List.isSome_idxOf?, hi]
  rfl

lemma mem_digitsIn_of_foldlM {base n m : Nat} {cs : List Char}
    (h : cs.foldlM (readDigit? base) n = some m) {c : Char}
    (hc : c ∈ cs) : c ∈ digitsIn base := by
  induction cs generalizing n with
  | nil => exact absurd hc List.not_mem_nil
  | cons d cs ih =>
    rw [List.foldlM_cons] at h
    obtain ⟨k, hk, hrest⟩ := Option.bind_eq_some_iff.1 h
    rcases List.mem_cons.1 hc with rfl | hc
    · exact mem_digitsIn_of_readDigit? hk
    · exact ih hrest hc

/-- Reading undoes writing, for any digits that are read as the values for which they are written.
-/
lemma foldlM_toDigits {base : Nat} (hbase : 1 < base) {digit : Char → Char}
    (hdigit : ∀ d < base, (digitsIn base).idxOf? (digit d.digitChar) = some d) (n : Nat) :
    ((Nat.toDigits base n).map digit).foldlM (readDigit? base) 0 = some n := by
  have hread (k : Nat) {d : Nat} (hd : d < base) :
      [digit d.digitChar].foldlM (readDigit? base) k = some (base * k + d) := by
    rw [List.foldlM_cons, readDigit?, hdigit d hd]
    rfl
  induction n using Nat.strongRecOn with
  | ind n ih =>
    by_cases hn : n < base
    · rw [Nat.toDigits_of_lt_base hn, List.map_singleton, hread 0 hn, Nat.mul_zero, Nat.zero_add]
    · have hpos : 0 < base := Nat.lt_of_succ_lt hbase
      have hless : n / base < n := Nat.div_lt_self (Nat.lt_of_lt_of_le hpos (Nat.not_lt.1 hn)) hbase
      -- The last digit is written behind the numeral of the quotient, and read after it.
      rw [Nat.toDigits_of_base_le hbase (Nat.not_lt.1 hn), List.map_append, List.foldlM_append,
        ih _ hless, List.map_singleton]
      refine (hread (n / base) (Nat.mod_lt n hpos)).trans ?_
      rw [Nat.div_add_mod]

lemma numeralValue?_toDigits {base : Nat} (hbase : 1 < base) {digit : Char → Char}
    (hdigit : ∀ d < base, (digitsIn base).idxOf? (digit d.digitChar) = some d) (n : Nat) :
    numeralValue? base ((Nat.toDigits base n).map digit) = some n := by
  rw [numeralValue?, if_neg (by simp), foldlM_toDigits hbase hdigit]

/-- All that a numeral has are digits. -/
lemma forall_mem_digitsIn_of_numeralValue? {base n : Nat} {cs : List Char}
    (h : numeralValue? base cs = some n) :
    ∀ c ∈ cs, c ∈ digitsIn base := by
  intro c hc
  rw [numeralValue?, if_neg (by simpa using List.ne_nil_of_mem hc)] at h
  exact mem_digitsIn_of_foldlM h hc

/-- What is written as a numeral, and for a negative number with a letter that is no digit before
the numeral of its size, has only digits exactly for the other numbers. -/
lemma forall_mem_digitsIn_iff {base : Nat} {letter : Char} {text : Int → List Char}
    (hletter : letter ∉ digitsIn base) (hnegative : ∀ n < 0, text n = letter :: text (-n))
    (hvalue : ∀ n, 0 ≤ n → numeralValue? base (text n) = some n.toNat) (n : Int) :
    (∀ c ∈ text n, c ∈ digitsIn base) ↔ 0 ≤ n := by
  constructor
  · intro hdigits
    by_contra hneg
    rw [hnegative n (Int.not_le.1 hneg)] at hdigits
    exact hletter (hdigits letter List.mem_cons_self)
  · intro hn
    exact forall_mem_digitsIn_of_numeralValue? (hvalue n hn)

/-! ### What is written -/

lemma idxOf?_hexDigit : ∀ d < 16, (digitsIn 16).idxOf? d.digitChar.toUpper = some d := by
  decide

lemma idxOf?_octDigit : ∀ d < 8, (digitsIn 8).idxOf? (id d.digitChar) = some d := by
  decide

lemma numeralIn_of_nonneg (base : Nat) (letter : Char) {n : Int} (hn : 0 ≤ n) :
    numeralIn base letter n = Nat.toDigits base n.toNat := by
  rw [numeralIn, markedNumeral, if_neg (Int.not_lt.2 hn), ← Int.toNat_of_nonneg hn,
    Int.natAbs_natCast, Int.toNat_natCast]
  rfl

/-- The sign of a negative number is taken off in place of the letter, which is left before the
numeral. -/
lemma numeralIn_of_neg (base : Nat) (letter : Char) {n : Int} (hn : n < 0) :
    numeralIn base letter n = letter :: numeralIn base letter (-n) := by
  rw [numeralIn, numeralIn, markedNumeral, markedNumeral, if_pos hn, if_neg (by omega),
    Int.natAbs_neg]
  rfl

lemma numeralValue?_hexText {n : Int} (hn : 0 ≤ n) :
    numeralValue? 16 (hexText n) = some n.toNat := by
  rw [hexText, numeralIn_of_nonneg 16 'x' hn, numeralValue?_toDigits (by decide) idxOf?_hexDigit]

lemma numeralValue?_octText {n : Int} (hn : 0 ≤ n) :
    numeralValue? 8 (octText n) = some n.toNat := by
  rw [octText, numeralIn_of_nonneg 8 'o' hn, ← List.map_id (Nat.toDigits 8 n.toNat),
    numeralValue?_toDigits (by decide) idxOf?_octDigit]

lemma hexText_of_neg {n : Int} (hn : n < 0) : hexText n = 'X' :: hexText (-n) := by
  rw [hexText, numeralIn_of_neg 16 'x' hn, List.map_cons]
  rfl

lemma octText_of_neg {n : Int} (hn : n < 0) : octText n = 'o' :: octText (-n) :=
  numeralIn_of_neg 8 'o' hn

lemma numeralIn_ne_nil (base : Nat) (letter : Char) (n : Int) : numeralIn base letter n ≠ [] := by
  rw [numeralIn, markedNumeral]
  split_ifs
  · exact List.cons_ne_nil _ _
  · exact Nat.toDigits_ne_nil

end NumberFunction

namespace Catalog

open NumberFunction

lemma carryOut_hex {hex : Routine} (h : numbers.lookup "Hex" = some hex) (n : Int) (w : World) :
    (hex.call [.int n] []).carryOut w = (.ok (.text (.ofList (hexText n))), w) := by
  obtain rfl : _ = hex := Option.some.inj h
  exact carryOut_of_run rfl rfl w

lemma carryOut_oct {oct : Routine} (h : numbers.lookup "Oct" = some oct) (n : Int) (w : World) :
    (oct.call [.int n] []).carryOut w = (.ok (.text (.ofList (octText n))), w) := by
  obtain rfl : _ = oct := Option.some.inj h
  exact carryOut_of_run rfl rfl w

/-- `Hex` and `Oct` write something for every whole number. It is a numeral exactly if the number is
not negative, and then it is read as that number. For a negative number it is the numeral of its
size with a letter before it. -/
theorem hex_oct_numeral_iff {hex oct : Routine} (hhex : numbers.lookup "Hex" = some hex)
    (hoct : numbers.lookup "Oct" = some oct) (n : Int) (w : World) :
    ∃ h o : String, (hex.call [.int n] []).carryOut w = (.ok (.text h), w) ∧
      (oct.call [.int n] []).carryOut w = (.ok (.text o), w) ∧ h ≠ "" ∧ o ≠ "" ∧
      ((∀ c ∈ h.toList, c ∈ digitsIn 16) ↔ 0 ≤ n) ∧ ((∀ c ∈ o.toList, c ∈ digitsIn 8) ↔ 0 ≤ n) ∧
      (0 ≤ n → numeralValue? 16 h.toList = some n.toNat ∧ numeralValue? 8 o.toList = some n.toNat) ∧
      (n < 0 → ∃ size size' : String, (hex.call [.int (-n)] []).carryOut w = (.ok (.text size), w) ∧
        (oct.call [.int (-n)] []).carryOut w = (.ok (.text size'), w) ∧ h = "X" ++ size ∧
          o = "o" ++ size') := by
  refine ⟨.ofList (hexText n), .ofList (octText n), carryOut_hex hhex n w, carryOut_oct hoct n w,
    ?_, ?_, ?_, ?_, ?_, ?_⟩
  · simpa [hexText] using numeralIn_ne_nil 16 'x' n
  · simpa [octText] using numeralIn_ne_nil 8 'o' n
  · rw [String.toList_ofList]
    exact forall_mem_digitsIn_iff (by decide) (fun _ => hexText_of_neg) (fun _ =>
      numeralValue?_hexText) n
  · rw [String.toList_ofList]
    exact forall_mem_digitsIn_iff (by decide) (fun _ => octText_of_neg) (fun _ =>
      numeralValue?_octText) n
  · intro hn
    rw [String.toList_ofList, String.toList_ofList]
    exact ⟨numeralValue?_hexText hn, numeralValue?_octText hn⟩
  · intro hneg
    refine ⟨_, _, carryOut_hex hhex (-n) w, carryOut_oct hoct (-n) w, ?_, ?_⟩
    · rw [hexText_of_neg hneg, ← List.singleton_append, String.ofList_append]
    · rw [octText_of_neg hneg, ← List.singleton_append, String.ofList_append]

/-- Two numerals with letters and zeros among their digits. -/
theorem hex_oct_numeral_iff_zeroInside : ∃ hex oct, numbers.lookup "Hex" = some hex ∧
    numbers.lookup "Oct" = some oct ∧
    (hex.call [.int 0xBE0F] []).carryOut Script.firstScene.world =
      (.ok (.text "BE0F"), Script.firstScene.world) ∧
    (oct.call [.int 0xBE0F] []).carryOut Script.firstScene.world =
      (.ok (.text "137017"), Script.firstScene.world) ∧
    numeralValue? 16 "BE0F".toList = some 0xBE0F ∧ numeralValue? 8 "137017".toList =
      some 0xBE0F := by
  obtain ⟨hex, hhex⟩ : ∃ hex, numbers.lookup "Hex" = some hex := ⟨_, rfl⟩
  obtain ⟨oct, hoct⟩ : ∃ oct, numbers.lookup "Oct" = some oct := ⟨_, rfl⟩
  obtain ⟨h, o, hcall, ocall, -, -, -, -, hvalue, -⟩ :=
    hex_oct_numeral_iff hhex hoct 0xBE0F Script.firstScene.world
  obtain rfl : "BE0F" = h := by
    have htext : hexText 0xBE0F = "BE0F".toList := by decide
    rw [carryOut_hex hhex, htext, String.ofList_toList] at hcall
    simpa using hcall
  obtain rfl : "137017" = o := by
    have htext : octText 0xBE0F = "137017".toList := by decide
    rw [carryOut_oct hoct, htext, String.ofList_toList] at ocall
    simpa using ocall
  obtain ⟨hsixteen, height⟩ := hvalue (by decide)
  exact ⟨hex, oct, hhex, hoct, hcall, ocall, hsixteen, height⟩

/-- Of minus one the letters of the bases are left. -/
theorem hex_oct_negative_letter : ∃ hex oct, numbers.lookup "Hex" = some hex ∧
    numbers.lookup "Oct" = some oct ∧
    (hex.call [.int (-1)] []).carryOut Script.firstScene.world =
      (.ok (.text "X1"), Script.firstScene.world) ∧
    'X' ∉ digitsIn 16 ∧
    (oct.call [.int (-1)] []).carryOut Script.firstScene.world =
      (.ok (.text "o1"), Script.firstScene.world) ∧
    'o' ∉ digitsIn 8 := by
  obtain ⟨hex, hhex⟩ : ∃ hex, numbers.lookup "Hex" = some hex := ⟨_, rfl⟩
  obtain ⟨oct, hoct⟩ : ∃ oct, numbers.lookup "Oct" = some oct := ⟨_, rfl⟩
  refine ⟨hex, oct, hhex, hoct, ?_, by decide, ?_, by decide⟩
  · rw [carryOut_hex hhex]
    rfl
  · rw [carryOut_oct hoct]
    rfl

end Catalog

end ScriptHost
