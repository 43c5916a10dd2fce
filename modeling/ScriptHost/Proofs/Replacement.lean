import Mathlib.Data.Int.Order.Basic
import Mathlib.Data.List.Infix
import Mathlib.Data.Nat.Find
import ScriptHost.Builtin.Catalog
import ScriptHost.Proofs.Members
import ScriptHost.Proofs.Turns

/-!
# Replacing from left to right

`Replaced old new limit text result` says what replacing means: the text up to the first occurrence
is kept, the new text takes the place of the occurrence, and the work goes on after it until the
limit is spent or no occurrence is left. Three routines do this in three ways. `replaceAll` and
`replaceCounted` cut the text at all occurrences and join the pieces again, the second with the old
text where the limit is spent; `replaceInStep` walks along the text and its small form. On a text
that is its own small form all three give the one result.
-/

namespace ScriptHost

namespace Text

/-! ### First occurrences -/

/-- A text occurs at a position, and at none before it. -/
structure FirstAt (pat cs : List Char) (i : Nat) : Prop where
  found : pat <+: cs.drop i
  first : ∀ j < i, ¬ pat <+: cs.drop j

variable {pat cs : List Char} {i j : Nat}

/-- A pattern occurs somewhere if it heads some rest of the text. -/
lemma exists_prefix_drop_iff : (∃ i, pat <+: cs.drop i) ↔ pat <:+: cs := by
  constructor
  · rintro ⟨i, hi⟩
    exact hi.isInfix.trans (List.drop_suffix i cs).isInfix
  · rintro ⟨before, after, rfl⟩
    refine ⟨before.length, ?_⟩
    rw [List.append_assoc, List.drop_left]
    exact List.prefix_append pat after

/-- A pattern that occurs has a first occurrence. -/
lemma exists_firstAt (h : pat <:+: cs) : ∃ i, FirstAt pat cs i := by
  classical
  have hexists := exists_prefix_drop_iff.2 h
  exact ⟨Nat.find hexists, Nat.find_spec hexists, fun j hj => Nat.find_min hexists hj⟩

/-- What has a first occurrence occurs. -/
lemma FirstAt.isInfix (h : FirstAt pat cs i) : pat <:+: cs :=
  exists_prefix_drop_iff.1 ⟨i, h.found⟩

/-- There is only one first occurrence. -/
lemma FirstAt.unique (hi : FirstAt pat cs i) (hj : FirstAt pat cs j) : i = j := by
  rcases Nat.lt_trichotomy i j with hlt | heq | hgt
  · exact absurd hi.found (hj.first i hlt)
  · exact heq
  · exact absurd hj.found (hi.first j hgt)

/-- A text that is not empty occurs before the end. -/
lemma FirstAt.add_length_le (h : FirstAt pat cs i) (hpat : pat ≠ []) :
    i + pat.length ≤ cs.length := by
  have hlength := h.found.length_le
  have hpos := List.length_pos_iff.2 hpat
  rw [List.length_drop] at hlength
  omega

/-- A text with an occurrence is not empty. -/
lemma FirstAt.exists_cons (h : FirstAt pat cs i) (hpat : pat ≠ []) : ∃ c ds, cs = c :: ds := by
  refine List.exists_cons_of_ne_nil ?_
  rintro rfl
  exact hpat (List.infix_nil.1 h.isInfix)

/-- An occurrence at the head is the first one. -/
lemma firstAt_zero (h : pat <+: cs) : FirstAt pat cs 0 :=
  ⟨h, fun _ hj => absurd hj (Nat.not_lt_zero _)⟩

/-- If the pattern does not head the text, its first occurrence is that in the rest. -/
lemma firstAt_succ_iff {c : Char} : FirstAt pat (c :: cs) (i + 1) ↔ ¬ pat <+: c :: cs ∧
    FirstAt pat cs i := by
  constructor
  · intro h
    refine ⟨h.first 0 (Nat.succ_pos i), h.found, ?_⟩
    intro j hj
    exact h.first (j + 1) (Nat.succ_lt_succ hj)
  · rintro ⟨hhead, h⟩
    refine ⟨h.found, ?_⟩
    rintro (_ | j) hj
    · exact hhead
    · exact h.first j (Nat.lt_of_succ_lt_succ hj)

/-- A text is done with if nothing occurs in it; otherwise the part after the first occurrence comes
before it. -/
theorem occurrence_induction (hpat : pat ≠ []) {P : List Char → Prop}
    (missing : ∀ cs, ¬ pat <:+: cs → P cs)
    (next : ∀ cs i, FirstAt pat cs i → P (cs.drop (i + pat.length)) → P cs) (cs : List Char) :
      P cs := by
  induction hn : cs.length using Nat.strong_induction_on generalizing cs with
  | _ n ih =>
    by_cases hoccurs : pat <:+: cs
    · obtain ⟨i, hi⟩ := exists_firstAt hoccurs
      have hlength := hi.add_length_le hpat
      have hpos := List.length_pos_iff.2 hpat
      refine next cs i hi (ih _ ?_ _ rfl)
      rw [List.length_drop]
      omega
    · exact missing cs hoccurs

/-! ### What replacing means -/

/-- The first occurrences of the old text give way to the new one, as many as a limit allows. -/
inductive Replaced (old new : List Char) : Option Nat → List Char → List Char → Prop
  | spent (text : List Char) : Replaced old new (some 0) text text
  | missing {limit : Option Nat} {text : List Char} (h : ¬ old <:+: text) :
    Replaced old new limit text text
  | next {limit : Option Nat} {text rest : List Char} {i : Nat} (hlimit : limit ≠ some 0)
    (h : FirstAt old text i)
      (hrest : Replaced old new (limit.map (· - 1)) (text.drop (i + old.length)) rest) :
      Replaced old new limit text (text.take i ++ new ++ rest)

/-- The rule of replacing determines the result. -/
lemma Replaced.unique {old new text a b : List Char} {limit : Option Nat}
    (ha : Replaced old new limit text a)
    (hb : Replaced old new limit text b) : a = b := by
  induction ha generalizing b with
  | spent text =>
    cases hb with
    | spent | missing => rfl
    | next hlimit => exact absurd rfl hlimit
  | missing hmissing =>
    cases hb with
    | spent | missing => rfl
    | next _ h => exact absurd h.isInfix hmissing
  | next hlimit h _ ih =>
    cases hb with
    | spent => exact absurd rfl hlimit
    | missing hmissing => exact absurd h.isInfix hmissing
    | next _ h' hrest' =>
      obtain rfl := h.unique h'
      rw [ih hrest']

/-! ### By cutting and joining -/

/-- Without an occurrence there is one piece. -/
lemma cutFrom_of_missing (h : ¬ pat <:+: cs) (cur : List Char) :
    cutFrom pat cur cs = [cur.reverse ++ cs] := by
  induction cs generalizing cur with
  | nil => rw [cutFrom, List.append_nil]
  | cons c cs ih =>
    have hhead : ¬ pat.isPrefixOf (c :: cs) = true := by
      intro hprefix
      exact h (List.isPrefixOf_iff_prefix.1 hprefix).isInfix
    have htail : ¬ pat <:+: cs := by
      intro hinside
      exact h (hinside.trans (List.suffix_cons c cs).isInfix)
    rw [cutFrom, if_neg hhead, ih htail, List.reverse_cons, List.append_assoc,
      List.singleton_append]

/-- Behind a pattern that is not empty its first character is gone. -/
lemma drop_length_cons (hpat : pat ≠ []) (c : Char) (cs : List Char) :
    (c :: cs).drop pat.length = cs.drop (pat.length - 1) := by
  obtain ⟨p, ps, rfl⟩ := List.exists_cons_of_ne_nil hpat
  rfl

/-- The first piece ends at the first occurrence. -/
lemma cutFrom_of_firstAt (hpat : pat ≠ []) (h : FirstAt pat cs i) (cur : List Char) :
    cutFrom pat cur cs = (cur.reverse ++ cs.take i) :: cut pat (cs.drop (i + pat.length)) := by
  induction i generalizing cs cur with
  | zero =>
    obtain ⟨c, cs, rfl⟩ := h.exists_cons hpat
    have hhead : pat <+: c :: cs := h.found
    rw [cutFrom, if_pos (List.isPrefixOf_iff_prefix.2 hhead), Nat.zero_add, drop_length_cons hpat,
      List.take_zero, List.append_nil, cut]
  | succ i ih =>
    obtain ⟨c, cs, rfl⟩ := h.exists_cons hpat
    obtain ⟨hhead, htail⟩ := firstAt_succ_iff.1 h
    rw [cutFrom, if_neg (mt List.isPrefixOf_iff_prefix.1 hhead), ih htail, Nat.add_right_comm,
      List.drop_succ_cons,
      List.take_succ_cons, List.reverse_cons, List.append_assoc, List.singleton_append]

/-- A text without the separator is one piece. -/
lemma cut_of_missing (h : ¬ pat <:+: cs) : cut pat cs = [cs] :=
  cutFrom_of_missing h []

/-- A text is cut at the first occurrence, and then behind it. -/
lemma cut_of_firstAt (hpat : pat ≠ []) (h : FirstAt pat cs i) :
    cut pat cs = cs.take i :: cut pat (cs.drop (i + pat.length)) :=
  cutFrom_of_firstAt hpat h []

/-- There is always a first piece. -/
lemma exists_cut_eq_cons (sep cs : List Char) : ∃ p ps, cut sep cs = p :: ps :=
  List.exists_cons_of_ne_nil (cutFrom_ne_nil sep [] cs)

/-- Pieces joined with the new text while the limit lasts and with the old one after that. -/
def joinFirst (old new : List Char) : Option Nat → List (List Char) → List Char
  | _, [] => []
  | _, [p] => p
  | limit, p :: q :: ps =>
    p ++ (if limit = some 0 then old else new) ++ joinFirst old new (limit.map (· - 1)) (q :: ps)

variable {old new text : List Char}

/-- Without a limit all pieces are joined by the new text. -/
lemma joinFirst_none (old new : List Char) (pieces : List (List Char)) :
    joinFirst old new none pieces = join new pieces := by
  induction pieces with
  | nil => rfl
  | cons p ps ih =>
    cases ps with
    | nil => rfl
    | cons q ps => rw [joinFirst, join, if_neg (by simp), Option.map_none, ih]

/-- With no replacement allowed the pieces are joined by the old text. -/
lemma joinFirst_zero (pieces : List (List Char)) :
    joinFirst old new (some 0) pieces = join old pieces := by
  induction pieces with
  | nil => rfl
  | cons p ps ih =>
    cases ps with
    | nil => rfl
    | cons q ps => rw [joinFirst, join, if_pos rfl, Option.map_some, ih]

/-- A text is its pieces joined with what it was cut at. -/
lemma join_cut (hpat : pat ≠ []) (cs : List Char) : join pat (cut pat cs) = cs := by
  induction cs using occurrence_induction hpat with
  | missing cs hmissing => rw [cut_of_missing hmissing, join]
  | next cs i h ih =>
    obtain ⟨p, ps, hps⟩ := exists_cut_eq_cons pat (cs.drop (i + pat.length))
    rw [cut_of_firstAt hpat h, hps, join, ← hps, ih, ← List.drop_drop, List.append_assoc,
      List.prefix_iff_eq_append.1 h.found, List.take_append_drop]

/-- Cutting and joining replaces the first occurrences. -/
theorem replaced_joinFirst (hold : old ≠ []) (limit : Option Nat) (text : List Char) :
    Replaced old new limit text (joinFirst old new limit (cut old text)) := by
  induction text using occurrence_induction hold generalizing limit with
  | missing text hmissing =>
    rw [cut_of_missing hmissing, joinFirst]
    exact .missing hmissing
  | next text i h ih =>
    by_cases hlimit : limit = some 0
    · -- Joined with what it was cut at, the text is itself again.
      rw [hlimit, joinFirst_zero, join_cut hold]
      exact .spent text
    · obtain ⟨p, ps, hps⟩ := exists_cut_eq_cons old (text.drop (i + old.length))
      rw [cut_of_firstAt hold h, hps, joinFirst, if_neg hlimit, ← hps]
      exact .next hlimit h (ih _)

/-- Replacing all occurrences follows the rule. -/
theorem replaced_replaceAll (hold : old ≠ []) (text : List Char) :
    Replaced old new none text (replaceAll old new text) := by
  rw [replaceAll, if_neg (by simpa using hold), ← joinFirst_none old]
  exact replaced_joinFirst hold none text

end Text

namespace Slice

lemma slice_from {α : Type} {k : Int} (hk : 0 ≤ k) (xs : List α) :
    slice (some k) none xs = xs.drop k.toNat := by
  simp only [slice, clamp, Option.map_some, Option.getD_some, Option.map_none, Option.getD_none,
    Int.toNat_natCast, List.take_length, if_neg (Int.not_lt.2 hk)]
  split_ifs with hlong
  · rw [Int.toNat_natCast, List.drop_length, List.drop_eq_nil_of_le (by omega)]
  · rfl

end Slice

namespace TextFunction

open Text DateFunction

variable {old new text : List Char}

/-- The new text stands between the first pieces and the old one between the others. -/
lemma joinFirst_some (old new : List Char) (n : Nat) (p : List Char) (ps : List (List Char)) :
    joinFirst old new (some n) (p :: ps) =
      p ++ rejoin new n ps ++ if n < ps.length then old ++ join old (ps.drop n) else [] := by
  induction ps generalizing n p with
  | nil => cases n <;> simp [joinFirst, rejoin]
  | cons q qs ih =>
    cases n with
    | zero => simp [joinFirst_zero, join, rejoin]
    | succ n =>
      rw [joinFirst, if_neg (by simp), Option.map_some, Nat.add_sub_cancel, ih, rejoin,
        List.length_cons, List.drop_succ_cons]
      simp only [Nat.add_lt_add_iff_right, List.append_assoc]

/-- Replacing so many occurrences joins the pieces of a cut. -/
lemma replaceCounted_eq_joinFirst (hold : old ≠ []) (new text : List Char) {n : Int} (hn : 0 ≤ n) :
    replaceCounted text old new n = joinFirst old new (some n.toNat) (cut old text) := by
  have hjoin := join_cut hold text
  obtain ⟨p, ps, hps⟩ := exists_cut_eq_cons old text
  rw [hps] at hjoin
  rw [replaceCounted, hps]
  cases ps with
  | nil => exact hjoin.symm
  | cons q qs =>
    have hslice : Slice.slice (some (n + 1)) none (p :: q :: qs) = (q :: qs).drop n.toNat := by
      rw [Slice.slice_from (by omega), Int.toNat_add hn (by omega)]
      rfl
    have hlength : n + 1 < ((p :: q :: qs).length : Int) ↔ n.toNat < (q :: qs).length := by
      simp only [List.length_cons]
      omega
    simp only [hslice, hlength, joinFirst_some]
    split_ifs
    · rw [List.append_assoc, List.append_assoc]
    · rw [List.append_nil]

/-! ### By walking along the small form -/

/-- Nothing is replaced in an empty text. -/
lemma replaceInStep_nil (old new low : List Char) (limit : Option Nat) :
    replaceInStep old new limit [] low = [] := by
  rw [replaceInStep]

/-- Nothing is replaced if nothing is allowed to be. -/
lemma replaceInStep_zero (old new text low : List Char) :
    replaceInStep old new (some 0) text low = text := by
  induction text generalizing low with
  | nil => exact replaceInStep_nil ..
  | cons c cs ih => rw [replaceInStep, if_neg (by simp), ih]

/-- A turn replaces if that is allowed and the old text comes next. -/
lemma replaces_iff {limit : Option Nat} {low : List Char} :
    (limit != some 0 && low.take old.length == old) = true ↔ limit ≠ some 0 ∧ old <+: low := by
  rw [Bool.and_eq_true, bne_iff_ne, beq_iff_eq, List.prefix_iff_eq_take, eq_comm (b := old)]

/-- A text without occurrences is left alone. -/
lemma replaceInStep_of_missing {low : List Char} (h : ¬ old <:+: low) (new : List Char)
    (limit : Option Nat)
    (text : List Char) : replaceInStep old new limit text low = text := by
  induction text generalizing low with
  | nil => exact replaceInStep_nil ..
  | cons c cs ih =>
    have hhead : ¬ (limit != some 0 && low.take old.length == old) = true := by
      intro htest
      exact h (replaces_iff.1 htest).2.isInfix
    have htail : ¬ old <:+: low.drop 1 := by
      intro hinside
      exact h (hinside.trans (List.drop_suffix 1 low).isInfix)
    rw [replaceInStep, if_neg hhead, ih htail]

/-- What the walk does at the first occurrence in the small form. -/
lemma replaceInStep_of_firstAt (hold : old ≠ []) {low : List Char} {i : Nat} (h : FirstAt old low i)
    (hi : i < text.length) {limit : Option Nat} (hlimit : limit ≠ some 0) (new : List Char) :
    replaceInStep old new limit text low = text.take i ++ new ++
      replaceInStep old new (limit.map (· - 1)) (text.drop (i + old.length))
        (low.drop (i + old.length)) := by
  induction i generalizing text low with
  | zero =>
    obtain ⟨c, cs, rfl⟩ := List.exists_cons_of_ne_nil (List.length_pos_iff.1 hi)
    have hhead : old <+: low := h.found
    rw [replaceInStep, if_pos (replaces_iff.2 ⟨hlimit, hhead⟩), Nat.zero_add, drop_length_cons hold]
    rfl
  | succ i ih =>
    obtain ⟨c, cs, rfl⟩ := List.exists_cons_of_ne_nil (List.length_pos_iff.1 (Nat.zero_lt_of_lt hi))
    obtain ⟨d, ds, rfl⟩ := h.exists_cons hold
    obtain ⟨hhead, htail⟩ := firstAt_succ_iff.1 h
    rw [replaceInStep, if_neg fun htest => hhead (replaces_iff.1 htest).2, List.drop_one,
      List.tail_cons, ih htail (Nat.lt_of_succ_lt_succ hi), Nat.add_right_comm]
    rfl

/-- On a text that is its own small form the walk replaces the first occurrences. -/
theorem replaced_replaceInStep (hold : old ≠ []) (limit : Option Nat) (text : List Char) :
    Replaced old new limit text (replaceInStep old new limit text text) := by
  induction text using occurrence_induction hold generalizing limit with
  | missing text hmissing =>
    rw [replaceInStep_of_missing hmissing]
    exact .missing hmissing
  | next text i h ih =>
    by_cases hlimit : limit = some 0
    · rw [hlimit, replaceInStep_zero]
      exact .spent text
    · have hlength := h.add_length_le hold
      have hpos := List.length_pos_iff.2 hold
      rw [replaceInStep_of_firstAt hold h (by omega) hlimit]
      exact .next hlimit h (ih _)

/-! ### On values -/

/-- How many occurrences a count lets go: all of them for minus one. -/
def allowed (n : Int) : Option Nat :=
  if n = -1 then none else some n.toNat

/-- Whole numbers are the same value if they are equal. -/
lemma same_int {a b : Int} : (Value.int a).same (.int b) = decide (a = b) := by
  have hsame : (Value.int a).same (.int b) = (some (compare a b) == some .eq) := rfl
  rw [hsame, Bool.eq_iff_iff, beq_iff_eq, Option.some_inj, compare_eq_iff_eq, decide_eq_true_iff]

variable {e f r : Value}

/-- `Replace` without regard to case. -/
lemma replaceOf_text {c : Value} (hcase : anyCase c = true) (he : chars e = .ok text)
    (hf : chars f = .ok old) (hr : chars r = .ok new) (hold : lower old ≠ []) (n : Int) :
    replaceOf e f r (.int n) c =
      .ok (ofChars (replaceInStep (lower old) new (allowed n) text (lower text))) := by
  have hcount : countLimit (.int n) = .ok (some n) := rfl
  have hempty : ¬ (lower old).isEmpty = true := by simpa using hold
  simp only [replaceOf, he, hf, hr, ok_bind, hcase, same_int, hcount, replaceAnyCase, if_neg hempty,
    if_true, decide_eq_true_iff, allowed]
  cases text with
  | nil =>
    simp only [replaceInStep_nil]
    rfl
  | cons c cs =>
    simp only [List.isEmpty_cons, Bool.false_eq_true, if_false]
    split_ifs <;> rfl

/-- `Replace` with a count. -/
lemma replaceByCount_int (hold : old ≠ []) (new text : List Char) (n : Int) :
    replaceByCount text old new (.int n) = .ok (ofChars (replaceCounted text old new n)) := by
  have hempty : ¬ old.isEmpty = true := by simpa using hold
  have hnext : (Value.int n).add one = .ok (.int (n + 1)) := rfl
  simp only [replaceByCount, if_neg hempty, hnext, ok_bind, Value.whole?, Int.add_sub_cancel]
  split_ifs with hone
  · obtain ⟨p, hp⟩ := List.length_eq_one_iff.1 (beq_iff_eq.1 hone)
    rw [replaceCounted, hp]
    rfl
  · rfl

/-- `Replace` with regard to case. -/
lemma replaceOf_binary {c : Value} (hcase : anyCase c = false) (he : chars e = .ok text)
    (hf : chars f = .ok old) (hr : chars r = .ok new) (hold : old ≠ []) (n : Int) :
    replaceOf e f r (.int n) c = .ok (ofChars
      (if n = -1 then replaceAll old new text else replaceCounted text old new n)) := by
  simp only [replaceOf, he, hf, hr, ok_bind, hcase, same_int, replaceByCount_int hold,
    decide_eq_true_iff, Bool.false_eq_true, if_false]
  split_ifs <;> rfl

/-- Whatever way the pieces are joined again, the first occurrences are replaced. -/
lemma replaced_binary (hold : old ≠ []) (new text : List Char) {n : Int} (hn : -1 ≤ n) :
    Replaced old new (allowed n) text (if n = -1 then replaceAll old new text else replaceCounted
      text old new n) := by
  unfold allowed
  split_ifs with hall
  · exact replaced_replaceAll hold text
  · rw [replaceCounted_eq_joinFirst hold new text (by omega)]
    exact replaced_joinFirst hold _ text

end TextFunction

namespace Catalog

open Text TextFunction

/-- The routine `Replace`. -/
lemma carryOut_replace {replace : Routine} (h : texts.lookup "Replace" = some replace)
    (text old new start count compare : Value) (w : World) :
    (replace.call [text, old, new, start, count, compare] []).carryOut w =
      (replaceOf text old new count compare, w) := by
  obtain rfl : _ = replace := Option.some.inj h
  exact carryOut_of_run rfl rfl w

/-- On texts that are their own small forms the two modes of `Replace` agree: the walk along the
small form, the replacing of all occurrences and the joining of counted pieces have the one result
there is. -/
theorem replace_modes_agree {replace : Routine} (hreplace : texts.lookup "Replace" = some replace)
    {e f r : Value} {text old new : List Char} (he : chars e = .ok text) (hf : chars f = .ok old)
    (hr : chars r = .ok new) (hold : old ≠ []) (htextLow : lower text = text)
    (holdLow : lower old = old) {n : Int} (hn : -1 ≤ n) (w : World) :
    ∃ result, (∀ x, Replaced old new (allowed n) text x ↔ x = result) ∧
      (replace.call [e, f, r, .int 1, .int n, .int 1] []).carryOut w = (.ok (ofChars result), w) ∧
      (replace.call [e, f, r, .int 1, .int n, .int 0] []).carryOut w = (.ok (ofChars result), w) ∧
      result = if n = -1 then replaceAll old new text else replaceCounted text old new n := by
  have hpieces := replaced_binary hold new text hn
  have hwalk : Replaced old new (allowed n) text (replaceInStep old new (allowed n) text text) :=
    replaced_replaceInStep hold _ text
  have hsame := hwalk.unique hpieces
  refine ⟨_, ?_, ?_, ?_, rfl⟩
  · intro x
    constructor
    · intro hx
      exact hx.unique hpieces
    · rintro rfl
      exact hpieces
  · rw [carryOut_replace hreplace, replaceOf_text rfl he hf hr (by rwa [holdLow]), holdLow,
      htextLow, hsame]
  · rw [carryOut_replace hreplace, replaceOf_binary rfl he hf hr hold]

/-- Occurrences that overlap the first one are no occurrences. -/
theorem replace_modes_agree_ananana : lower "ananana".toList = "ananana".toList ∧
    lower "ana".toList = "ana".toList ∧
    ∃ replace, texts.lookup "Replace" = some replace ∧
      (replace.call [.text "ananana", .text "ana", .text "-", .int 1, .int 2, .int 1] []).carryOut
        Script.firstScene.world = (.ok (.text "-n-"), Script.firstScene.world) ∧
      (replace.call [.text "ananana", .text "ana", .text "-", .int 1, .int 2, .int 0] []).carryOut
        Script.firstScene.world = (.ok (.text "-n-"), Script.firstScene.world) := by
  obtain ⟨replace, hreplace⟩ : ∃ replace, texts.lookup "Replace" = some replace := ⟨_, rfl⟩
  have htextLow : lower "ananana".toList = "ananana".toList := by decide
  have holdLow : lower "ana".toList = "ana".toList := by decide
  obtain ⟨result, hresult, htext, hbinary, -⟩ := replace_modes_agree hreplace (e := .text "ananana")
    (f := .text "ana") (r := .text "-") rfl rfl rfl (by decide) htextLow holdLow (n := 2)
      (by decide)
    Script.firstScene.world
  have hreplaced : Replaced "ana".toList "-".toList (allowed 2) "ananana".toList "-n-".toList := by
    have hfirst : FirstAt "ana".toList "ananana".toList 0 := firstAt_zero (by decide)
    have hsecond : FirstAt "ana".toList "nana".toList 1 :=
      firstAt_succ_iff.2 ⟨by decide, firstAt_zero (by decide)⟩
    exact .next (by decide) hfirst (.next (by decide) hsecond (.spent []))
  obtain rfl := (hresult _).1 hreplaced
  exact ⟨htextLow, holdLow, replace, hreplace, htext, hbinary⟩

end Catalog

end ScriptHost
