import ScriptHost.Proofs.FirstOccurrence

/-!
# Parts of a text

`Left`, `Right` and `Mid` take any whole number as a count or a position. A count below zero takes
nothing, one beyond the length takes everything, and a position before the first character is the
first one. So all three are a `take` or a `drop` by a natural number, and a text is cut into two
parts at every place, also at one that it does not have.
-/

namespace ScriptHost

namespace TextFunction

open Text DateFunction

/-- `Left` takes characters from the start, none for a negative number. -/
lemma left_eq_take (cs : List Char) (n : Int) : left cs n = cs.take n.toNat := by
  rw [left]
  split_ifs with hpos
  · rfl
  · rw [Int.toNat_of_nonpos (Int.not_lt.1 hpos), List.take_zero]

/-- `Right` leaves out all but the last characters. -/
lemma right_eq_drop (cs : List Char) (n : Int) : right cs n = cs.drop (cs.length - n.toNat) := by
  rw [right]
  split_ifs with hpos
  · rfl
  · rw [Int.toNat_of_nonpos (Int.not_lt.1 hpos), Nat.sub_zero, List.drop_length]

/-- `Mid` without a length goes to the end. -/
lemma mid_none_eq_drop (cs : List Char) (start : Int) :
    mid cs start none = cs.drop (start - 1).toNat := by
  have hplace : ((if start < 1 then 1 else start) - 1).toNat = (start - 1).toNat := by
    split_ifs <;> omega
  simp only [mid, hplace]
  split_ifs with hbefore hbeyond hbeyond
  · rw [List.drop_eq_nil_of_le (by omega)]
  · rfl
  · rw [List.drop_eq_nil_of_le (by omega)]
  · rfl

/-- At most so many characters from a position on are the first ones of all that are there. -/
lemma mid_some_eq_left (cs : List Char) (start n : Int) :
    mid cs start (some n) = left (mid cs start none) n := by
  simp only [mid]
  generalize (if start < 1 then 1 else start) = place
  split_ifs with hbeyond hnone
  · rw [left_eq_take, List.take_nil]
  · rw [left_eq_take, Int.toNat_of_nonpos hnone, List.take_zero]
  · rw [left_eq_take]

/-- The first characters and the characters after them are the whole text. -/
lemma left_append_mid (cs : List Char) (n : Int) : left cs n ++ mid cs (n + 1) none = cs := by
  rw [left_eq_take, mid_none_eq_drop, Int.add_sub_cancel, List.take_append_drop]

/-- The last characters and the characters before them are the whole text. -/
lemma left_append_right (cs : List Char) (n : Int) :
    left cs (cs.length - n) ++ right cs n = cs := by
  rw [left_eq_take, right_eq_drop]
  by_cases hneg : n < 0
  · rw [List.take_of_length_le (by omega), List.drop_eq_nil_of_le (by omega), List.append_nil]
  · have hplace : ((cs.length : Int) - n).toNat = cs.length - n.toNat := by omega
    rw [hplace, List.take_append_drop]

/-- `Left` gives as many characters as asked for, or all. -/
lemma length_left (cs : List Char) (n : Int) :
    ((left cs n).length : Int) = max 0 (min n cs.length) := by
  rw [left_eq_take, List.length_take]
  omega

/-- `Right` gives as many characters as asked for, or all. -/
lemma length_right (cs : List Char) (n : Int) :
    ((right cs n).length : Int) = max 0 (min n cs.length) := by
  rw [right_eq_drop, List.length_drop]
  omega

/-! ### On values -/

/-- Whole numbers are compared as they are. -/
lemma compareWith_le_int (a b : Int) :
    (Value.int a).compareWith .le (.int b) = .ok (decide (a ≤ b)) := by
  have horder : (Value.int a).compareWith .le (.int b) = .ok (compare a b != .gt) := rfl
  rw [horder, Except.ok.injEq, Bool.eq_iff_iff, bne_iff_ne, compare_le_iff_le, decide_eq_true_iff]

variable {v : Value} {cs : List Char}

/-- `Right` with a whole number of characters. -/
lemma rightOf_int (hv : chars v = .ok cs) (n : Int) :
    rightOf v (.int n) = .ok (ofChars (right cs n)) := by
  have hbound : sliceBound (.int n) = .ok n := rfl
  simp only [rightOf, hv, ok_bind, zero, compareWith_gt_int, hbound, decide_eq_true_iff, right]
  split_ifs <;> rfl

/-- `Mid` with a whole start and length. -/
lemma midOf_int_int (hv : chars v = .ok cs) (start n : Int) :
    midOf v (.int start) (.int n) = .ok (ofChars (mid cs start (some n))) := by
  have hbound (k : Int) : sliceBound (.int k) = .ok k := rfl
  have hstart : (if start < 1 then Value.int 1 else .int start) =
      .int (if start < 1 then 1 else start) := by
    split_ifs <;> rfl
  have hplace :
      (if (if start < 1 then 1 else start) < 1 then 1 else (if start < 1 then 1 else start)) =
      if start < 1 then 1 else start := by
    split_ifs <;> omega
  simp only [midOf, hv, ok_bind, one, zero, compareWith_lt_int, decide_eq_true_iff, hstart,
    compareWith_gt_int, compareWith_le_int, hbound, mid, hplace]
  split_ifs <;> rfl

end TextFunction

namespace Catalog

open Text TextFunction

/-- The routine `Right`. -/
lemma carryOut_right {right : Routine} (h : texts.lookup "Right" = some right) (v n : Value)
    (w : World) :
    (right.call [v, n] []).carryOut w = (rightOf v n, w) := by
  obtain rfl : _ = right := Option.some.inj h
  exact carryOut_of_run rfl rfl w

/-- The routine `Mid` with a length. -/
lemma carryOut_mid_length {mid : Routine} (h : texts.lookup "Mid" = some mid) (v start n : Value)
    (w : World) :
    (mid.call [v, start, n] []).carryOut w = (midOf v start n, w) := by
  obtain rfl : _ = mid := Option.some.inj h
  exact carryOut_of_run rfl rfl w

/-- `Left`, `Mid` and `Right` cut a text into two parts at every whole number, and a length given to
`Mid` is one given to `Left` of what `Mid` takes without it. `Left` and `Right` take as many
characters as they are asked for, none if that is a negative number, and all if there are not so
many. -/
theorem left_mid_right_tile {left right mid len : Routine} (hleft : texts.lookup "Left" = some left)
    (hright : texts.lookup "Right" = some right) (hmid : texts.lookup "Mid" = some mid)
    (hlen : texts.lookup "Len" = some len) (s : String) (n k : Int) (w : World) :
    ∃ length : Nat, (len.call [.text s] []).carryOut w = (.ok (.int length), w) ∧
      (∃ first rest : String, (left.call [.text s, .int n] []).carryOut w = (.ok (.text first), w) ∧
        (mid.call [.text s, .int (n + 1)] []).carryOut w = (.ok (.text rest), w) ∧
        first ++ rest = s ∧ (first.length : Int) = max 0 (min n length)) ∧
      (∃ rest last : String, (left.call [.text s, .int (length - n)] []).carryOut w =
        (.ok (.text rest), w) ∧
        (right.call [.text s, .int n] []).carryOut w = (.ok (.text last), w) ∧
        rest ++ last = s ∧ (last.length : Int) = max 0 (min n length)) ∧
      (∃ tail part : String, (mid.call [.text s, .int k] []).carryOut w = (.ok (.text tail), w) ∧
        (mid.call [.text s, .int k, .int n] []).carryOut w = (.ok (.text part), w) ∧
        (left.call [.text tail, .int n] []).carryOut w = (.ok (.text part), w)) := by
  have hchars (t : String) : chars (.text t) = .ok t.toList := rfl
  refine ⟨s.toList.length, ?_, ?_, ?_, ?_⟩
  · rw [carryOut_len hlen]
    rfl
  · refine ⟨.ofList (TextFunction.left s.toList n),
      .ofList (TextFunction.mid s.toList (n + 1) none), ?_, ?_, ?_, ?_⟩
    · rw [carryOut_left hleft, leftOf_int (hchars s), ofChars]
    · rw [carryOut_mid hmid, midOf_int (hchars s), ofChars]
    · rw [← String.ofList_append, left_append_mid, String.ofList_toList]
    · rw [String.length_ofList, length_left]
  · refine ⟨.ofList (TextFunction.left s.toList (s.toList.length - n)),
      .ofList (TextFunction.right s.toList n),
      ?_, ?_, ?_, ?_⟩
    · rw [carryOut_left hleft, leftOf_int (hchars s), ofChars]
    · rw [carryOut_right hright, rightOf_int (hchars s), ofChars]
    · rw [← String.ofList_append, left_append_right, String.ofList_toList]
    · rw [String.length_ofList, length_right]
  · refine ⟨.ofList (TextFunction.mid s.toList k none),
      .ofList (TextFunction.mid s.toList k (some n)), ?_, ?_, ?_⟩
    · rw [carryOut_mid hmid, midOf_int (hchars s), ofChars]
    · rw [carryOut_mid_length hmid, midOf_int_int (hchars s), ofChars]
    · rw [carryOut_left hleft, leftOf_int (hchars _), String.toList_ofList, ← mid_some_eq_left,
        ofChars]

/-- A count below zero: nothing is taken on the left and on the right, and a position before the
text is its start. -/
theorem left_mid_right_tile_negative : ∃ left right mid len, texts.lookup "Left" = some left ∧
    texts.lookup "Right" = some right ∧ texts.lookup "Mid" = some mid ∧
      texts.lookup "Len" = some len ∧
    (left.call [.text "abc", .int (-2)] []).carryOut Script.firstScene.world =
      (.ok (.text ""), Script.firstScene.world) ∧
    (mid.call [.text "abc", .int (-2 + 1)] []).carryOut Script.firstScene.world =
      (.ok (.text "abc"), Script.firstScene.world) ∧
    (left.call [.text "abc", .int (3 - (-2))] []).carryOut Script.firstScene.world =
      (.ok (.text "abc"), Script.firstScene.world) ∧
    (right.call [.text "abc", .int (-2)] []).carryOut Script.firstScene.world =
      (.ok (.text ""), Script.firstScene.world) := by
  obtain ⟨left, hleft⟩ : ∃ left, texts.lookup "Left" = some left := ⟨_, rfl⟩
  obtain ⟨right, hright⟩ : ∃ right, texts.lookup "Right" = some right := ⟨_, rfl⟩
  obtain ⟨mid, hmid⟩ : ∃ mid, texts.lookup "Mid" = some mid := ⟨_, rfl⟩
  obtain ⟨len, hlen⟩ : ∃ len, texts.lookup "Len" = some len := ⟨_, rfl⟩
  obtain ⟨length, hlength, ⟨first, rest, hfirst, hrest, htile, hnone⟩,
    ⟨start, last, hstart, hlast, htile', hnone'⟩, -⟩ :=
    left_mid_right_tile hleft hright hmid hlen "abc" (-2) 1 Script.firstScene.world
  obtain rfl : 3 = length := by
    have hthree : lenOf (.text "abc") = .ok (.int 3) := rfl
    rw [carryOut_len hlen, hthree] at hlength
    have hcount : (3 : Int) = length := by simpa using hlength
    omega
  obtain rfl : first = "" := String.length_eq_zero_iff.1 (by omega)
  obtain rfl : last = "" := String.length_eq_zero_iff.1 (by omega)
  rw [String.empty_append] at htile
  rw [String.append_empty] at htile'
  subst htile htile'
  exact ⟨left, right, mid, len, hleft, hright, hmid, hlen, hfirst, hrest, hstart, hlast⟩

end Catalog

end ScriptHost
