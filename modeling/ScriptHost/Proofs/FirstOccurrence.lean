import ScriptHost.Proofs.ConstantPasses
import ScriptHost.Proofs.Dialects
import ScriptHost.Proofs.Replacement
import ScriptHost.Proofs.SmallForms

/-!
# The first occurrence

`InStr` counts positions from one, `Replace` cuts pieces or walks along the text, and `Left` and
`Mid` take what is before and after. All of them mean the first occurrence in the texts that are
compared: the texts themselves, or their small forms. The small form of a capital sigma depends on
its place in a word, so a piece that has one may read like the text that is looked for and not be
found.
-/

namespace ScriptHost

namespace Text

variable {pat cs : List Char} {i : Nat}

/-- The search finds the first occurrence. -/
lemma findFrom_of_firstAt (hpat : pat ≠ []) (h : FirstAt pat cs i) (pos : Nat) :
    findFrom pat pos cs = some (pos + i) := by
  induction i generalizing cs pos with
  | zero =>
    obtain ⟨c, cs, rfl⟩ := h.exists_cons hpat
    have hhead : pat <+: c :: cs := h.found
    rw [findFrom, if_pos (List.isPrefixOf_iff_prefix.2 hhead), Nat.add_zero]
  | succ i ih =>
    obtain ⟨c, cs, rfl⟩ := h.exists_cons hpat
    obtain ⟨hhead, htail⟩ := firstAt_succ_iff.1 h
    rw [findFrom, if_neg (mt List.isPrefixOf_iff_prefix.1 hhead), ih htail, Nat.add_assoc,
      Nat.add_comm 1 i]

/-- The search finds nothing where the pattern does not occur. -/
lemma findFrom_of_missing (h : ¬ pat <:+: cs) (pos : Nat) : findFrom pat pos cs = none := by
  rw [← Option.not_isSome_iff_eq_none, Script.findFrom_isSome_iff]
  exact h

/-! ### Capitals after a sigma -/

set_option maxRecDepth 20000 in
/-- The plain capitals are one of the ranges of letters with case. -/
lemma capitals_mem_casedRanges : (0x41, 0x5a) ∈ casedRanges.pairs := by
  unfold casedRanges Ranges.ofRows tableItems
  simp only [List.flatMap_cons, List.mem_toArray]
  repeat rw [String.toList_ofList]
  decide

set_option maxRecDepth 20000 in
/-- No plain capital is skipped when a word is told from its end. -/
lemma capitals_not_transparent : transparentRanges.pairs.all (fun p => p.2 < 0x41 || 0x5a < p.1) =
    true := by
  unfold transparentRanges Ranges.ofRows tableItems
  simp only [List.flatMap_cons, List.all_toArray]
  repeat rw [String.toList_ofList]
  decide

/-- A word goes on with a plain capital. -/
lemma goesOn_cons_of_capital {c : Char} (hlow : 0x41 ≤ c.toNat) (hhigh : c.toNat ≤ 0x5a)
    (cs : List Char) :
    goesOn (c :: cs) = true := by
  have hskipped : ¬ isTransparent c = true := by
    intro hcontains
    obtain ⟨p, hp, hstart, hend⟩ := Ranges.exists_of_contains hcontains
    have hapart := Array.all_eq_true_iff_forall_mem.1 capitals_not_transparent p hp
    simp only [Bool.or_eq_true, decide_eq_true_iff] at hapart
    omega
  rw [goesOn, List.dropWhile_cons_of_neg hskipped]
  exact Ranges.contains_of_mem capitals_mem_casedRanges hlow hhigh

end Text

namespace TextFunction

open Text DateFunction

/-- The text that is compared: the small form if case is ignored. -/
def compared (anyCase : Bool) (cs : List Char) : List Char :=
  if anyCase then lower cs else cs

@[simp] lemma compared_false (cs : List Char) : compared false cs = cs := rfl

@[simp] lemma compared_true (cs : List Char) : compared true cs = lower cs := rfl

variable {mode : Bool} {old new text : List Char} {i : Nat}

/-- Ignoring case does not empty a text. -/
lemma compared_ne_nil (mode : Bool) (h : old ≠ []) : compared mode old ≠ [] := by
  cases mode with
  | false => exact h
  | true =>
    have hpos := List.length_pos_iff.2 h
    apply List.length_pos_iff.1
    rw [compared_true, lower, length_lowerFrom]
    omega

/-- `InStr` from the start counts from one, and gives zero if nothing is found. -/
lemma position_one (text old : List Char) (mode : Bool) :
    position 1 text old mode = ((findFrom (compared mode old) 0 (compared mode text)).map
      (· + 1)).getD 0 := by
  have hfind (a b : List Char) : find? b a 0 = findFrom b 0 a := by
    rw [find?, if_neg (Nat.not_lt_zero _), List.drop_zero]
  rw [← hfind]
  cases mode with
  | false =>
    simp only [position, Bool.false_eq_true, if_false, Int.lt_irrefl, Int.sub_self, Int.toNat_zero,
      compared_false]
    cases find? old text 0 <;> rfl
  | true =>
    simp only [position, if_true, Int.lt_irrefl, if_false, Int.sub_self, Int.toNat_zero,
      compared_true]
    cases find? (lower old) (lower text) 0 <;> rfl

/-- `InStr` gives the place of the first occurrence. -/
lemma position_of_firstAt (hold : old ≠ [])
    (h : FirstAt (compared mode old) (compared mode text) i) :
    position 1 text old mode = i + 1 := by
  rw [position_one, findFrom_of_firstAt (compared_ne_nil _ hold) h, Nat.zero_add, Option.map_some,
    Option.getD_some]

/-- `InStr` gives zero where there is no occurrence. -/
lemma position_of_missing (h : ¬ compared mode old <:+: compared mode text) :
    position 1 text old mode = 0 := by
  rw [position_one, findFrom_of_missing h, Option.map_none, Option.getD_none]

/-- A piece before the first occurrence that reads like the text looked for has a sigma. -/
lemma mem_of_compared_eq (h : FirstAt (compared mode old) (compared mode text) i)
    (htext : (compared mode text).length = text.length) {j : Nat} (hj : j < i)
    (hpiece : compared mode ((text.drop j).take old.length) = compared mode old) :
    mode = true ∧ 'Σ' ∈ (text.drop j).take old.length := by
  cases mode with
  | false =>
    have hprefix : old <+: text.drop j := List.prefix_iff_eq_take.2 hpiece.symm
    exact absurd hprefix (h.first j hj)
  | true =>
    refine ⟨rfl, ?_⟩
    by_contra hsigma
    -- Without a sigma the piece has its own small form inside the text, which would be an
    -- occurrence before the first.
    have hfound :=
      lower_prefix_drop_lower (length_lower_eq_iff.1 htext) (List.take_prefix old.length _) hsigma
    exact h.first j hj (hpiece ▸ hfound)

/-! ### Replacing -/

variable {e f r c : Value}

/-- `Replace` leaves a text alone in which the old text does not occur. -/
lemma replaceOf_of_missing (he : chars e = .ok text) (hf : chars f = .ok old)
    (hr : chars r = .ok new) (hold : old ≠ [])
    (h : ¬ compared (anyCase c) old <:+: compared (anyCase c) text) {n : Int} (hn : -1 ≤ n) :
    replaceOf e f r (.int n) c = .ok (ofChars text) := by
  cases hcase : anyCase c with
  | false =>
    rw [hcase, compared_false, compared_false] at h
    rw [replaceOf_binary hcase he hf hr hold,
      (replaced_binary hold new text hn).unique (.missing h)]
  | true =>
    have hlow : lower old ≠ [] := compared_ne_nil true hold
    rw [hcase, compared_true, compared_true] at h
    rw [replaceOf_text hcase he hf hr hlow, replaceInStep_of_missing h]

/-- One replacement leaves what is before and after the first occurrence. -/
lemma replaceOf_of_firstAt (he : chars e = .ok text) (hf : chars f = .ok old)
    (hr : chars r = .ok new) (hold : old ≠ [])
    (h : FirstAt (compared (anyCase c) old) (compared (anyCase c) text) i)
    (htext : (compared (anyCase c) text).length = text.length)
    (hlength : (compared (anyCase c) old).length = old.length) :
    replaceOf e f r (.int 1) c =
      .ok (ofChars (text.take i ++ new ++ text.drop (i + old.length))) := by
  have hend := h.add_length_le (compared_ne_nil _ hold)
  have hpos := List.length_pos_iff.2 hold
  have hinside : i < text.length := by omega
  cases hcase : anyCase c with
  | false =>
    rw [hcase, compared_false, compared_false] at h
    have hreplaced : Replaced old new (allowed 1) text (text.take i ++ new ++
        text.drop (i + old.length)) :=
      .next (by decide) h (.spent _)
    rw [replaceOf_binary hcase he hf hr hold,
      (replaced_binary hold new text (by decide)).unique hreplaced]
  | true =>
    have hlow : lower old ≠ [] := compared_ne_nil true hold
    rw [hcase, compared_true, compared_true] at h
    rw [hcase, compared_true] at hlength
    have hlimit : allowed 1 ≠ some 0 := by decide
    have hspent : (allowed 1).map (· - 1) = some 0 := rfl
    rw [replaceOf_text hcase he hf hr hlow, replaceInStep_of_firstAt hlow h hinside hlimit, hspent,
      replaceInStep_zero, hlength]

/-! ### Before and after a position -/

/-- Whole numbers are compared as they are. -/
lemma compareWith_gt_int (a b : Int) :
    (Value.int a).compareWith .gt (.int b) = .ok (decide (b < a)) := by
  have horder : (Value.int a).compareWith .gt (.int b) = .ok (compare a b == .gt) := rfl
  rw [horder, Except.ok.injEq, Bool.eq_iff_iff, beq_iff_eq, compare_gt_iff_gt, decide_eq_true_iff]

lemma compareWith_lt_int (a b : Int) :
    (Value.int a).compareWith .lt (.int b) = .ok (decide (a < b)) := by
  have horder : (Value.int a).compareWith .lt (.int b) = .ok (compare a b == .lt) := rfl
  rw [horder, Except.ok.injEq, Bool.eq_iff_iff, beq_iff_eq, compare_lt_iff_lt, decide_eq_true_iff]

variable {v : Value} {cs : List Char}

/-- `Left` with a whole number of characters. -/
lemma leftOf_int (hv : chars v = .ok cs) (n : Int) :
    leftOf v (.int n) = .ok (ofChars (left cs n)) := by
  have hbound : sliceBound (.int n) = .ok n := rfl
  simp only [leftOf, hv, ok_bind, zero, compareWith_gt_int, hbound, decide_eq_true_iff, left]
  split_ifs <;> rfl

/-- `Mid` from a whole number on, without a length. -/
lemma midOf_int (hv : chars v = .ok cs) (start : Int) :
    midOf v (.int start) .null = .ok (ofChars (mid cs start none)) := by
  have hbound (n : Int) : sliceBound (.int n) = .ok n := rfl
  simp only [midOf, hv, ok_bind, one, compareWith_lt_int, decide_eq_true_iff]
  by_cases hlow : start < 1
  · simp only [if_pos hlow, compareWith_gt_int, ok_bind, hbound, decide_eq_true_iff, mid,
      Int.lt_irrefl, if_false]
    split_ifs <;> rfl
  · simp only [if_neg hlow, compareWith_gt_int, ok_bind, hbound, decide_eq_true_iff, mid]
    split_ifs <;> rfl

/-- `Left` takes that many characters. -/
lemma left_natCast (cs : List Char) (n : Nat) : left cs n = cs.take n := by
  rw [left, Int.toNat_natCast]
  split_ifs with hpos
  · rfl
  · rw [show n = 0 by omega, List.take_zero]

/-- `Mid` leaves out the characters before its start. -/
lemma mid_natCast_add_one (cs : List Char) (n : Nat) : mid cs (n + 1) none = cs.drop n := by
  have hstart : ¬ (n : Int) + 1 < 1 := by omega
  simp only [mid, if_neg hstart, Int.add_sub_cancel, Int.toNat_natCast]
  split_ifs with hlong
  · rw [List.drop_eq_nil_of_le (by omega)]
  · rfl

/-- `InStr` on two texts from the start. -/
lemma positionOf_one (s f : String) (c : Value) :
    positionOf (.int 1) (.text s) (.text f) c =
      .ok (.int (position 1 s.toList f.toList (anyCase c))) :=
  rfl

end TextFunction

namespace Catalog

open Text TextFunction

/-- The routine `Len`. -/
lemma carryOut_len {len : Routine} (h : texts.lookup "Len" = some len) (v : Value) (w : World) :
    (len.call [v] []).carryOut w = (lenOf v, w) := by
  obtain rfl : _ = len := Option.some.inj h
  exact carryOut_of_run rfl rfl w

/-- The routine `Left`. -/
lemma carryOut_left {left : Routine} (h : texts.lookup "Left" = some left) (v n : Value)
    (w : World) :
    (left.call [v, n] []).carryOut w = (leftOf v n, w) := by
  obtain rfl : _ = left := Option.some.inj h
  exact carryOut_of_run rfl rfl w

/-- The routine `Mid`. -/
lemma carryOut_mid {mid : Routine} (h : texts.lookup "Mid" = some mid) (v start : Value)
    (w : World) :
    (mid.call [v, start] []).carryOut w = (midOf v start .null, w) := by
  obtain rfl : _ = mid := Option.some.inj h
  exact carryOut_of_run rfl rfl w

/-- The routine `InStr`. -/
lemma carryOut_inStr {inStr : Routine} (h : texts.lookup "InStr" = some inStr)
    (start a b compare : Value) (w : World) :
    (inStr.call [start, a, b, compare] []).carryOut w = (positionOf start a b compare, w) := by
  obtain rfl : _ = inStr := Option.some.inj h
  exact carryOut_of_run rfl rfl w

/-- `InStr`, `Replace`, `Left` and `Mid` mean the same first occurrence of a text, which is the
first one in the texts that are compared. Where a piece before it reads like the text looked for,
case is ignored and the piece has a capital sigma. -/
theorem inStr_replace_left_mid {inStr replace left mid len : Routine}
    (hinStr : texts.lookup "InStr" = some inStr) (hreplace : texts.lookup "Replace" = some replace)
    (hleft : texts.lookup "Left" = some left) (hmid : texts.lookup "Mid" = some mid)
    (hlen : texts.lookup "Len" = some len) (s f r : String) (hf : f ≠ "") {compare : Value}
    {mode : Bool}
    (hmode : anyCase compare = mode) (hskeeps : (compared mode s.toList).length = s.toList.length)
    (hfkeeps : (compared mode f.toList).length = f.toList.length) (w : World) :
    ∃ p : Nat, (inStr.call [.int 1, .text s, .text f, compare] []).carryOut w = (.ok (.int p), w) ∧
      (0 < p →
        (∃ (k : Nat) (before after : String), (len.call [.text f] []).carryOut w =
          (.ok (.int k), w) ∧
          (left.call [.text s, .int (p - 1)] []).carryOut w = (.ok (.text before), w) ∧
          (mid.call [.text s, .int (p + k)] []).carryOut w = (.ok (.text after), w) ∧
          (replace.call [.text s, .text f, .text r, .int 1, .int 1, compare] []).carryOut w =
            (.ok (.text (before ++ r ++ after)), w)) ∧
        FirstAt (compared mode f.toList) (compared mode s.toList) (p - 1) ∧
        ∀ j < p - 1, compared mode ((s.toList.drop j).take f.toList.length) =
          compared mode f.toList →
          mode = true ∧ 'Σ' ∈ (s.toList.drop j).take f.toList.length) ∧
      (p = 0 → ¬ compared mode f.toList <:+: compared mode s.toList ∧
        ∀ n : Int, -1 ≤ n →
          (replace.call [.text s, .text f, .text r, .int 1, .int n, compare] []).carryOut w =
            (.ok (.text s), w)) := by
  subst hmode
  have hold : f.toList ≠ [] := by simpa using hf
  have hchars (t : String) : chars (.text t) = .ok t.toList := rfl
  by_cases hoccurs : compared (anyCase compare) f.toList <:+: compared (anyCase compare) s.toList
  · obtain ⟨i, hi⟩ := exists_firstAt hoccurs
    refine ⟨i + 1, ?_, ?_, ?_⟩
    · rw [carryOut_inStr hinStr, positionOf_one, position_of_firstAt hold hi]
    · intro _
      refine ⟨⟨f.toList.length, .ofList (s.toList.take i),
        .ofList (s.toList.drop (i + f.toList.length)),
        ?_, ?_, ?_, ?_⟩, hi, fun j hj => mem_of_compared_eq hi hskeeps hj⟩
      · rw [carryOut_len hlen]
        rfl
      · rw [carryOut_left hleft, leftOf_int (hchars s), Int.natCast_add_one, Int.add_sub_cancel,
          left_natCast, ofChars]
      · have hstart : ((i + 1 : Nat) : Int) + f.toList.length =
            (i + f.toList.length : Nat) + 1 := by
          omega
        rw [carryOut_mid hmid, midOf_int (hchars s), hstart, mid_natCast_add_one, ofChars]
      · rw [carryOut_replace hreplace, replaceOf_of_firstAt (hchars s) (hchars f) (hchars r) hold hi
          hskeeps hfkeeps,
          ofChars, String.ofList_append, String.ofList_append, String.ofList_toList]
    · intro hzero
      exact absurd hzero (Nat.succ_ne_zero i)
  · refine ⟨0, ?_, ?_, ?_⟩
    · rw [carryOut_inStr hinStr, positionOf_one, position_of_missing hoccurs]
    · intro hpos
      exact absurd hpos (Nat.lt_irrefl 0)
    · intro _
      refine ⟨hoccurs, ?_⟩
      intro n hn
      rw [carryOut_replace hreplace, replaceOf_of_missing (hchars s) (hchars f) (hchars r) hold
        hoccurs hn, ofChars,
        String.ofList_toList]

/-- An occurrence in capitals and small letters, with another one that overlaps it. -/
theorem inStr_replace_left_mid_overlap : ∃ inStr replace left mid,
    texts.lookup "InStr" = some inStr ∧ texts.lookup "Replace" = some replace ∧
    texts.lookup "Left" = some left ∧ texts.lookup "Mid" = some mid ∧
    (inStr.call [.int 1, .text "xAnaNa", .text "ana", .int 1] []).carryOut Script.firstScene.world =
      (.ok (.int 2), Script.firstScene.world) ∧
    (left.call [.text "xAnaNa", .int 1] []).carryOut Script.firstScene.world =
      (.ok (.text "x"), Script.firstScene.world) ∧
    (mid.call [.text "xAnaNa", .int 5] []).carryOut Script.firstScene.world =
      (.ok (.text "Na"), Script.firstScene.world) ∧
    (replace.call [.text "xAnaNa", .text "ana", .text "-", .int 1, .int 1, .int 1] []).carryOut
      Script.firstScene.world = (.ok (.text "x-Na"), Script.firstScene.world) := by
  obtain ⟨inStr, hinStr⟩ : ∃ inStr, texts.lookup "InStr" = some inStr := ⟨_, rfl⟩
  obtain ⟨replace, hreplace⟩ : ∃ replace, texts.lookup "Replace" = some replace := ⟨_, rfl⟩
  obtain ⟨left, hleft⟩ : ∃ left, texts.lookup "Left" = some left := ⟨_, rfl⟩
  obtain ⟨mid, hmid⟩ : ∃ mid, texts.lookup "Mid" = some mid := ⟨_, rfl⟩
  obtain ⟨len, hlen⟩ : ∃ len, texts.lookup "Len" = some len := ⟨_, rfl⟩
  have hfirst : FirstAt (compared true "ana".toList) (compared true "xAnaNa".toList) 1 :=
    firstAt_succ_iff.2 ⟨by decide, firstAt_zero (by decide)⟩
  have hcase : anyCase (.int 1) = true := rfl
  obtain ⟨p, hp, hfound, hmissing⟩ :=
    inStr_replace_left_mid hinStr hreplace hleft hmid hlen "xAnaNa" "ana" "-"
    (by decide) hcase (by decide) (by decide) Script.firstScene.world
  have hpos : 0 < p := Nat.pos_of_ne_zero fun hzero => (hmissing hzero).1 hfirst.isInfix
  obtain ⟨⟨k, before, after, hk, hbefore, hafter, hreplaced⟩, hat, -⟩ := hfound hpos
  obtain rfl : p = 2 := by
    have hone := hat.unique hfirst
    omega
  obtain rfl : 3 = k := by
    have hthree : lenOf (.text "ana") = .ok (.int 3) := rfl
    rw [carryOut_len hlen, hthree] at hk
    have hcount : (3 : Int) = k := by simpa using hk
    omega
  obtain rfl : "x" = before := by
    have hone : leftOf (.text "xAnaNa") (.int ((2 : Nat) - 1)) = .ok (.text "x") := rfl
    rw [carryOut_left hleft, hone] at hbefore
    simpa using hbefore
  obtain rfl : "Na" = after := by
    have hrest : midOf (.text "xAnaNa") (.int ((2 : Nat) + (3 : Nat))) .null = .ok (.text "Na") :=
      rfl
    rw [carryOut_mid hmid, hrest] at hafter
    simpa using hafter
  exact ⟨inStr, replace, left, mid, hinStr, hreplace, hleft, hmid, hp, hbefore, hafter, hreplaced⟩

/-- The first sigma of `AΣAΣ` is inside the word and the second one ends it, as the only one of `AΣ`
does: the text is found at its second occurrence. -/
theorem inStr_passes_over_sigma :
    (lower "AΣAΣ".toList).length = "AΣAΣ".toList.length ∧ (lower "AΣ".toList).length =
      "AΣ".toList.length ∧
    "AΣ".toList <+: "AΣAΣ".toList ∧
    ∃ inStr, texts.lookup "InStr" = some inStr ∧
      (inStr.call [.int 1, .text "AΣAΣ", .text "AΣ", .int 1] []).carryOut Script.firstScene.world =
        (.ok (.int 3), Script.firstScene.world) := by
  have hinWord (inWord : Bool) : inWordAfter inWord 'A' = true := rfl
  have hA (inWord : Bool) (cs : List Char) : smallForm inWord 'A' cs = ['a'] := rfl
  have hgoesOn : goesOn ['A', 'Σ'] = true := goesOn_cons_of_capital (by decide) (by decide) _
  have hend : goesOn [] = false := rfl
  have hs : lower "AΣAΣ".toList = "aσaς".toList := by
    change lowerFrom false ['A', 'Σ', 'A', 'Σ'] = ['a', 'σ', 'a', 'ς']
    simp only [lowerFrom_cons, hA, hinWord, smallForm_sigma, hgoesOn, hend]
    rfl
  have hf : lower "AΣ".toList = "aς".toList := by
    change lowerFrom false ['A', 'Σ'] = ['a', 'ς']
    simp only [lowerFrom_cons, hA, hinWord, smallForm_sigma, hend]
    rfl
  obtain ⟨inStr, hinStr⟩ : ∃ inStr, texts.lookup "InStr" = some inStr := ⟨_, rfl⟩
  refine ⟨by rw [hs]; rfl, by rw [hf]; rfl, by decide, inStr, hinStr, ?_⟩
  have hfirst : FirstAt "aς".toList "aσaς".toList 2 :=
    firstAt_succ_iff.2 ⟨by decide, firstAt_succ_iff.2 ⟨by decide, firstAt_zero (by decide)⟩⟩
  rw [← hs, ← hf, ← compared_true, ← compared_true] at hfirst
  have hcase : anyCase (.int 1) = true := rfl
  rw [carryOut_inStr hinStr, positionOf_one, hcase, position_of_firstAt (by decide) hfirst]
  rfl

end Catalog

end ScriptHost
