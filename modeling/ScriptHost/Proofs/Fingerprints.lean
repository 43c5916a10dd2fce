import Mathlib
import ScriptHost.Measure.Fingerprint
import ScriptHost.Proofs.TextBytes

/-!
# What fingerprints tell apart

A fingerprint is the digest of the bytes that a datum feeds, so two data can only be told apart if
they feed different bytes, and the order of the entries of a dictionary can only be ignored if it
does not show in the bytes.

* The numbers in a list are fed one after the other with nothing between them. Two lists of whole
  numbers feed the same bytes exactly if their lengths and numbers, spelled out in one go, give the
  same text (`stream_wholes_eq_iff`).
* A dictionary feeds its entries in the order of the fingerprints of their keys. A text and the
  bytes it is written with have one fingerprint: if both are keys, then the entry that was put
  first is fed first (`fingerprint_reordered`). A set feeds fingerprints in their order, and
  nothing is left of the order of its members.

All this holds whatever a walk feeds in place of the middle of a long list and of what lies too
deep.
-/

namespace ScriptHost.Measure

open ScriptHost.Number ScriptHost.Text

/-! ### Lists of whole numbers -/

lemma itemFeeds_eq_map (r : WalkRules) (left : Nat) (items : List Datum) :
    itemFeeds r left items = items.map (·.feed r left) := by
  induction items with
  | nil => rfl
  | cons v vs ih => rw [itemFeeds, ih, List.map_cons]

lemma entryFeeds_eq_map (r : WalkRules) (left : Nat) (entries : List (Datum × Datum)) :
    entryFeeds r left entries =
      entries.map fun e => (e.1.fingerprint r, e.1.feed r left ++ e.2.feed r left) := by
  induction entries with
  | nil => rfl
  | cons e es ih =>
    rw [entryFeeds, ih, List.map_cons]
    rfl

/-- A list of whole numbers. -/
def wholes (xs : List Int) : Datum :=
  .list (xs.map .int)

/-- A whole number as it is spelled out. -/
def numeral (n : Int) : List Char :=
  (toString n).toList

/-- The length of a list and its numbers, spelled out in one go. -/
def spelledOut (xs : List Int) : List Char :=
  natDigits xs.length ++ (xs.map numeral).flatten

/-- The widths of the numbers in a list. -/
def widths (xs : List Int) : List Nat :=
  (xs.map numeral).map List.length

lemma numeral_inj {m n : Int} : numeral m = numeral n ↔ m = n := by
  rw [numeral, numeral, String.toList_inj, Int.toString_eq_repr, Int.toString_eq_repr, Int.repr_inj]

lemma utf8_flatten (css : List (List Char)) :
    utf8 (String.ofList css.flatten) = (css.map fun cs => utf8 (String.ofList cs)).flatten := by
  induction css with
  | nil => simp [utf8_eq]
  | cons cs css ih =>
    rw [List.flatten_cons, String.ofList_append, utf8_append, ih, List.map_cons, List.flatten_cons]

/-- The bytes of a list of whole numbers are a mark and the list as it is spelled out. -/
lemma stream_wholes (r : WalkRules) {xs : List Int} (h : xs.length ≤ itemLimit) :
    (wholes xs).stream r = utf8 "L" ++ utf8 (String.ofList (spelledOut xs)) := by
  have hint (n : Int) : (Datum.int n).feed r (r.levels + 1) = utf8 (String.ofList (numeral n)) := by
    rw [numeral, String.ofList_toList]
    rfl
  have hitems : r.ends (itemFeeds r (r.levels + 1) (xs.map .int)) =
      ((xs.map numeral).map fun cs => utf8 (String.ofList cs)).flatten := by
    rw [itemFeeds_eq_map, WalkRules.ends, if_pos (by simpa using h), List.map_map, List.map_map]
    exact congrArg List.flatten (List.map_congr_left fun n _ => hint n)
  have hlength : toString (xs.map Datum.int).length = String.ofList (natDigits xs.length) := by
    rw [List.length_map, Nat.toString_eq_ofList_toDigits, natDigits]
  rw [wholes, Datum.stream, Datum.feed, hitems, ← utf8_flatten, headStream, hlength, utf8_append,
    spelledOut, String.ofList_append, utf8_append, List.append_assoc]

lemma stream_wholes_inj (r : WalkRules) {xs ys : List Int} (hx : xs.length ≤ itemLimit)
    (hy : ys.length ≤ itemLimit) :
    (wholes xs).stream r = (wholes ys).stream r ↔ spelledOut xs = spelledOut ys := by
  rw [stream_wholes r hx, stream_wholes r hy, List.append_cancel_left_eq, utf8_inj,
    String.ofList_inj]

/-- A text is cut into numbers of given widths in one way only. -/
lemma eq_of_spelledOut_eq {xs ys : List Int} (h : spelledOut xs = spelledOut ys)
    (hwidths : widths xs = widths ys) : xs = ys := by
  have hlength : xs.length = ys.length := by simpa [widths] using congrArg List.length hwidths
  rw [spelledOut, spelledOut, hlength] at h
  have hnumerals : xs.map numeral = ys.map numeral :=
    List.eq_iff_flatten_eq.2 ⟨List.append_cancel_left h, hwidths⟩
  exact List.map_injective_iff.2 (fun _ _ => numeral_inj.1) hnumerals

lemma numeral_ne_nil (n : Int) : numeral n ≠ [] := by
  rw [numeral, toList_toString]
  split
  · exact Nat.toDigits_ne_nil
  · exact List.cons_ne_nil _ _

lemma length_natDigits_mono {m n : Nat} (h : m ≤ n) :
    (natDigits m).length ≤ (natDigits n).length := by
  have hbound := (Nat.length_toDigits_le_iff (b := 10) (by decide) Nat.length_toDigits_pos).1
    (le_refl (Nat.toDigits 10 n).length)
  exact (Nat.length_toDigits_le_iff (by decide) Nat.length_toDigits_pos).2 (h.trans_lt hbound)

lemma widths_eq_replicate {w : Nat} {xs : List Int} (h : ∀ n ∈ xs, (numeral n).length = w) :
    widths xs = List.replicate xs.length w := by
  rw [widths, List.map_map]
  exact List.map_eq_replicate_iff.2 h

lemma length_spelledOut {w : Nat} {xs : List Int} (h : ∀ n ∈ xs, (numeral n).length = w) :
    (spelledOut xs).length = (natDigits xs.length).length + xs.length * w := by
  rw [spelledOut, List.length_append, List.length_flatten]
  simpa [widths] using congrArg List.sum (widths_eq_replicate h)

/-- Of two lists of numbers of one width, the longer one is spelled out with more characters. -/
lemma length_spelledOut_lt {w : Nat} {xs ys : List Int} (h : ∀ n ∈ xs ++ ys, (numeral n).length = w)
    (hlt : xs.length < ys.length) : (spelledOut xs).length < (spelledOut ys).length := by
  have hx : ∀ n ∈ xs, (numeral n).length = w := fun n hn => h n (List.mem_append_left ys hn)
  have hy : ∀ n ∈ ys, (numeral n).length = w := fun n hn => h n (List.mem_append_right xs hn)
  obtain ⟨n, hn⟩ := List.exists_mem_of_length_pos (Nat.zero_lt_of_lt hlt)
  have hw : 0 < w := hy n hn ▸ List.length_pos_of_ne_nil (numeral_ne_nil n)
  rw [length_spelledOut hx, length_spelledOut hy]
  have hdigits := length_natDigits_mono hlt.le
  have hitems := Nat.mul_lt_mul_of_pos_right hlt hw
  omega

/-- Two lists of numbers of one width are spelled out differently unless they are equal. -/
lemma eq_of_spelledOut_eq_of_width {w : Nat} {xs ys : List Int}
    (h : ∀ n ∈ xs ++ ys, (numeral n).length = w) (hspelled : spelledOut xs = spelledOut ys) :
    xs = ys := by
  have hlength : xs.length = ys.length := by
    rcases Nat.lt_trichotomy xs.length ys.length with hlt | heq | hlt
    · exact absurd (congrArg List.length hspelled) (length_spelledOut_lt h hlt).ne
    · exact heq
    · have hswap : ∀ n ∈ ys ++ xs, (numeral n).length = w :=
        fun n hn => h n (by simpa [or_comm] using hn)
      exact absurd (congrArg List.length hspelled) (length_spelledOut_lt hswap hlt).ne'
  refine eq_of_spelledOut_eq hspelled ?_
  rw [widths_eq_replicate fun n hn => h n (List.mem_append_left ys hn),
    widths_eq_replicate fun n hn => h n (List.mem_append_right xs hn), hlength]

/-- Two lists of whole numbers feed the same bytes exactly if they are spelled out alike. Lists of
numbers with the same widths, one by one, and lists of numbers of one common width are told
apart. -/
theorem stream_wholes_eq_iff (r : WalkRules) {xs ys : List Int} (hx : xs.length ≤ itemLimit)
    (hy : ys.length ≤ itemLimit) :
    ((wholes xs).stream r = (wholes ys).stream r ↔ spelledOut xs = spelledOut ys) ∧
      (widths xs = widths ys → xs ≠ ys → (wholes xs).stream r ≠ (wholes ys).stream r) ∧
      ∀ w, (∀ n ∈ xs ++ ys, (numeral n).length = w) → xs ≠ ys →
        (wholes xs).stream r ≠ (wholes ys).stream r := by
  have hiff := stream_wholes_inj r hx hy
  refine ⟨hiff, fun hwidths hne hstream => ?_, fun w hw hne hstream => ?_⟩
  · exact hne (eq_of_spelledOut_eq (hiff.1 hstream) hwidths)
  · exact hne (eq_of_spelledOut_eq_of_width hw (hiff.1 hstream))

theorem stream_wholes_eq_iff_twoDigits :
    [1, 23].length ≤ itemLimit ∧ [2, 31].length ≤ itemLimit ∧ widths [1, 23] = widths [2, 31] ∧
      ∀ r, (wholes [1, 23]).stream r ≠ (wholes [2, 31]).stream r :=
  ⟨by decide, by decide, by decide, fun r =>
    (@stream_wholes_eq_iff r [1, 23] [2, 31] (by decide) (by decide)).2.1 (by decide) (by decide)⟩

/-- Two lists that differ only in where one number ends and the next one begins. -/
theorem stream_wholes_shared :
    ([1, 23] : List Int) ≠ [12, 3] ∧ [1, 23].length ≤ itemLimit ∧ [12, 3].length ≤ itemLimit ∧
      ∀ r, (wholes [1, 23]).stream r = (wholes [12, 3]).stream r := by
  refine ⟨by decide, by decide, by decide, fun r => ?_⟩
  exact (stream_wholes_inj r (by decide) (by decide)).2 (by decide)

/-! ### Sorting by fingerprints -/

/-- The order in which entries are fed. -/
def keyLe (a b : String × List UInt8) : Bool :=
  printLe a.1 b.1

lemma textOrder_eq_gt_iff (as bs : List Char) : textOrder as bs = .gt ↔ bs < as := by
  induction as generalizing bs with
  | nil => cases bs <;> simp [textOrder]
  | cons a as ih =>
    cases bs with
    | nil => simp [textOrder]
    | cons b bs =>
      have hlt : b < a ↔ b.toNat < a.toNat := Iff.rfl
      have heq : b = a ↔ b.toNat = a.toNat := Char.toNat_inj.symm
      rw [textOrder, List.cons_lt_cons_iff, hlt, heq, ← ih]
      split
      · simp; omega
      · split
        · simp_all
        · have hsame : b.toNat = a.toNat := by omega
          simp [hsame]

lemma printLe_iff (a b : String) : printLe a b = true ↔ a.toList ≤ b.toList := by
  rw [printLe, bne_iff_ne, ne_eq, textOrder_eq_gt_iff, not_lt]

/-- Of the order of fingerprints nothing is left when they are sorted. -/
lemma mergeSort_printLe_eq_of_perm {xs ys : List String} (h : xs.Perm ys) :
    xs.mergeSort printLe = ys.mergeSort printLe := by
  have hsorted (zs : List String) :
      (zs.mergeSort printLe).Pairwise fun a b => printLe a b = true := by
    refine List.pairwise_mergeSort (fun a b c hab hbc => ?_) (fun a b => ?_) zs
    · rw [printLe_iff] at hab hbc ⊢
      exact hab.trans hbc
    · rw [Bool.or_eq_true, printLe_iff, printLe_iff]
      exact le_total _ _
  refine List.Perm.eq_of_pairwise (fun a b _ _ hab hba => ?_) (hsorted xs) (hsorted ys)
    (((List.mergeSort_perm xs _).trans h).trans (List.mergeSort_perm ys _).symm)
  rw [printLe_iff] at hab hba
  exact String.toList_inj.1 (hab.antisymm hba)

lemma keyLe_iff (a b : String × List UInt8) : keyLe a b = true ↔ a.1.toList ≤ b.1.toList :=
  printLe_iff a.1 b.1

lemma keyLe_trans (a b c : String × List UInt8) (hab : keyLe a b = true) (hbc : keyLe b c = true) :
    keyLe a c = true := by
  rw [keyLe_iff] at hab hbc ⊢
  exact hab.trans hbc

lemma keyLe_total (a b : String × List UInt8) : (keyLe a b || keyLe b a) = true := by
  rw [Bool.or_eq_true, keyLe_iff, keyLe_iff]
  exact le_total _ _

/-- Entries that may be fed in either order have one fingerprint. -/
lemma fst_eq_of_keyLe {a b : String × List UInt8} (hab : keyLe a b = true)
    (hba : keyLe b a = true) :
    a.1 = b.1 := by
  rw [keyLe_iff] at hab hba
  exact String.toList_inj.1 (hab.antisymm hba)

lemma keyLe_congr {a b : String × List UInt8} (h : a.1 = b.1) : keyLe a = keyLe b := by
  funext c
  rw [keyLe, keyLe, h]

lemma sorted_mergeSort_keyLe (ws : List (String × List UInt8)) :
    (ws.mergeSort keyLe).Pairwise fun a b => keyLe a b = true :=
  List.pairwise_mergeSort keyLe_trans keyLe_total ws

/-- An entry that is put before others comes behind those with lesser fingerprints. -/
lemma mergeSort_keyLe_cons (a : String × List UInt8) (ws : List (String × List UInt8)) :
    (a :: ws).mergeSort keyLe =
      (ws.mergeSort keyLe).takeWhile (fun b => !keyLe a b) ++
        a :: (ws.mergeSort keyLe).dropWhile fun b => !keyLe a b := by
  obtain ⟨l, r, hsort, hrest, hless⟩ := List.mergeSort_cons keyLe_trans keyLe_total a ws
  have hmore : ∀ b ∈ r, keyLe a b = true := by
    have hpair := sorted_mergeSort_keyLe (a :: ws)
    rw [hsort, List.pairwise_append, List.pairwise_cons] at hpair
    exact hpair.2.1.1
  have hr : r.takeWhile (fun b => !keyLe a b) = [] := by
    cases r with
    | nil => rfl
    | cons b r => simp [hmore b List.mem_cons_self]
  have hsplit := List.takeWhile_append_dropWhile (p := fun b => !keyLe a b) (l := r)
  rw [hr, List.nil_append] at hsplit
  rw [hsort, hrest, List.takeWhile_append_of_pos hless, List.dropWhile_append_of_pos hless, hr,
    hsplit, List.append_nil]

/-- Of two entries with one fingerprint, the one that is put first is fed first, and there is
nothing between them. -/
lemma mergeSort_keyLe_cons_cons {a b : String × List UInt8} (h : a.1 = b.1)
    (ws : List (String × List UInt8)) :
    (a :: b :: ws).mergeSort keyLe =
      (ws.mergeSort keyLe).takeWhile (fun c => !keyLe a c) ++
        a :: b :: (ws.mergeSort keyLe).dropWhile fun c => !keyLe a c := by
  have hab : keyLe a b = true := by
    rw [keyLe_iff, h]
  have hless : ∀ c ∈ (ws.mergeSort keyLe).takeWhile (fun c => !keyLe a c), (!keyLe a c) = true :=
    List.all_eq_true.1 List.all_takeWhile
  rw [mergeSort_keyLe_cons a, mergeSort_keyLe_cons b, ← keyLe_congr h,
    List.takeWhile_append_of_pos hless, List.dropWhile_append_of_pos hless]
  simp [hab]

/-- Words that may be written in either order. -/
def Interchangeable (u v : List UInt8) : Prop :=
  u ++ v = v ++ u

lemma flatMap_append_comm {word : List UInt8} {ws : List (String × List UInt8)}
    (h : ∀ w ∈ ws, Interchangeable w.2 word) :
    ws.flatMap Prod.snd ++ word = word ++ ws.flatMap Prod.snd := by
  induction ws with
  | nil => simp
  | cons w ws ih =>
    have hw : w.2 ++ word = word ++ w.2 := h w List.mem_cons_self
    rw [List.flatMap_cons, List.append_assoc, ih fun v hv => h v (List.mem_cons_of_mem w hv),
      ← List.append_assoc, hw, List.append_assoc]

/-- Two ways to sort the same entries feed the same bytes if entries with one fingerprint may be
fed in either order. -/
lemma flatMap_snd_eq_of_perm {ws vs : List (String × List UInt8)} (hperm : ws.Perm vs)
    (hws : ws.Pairwise fun a b => keyLe a b = true) (hvs : vs.Pairwise fun a b => keyLe a b = true)
    (hties : ws.Pairwise fun a b => a.1 = b.1 → Interchangeable a.2 b.2) :
    ws.flatMap Prod.snd = vs.flatMap Prod.snd := by
  induction ws generalizing vs with
  | nil => rw [hperm.nil_eq]
  | cons a ws ih =>
    obtain ⟨before, behind, rfl⟩ := List.append_of_mem (hperm.mem_iff.1 List.mem_cons_self)
    obtain ⟨hleast, hws⟩ := List.pairwise_cons.1 hws
    obtain ⟨htie, hties⟩ := List.pairwise_cons.1 hties
    have hrest : ws.Perm (before ++ behind) :=
      List.perm_cons a |>.1 (hperm.trans List.perm_middle)
    -- What stands before the first entry of the one list in the other list has its fingerprint.
    have hbefore : ∀ w ∈ before, Interchangeable w.2 a.2 := by
      intro w hw
      have hmem : w ∈ ws := hrest.mem_iff.2 (List.mem_append_left _ hw)
      have hle : keyLe w a = true :=
        (List.pairwise_append.1 hvs).2.2 w hw a List.mem_cons_self
      exact (htie w hmem (fst_eq_of_keyLe (hleast w hmem) hle)).symm
    have hvs' : (before ++ behind).Pairwise fun a b => keyLe a b = true :=
      hvs.sublist (List.sublist_cons_self a behind |>.append_left before)
    rw [List.flatMap_cons, ih hrest hws hvs' hties, List.flatMap_append, List.flatMap_append,
      List.flatMap_cons, ← List.append_assoc, ← flatMap_append_comm hbefore, List.append_assoc]

/-! ### Dictionaries and sets -/

/-- It does not matter in which order the entries were put if entries with one fingerprint may be
fed in either order. -/
lemma orderedStream_eq_of_interchangeable {ws vs : List (String × List UInt8)} (hperm : ws.Perm vs)
    (hties : ws.Pairwise fun a b => a.1 = b.1 → Interchangeable a.2 b.2) :
    orderedStream ws = orderedStream vs := by
  have hsymm : ∀ {a b : String × List UInt8}, (a.1 = b.1 → Interchangeable a.2 b.2) →
      b.1 = a.1 → Interchangeable b.2 a.2 := fun h heq => (h heq.symm).symm
  refine flatMap_snd_eq_of_perm ?_ (sorted_mergeSort_keyLe ws) (sorted_mergeSort_keyLe vs) ?_
  · exact ((List.mergeSort_perm ws keyLe).trans hperm).trans (List.mergeSort_perm vs keyLe).symm
  · exact hties.perm (List.mergeSort_perm ws keyLe).symm hsymm

/-- Two entries with one fingerprint come one after the other, in the order in which they were put.
-/
lemma orderedStream_cons_cons {a b : String × List UInt8} (h : a.1 = b.1)
    (ws : List (String × List UInt8)) :
    orderedStream (a :: b :: ws) =
      ((ws.mergeSort keyLe).takeWhile fun c => !keyLe a c).flatMap Prod.snd ++ (a.2 ++ (b.2 ++
        ((ws.mergeSort keyLe).dropWhile fun c => !keyLe a c).flatMap Prod.snd)) := by
  have hsort := congrArg (List.flatMap Prod.snd) (mergeSort_keyLe_cons_cons h ws)
  rw [List.flatMap_append, List.flatMap_cons, List.flatMap_cons] at hsort
  exact hsort

/-- Two entries with one fingerprint that may be put in either order may be fed in either order. -/
lemma interchangeable_of_orderedStream_eq {a b : String × List UInt8}
    {ws : List (String × List UInt8)}
    (hkey : a.1 = b.1) (h : orderedStream (a :: b :: ws) = orderedStream (b :: a :: ws)) :
    Interchangeable a.2 b.2 := by
  rw [orderedStream_cons_cons hkey, orderedStream_cons_cons hkey.symm, keyLe_congr hkey,
    List.append_cancel_left_eq, ← List.append_assoc, ← List.append_assoc,
      List.append_cancel_right_eq] at h
  exact h

section Walk

variable (r : WalkRules)

/-- The bytes of an entry. -/
def entryBytes (e : Datum × Datum) : List UInt8 :=
  e.1.feed r (r.levels + 1) ++ e.2.feed r (r.levels + 1)

lemma stream_dict (es : List (Datum × Datum)) :
    (Datum.dict es).stream r =
      headStream "D" es.length ++ orderedStream (es.map fun e =>
        (e.1.fingerprint r, entryBytes r e)) := by
  rw [Datum.stream, Datum.feed, entryFeeds_eq_map]
  rfl

lemma stream_set (mutable : Bool) (items : List Datum) :
    (Datum.set mutable items).stream r =
      r.members ((items.map (·.fingerprint r)).mergeSort printLe) := by
  rw [Datum.stream, Datum.feed, itemFeeds_eq_map, List.map_map]
  rfl

end Walk

/-- Two sequences of bytes that differ and have one fingerprint. -/
def Colliding (s t : List UInt8) : Prop :=
  s ≠ t ∧ fingerprintOf s = fingerprintOf t

/-- A text and the bytes it is written with. -/
def Datum.IsTwin : Datum → Datum → Prop
  | .text s, .bytes _ content => content = utf8 s
  | .bytes _ content, .text s => content = utf8 s
  | _, _ => False

/-- Null, truth values and whole numbers: they are fed as they are spelled out. -/
def Datum.isWord : Datum → Bool
  | .null | .bool _ | .int _ => true
  | _ => false

/-- Null, truth values, whole numbers, texts and bytes that cannot be changed. -/
def Datum.isPlainKey : Datum → Bool
  | .text _ | .bytes false _ => true
  | k => k.isWord

lemma cases_of_isPlainKey {k : Datum} (h : k.isPlainKey = true) :
    k.isWord = true ∨ (∃ s, k = .text s) ∨ ∃ content, k = .bytes false content := by
  fun_cases Datum.isPlainKey k with
  | case1 s => exact .inr (.inl ⟨s, rfl⟩)
  | case2 content => exact .inr (.inr ⟨content, rfl⟩)
  | case3 => exact .inl (by simpa [Datum.isPlainKey] using h)

/-- A numeral starts with a minus sign or a digit. -/
lemma exists_numeral_eq_cons (n : Int) : ∃ c cs, numeral n = c :: cs ∧ c.toNat < 58 := by
  rw [numeral, toList_toString]
  split
  · obtain ⟨c, cs, hcs⟩ : ∃ c cs, natDigits n.toNat = c :: cs :=
      List.exists_cons_of_ne_nil Nat.toDigits_ne_nil
    have hdigit : c.toNat ≤ 57 :=
      (Char.isDigit_iff_toNat.1 (isDigit_of_mem_natDigits (hcs ▸ List.mem_cons_self))).2
    exact ⟨c, cs, hcs, by omega⟩
  · exact ⟨'-', _, rfl, by decide⟩

lemma toString_ne {w : String} {c : Char} (hw : w.toList.head? = some c) (hc : 58 ≤ c.toNat)
    (n : Int) :
    toString n ≠ w := by
  rintro rfl
  obtain ⟨d, ds, hds, hd⟩ := exists_numeral_eq_cons n
  rw [numeral] at hds
  rw [hds] at hw
  obtain rfl : d = c := Option.some.inj hw
  omega

section Keys

variable (r : WalkRules)

lemma stream_of_isWord {k : Datum} (hk : k.isWord = true) : k.stream r = utf8 k.form := by
  cases k <;> first | rfl | cases hk

lemma toString_ne_form {v : Datum} (hv : v.isWord = true) (hint : ∀ m, v ≠ .int m) (n : Int) :
    toString n ≠ v.form := by
  cases v with
  | null => exact toString_ne (c := 'N') rfl (by decide) n
  | bool b => cases b <;> exact toString_ne rfl (by decide) n
  | int m => exact absurd rfl (hint m)
  | _ => cases hv

/-- Null, truth values and whole numbers are spelled out differently. -/
lemma eq_of_form_eq {k l : Datum} (hk : k.isWord = true) (hl : l.isWord = true)
    (h : k.form = l.form) :
    k = l := by
  by_cases hkint : ∃ m, k = .int m
  · obtain ⟨m, rfl⟩ := hkint
    by_cases hlint : ∃ n, l = .int n
    · obtain ⟨n, rfl⟩ := hlint
      exact congrArg Datum.int (numeral_inj.1 (congrArg String.toList h))
    · exact absurd h (toString_ne_form hl (not_exists.1 hlint) m)
  · by_cases hlint : ∃ n, l = .int n
    · obtain ⟨n, rfl⟩ := hlint
      exact absurd h.symm (toString_ne_form hk (not_exists.1 hkint) n)
    · cases k with
      | null =>
        cases l with
        | null => rfl
        | bool b => cases b <;> exact absurd h (by decide)
        | int n => exact absurd ⟨n, rfl⟩ hlint
        | _ => cases hl
      | bool b =>
        cases l with
        | null => cases b <;> exact absurd h (by decide)
        | bool c => cases b <;> cases c <;> first | rfl | exact absurd h (by decide)
        | int n => exact absurd ⟨n, rfl⟩ hlint
        | _ => cases hl
      | int m => exact absurd ⟨m, rfl⟩ hkint
      | _ => cases hk

lemma exists_form_eq_cons {k : Datum} (hk : k.isWord = true) :
    ∃ c cs, k.form = String.ofList (c :: cs) ∧ c.toNat < 's'.toNat := by
  cases k with
  | null => exact ⟨'N', "one".toList, rfl, by decide⟩
  | bool b =>
    cases b
    · exact ⟨'F', "alse".toList, rfl, by decide⟩
    · exact ⟨'T', "rue".toList, rfl, by decide⟩
  | int n =>
    obtain ⟨c, cs, hcs, hc⟩ := exists_numeral_eq_cons n
    exact ⟨c, cs, by rw [← hcs, numeral, String.ofList_toList]; rfl, hc.trans (by decide)⟩
  | _ => cases hk

/-- What is spelled out does not start with the mark of texts and bytes. -/
lemma stream_ne_marked {k : Datum} (hk : k.isWord = true) (content : List UInt8) :
    k.stream r ≠ utf8 "s" ++ content := by
  intro h
  obtain ⟨c, cs, hform, hc⟩ := exists_form_eq_cons hk
  have hs : utf8 "s" = ['s'.toNat.toUInt8] := by
    rw [utf8_eq]
    rfl
  have hlt : c.toNat < 128 := hc.trans (by decide)
  rw [stream_of_isWord r hk, hform, utf8_ofList, List.flatMap_cons, utf8EncodeChar_of_lt hlt,
    hs] at h
  have hbyte := congrArg UInt8.toNat (List.cons.inj h).1
  rw [Nat.toUInt8_eq, Nat.toUInt8_eq, UInt8.toNat_ofNat', UInt8.toNat_ofNat',
    Nat.mod_eq_of_lt (by omega), Nat.mod_eq_of_lt (by decide)] at hbyte
  omega

/-- Two keys that feed the same bytes are equal, or a text and its bytes. -/
lemma eq_or_isTwin_of_stream_eq {k l : Datum} (hk : k.isPlainKey = true) (hl : l.isPlainKey = true)
    (h : k.stream r = l.stream r) : k = l ∨ k.IsTwin l := by
  rcases cases_of_isPlainKey hk with hk | ⟨s, rfl⟩ | ⟨c, rfl⟩ <;>
    rcases cases_of_isPlainKey hl with hl | ⟨t, rfl⟩ | ⟨d, rfl⟩
  · rw [stream_of_isWord r hk, stream_of_isWord r hl, utf8_inj] at h
    exact .inl (eq_of_form_eq hk hl h)
  · exact absurd h (stream_ne_marked r hk _)
  · exact absurd h (stream_ne_marked r hk _)
  · exact absurd h.symm (stream_ne_marked r hl _)
  · exact .inl (congrArg Datum.text (utf8_inj.1 (List.append_cancel_left h)))
  · exact .inr (List.append_cancel_left h).symm
  · exact absurd h.symm (stream_ne_marked r hl _)
  · exact .inr (List.append_cancel_left h)
  · exact .inl (congrArg (Datum.bytes false) (List.append_cancel_left h))

/-- Two different keys with one fingerprint are a text and its bytes, or their bytes collide. -/
lemma isTwin_or_colliding {k l : Datum} (hk : k.isPlainKey = true) (hl : l.isPlainKey = true)
    (hne : k ≠ l) (h : k.fingerprint r = l.fingerprint r) :
    k.IsTwin l ∨ Colliding (k.stream r) (l.stream r) := by
  by_cases hstream : k.stream r = l.stream r
  · exact .inl ((eq_or_isTwin_of_stream_eq r hk hl hstream).resolve_left hne)
  · exact .inr ⟨hstream, h⟩

/-- The order in which the entries of a dictionary were put does not show if any two entries whose
keys have one fingerprint may be fed in either order. -/
lemma stream_dict_of_perm {es es' : List (Datum × Datum)} (hperm : es'.Perm es)
    (hties : es.Pairwise fun a b =>
      a.1.fingerprint r = b.1.fingerprint r → Interchangeable (entryBytes r a) (entryBytes r b)) :
    (Datum.dict es').stream r = (Datum.dict es).stream r := by
  rw [stream_dict, stream_dict, hperm.length_eq,
    orderedStream_eq_of_interchangeable (hperm.symm.map _) (List.pairwise_map.2 hties)]

/-- That is so if no key is the text of another one and the bytes of no two keys collide. -/
lemma interchangeable_of_apart {es : List (Datum × Datum)}
    (hplain : ∀ e ∈ es, e.1.isPlainKey = true) (hnodup : (es.map Prod.fst).Nodup)
    (hapart : ∀ a ∈ es, ∀ b ∈ es, ¬ a.1.IsTwin b.1 ∧ ¬ Colliding (a.1.stream r) (b.1.stream r)) :
    es.Pairwise fun a b =>
      a.1.fingerprint r = b.1.fingerprint r →
        Interchangeable (entryBytes r a) (entryBytes r b) := by
  refine List.Pairwise.imp_of_mem (fun {a b} ha hb hne hkey => ?_) (List.pairwise_map.1 hnodup)
  exact absurd (isTwin_or_colliding r (hplain a ha) (hplain b hb) hne hkey)
    (not_or.2 (hapart a ha b hb))

/-- Two entries whose keys have one fingerprint can be fed in either order if the order of the
entries does not show in the bytes of the dictionary. -/
lemma interchangeable_of_stream_dict_eq {es : List (Datum × Datum)}
    (h : ∀ es', es'.Perm es → (Datum.dict es').stream r = (Datum.dict es).stream r)
    {a b : Datum × Datum}
    (hsub : [a, b].Sublist es) (hkey : a.1.fingerprint r = b.1.fingerprint r) :
    Interchangeable (entryBytes r a) (entryBytes r b) := by
  obtain ⟨rest, hrest⟩ := hsub.exists_perm_append
  have hfirst : (a :: b :: rest).Perm es := hrest.symm
  have hsecond : (b :: a :: rest).Perm es := (List.Perm.swap a b rest).trans hfirst
  have hstream := (h _ hfirst).trans (h _ hsecond).symm
  rw [stream_dict, stream_dict, List.map_cons, List.map_cons, List.map_cons,
    List.map_cons] at hstream
  exact interchangeable_of_orderedStream_eq hkey (List.append_cancel_left hstream)

end Keys

/-- Putting the entries of a dictionary in another order does not change its fingerprint, unless the
bytes of two keys collide or one key is a text and another one its bytes. The order does not show in
the bytes exactly if any two entries whose keys have one fingerprint may be fed in either order. The
order of the members of a set never shows. -/
theorem fingerprint_reordered (r : WalkRules) (es : List (Datum × Datum)) (items : List Datum)
    (mutable : Bool) :
    ((∀ e ∈ es, e.1.isPlainKey = true) → (es.map Prod.fst).Nodup →
      (∀ a ∈ es, ∀ b ∈ es, ¬ a.1.IsTwin b.1 ∧ ¬ Colliding (a.1.stream r) (b.1.stream r)) →
      ∀ es', es'.Perm es → (Datum.dict es').fingerprint r = (Datum.dict es).fingerprint r) ∧
    ((∀ es', es'.Perm es → (Datum.dict es').stream r = (Datum.dict es).stream r) ↔
      es.Pairwise fun a b =>
        a.1.fingerprint r = b.1.fingerprint r → Interchangeable (entryBytes r a) (entryBytes r b)) ∧
    ∀ items', items'.Perm items →
      (Datum.set mutable items').fingerprint r = (Datum.set mutable items).fingerprint r := by
  refine ⟨fun hplain hnodup hapart es' hperm => ?_, ⟨fun h => ?_, fun h es' hperm => ?_⟩,
    fun items' hperm => ?_⟩
  · exact congrArg fingerprintOf
      (stream_dict_of_perm r hperm (interchangeable_of_apart r hplain hnodup hapart))
  · exact List.pairwise_iff_forall_sublist.2 fun hsub hkey =>
      interchangeable_of_stream_dict_eq r h hsub hkey
  · exact stream_dict_of_perm r hperm h
  · rw [Datum.fingerprint, Datum.fingerprint, stream_set, stream_set,
      mergeSort_printLe_eq_of_perm (hperm.map _)]

/-- A letter feeds the mark of texts and its byte. -/
lemma stream_letter (r : WalkRules) {c : Char} (hc : c.toNat < 128) :
    (Datum.text (String.ofList [c])).stream r = [115, c.toNat.toUInt8] := by
  have hstream : (Datum.text (String.ofList [c])).stream r = utf8 "s" ++ utf8 (String.ofList [c]) :=
    rfl
  rw [hstream, utf8_eq, utf8_ofList, List.flatMap_singleton, utf8EncodeChar_of_lt hc]
  rfl

/-- The bytes that two letters feed do not collide. -/
lemma not_colliding_letters (r : WalkRules) :
    ¬ Colliding ((Datum.text "a").stream r) ((Datum.text "b").stream r) := by
  have ha : (Datum.text "a").stream r = [115, 97] := stream_letter r (c := 'a') (by decide)
  have hb : (Datum.text "b").stream r = [115, 98] := stream_letter r (c := 'b') (by decide)
  rw [ha, hb]
  rintro ⟨-, h⟩
  revert h
  set_option maxRecDepth 100000 in decide

theorem fingerprint_reordered_letters :
    [(Datum.text "b", Datum.int 2), (.text "a", .null)].Perm [(.text "a", .null),
      (.text "b", .int 2)] ∧
      ∀ r, (Datum.dict [(.text "b", .int 2), (.text "a", .null)]).fingerprint r =
        (Datum.dict [(.text "a", .null), (.text "b", .int 2)]).fingerprint r := by
  refine ⟨List.Perm.swap .., fun r => ?_⟩
  have hself (v : Datum) : ¬ Colliding (v.stream r) (v.stream r) := fun h => h.1 rfl
  have hba : ¬ Colliding ((Datum.text "b").stream r) ((Datum.text "a").stream r) :=
    fun h => not_colliding_letters r ⟨h.1.symm, h.2.symm⟩
  obtain ⟨hdict, -⟩ := fingerprint_reordered r [(.text "a", .null), (.text "b", .int 2)] [] true
  refine hdict (by simp [Datum.isPlainKey]) (by simp) ?_ _ (List.Perm.swap ..)
  simp [Datum.IsTwin, hself, hba, not_colliding_letters]

/-- Two entries whose keys have one fingerprint are fed in the order in which they were put. -/
lemma stream_dict_pair (r : WalkRules) {a b : Datum × Datum}
    (h : a.1.fingerprint r = b.1.fingerprint r) :
    (Datum.dict [a, b]).stream r = headStream "D" 2 ++ (entryBytes r a ++ entryBytes r b) := by
  have hpair := orderedStream_cons_cons (a := (a.1.fingerprint r, entryBytes r a))
    (b := (b.1.fingerprint r, entryBytes r b)) h []
  rw [List.mergeSort_nil, List.takeWhile_nil, List.dropWhile_nil, List.flatMap_nil, List.nil_append,
    List.append_nil] at hpair
  rw [stream_dict, List.map_cons, List.map_cons, List.map_nil, hpair]
  rfl

/-- A text and its bytes as keys: the fingerprint tells which one was put first. -/
theorem fingerprint_twinKeys :
    [(Datum.bytes false [97], Datum.int 2), (.text "a", .int 1)].Perm
        [(.text "a", .int 1), (.bytes false [97], .int 2)] ∧
      ∀ r, (Datum.dict [(.bytes false [97], .int 2), (.text "a", .int 1)]).fingerprint r ≠
        (Datum.dict [(.text "a", .int 1), (.bytes false [97], .int 2)]).fingerprint r := by
  refine ⟨List.Perm.swap .., fun r => ?_⟩
  have hhead : headStream "D" 2 = [68, 50] := by
    rw [headStream, utf8_eq]
    rfl
  have htext : entryBytes r (.text "a", .int 1) = [115, 97, 49] := by
    have hparts : entryBytes r (.text "a", .int 1) = utf8 "s" ++ utf8 "a" ++ utf8 "1" := rfl
    rw [hparts, utf8_eq, utf8_eq, utf8_eq]
    rfl
  have hbytes : entryBytes r (.bytes false [97], .int 2) = [115, 97, 50] := by
    have hparts : entryBytes r (.bytes false [97], .int 2) = utf8 "s" ++ [97] ++ utf8 "2" := rfl
    rw [hparts, utf8_eq, utf8_eq]
    rfl
  have hkey : (Datum.text "a").fingerprint r = (Datum.bytes false [97]).fingerprint r := by
    have hcontent : (Datum.bytes false [97]).stream r = utf8 "s" ++ [97] := rfl
    refine congrArg fingerprintOf ?_
    rw [hcontent, utf8_eq]
    exact stream_letter r (c := 'a') (by decide)
  have hfirst : (Datum.dict [(.text "a", .int 1), (.bytes false [97], .int 2)]).stream r =
      [68, 50, 115, 97, 49, 115, 97, 50] := by
    rw [stream_dict_pair r (a := (.text "a", .int 1)) (b := (.bytes false [97], .int 2)) hkey,
      hhead, htext, hbytes]
    rfl
  have hsecond : (Datum.dict [(.bytes false [97], .int 2), (.text "a", .int 1)]).stream r =
      [68, 50, 115, 97, 50, 115, 97, 49] := by
    rw [stream_dict_pair r (a := (.bytes false [97], .int 2)) (b := (.text "a", .int 1)) hkey.symm,
      hhead, htext, hbytes]
    rfl
  rw [Datum.fingerprint, Datum.fingerprint, hfirst, hsecond]
  set_option maxRecDepth 100000 in decide

end ScriptHost.Measure
