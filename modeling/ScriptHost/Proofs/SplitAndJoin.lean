import ScriptHost.Proofs.FirstOccurrence
import ScriptHost.Proofs.ThenElse

/-!
# Splitting and joining

`Split` cuts a text at each occurrence of a delimiter, and `Join` puts the delimiter back between
the pieces. Joining undoes cutting for every delimiter, also one that overlaps itself; cutting
undoes joining if the delimiter is a single character that is in no piece. A single space is no
delimiter but stands for any run of blanks: the pieces are then the words of the text, and what is
between them is forgotten. A limit drops the pieces beyond it, and the text in them.
-/

namespace ScriptHost

namespace Slice

lemma slice_to {α : Type} {k : Int} (hk : 0 ≤ k) (xs : List α) :
    slice none (some k) xs = xs.take k.toNat := by
  simp only [slice, clamp, Option.map_none, Option.getD_none, Option.map_some, Option.getD_some,
    Int.toNat_zero, List.drop_zero, if_neg (Int.not_lt.2 hk)]
  split_ifs with hlong
  · rw [Int.toNat_natCast, List.take_length, List.take_of_length_le (by omega)]
  · rfl

end Slice

namespace Text

variable {c : Char} {p : List Char} {ps : List (List Char)}

/-! ### Pieces between single characters -/

lemma firstAt_singleton (h : c ∉ p) (cs : List Char) : FirstAt [c] (p ++ c :: cs) p.length := by
  induction p with
  | nil => exact firstAt_zero (List.prefix_append [c] cs)
  | cons d p ih =>
    rw [List.mem_cons, not_or] at h
    refine firstAt_succ_iff.2 ⟨?_, ih h.2⟩
    intro hhead
    exact h.1 (List.cons_prefix_cons.1 hhead).1

/-- Cutting undoes joining with a character that is in no piece. -/
lemma cut_join_singleton (hne : ps ≠ []) (h : ∀ p ∈ ps, c ∉ p) : cut [c] (join [c] ps) = ps := by
  induction ps with
  | nil => exact absurd rfl hne
  | cons p ps ih =>
    have hp : c ∉ p := h p List.mem_cons_self
    cases ps with
    | nil => exact cut_of_missing fun hinside => hp (hinside.subset List.mem_cons_self)
    | cons q ps =>
      rw [join, List.append_assoc, List.singleton_append,
        cut_of_firstAt (List.cons_ne_nil c []) (firstAt_singleton hp _), List.take_left,
          List.drop_length_add_append]
      exact congrArg (p :: ·) (ih (List.cons_ne_nil q ps) fun x hx =>
        h x (List.mem_cons_of_mem p hx))

/-- Pieces are joined to what the first of them and the others are joined to, with the delimiter
between. -/
lemma join_take_append_join_drop (sep : List Char) {k : Nat} (hpos : 0 < k) (hk : k < ps.length) :
    join sep (ps.take k) ++ sep ++ join sep (ps.drop k) = join sep ps := by
  induction ps generalizing k with
  | nil => exact absurd hk (Nat.not_lt_zero k)
  | cons p ps ih =>
    obtain ⟨q, qs, rfl⟩ : ∃ q qs, ps = q :: qs := by
      refine List.exists_cons_of_ne_nil ?_
      rintro rfl
      rw [List.length_singleton] at hk
      omega
    cases k with
    | zero => exact absurd hpos (Nat.lt_irrefl 0)
    | succ k =>
      cases k with
      | zero => rfl
      | succ k =>
        have hrest := ih (Nat.succ_pos k) (Nat.lt_of_succ_lt_succ hk)
        rw [List.take_succ_cons, List.drop_succ_cons, List.take_succ_cons, join, join,
          ← List.take_succ_cons, ← hrest, List.append_assoc, List.append_assoc, List.append_assoc,
          List.append_assoc, List.append_assoc]

/-- The first pieces make up the whole text only if there are no others: what is between pieces is
not empty. -/
lemma join_take_eq_iff {sep : List Char} (hsep : sep ≠ []) {k : Nat} (hpos : 0 < k) :
    join sep (ps.take k) = join sep ps ↔ ps.length ≤ k := by
  constructor
  · intro hsame
    by_contra hmore
    have hwhole :=
      congrArg List.length (join_take_append_join_drop sep hpos (Nat.lt_of_not_le hmore))
    have hlength := List.length_pos_iff.2 hsep
    rw [← hsame, List.length_append, List.length_append] at hwhole
    omega
  · intro hall
    rw [List.take_of_length_le hall]

/-! ### Words -/

lemma forall_mem_wordsFrom {cur : List Char} (hcur : ∀ c ∈ cur, isBlank c = false)
    (cs : List Char) :
    ∀ w ∈ wordsFrom cur cs, w ≠ [] ∧ ∀ c ∈ w, isBlank c = false := by
  fun_induction wordsFrom cur cs with
  | case1 => exact fun w hw => absurd hw List.not_mem_nil
  | case2 cur hempty =>
    intro w hw
    obtain rfl := List.mem_singleton.1 hw
    exact ⟨by simpa using hempty, fun c hc => hcur c (List.mem_reverse.1 hc)⟩
  | case3 cur c cs hc hempty ih => exact ih (List.forall_mem_nil _)
  | case4 cur c cs hc hempty ih =>
    intro w hw
    rcases List.mem_cons.1 hw with rfl | hw
    · exact ⟨by simpa using hempty, fun d hd => hcur d (List.mem_reverse.1 hd)⟩
    · exact ih (List.forall_mem_nil _) w hw
  | case5 cur c cs hc ih => exact ih (List.forall_mem_cons.2 ⟨by simpa using hc, hcur⟩)

/-- Words are not empty and have no blanks. -/
lemma forall_mem_words (cs : List Char) : ∀ w ∈ words cs, w ≠ [] ∧ ∀ c ∈ w, isBlank c = false :=
  forall_mem_wordsFrom (List.forall_mem_nil _) cs

lemma flatten_wordsFrom (cur cs : List Char) :
    (wordsFrom cur cs).flatten = cur.reverse ++ cs.filter fun c => !isBlank c := by
  fun_induction wordsFrom cur cs with
  | case1 cur hempty => simpa using hempty
  | case2 cur hempty => simp
  | case3 cur c cs hc hempty ih =>
    rw [ih, List.filter_cons_of_neg (by simp [hc]), List.isEmpty_iff.1 hempty]
  | case4 cur c cs hc hempty ih =>
    rw [List.flatten_cons, ih, List.filter_cons_of_neg (by simp [hc])]
    rfl
  | case5 cur c cs hc ih =>
    rw [ih, List.filter_cons_of_pos (by simpa using hc), List.reverse_cons, List.append_assoc,
      List.singleton_append]

/-- Words hold all characters that are not blank, in order. -/
lemma flatten_words (cs : List Char) : (words cs).flatten = cs.filter fun c => !isBlank c :=
  flatten_wordsFrom [] cs

/-- Words are the words of the text that they are joined to. -/
lemma words_join (h : ∀ w ∈ ps, w ≠ [] ∧ ∀ c ∈ w, isBlank c = false) :
    words (join [' '] ps) = ps := by
  induction ps with
  | nil => rfl
  | cons w ws ih =>
    obtain ⟨hne, hblank⟩ := h w List.mem_cons_self
    cases ws with
    | nil => exact Script.words_of_forall hne hblank
    | cons v ws =>
      rw [join, List.append_assoc, List.singleton_append, Script.words_append_cons (by decide),
        Script.words_of_forall hne hblank, ih fun x hx => h x (List.mem_cons_of_mem w hx),
          List.singleton_append]

end Text

namespace TextFunction

open Text DateFunction

/-- The pieces of a text: its words if the delimiter is a single space. -/
def piecesAt (sep cs : List Char) : List (List Char) :=
  if sep == [' '] then words cs else cut sep cs

variable {s d : String}

lemma splitOf_text (hd : d ≠ "") (s : String) (n : Int) :
    splitOf (.text s) (.text d) (.int n) =
      .ok (.list ((if 0 < n then (piecesAt d.toList s.toList).take n.toNat
        else piecesAt d.toList s.toList).map ofChars)) := by
  have hempty : ¬ d.toList.isEmpty = true := by simpa using hd
  have hchars (t : String) : chars (.text t) = .ok t.toList := rfl
  have hbound : sliceBound (.int n) = .ok n := rfl
  have hpieces : piecesAt d.toList s.toList =
    if d.toList == [' '] then words s.toList else cut d.toList s.toList := rfl
  simp only [splitOf, hchars, ok_bind, if_neg hempty, zero, compareWith_gt_int, compareWith_lt_int,
    hbound, decide_eq_true_iff, ← hpieces]
  split_ifs with hpos hlong
  · rw [Slice.slice_to (Int.le_of_lt hpos)]
    rfl
  · rw [List.take_of_length_le (by omega)]
    rfl
  · rfl

lemma charsOfAll_map_ofChars (ps : List (List Char)) : charsOfAll (ps.map ofChars) = .ok ps := by
  have hchars (p : List Char) : chars (ofChars p) = .ok p := by
    rw [chars, ofChars, Value.display, ok_bind, String.toList_ofList]
    rfl
  induction ps with
  | nil => rfl
  | cons p ps ih =>
    rw [List.map_cons, charsOfAll, hchars, ok_bind, ih, ok_bind]
    rfl

lemma joinOf_ofChars (ps : List (List Char)) (d : String) :
    joinOf (.list (ps.map ofChars)) (.text d) = .ok (ofChars (join d.toList ps)) := by
  have hsep : chars (.text d) = .ok d.toList := rfl
  simp only [joinOf, hsep, ok_bind, charsOfAll_map_ofChars]
  rfl

lemma piecesAt_of_ne (hblank : d ≠ " ") (cs : List Char) :
    piecesAt d.toList cs = cut d.toList cs := by
  refine if_neg ?_
  rw [beq_iff_eq]
  exact fun h => hblank (String.toList_inj.1 h)

lemma piecesAt_space (cs : List Char) : piecesAt " ".toList cs = words cs :=
  if_pos (by decide)

lemma splitOf_all (hd : d ≠ "") (s : String) :
    splitOf (.text s) (.text d) (.int (-1)) =
      .ok (.list ((piecesAt d.toList s.toList).map ofChars)) :=
  splitOf_text hd s (-1)

/-- Lists of characters as texts. -/
lemma map_ofChars_eq (ps : List (List Char)) :
    ps.map ofChars = (ps.map String.ofList).map Value.text := by
  rw [List.map_map]
  rfl

/-- Texts as lists of characters. -/
lemma map_text_eq (xs : List String) : xs.map Value.text = (xs.map String.toList).map ofChars := by
  simp [ofChars, Function.comp_def]

end TextFunction

namespace Catalog

open Text TextFunction

lemma carryOut_split {split : Routine} (h : texts.lookup "Split" = some split) (v d n : Value)
    (w : World) :
    (split.call [v] []).carryOut w = (splitOf v (.text " ") (.int (-1)), w) ∧
    (split.call [v, d] []).carryOut w = (splitOf v d (.int (-1)), w) ∧
    (split.call [v, d, n] []).carryOut w = (splitOf v d n, w) := by
  obtain rfl : _ = split := Option.some.inj h
  exact ⟨carryOut_of_run rfl rfl w, carryOut_of_run rfl rfl w, carryOut_of_run rfl rfl w⟩

lemma carryOut_join {join : Routine} (h : texts.lookup "Join" = some join) (v d : Value)
    (w : World) :
    (join.call [v] []).carryOut w = (joinOf v (.text " "), w) ∧
    (join.call [v, d] []).carryOut w = (joinOf v d, w) := by
  obtain rfl : _ = join := Option.some.inj h
  exact ⟨carryOut_of_run rfl rfl w, carryOut_of_run rfl rfl w⟩

/-- `Split` at a delimiter other than a single space. -/
lemma carryOut_split_pieces {split : Routine} (h : texts.lookup "Split" = some split) {d : String}
    (hd : d ≠ "") (hblank : d ≠ " ") (s : String) (w : World) :
    (split.call [.text s, .text d] []).carryOut w =
      (.ok (.list (((cut d.toList s.toList).map String.ofList).map .text)), w) := by
  rw [(carryOut_split h _ _ .null w).2.1, splitOf_all hd, piecesAt_of_ne hblank, map_ofChars_eq]

/-- `Split` without a delimiter. -/
lemma carryOut_split_words {split : Routine} (h : texts.lookup "Split" = some split) (s : String)
    (w : World) :
    (split.call [.text s] []).carryOut w =
      (.ok (.list (((words s.toList).map String.ofList).map .text)), w) := by
  rw [(carryOut_split h _ .null .null w).1, splitOf_all (by decide), piecesAt_space, map_ofChars_eq]

lemma carryOut_join_pieces {join : Routine} (h : texts.lookup "Join" = some join)
    (ps : List (List Char)) (d : String) (w : World) :
    (join.call [.list ((ps.map String.ofList).map .text), .text d] []).carryOut w =
      (.ok (.text (.ofList (Text.join d.toList ps))), w) := by
  rw [(carryOut_join h _ _ w).2, ← map_ofChars_eq, joinOf_ofChars, ofChars]

/-- `Join` undoes `Split` at every delimiter but a single space. `Split` undoes `Join` with a
character other than a space that is in none of the texts. Without a delimiter `Split` gives the
words of a text, which hold all of its characters but the blanks, and the joined words have the same
words. -/
theorem join_split_inverse {split join : Routine} (hsplit : texts.lookup "Split" = some split)
    (hjoin : texts.lookup "Join" = some join) (w : World) :
    (∀ s d : String, d ≠ "" → d ≠ " " → ∃ pieces : List String,
      (split.call [.text s, .text d] []).carryOut w = (.ok (.list (pieces.map .text)), w) ∧
      (join.call [.list (pieces.map .text), .text d] []).carryOut w = (.ok (.text s), w)) ∧
    (∀ (xs : List String) (c : Char), xs ≠ [] → c ≠ ' ' → (∀ x ∈ xs, c ∉ x.toList) → ∃ t : String,
      (join.call [.list (xs.map .text), .text (String.singleton c)] []).carryOut w =
        (.ok (.text t), w) ∧
      (split.call [.text t, .text (String.singleton c)] []).carryOut w =
        (.ok (.list (xs.map .text)), w)) ∧
    (∀ s : String, ∃ (xs : List String) (t : String),
      (split.call [.text s] []).carryOut w = (.ok (.list (xs.map .text)), w) ∧
      (∀ x ∈ xs, x ≠ "" ∧ ∀ c ∈ x.toList, isBlank c = false) ∧
      xs.flatMap String.toList = s.toList.filter (fun c => !isBlank c) ∧
      (join.call [.list (xs.map .text)] []).carryOut w = (.ok (.text t), w) ∧
      (split.call [.text t] []).carryOut w = (.ok (.list (xs.map .text)), w)) := by
  refine ⟨?_, ?_, ?_⟩
  · intro s d hd hblank
    have hsep : d.toList ≠ [] := by simpa using hd
    refine ⟨(cut d.toList s.toList).map String.ofList, carryOut_split_pieces hsplit hd hblank s w,
      ?_⟩
    rw [carryOut_join_pieces hjoin, join_cut hsep, String.ofList_toList]
  · intro xs c hne hc hxs
    have hone : (String.singleton c).toList = [c] := String.toList_singleton c
    have hempty : String.singleton c ≠ "" := by
      intro h
      simpa [hone] using congrArg String.toList h
    have hblank : String.singleton c ≠ " " := by
      intro h
      simpa [hone, hc] using congrArg String.toList h
    refine ⟨.ofList (Text.join [c] (xs.map String.toList)), ?_, ?_⟩
    · rw [(carryOut_join hjoin _ _ w).2, map_text_eq, joinOf_ofChars, hone, ofChars]
    · rw [carryOut_split_pieces hsplit hempty hblank, hone, String.toList_ofList,
        cut_join_singleton (by simpa using hne) (by simpa using hxs), ← map_ofChars_eq,
          ← map_text_eq]
  · intro s
    have hwords := forall_mem_words s.toList
    refine ⟨(words s.toList).map String.ofList, .ofList (Text.join [' '] (words s.toList)),
      carryOut_split_words hsplit s w, ?_, ?_, ?_, ?_⟩
    · intro x hx
      obtain ⟨p, hp, rfl⟩ := List.mem_map.1 hx
      rw [String.toList_ofList]
      exact ⟨by simpa using (hwords p hp).1, (hwords p hp).2⟩
    · rw [List.flatMap_map, ← flatten_words, List.flatMap_def]
      simp
    · rw [(carryOut_join hjoin _ .null w).1, ← map_ofChars_eq, joinOf_ofChars]
      rfl
    · rw [carryOut_split_words hsplit, String.toList_ofList, words_join hwords]

/-- A delimiter that overlaps itself, texts one of which is empty, and blanks of several kinds. -/
theorem join_split_inverse_overlapping : ∃ split join, texts.lookup "Split" = some split ∧
    texts.lookup "Join" = some join ∧
    (split.call [.text "baaab", .text "aa"] []).carryOut Script.firstScene.world =
      (.ok (.list [.text "b", .text "ab"]), Script.firstScene.world) ∧
    (join.call [.list [.text "b", .text "ab"], .text "aa"] []).carryOut Script.firstScene.world =
      (.ok (.text "baaab"), Script.firstScene.world) ∧
    (split.call [.text "a,,b", .text ","] []).carryOut Script.firstScene.world =
      (.ok (.list [.text "a", .text "", .text "b"]), Script.firstScene.world) ∧
    (split.call [.text " a\tb "] []).carryOut Script.firstScene.world =
      (.ok (.list [.text "a", .text "b"]), Script.firstScene.world) ∧
    (split.call [.text "a b"] []).carryOut Script.firstScene.world =
      (.ok (.list [.text "a", .text "b"]), Script.firstScene.world) := by
  obtain ⟨split, hsplit⟩ : ∃ split, texts.lookup "Split" = some split := ⟨_, rfl⟩
  obtain ⟨join, hjoin⟩ : ∃ join, texts.lookup "Join" = some join := ⟨_, rfl⟩
  obtain ⟨hundo, hredo, hwords⟩ := join_split_inverse hsplit hjoin Script.firstScene.world
  have hcut : cut "aa".toList "baaab".toList = [['b'], ['a', 'b']] := by
    have hfirst : FirstAt "aa".toList "baaab".toList 1 :=
      firstAt_succ_iff.2 ⟨by decide, firstAt_zero (by decide)⟩
    rw [cut_of_firstAt (by decide) hfirst]
    exact congrArg (['b'] :: ·) (cut_of_missing (by decide))
  have hpieces : (split.call [.text "baaab", .text "aa"] []).carryOut Script.firstScene.world =
      (.ok (.list [.text "b", .text "ab"]), Script.firstScene.world) := by
    rw [carryOut_split_pieces hsplit (by decide) (by decide), hcut]
    rfl
  have hblanks : (split.call [.text " a\tb "] []).carryOut Script.firstScene.world =
      (.ok (.list [.text "a", .text "b"]), Script.firstScene.world) := by
    rw [(carryOut_split hsplit _ .null .null _).1]
    rfl
  refine ⟨split, join, hsplit, hjoin, hpieces, ?_, ?_, hblanks, ?_⟩
  · obtain ⟨pieces, hsame, hjoined⟩ := hundo "baaab" "aa" (by decide) (by decide)
    rw [hpieces] at hsame
    rwa [← Value.list.inj (Except.ok.inj (Prod.mk.inj hsame).1)] at hjoined
  · obtain ⟨t, ht, hback⟩ := hredo ["a", "", "b"] ',' (by decide) (by decide) (by decide)
    rw [(carryOut_join hjoin _ _ _).2] at ht
    rwa [← Value.text.inj (Except.ok.inj (Prod.mk.inj ht).1)] at hback
  · obtain ⟨xs, t, hxs, -, -, ht, hback⟩ := hwords " a\tb "
    rw [hblanks] at hxs
    rw [← Value.list.inj (Except.ok.inj (Prod.mk.inj hxs).1)] at ht hback
    rw [(carryOut_join hjoin _ .null _).1] at ht
    rwa [← Value.text.inj (Except.ok.inj (Prod.mk.inj ht).1)] at hback

lemma cut_three_letters : cut ",".toList "a,b,c".toList = [['a'], ['b'], ['c']] := by
  change cut [','] (Text.join [','] [['a'], ['b'], ['c']]) = _
  exact cut_join_singleton (by decide) (by decide)

/-- A limit keeps the first pieces, at most as many as it says, and drops the others. The text is
joined again exactly if there were no others; otherwise what is joined is a beginning of the text,
and the delimiter and the joined others are lost. -/
theorem split_limited {split join : Routine} (hsplit : texts.lookup "Split" = some split)
    (hjoin : texts.lookup "Join" = some join) (s : String) {d : String} (hd : d ≠ "")
    (hblank : d ≠ " ") {n : Int} (hn : 1 ≤ n) (w : World) :
    ∃ (pieces : List String) (joined : String),
      (split.call [.text s, .text d] []).carryOut w = (.ok (.list (pieces.map .text)), w) ∧
      (split.call [.text s, .text d, .int n] []).carryOut w =
        (.ok (.list ((pieces.take n.toNat).map .text)), w) ∧
      ((pieces.take n.toNat).length : Int) ≤ n ∧
      (join.call [.list ((pieces.take n.toNat).map .text), .text d] []).carryOut w =
        (.ok (.text joined), w) ∧
      (joined = s ↔ (pieces.length : Int) ≤ n) ∧
      (n < pieces.length → ∃ rest : String,
        (join.call [.list ((pieces.drop n.toNat).map .text), .text d] []).carryOut w =
          (.ok (.text rest), w) ∧
        s = joined ++ d ++ rest) := by
  have hsep : d.toList ≠ [] := by simpa using hd
  have hpos : 0 < n.toNat := by omega
  have hwhole : Text.join d.toList (cut d.toList s.toList) = s.toList := join_cut hsep s.toList
  refine ⟨(cut d.toList s.toList).map String.ofList,
    .ofList (Text.join d.toList ((cut d.toList s.toList).take n.toNat)),
    carryOut_split_pieces hsplit hd hblank s w, ?_, ?_, ?_, ?_, ?_⟩
  · rw [(carryOut_split hsplit _ _ _ w).2.2, splitOf_text hd, if_pos (by omega),
      piecesAt_of_ne hblank, map_ofChars_eq, List.map_take]
  · have hle := List.length_take_le n.toNat ((cut d.toList s.toList).map String.ofList)
    omega
  · rw [← List.map_take, carryOut_join_pieces hjoin]
  · rw [← String.toList_inj, String.toList_ofList, List.length_map]
    nth_rewrite 2 [← hwhole]
    rw [join_take_eq_iff hsep hpos]
    omega
  · intro hmore
    rw [List.length_map] at hmore
    refine ⟨.ofList (Text.join d.toList ((cut d.toList s.toList).drop n.toNat)), ?_, ?_⟩
    · rw [← List.map_drop, carryOut_join_pieces hjoin]
    · rw [← String.toList_inj, String.toList_append, String.toList_append, String.toList_ofList,
        String.toList_ofList, join_take_append_join_drop d.toList hpos (by omega), hwhole]

/-- A limit that is the number of the pieces drops nothing. -/
theorem split_limited_three : ∃ split join, texts.lookup "Split" = some split ∧
    texts.lookup "Join" = some join ∧
    (split.call [.text "a,b,c", .text ",", .int 3] []).carryOut Script.firstScene.world =
      (.ok (.list [.text "a", .text "b", .text "c"]), Script.firstScene.world) ∧
    (join.call [.list [.text "a", .text "b", .text "c"], .text ","] []).carryOut
      Script.firstScene.world =
      (.ok (.text "a,b,c"), Script.firstScene.world) := by
  obtain ⟨split, hsplit⟩ : ∃ split, texts.lookup "Split" = some split := ⟨_, rfl⟩
  obtain ⟨join, hjoin⟩ : ∃ join, texts.lookup "Join" = some join := ⟨_, rfl⟩
  obtain ⟨pieces, joined, hall, hfirst, -, hjoined, hiff, -⟩ :=
    split_limited hsplit hjoin "a,b,c" (d := ",")
    (by decide) (by decide) (n := 3) (by decide) Script.firstScene.world
  have hpieces : pieces.map Value.text = [.text "a", .text "b", .text "c"] := by
    rw [carryOut_split_pieces hsplit (by decide) (by decide), cut_three_letters] at hall
    exact (Value.list.inj (Except.ok.inj (Prod.mk.inj hall).1)).symm
  have hlength : pieces.length = 3 := by
    rw [← List.length_map, hpieces]
    rfl
  rw [List.take_of_length_le (by rw [hlength]; decide), hpieces] at hfirst hjoined
  rw [hiff.2 (by rw [hlength]; decide)] at hjoined
  exact ⟨split, join, hsplit, hjoin, hfirst, hjoined⟩

/-- A limit of two drops the third piece, and the text is not joined again. -/
theorem split_drops_rest : ∃ split join, texts.lookup "Split" = some split ∧
    texts.lookup "Join" = some join ∧
    (split.call [.text "a,b,c", .text ",", .int 2] []).carryOut Script.firstScene.world =
      (.ok (.list [.text "a", .text "b"]), Script.firstScene.world) ∧
    (join.call [.list [.text "a", .text "b"], .text ","] []).carryOut Script.firstScene.world =
      (.ok (.text "a,b"), Script.firstScene.world) ∧
    ¬ ∃ xs, (split.call [.text "a,b,c", .text ",", .int 2] []).carryOut Script.firstScene.world =
        (.ok (.list xs), Script.firstScene.world) ∧
      (join.call [.list xs, .text ","] []).carryOut Script.firstScene.world =
        (.ok (.text "a,b,c"), Script.firstScene.world) := by
  obtain ⟨split, hsplit⟩ : ∃ split, texts.lookup "Split" = some split := ⟨_, rfl⟩
  obtain ⟨join, hjoin⟩ : ∃ join, texts.lookup "Join" = some join := ⟨_, rfl⟩
  have hfirst :
      (split.call [.text "a,b,c", .text ",", .int 2] []).carryOut Script.firstScene.world =
      (.ok (.list [.text "a", .text "b"]), Script.firstScene.world) := by
    rw [(carryOut_split hsplit _ _ _ _).2.2, splitOf_text (by decide), piecesAt_of_ne (by decide),
      cut_three_letters]
    rfl
  have hjoined : (join.call [.list [.text "a", .text "b"], .text ","] []).carryOut
      Script.firstScene.world =
      (.ok (.text "a,b"), Script.firstScene.world) := by
    rw [(carryOut_join hjoin _ _ _).2]
    rfl
  refine ⟨split, join, hsplit, hjoin, hfirst, hjoined, ?_⟩
  rintro ⟨xs, hxs, hwhole⟩
  rw [hfirst] at hxs
  rw [← Value.list.inj (Except.ok.inj (Prod.mk.inj hxs).1), hjoined] at hwhole
  exact absurd (Value.text.inj (Except.ok.inj (Prod.mk.inj hwhole).1)) (by decide)

end Catalog

end ScriptHost
