import Mathlib.Data.List.Chain
import Mathlib.Data.List.Nodup
import Mathlib.Data.List.SplitBy
import ScriptHost.Proofs.Substitution

/-!
# Constants, one pass after the other and all at once

A session knows each constant by two spellings, in capitals and as it is usually written. For each
of them it goes through a line from left to right and puts the value where the name stands, in any
case, with an edge of a word on either side (`pass`). What comes of all these passes can be said at
once: every maximal run of word characters that names a constant is replaced by its value, and
nothing else is changed (`wordwise`). A name is a run of word characters, since a letter that is
compared like a plain one belongs to words; a value has only digits, so that it neither names a
constant nor makes a run out of two; and no two names are the same. So the passes may be made in any
order, and making them again changes nothing (`foldl_pass_eq`).
-/

namespace ScriptHost.Text.Ranges

/-! ### Looking up a table -/

/-- A range with a smaller index lies before one with a larger index. -/
lemma rel_of_lt {r : Ranges} {i j : Nat} {p q : Nat × Nat} (hp : r.pairs[i]? = some p)
    (hq : r.pairs[j]? = some q) (hij : i < j) : Before p q := by
  rw [← Array.getElem?_toList] at hp hq
  obtain ⟨hi, rfl⟩ := List.getElem?_eq_some_iff.1 hp
  obtain ⟨hj, rfl⟩ := List.getElem?_eq_some_iff.1 hq
  exact List.pairwise_iff_getElem.1 r.ascending i j hi hj hij

/-- Bisection does not miss a code point of one of the ranges. -/
lemma search_of_getElem? {r : Ranges} {n i : Nat}
    {p : Nat × Nat} (hp : r.pairs[i]? = some p) (hlow : p.1 ≤ n) (hhigh : n ≤ p.2) {lo hi : Nat}
    (hlo : lo ≤ i) (hhi : i < hi) (hsize : hi ≤ r.pairs.size) : r.search n lo hi = true := by
  fun_induction search r n lo hi with
  | case1 lo hi hlt mid hnone =>
    have hmid := Array.getElem?_eq_none_iff.1 hnone
    omega
  | case2 lo hi hlt mid a b hget hbelow ih =>
    -- The code point lies below the range in the middle, so its range comes before that.
    refine ih hlo ?_ (by omega)
    rcases Nat.lt_trichotomy i mid with hlt | rfl | hlt
    · exact hlt
    · obtain rfl : p = (a, b) := Option.some.inj (hp.symm.trans hget)
      omega
    · obtain ⟨hab, hbp⟩ := rel_of_lt hget hp hlt
      dsimp only at hab hbp
      omega
  | case3 lo hi hlt mid a b hget hbelow habove ih =>
    refine ih ?_ hhi hsize
    rcases Nat.lt_trichotomy i mid with hlt | rfl | hlt
    · obtain ⟨-, hpa⟩ := rel_of_lt hp hget hlt
      dsimp only at hpa
      omega
    · obtain rfl : p = (a, b) := Option.some.inj (hp.symm.trans hget)
      omega
    · exact hlt
  | case4 => rfl
  | case5 lo hi hlt => omega

/-- A code point in one of the ranges is found. -/
theorem contains_of_mem {r : Ranges} {n : Nat} {p : Nat × Nat}
    (hp : p ∈ r.pairs) (hlow : p.1 ≤ n) (hhigh : n ≤ p.2) : r.contains n = true := by
  obtain ⟨i, hi⟩ := Array.getElem?_of_mem hp
  have hsize := (Array.getElem?_eq_some_iff.1 hi).1
  exact search_of_getElem? hi hlow hhigh (Nat.zero_le i) hsize le_rfl

end ScriptHost.Text.Ranges

namespace ScriptHost.Script

open ScriptHost.Number ScriptHost.Text

/-! ### Letters that are compared like plain ones -/

set_option maxRecDepth 20000 in
/-- The ranges that hold the long s, the dotted and the dotless i, and the kelvin sign. -/
lemma mem_wordRanges : (0xf8, 0x2c1) ∈ wordRanges.pairs ∧ (0x212a, 0x212d) ∈ wordRanges.pairs := by
  unfold wordRanges Ranges.ofRows tableItems
  simp only [List.flatMap_cons, List.mem_toArray]
  repeat rw [String.toList_ofList]
  decide

/-- A letter that is compared like a plain word character belongs to words. -/
lemma isWord_of_isPlainWord_fold {c : Char} (h : isPlainWord (fold c) = true) :
    isWord c = true := by
  by_cases hplain : c.toNat < 128
  · exact forall_plain (P := fun c => isPlainWord (fold c) = true → isWord c = true) (by decide)
      hplain h
  · obtain ⟨hwide, hkelvin⟩ := mem_wordRanges
    rw [isWord, if_neg hplain]
    by_cases hletter : c.toNat = 0x17f ∨ c.toNat = 0x130 ∨ c.toNat = 0x131
    · exact Ranges.contains_of_mem hwide (by dsimp only; omega)
        (by dsimp only; omega)
    · by_cases hsign : c.toNat = 0x212a
      · exact Ranges.contains_of_mem hkelvin (by dsimp only; omega)
          (by dsimp only; omega)
      · have hsame : fold c = c := by
          unfold fold
          grind
        rw [hsame] at h
        exact absurd (toNat_lt_of_isPlainWord h) hplain

/-- A spelling of a name consists of word characters. -/
lemma IsName.isWord_of_sameWord {name w : List Char} (hname : IsName name)
    (h : sameWord name w = true) : ∀ c ∈ w, isWord c = true := by
  intro c hc
  have hmap : name.map fold = w.map fold := eq_of_beq h
  obtain ⟨d, hd, hfold⟩ := List.mem_map.1 (hmap ▸ List.mem_map_of_mem hc)
  apply isWord_of_isPlainWord_fold
  rw [← hfold]
  exact forall_plain (P := fun d => isPlainWord d = true → isPlainWord (fold d) = true) (by decide)
    (hname.plain d hd) (hname.chars d hd)

/-! ### One pass -/

/-- Whether there is an edge of a word between two characters, or at an end of the text. -/
def isEdge (before after : Option Char) : Bool :=
  before.any isWord != after.any isWord

/-- Whether a name stands at the start of a text, in any case and between two edges of words;
`before` is the character in front of the text. -/
def namedAt (name : List Char) (before : Option Char) (cs : List Char) : Bool :=
  isEdge before cs.head? && sameWord name (cs.take name.length) &&
    isEdge (cs.take name.length).getLast? (cs.drop name.length).head?

/-- Puts `new` wherever a name stands, from left to right. -/
def replaceNamed (name new : List Char) (before : Option Char) : List Char → List Char
  | [] => []
  | c :: cs =>
    if namedAt name before (c :: cs) then
      new ++ replaceNamed name new ((c :: cs).take name.length).getLast? (cs.drop (name.length - 1))
    else c :: replaceNamed name new (some c) cs
termination_by cs => cs.length
decreasing_by
  · simp only [List.length_drop, List.length_cons]
    omega
  · simp

/-- The pass over a line that replaces one name by a value. -/
def pass (line : List Char) (c : String × Nat) : List Char :=
  replaceNamed c.1.toList (natDigits c.2) none line

/-- The names of the constants in both spellings, in the order in which a session learns them. -/
def constantTable : List (String × Nat) :=
  constants.flatMap fun c => [(capitalName c.1, c.2), c]

section Pass

variable {name new : List Char} (hname : IsName name)

/-- Inside a word no name begins. -/
lemma replaceNamed_inside {d : Char} (hd : isWord d = true) {w : List Char}
    (hw : ∀ c ∈ w, isWord c = true) (tail : List Char) :
    replaceNamed name new (some d) (w ++ tail) =
      w ++ replaceNamed name new (d :: w).getLast? tail := by
  induction w generalizing d with
  | nil => rfl
  | cons c w ih =>
    have hc := hw c List.mem_cons_self
    have hedge : namedAt name (some d) (c :: (w ++ tail)) = false := by
      simp [namedAt, isEdge, hd, hc]
    rw [List.cons_append, replaceNamed, hedge, if_neg Bool.false_ne_true,
      ih hc fun e he => hw e (List.mem_cons_of_mem c he), List.cons_append, List.getLast?_cons_cons]

include hname

/-- Where a word begins, a name stands exactly if the word is a spelling of it. -/
lemma namedAt_word {before : Option Char} (hbefore : before.any isWord = false) {w tail : List Char}
    (hne : w ≠ []) (hw : ∀ c ∈ w, isWord c = true) (htail : tail.head?.any isWord = false) :
    namedAt name before (w ++ tail) = sameWord name w := by
  have hlast {u : List Char} (hu : u ≠ []) (hall : ∀ c ∈ u, isWord c = true) :
      u.getLast?.any isWord = true := by
    rw [List.getLast?_eq_some_getLast hu, Option.any_some]
    exact hall _ (List.getLast_mem hu)
  have hfirst : isEdge before (w ++ tail).head? = true := by
    obtain ⟨c, w, rfl⟩ := List.exists_cons_of_ne_nil hne
    simp [isEdge, hbefore, hw c List.mem_cons_self]
  rw [namedAt, hfirst, Bool.true_and, Bool.eq_iff_iff, Bool.and_eq_true]
  constructor
  · rintro ⟨hsame, hedge⟩
    -- What is taken for the name ends where the word ends: it is not inside a word that goes on,
    -- and it goes over no character that belongs to no word.
    have hchars := hname.isWord_of_sameWord hsame
    have htaken : (w ++ tail).take name.length ≠ [] := by
      intro hnil
      have hlen := length_eq_of_sameWord hsame
      rw [hnil] at hlen
      exact absurd hlen (Nat.ne_of_gt hname.length_pos)
    rw [isEdge, hlast htaken hchars, bne_iff_ne, ne_eq, eq_comm, Bool.not_eq_true] at hedge
    have hcut := List.take_append_drop name.length (w ++ tail)
    rcases List.append_eq_append_iff.1 hcut with ⟨more, hmore, hdrop⟩ | ⟨more, hmore, hdrop⟩
    · cases more with
      | nil => rwa [hmore, List.append_nil]
      | cons d more =>
        have hd : isWord d = true := hw d (by rw [hmore]; simp)
        rw [hdrop, List.cons_append, List.head?_cons, Option.any_some, hd] at hedge
        cases hedge
    · cases more with
      | nil => rwa [hmore, List.append_nil] at hsame
      | cons d more =>
        have hd : isWord d = true := hchars d (by rw [hmore]; simp)
        rw [hdrop, List.cons_append, List.head?_cons, Option.any_some, hd] at htail
        cases htail
  · intro hsame
    have hlen := length_eq_of_sameWord hsame
    rw [hlen, List.take_left, List.drop_left, isEdge, hlast hne hw, htail]
    exact ⟨hsame, rfl⟩

/-- A character of no word stays where it is. -/
lemma replaceNamed_cons (before : Option Char) {c : Char} (hc : isWord c = false)
    (rest : List Char) :
    replaceNamed name new before (c :: rest) = c :: replaceNamed name new (some c) rest := by
  have hnone : namedAt name before (c :: rest) = false := by
    rw [Bool.eq_false_iff]
    intro h
    have hsame := ((Bool.and_eq_true _ _).mp ((Bool.and_eq_true _ _).mp h).1).2
    have hmem : c ∈ (c :: rest).take name.length := by
      rw [← Nat.succ_pred_eq_of_pos hname.length_pos]
      exact List.mem_cons_self
    rw [hname.isWord_of_sameWord hsame c hmem] at hc
    cases hc
  rw [replaceNamed, hnone, if_neg Bool.false_ne_true]

/-- A word is replaced if it is a spelling of the name, and stays otherwise. -/
lemma replaceNamed_word {before : Option Char} (hbefore : before.any isWord = false)
    {w tail : List Char} (hne : w ≠ []) (hw : ∀ c ∈ w, isWord c = true)
    (htail : tail.head?.any isWord = false) :
    replaceNamed name new before (w ++ tail) =
      (if sameWord name w then new else w) ++ replaceNamed name new w.getLast? tail := by
  have hnamed := namedAt_word hname hbefore hne hw htail
  obtain ⟨c, w, rfl⟩ := List.exists_cons_of_ne_nil hne
  rw [List.cons_append] at hnamed ⊢
  rw [replaceNamed, hnamed]
  by_cases hsame : sameWord name (c :: w) = true
  · have hlen : name.length = (c :: w).length := length_eq_of_sameWord hsame
    rw [if_pos hsame, if_pos hsame, hlen, ← List.cons_append, List.take_left, List.length_cons,
      Nat.add_sub_cancel, List.drop_left]
  · rw [if_neg hsame, if_neg hsame, replaceNamed_inside (hw c List.mem_cons_self) fun d hd =>
      hw d (List.mem_cons_of_mem c hd), List.cons_append]

/-- A pass changes the words that are spellings of the name and nothing else. -/
theorem replaceNamed_eq {before : Option Char} (hbefore : before.any isWord = false)
    (cs : List Char) : replaceNamed name new before cs = replaceWord name new cs := by
  have hrun {before : Option Char} (hbefore : before.any isWord = false) {w : List Char}
      (hw : ∀ c ∈ w, isWord c = true) (tail : List Char) (htail : tail.head?.any isWord = false) :
      ∃ last, replaceNamed name new before (w ++ tail) =
        replaceWord name new w ++ replaceNamed name new last tail := by
    by_cases hne : w = []
    · subst hne
      exact ⟨before, rfl⟩
    · refine ⟨w.getLast?, ?_⟩
      rw [replaceNamed_word hname hbefore hne hw htail, replaceWord_word hne hw]
  induction cs using word_induction generalizing before with
  | last w hw =>
    obtain ⟨last, hlast⟩ := hrun hbefore hw [] rfl
    rw [List.append_nil] at hlast
    rw [hlast, replaceNamed, List.append_nil]
  | cut w c rest hw hc ih =>
    obtain ⟨last, hlast⟩ := hrun hbefore hw (c :: rest) (by simp [hc])
    have hrest : replaceNamed name new (some c) rest = replaceWord name new rest := ih hc
    rw [hlast, replaceNamed_cons hname last hc, hrest, replaceWord_append_cons name new hc]

end Pass

/-! ### Runs -/

/-- The maximal runs of a text: of word characters, and of other characters. -/
def runs (cs : List Char) : List (List Char) :=
  cs.splitBy fun a b => isWord a == isWord b

/-- A run ends where the next one begins. -/
lemma runs_append {w tail : List Char} {b : Bool} (hne : w ≠ []) (hw : ∀ c ∈ w, isWord c = b)
    (htail : ∀ c ∈ tail.head?, isWord c = !b) : runs (w ++ tail) = w :: runs tail := by
  have hsingle : runs w = [w] := by
    apply List.splitBy_of_isChain hne
    apply List.Pairwise.isChain
    apply List.pairwise_of_forall_mem_list
    intro c hc d hd
    rw [hw c hc, hw d hd, beq_self_eq_true]
  have hcut : runs (w ++ tail) = runs w ++ runs tail := by
    apply List.splitBy_append
    intro c hc d hd
    rw [hw c (List.mem_of_getLast? hc), htail d hd]
    cases b <;> rfl
  rw [hcut, hsingle, List.singleton_append]

lemma exists_run {cs : List Char} (hne : cs ≠ []) :
    ∃ b w tail, cs = w ++ tail ∧ w ≠ [] ∧ (∀ c ∈ w, isWord c = b) ∧
      ∀ c ∈ tail.head?, isWord c = !b := by
  obtain ⟨c, rest, rfl⟩ := List.exists_cons_of_ne_nil hne
  refine ⟨isWord c, (c :: rest).takeWhile (isWord · == isWord c),
    (c :: rest).dropWhile (isWord · == isWord c), List.takeWhile_append_dropWhile.symm, by simp, ?_,
    ?_⟩
  · intro d hd
    exact eq_of_beq (List.all_eq_true.1 List.all_takeWhile d hd)
  · intro d hd
    have hhead := List.head?_dropWhile_not (isWord · == isWord c) (c :: rest)
    rw [Option.mem_def.1 hd] at hhead
    cases hc : isWord c with
    | true => simpa [hc] using hhead
    | false => simpa [hc] using hhead

section MapRuns

variable (f : List Char → List Char)

lemma mapWords_cons {c : Char} (hc : isWord c = false) (cs : List Char) :
    mapWords f (c :: cs) = c :: mapWords f cs :=
  mapWords_append_cons f hc [] cs

/-- A run of word characters is changed. -/
lemma mapWords_word_append {w tail : List Char} (hne : w ≠ []) (hw : ∀ c ∈ w, isWord c = true)
    (htail : ∀ c ∈ tail.head?, isWord c = false) :
    mapWords f (w ++ tail) = f w ++ mapWords f tail := by
  cases tail with
  | nil =>
    rw [List.append_nil, mapWords_word f hne hw]
    exact (List.append_nil _).symm
  | cons c tail =>
    have hc := htail c rfl
    rw [mapWords_append_cons f hc, mapWords_cons f hc, mapWords_word f hne hw]

/-- A run of other characters stays. -/
lemma mapWords_other_append {w : List Char} (hw : ∀ c ∈ w, isWord c = false) (tail : List Char) :
    mapWords f (w ++ tail) = w ++ mapWords f tail := by
  induction w with
  | nil => rfl
  | cons c w ih =>
    rw [List.cons_append, mapWords_cons f (hw c List.mem_cons_self),
      ih fun d hd => hw d (List.mem_cons_of_mem c hd), List.cons_append]

/-- Words are changed run by run. -/
theorem mapWords_eq_flatMap (cs : List Char) :
    mapWords f cs = (runs cs).flatMap fun run => if run.all isWord then f run else run := by
  induction hlen : cs.length using Nat.strongRecOn generalizing cs with
  | _ k ih =>
    by_cases hne : cs = []
    · subst hne
      rfl
    · obtain ⟨b, w, tail, rfl, hwne, hw, htail⟩ := exists_run hne
      have hrest := ih tail.length (by
        have := List.length_pos_of_ne_nil hwne
        rw [← hlen, List.length_append]
        omega) tail rfl
      rw [runs_append hwne hw htail, List.flatMap_cons, ← hrest]
      cases b with
      | true =>
        rw [mapWords_word_append f hwne hw htail, if_pos (List.all_eq_true.2 hw)]
      | false =>
        have hnot : ¬ w.all isWord = true := by
          intro hall
          have hhead := List.all_eq_true.1 hall _ (List.head_mem hwne)
          rw [hw _ (List.head_mem hwne)] at hhead
          cases hhead
        rw [mapWords_other_append f hw, if_neg hnot]

end MapRuns

/-! ### All constants at once -/

/-- Replaces every run of word characters that names a constant by its value and leaves the rest as
it is. -/
def wordwise (line : List Char) : List Char :=
  (runs line).flatMap fun run => if run.all isWord then constantText run else run

/-- One replacement after the other changes each word by itself. -/
lemma foldl_replaceConstant_eq {table : List (String × Nat)}
    (htable : ∀ c ∈ table, IsName c.1.toList) (line : List Char) :
    table.foldl replaceConstant line = mapWords (namedText table) line := by
  have hnil : table.foldl replaceConstant [] = [] := by
    clear htable
    induction table with
    | nil => rfl
    | cons c table ih => exact ih
  have hrun {w : List Char} (hw : ∀ c ∈ w, isWord c = true) :
      table.foldl replaceConstant w = mapWords (namedText table) w := by
    by_cases hne : w = []
    · subst hne
      exact hnil
    · rw [foldl_replaceConstant_word htable hne hw, mapWords_word _ hne hw]
  induction line using word_induction with
  | last w hw => exact hrun hw
  | cut w c rest hw hc ih =>
    rw [foldl_replaceConstant_append_cons table hc, mapWords_append_cons _ hc, hrun hw, ih]

/-- Capitals and small letters are compared alike. -/
lemma map_fold_upper {name : List Char} (hname : IsName name) :
    (upper name).map fold = name.map fold := by
  rw [hname.upper_eq, List.map_map]
  apply List.map_congr_left
  intro c hc
  exact forall_plain (P := fun c => fold c.toUpper = fold c) (by decide) (hname.plain c hc)

/-- Every entry of the table is a spelling of a constant. -/
lemma exists_of_mem_constantTable {c : String × Nat} (hc : c ∈ constantTable) :
    IsName c.1.toList ∧ ∃ d ∈ constants, c.2 = d.2 ∧ c.1.toList.map fold = d.1.toList.map fold := by
  obtain ⟨d, hd, hmem⟩ := List.mem_flatMap.1 hc
  have hname := isName_of_mem_constants hd
  rcases List.mem_pair.1 hmem with rfl | rfl
  · dsimp only [capitalName]
    rw [String.toList_ofList]
    exact ⟨hname.isName_upper, d, hd, rfl, map_fold_upper hname⟩
  · exact ⟨hname, c, hd, rfl, rfl⟩

lemma mem_constantTable {c : String × Nat} (hc : c ∈ constants) : c ∈ constantTable :=
  List.mem_flatMap.2 ⟨c, hc, by simp⟩

/-- No two constants have the same name, case aside. -/
lemma nodup_names : (constants.map fun c => c.1.toList.map fold).Nodup := by
  unfold constants
  simp only [List.map_cons, List.map_nil]
  repeat rw [String.toList_ofList]
  decide

/-- In whatever order the table is looked through, a word becomes the same. -/
lemma namedText_eq {table : List (String × Nat)} (htable : table.Perm constantTable)
    (w : List Char) :
    namedText table w = constantText w := by
  have hsame {c d : String × Nat} (h : c.1.toList.map fold = d.1.toList.map fold) :
      sameWord c.1.toList w = sameWord d.1.toList w := by
    rw [sameWord, sameWord, h]
  rw [namedText, constantText]
  cases hfind : constants.find? fun c => sameWord c.1.toList w with
  | none =>
    have hnone : table.find? (fun c => sameWord c.1.toList w) = none := by
      rw [List.find?_eq_none] at hfind ⊢
      intro c hc
      obtain ⟨-, d, hd, -, hfold⟩ := exists_of_mem_constantTable (htable.mem_iff.1 hc)
      rw [hsame hfold]
      exact hfind d hd
    rw [hnone]
  | some d =>
    have hd := List.mem_of_find?_eq_some hfind
    have hdw := List.find?_some hfind
    obtain ⟨c, hc⟩ : ∃ c, table.find? (fun c => sameWord c.1.toList w) = some c := by
      rw [← Option.isSome_iff_exists, List.find?_isSome]
      exact ⟨d, htable.mem_iff.2 (mem_constantTable hd), hdw⟩
    obtain ⟨-, e, he, hvalue, hfold⟩ :=
      exists_of_mem_constantTable (htable.mem_iff.1 (List.mem_of_find?_eq_some hc))
    have hcw := List.find?_some hc
    have hew : sameWord e.1.toList w = true := (hsame hfold).symm.trans hcw
    have hnames : e.1.toList.map fold = d.1.toList.map fold :=
      (eq_of_beq hew).trans (eq_of_beq hdw).symm
    obtain rfl : e = d := List.inj_on_of_nodup_map nodup_names he hd hnames
    rw [hc, Option.map_some, Option.map_some, hvalue]

/-- Replacing constants leaves none to replace. -/
lemma substitute_substitute (line : List Char) :
    substitute (substitute line) = substitute line := by
  rw [substitute_eq_self_iff]
  intro w hw c hc
  obtain ⟨u, -, rfl⟩ := exists_word_of_substitute hw
  rw [constantText]
  cases hfind : constants.find? fun c => sameWord c.1.toList u with
  | none => simpa using List.find?_eq_none.1 hfind c hc
  | some d => exact (isName_of_mem_constants hc).sameWord_natDigits d.2

/-- The passes for the two spellings of all constants, in any order, come to the same as replacing
every word that names a constant by its value and leaving everything else. Making them again changes
nothing. -/
theorem foldl_pass_eq {table : List (String × Nat)} (htable : table.Perm constantTable)
    (line : List Char) :
    table.foldl pass line = wordwise line ∧ substitute line = wordwise line ∧
      table.foldl pass (table.foldl pass line) = table.foldl pass line := by
  have hnames : ∀ c ∈ table, IsName c.1.toList := fun c hc =>
    (exists_of_mem_constantTable (htable.mem_iff.1 hc)).1
  have htext : namedText table = constantText := funext (namedText_eq htable)
  have hpass (line : List Char) : table.foldl pass line = wordwise line := by
    have hsteps : table.foldl pass line = table.foldl replaceConstant line := by
      apply List.foldl_ext
      intro cs c hc
      exact replaceNamed_eq (hnames c hc) rfl cs
    rw [hsteps, foldl_replaceConstant_eq hnames, htext, mapWords_eq_flatMap, wordwise]
  have hsubstitute (line : List Char) : substitute line = wordwise line := by
    have hconstants := foldl_replaceConstant_eq (fun _ hc => isName_of_mem_constants hc) line
    rw [substitute, hconstants, mapWords_eq_flatMap]
    rfl
  refine ⟨hpass line, hsubstitute line, ?_⟩
  rw [hpass, hpass, ← hsubstitute, ← hsubstitute, substitute_substitute]

theorem foldl_pass_eq_yesNo :
    constantTable.reverse.foldl pass "If vbYesNo=VBYES Then vbYes_ 6".toList =
      "If 4=6 Then vbYes_ 6".toList :=
  (foldl_pass_eq (List.reverse_perm constantTable) "If vbYesNo=VBYES Then vbYes_ 6".toList).1.trans
    (by decide)

end ScriptHost.Script
