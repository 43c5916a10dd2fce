import ScriptHost.Proofs.Dialects
import ScriptHost.Proofs.VariableStore

/-!
# Replacing constants in a text

The names of the constants are replaced one after the other. What comes of it is told by the words
of the text, that is, by its runs of word characters that are not parts of longer ones. Every other
character stays where it is, so a text is replaced piece by piece (`substitute_append_cons`), and a
word is replaced by the value of the constant that it names or stays (`substitute_word`). Since the
value of a constant has fewer digits than the name has letters, a text in which a constant is named
becomes shorter, and it stays as it is exactly if none is named (`substitute_eq_self_iff`).
-/

namespace ScriptHost.Script

open ScriptHost.Number ScriptHost.Text

/-! ### Changing the words of a text -/

section MapWords

variable (f : List Char → List Char)

/-- A run of word characters goes into the run that is being read. -/
lemma mapWordsFrom_word_append {w : List Char} (hw : ∀ c ∈ w, isWord c = true)
    (run rest : List Char) :
    mapWordsFrom f run (w ++ rest) = mapWordsFrom f (w.reverse ++ run) rest := by
  induction w generalizing run with
  | nil => rfl
  | cons c w ih =>
    rw [List.cons_append, mapWordsFrom, if_pos (hw c List.mem_cons_self),
      ih fun d hd => hw d (List.mem_cons_of_mem c hd)]
    simp

lemma mapWords_word {w : List Char} (hne : w ≠ []) (hw : ∀ c ∈ w, isWord c = true) :
    mapWords f w = f w := by
  have hrun : mapWords f w = changeRun f w := by
    simpa [mapWords, mapWordsFrom] using mapWordsFrom_word_append f hw [] []
  rw [hrun, changeRun, if_neg (by simpa using hne)]

/-- A character that belongs to no word divides a text. -/
lemma mapWords_append_cons {c : Char} (hc : isWord c = false) (a b : List Char) :
    mapWords f (a ++ c :: b) = mapWords f a ++ c :: mapWords f b := by
  have hfrom (run : List Char) :
      mapWordsFrom f run (a ++ c :: b) = mapWordsFrom f run a ++ c :: mapWordsFrom f [] b := by
    induction a generalizing run with
    | nil =>
      rw [List.nil_append, mapWordsFrom, mapWordsFrom, hc]
      rfl
    | cons d a ih =>
      rw [List.cons_append, mapWordsFrom, mapWordsFrom]
      split
      · exact ih (d :: run)
      · rw [ih []]
        simp
  exact hfrom []

end MapWords

/-- A text is a run of word characters, or such a run comes first in it. -/
lemma forall_isWord_or_exists (cs : List Char) :
    (∀ c ∈ cs, isWord c = true) ∨
      ∃ w c rest, cs = w ++ c :: rest ∧ (∀ d ∈ w, isWord d = true) ∧ isWord c = false := by
  induction cs with
  | nil => exact .inl (by simp)
  | cons d cs ih =>
    cases hd : isWord d with
    | false => exact .inr ⟨[], d, cs, rfl, by simp, hd⟩
    | true =>
      rcases ih with hall | ⟨w, c, rest, rfl, hw, hc⟩
      · exact .inl (List.forall_mem_cons.2 ⟨hd, hall⟩)
      · exact .inr ⟨d :: w, c, rest, rfl, List.forall_mem_cons.2 ⟨hd, hw⟩, hc⟩

/-- A text is gone through from one character of no word to the next. -/
theorem word_induction {motive : List Char → Prop}
    (last : ∀ w, (∀ c ∈ w, isWord c = true) → motive w)
    (cut : ∀ w c rest, (∀ d ∈ w, isWord d = true) → isWord c = false → motive rest →
      motive (w ++ c :: rest)) (cs : List Char) : motive cs := by
  induction hlen : cs.length using Nat.strongRecOn generalizing cs with
  | _ n ih =>
    rcases forall_isWord_or_exists cs with hall | ⟨w, c, rest, rfl, hw, hc⟩
    · exact last cs hall
    · apply cut w c rest hw hc
      apply ih rest.length _ rest rfl
      rw [← hlen, List.length_append, List.length_cons]
      omega

/-- A word of a text: a run of word characters that is not part of a longer one. -/
structure IsWordOf (w cs : List Char) : Prop where
  ne_nil : w ≠ []
  chars : ∀ c ∈ w, isWord c = true
  whole : ∃ before after, cs = before ++ w ++ after ∧
    (∀ c ∈ before.getLast?, isWord c = false) ∧ ∀ c ∈ after.head?, isWord c = false

lemma isWordOf_self {w : List Char} (hne : w ≠ []) (hw : ∀ c ∈ w, isWord c = true) :
    IsWordOf w w :=
  ⟨hne, hw, [], [], by simp, by simp, by simp⟩

/-- The words of a piece that ends a text after a character of no word are words of the text. -/
lemma IsWordOf.append_cons {w b : List Char} (h : IsWordOf w b) {c : Char}
    (hc : isWord c = false) (a : List Char) : IsWordOf w (a ++ c :: b) := by
  obtain ⟨before, after, rfl, hbefore, hafter⟩ := h.whole
  refine ⟨h.ne_nil, h.chars, a ++ c :: before, after, by simp, ?_, hafter⟩
  rw [List.getLast?_append, List.getLast?_cons]
  cases hlast : before.getLast? with
  | none => simpa using hc
  | some d => simpa using hbefore d hlast

lemma isWordOf_append_cons {w : List Char} (hne : w ≠ []) (hw : ∀ d ∈ w, isWord d = true)
    {c : Char} (hc : isWord c = false) (rest : List Char) : IsWordOf w (w ++ c :: rest) :=
  ⟨hne, hw, [], c :: rest, by simp, by simp, by simpa using hc⟩

/-! ### Replacing one word -/

section ReplaceWord

variable {name new : List Char}

lemma replaceWord_append_cons (name new : List Char) {c : Char} (hc : isWord c = false)
    (a b : List Char) :
    replaceWord name new (a ++ c :: b) = replaceWord name new a ++ c :: replaceWord name new b :=
  mapWords_append_cons _ hc a b

lemma replaceWord_word {w : List Char} (hne : w ≠ []) (hw : ∀ c ∈ w, isWord c = true) :
    replaceWord name new w = if sameWord name w then new else w :=
  mapWords_word _ hne hw

/-- A text stays as it is if the word is none of its words. -/
lemma replaceWord_eq_self {cs : List Char} (h : ∀ w, IsWordOf w cs → sameWord name w = false) :
    replaceWord name new cs = cs := by
  -- A run of word characters that is empty or no spelling of the word stays.
  have hrun {w : List Char} (hw : ∀ c ∈ w, isWord c = true)
      (hname : w ≠ [] → sameWord name w = false) : replaceWord name new w = w := by
    cases w with
    | nil => rfl
    | cons c w =>
      rw [replaceWord_word (by simp) hw, hname (by simp)]
      rfl
  induction cs using word_induction with
  | last w hw => exact hrun hw fun hne => h w (isWordOf_self hne hw)
  | cut w c rest hw hc ih =>
    rw [replaceWord_append_cons name new hc, ih fun u hu => h u (hu.append_cons hc w),
      hrun hw fun hne => h w (isWordOf_append_cons hne hw hc rest)]

/-- A text becomes shorter if one of its words is replaced by something shorter. -/
lemma length_replaceWord_lt {w cs : List Char} (hnew : new.length < name.length)
    (hw : IsWordOf w cs) (hname : sameWord name w = true) :
    (replaceWord name new cs).length < cs.length := by
  have hle (cs : List Char) : (replaceWord name new cs).length ≤ cs.length :=
    length_replaceWord_le (Nat.le_of_lt hnew) cs
  -- What comes before the word is at an end with it, and so is the word.
  have hword : (replaceWord name new w).length < w.length := by
    rw [replaceWord_word hw.ne_nil hw.chars, if_pos hname, ← length_eq_of_sameWord hname]
    exact hnew
  obtain ⟨before, after, rfl, hbefore, hafter⟩ := hw.whole
  have hright : (replaceWord name new (w ++ after)).length < (w ++ after).length := by
    cases after with
    | nil => simpa using hword
    | cons c after =>
      have hrest := hle after
      rw [replaceWord_append_cons name new (hafter c rfl)]
      simp only [List.length_append, List.length_cons]
      omega
  rcases List.eq_nil_or_concat before with rfl | ⟨before, c, rfl⟩
  · simpa using hright
  · rw [List.concat_eq_append] at hbefore ⊢
    have hc : isWord c = false := hbefore c (by simp)
    have hleft := hle before
    rw [List.append_assoc, List.append_assoc, List.singleton_append,
      replaceWord_append_cons name new hc]
    simp only [List.length_append, List.length_cons] at hright ⊢
    omega

end ReplaceWord

/-! ### Replacing the constants -/

/-- No word of a text is the name of a constant, case aside. -/
def FreeOfConstants (cs : List Char) : Prop :=
  ∀ w, IsWordOf w cs → ∀ c ∈ constants, sameWord c.1.toList w = false

/-- The value of a constant has fewer digits than its name has letters. -/
lemma digits_lt_name {c : String × Nat} (hc : c ∈ constants) :
    (natDigits c.2).length < c.1.toList.length := by
  have hall : constants.all (fun c => (natDigits c.2).length < c.1.toList.length) = true := by
    unfold constants
    simp only [List.all_cons]
    repeat rw [String.toList_ofList]
    decide
  simpa using List.all_eq_true.1 hall c hc

/-- A text is replaced piece by piece, whatever the names and values. -/
lemma foldl_replaceConstant_append_cons (table : List (String × Nat)) {c : Char}
    (hc : isWord c = false) (a b : List Char) :
    table.foldl replaceConstant (a ++ c :: b) =
      table.foldl replaceConstant a ++ c :: table.foldl replaceConstant b := by
  induction table generalizing a b with
  | nil => rfl
  | cons d table ih =>
    rw [List.foldl_cons, List.foldl_cons, List.foldl_cons, replaceConstant,
      replaceWord_append_cons _ _ hc, ih]
    rfl

/-- A text is replaced piece by piece. -/
theorem substitute_append_cons {c : Char} (hc : isWord c = false) (a b : List Char) :
    substitute (a ++ c :: b) = substitute a ++ c :: substitute b :=
  foldl_replaceConstant_append_cons constants hc a b

/-- Constants that are not named in a text leave it as it is. -/
lemma foldl_replaceConstant_eq_self {table : List (String × Nat)} {cs : List Char}
    (h : ∀ w, IsWordOf w cs → ∀ c ∈ table, sameWord c.1.toList w = false) :
    table.foldl replaceConstant cs = cs := by
  induction table with
  | nil => rfl
  | cons c table ih =>
    have hfirst : replaceConstant cs c = cs :=
      replaceWord_eq_self fun w hw => h w hw c List.mem_cons_self
    rw [List.foldl_cons, hfirst]
    exact ih fun w hw d hd => h w hw d (List.mem_cons_of_mem c hd)

/-- A text in which a constant is named becomes shorter. -/
lemma length_foldl_replaceConstant_lt {table : List (String × Nat)}
    (htable : ∀ c ∈ table, c ∈ constants) {w cs : List Char} (hw : IsWordOf w cs)
    {c : String × Nat} (hc : c ∈ table) (hname : sameWord c.1.toList w = true) :
    (table.foldl replaceConstant cs).length < cs.length := by
  induction table with
  | nil => simp at hc
  | cons d table ih =>
    have hrest : ∀ c ∈ table, c ∈ constants := fun c hc => htable c (List.mem_cons_of_mem d hc)
    rw [List.foldl_cons]
    by_cases hfirst : ∃ u, IsWordOf u cs ∧ sameWord d.1.toList u = true
    · -- The first constant makes the text shorter, and the others do not make it longer.
      obtain ⟨u, hu, hd⟩ := hfirst
      refine Nat.lt_of_le_of_lt ?_
        (length_replaceWord_lt (digits_lt_name (htable d List.mem_cons_self)) hu hd)
      exact length_foldl_replaceConstant_le table
        (fun c hc => Nat.le_of_lt (digits_lt_name (hrest c hc))) _
    · have hnone : ∀ u, IsWordOf u cs → sameWord d.1.toList u = false := fun u hu =>
        Bool.eq_false_iff.2 fun hd => hfirst ⟨u, hu, hd⟩
      have hsame : replaceConstant cs d = cs := replaceWord_eq_self hnone
      rw [hsame]
      refine ih hrest ((List.mem_cons.1 hc).resolve_left ?_)
      rintro rfl
      rw [hnone w hw] at hname
      cases hname

/-- A text stays as it is exactly if no constant is named in it. -/
theorem substitute_eq_self_iff (cs : List Char) : substitute cs = cs ↔ FreeOfConstants cs := by
  constructor
  · intro h w hw c hc
    by_contra hname
    have hlt := length_foldl_replaceConstant_lt (fun _ hd => hd) hw hc (by simpa using hname)
    rw [← substitute, h] at hlt
    exact Nat.lt_irrefl _ hlt
  · exact foldl_replaceConstant_eq_self

/-! ### Blanks around a text -/

/-- The blanks that are not plain characters, as ranges of code points. -/
def wideBlanks : List (Nat × Nat) :=
  [(0x85, 0x85), (0xa0, 0xa0), (0x1680, 0x1680), (0x2000, 0x200a), (0x2028, 0x2029),
    (0x202f, 0x202f), (0x205f, 0x205f), (0x3000, 0x3000)]

set_option maxRecDepth 20000 in
/-- The ranges of the word characters lie between those of the blanks. -/
lemma wordRanges_wideBlanks : wordRanges.pairs.all (fun p =>
    wideBlanks.all fun q => q.2 < p.1 || p.2 < q.1) = true := by
  unfold wordRanges Ranges.ofRows tableItems
  simp only [List.flatMap_cons, List.all_toArray]
  repeat rw [String.toList_ofList]
  decide +kernel

/-- No blank belongs to a word. -/
lemma isWord_of_isBlank {c : Char} (h : isBlank c = true) : isWord c = false := by
  by_cases hplain : c.toNat < 128
  · exact forall_plain (P := fun c => isBlank c = true → isWord c = false) (by decide) hplain h
  · rw [isWord, if_neg hplain, Bool.eq_false_iff]
    intro hcontains
    obtain ⟨p, hp, hlow, hhigh⟩ := Ranges.exists_of_contains hcontains
    have hcheck := Array.all_eq_true_iff_forall_mem.1 wordRanges_wideBlanks p hp
    simp only [wideBlanks, List.all_cons, List.all_nil, Bool.and_eq_true, Bool.or_eq_true,
      decide_eq_true_eq] at hcheck
    simp only [isBlank, Bool.or_eq_true, Bool.and_eq_true, decide_eq_true_eq, beq_iff_eq] at h
    omega

/-- Blanks before a text stay where they are. -/
lemma substitute_blanks_append {l : List Char} (hl : ∀ b ∈ l, isBlank b = true)
    (cs : List Char) : substitute (l ++ cs) = l ++ substitute cs := by
  induction l with
  | nil => rw [List.nil_append, List.nil_append]
  | cons b l ih =>
    have hnone : substitute [] = [] := by decide
    have hb := substitute_append_cons (isWord_of_isBlank (hl b List.mem_cons_self)) [] (l ++ cs)
    rw [hnone, ih fun d hd => hl d (List.mem_cons_of_mem b hd), List.nil_append,
      List.nil_append] at hb
    rw [List.cons_append, hb, List.cons_append]

/-- Blanks after a text stay where they are. -/
lemma substitute_append_blanks {r : List Char} (hr : ∀ b ∈ r, isBlank b = true)
    (cs : List Char) : substitute (cs ++ r) = substitute cs ++ r := by
  cases r with
  | nil => rw [List.append_nil, List.append_nil]
  | cons b r =>
    have hrest : substitute (r ++ []) = r ++ substitute [] :=
      substitute_blanks_append (fun d hd => hr d (List.mem_cons_of_mem b hd)) []
    have hnone : substitute [] = [] := by decide
    rw [List.append_nil, hnone, List.append_nil] at hrest
    rw [substitute_append_cons (isWord_of_isBlank (hr b List.mem_cons_self)), hrest]

/-- It does not matter whether the blanks around a text are removed before or after its constants
are replaced. -/
theorem strip_substitute_strip (cs : List Char) :
    strip (substitute (strip cs)) = strip (substitute cs) := by
  obtain ⟨l, r, hl, hr, hcs⟩ := exists_strip cs
  have hsplit : substitute cs = l ++ substitute (strip cs) ++ r := by
    conv => lhs; rw [hcs]
    rw [substitute_append_blanks hr, substitute_blanks_append hl]
  rw [hsplit, strip_append_append hl _ hr]

/-! ### Characters of the result -/

/-- Whether a run is kept or replaced, its characters are old ones or digits. -/
lemma mem_of_mem_mapWordsFrom {name : List Char} {v : Nat} {c : Char} (hc : c.isDigit = false)
    (run cs : List Char)
    (h : c ∈ mapWordsFrom (fun u => if sameWord name u then natDigits v else u) run cs) :
    c ∈ run ∨ c ∈ cs := by
  have hrun (run : List Char)
      (h : c ∈ changeRun (fun u => if sameWord name u then natDigits v else u) run.reverse) :
      c ∈ run := by
    rcases changeRun_eq_or name (natDigits v) run.reverse with heq | heq
    · rw [heq] at h
      exact List.mem_reverse.1 h
    · rw [heq] at h
      exact absurd h (notMem_natDigits hc v)
  induction cs generalizing run with
  | nil => exact .inl (hrun run h)
  | cons d cs ih =>
    rw [mapWordsFrom] at h
    split at h
    · rcases ih (d :: run) h with hmem | hmem
      · rcases List.mem_cons.1 hmem with rfl | hmem
        · exact .inr List.mem_cons_self
        · exact .inl hmem
      · exact .inr (List.mem_cons_of_mem d hmem)
    · rcases List.mem_append.1 h with hmem | hmem
      · exact .inl (hrun run hmem)
      · rcases List.mem_cons.1 hmem with rfl | hmem
        · exact .inr List.mem_cons_self
        · exact .inr (List.mem_cons_of_mem d ((ih [] hmem).resolve_left List.not_mem_nil))

/-- Replacing constants brings in nothing but digits. -/
theorem mem_of_mem_substitute {c : Char} (hc : c.isDigit = false) {cs : List Char}
    (h : c ∈ substitute cs) : c ∈ cs := by
  unfold substitute at h
  generalize constants = table at h
  induction table generalizing cs with
  | nil => exact h
  | cons d table ih =>
    have hfirst : c ∈ replaceConstant cs d := ih h
    exact (mem_of_mem_mapWordsFrom hc [] cs hfirst).resolve_left List.not_mem_nil

/-! ### Single words -/

/-- What a word becomes: the value of the constant that it names, or itself. -/
def constantText (w : List Char) : List Char :=
  ((constants.find? fun c => sameWord c.1.toList w).map fun c => natDigits c.2).getD w

lemma natDigits_ne_nil (n : Nat) : natDigits n ≠ [] :=
  Nat.toDigits_ne_nil

lemma toNat_lt_of_isDigit {c : Char} (h : c.isDigit = true) : c.toNat < 128 := by
  obtain ⟨-, hhigh⟩ : 48 ≤ c.toNat ∧ c.toNat ≤ 57 := by
    simpa [Char.isDigit, UInt32.le_iff_toNat_le] using h
  omega

lemma isWord_of_isDigit {c : Char} (h : c.isDigit = true) : isWord c = true :=
  forall_plain (P := fun c => c.isDigit = true → isWord c = true) (by decide)
    (toNat_lt_of_isDigit h) h

/-- Digits and plain letters are told apart case aside. -/
lemma isDigit_fold {c : Char} (hc : c.toNat < 128) : (fold c).isDigit = c.isDigit :=
  forall_plain (P := fun c => (fold c).isDigit = c.isDigit) (by decide) hc

/-- Letters stay letters case aside. -/
lemma isAlpha_fold {c : Char} (hc : c.toNat < 128) : (fold c).isAlpha = c.isAlpha :=
  forall_plain (P := fun c => (fold c).isAlpha = c.isAlpha) (by decide) hc

/-- No name starts with a plain character that is no letter. -/
lemma IsName.sameWord_cons {name : List Char} (hname : IsName name) {d : Char}
    (hd : d.toNat < 128) (hletter : d.isAlpha = false) (ds : List Char) :
    sameWord name (d :: ds) = false := by
  obtain ⟨a, as, hcons, ha⟩ := hname.first
  rw [Bool.eq_false_iff]
  intro h
  have hfold : fold a = fold d := by
    unfold sameWord at h
    rw [hcons, List.map_cons, List.map_cons, beq_iff_eq] at h
    exact (List.cons.inj h).1
  have hsame := congrArg Char.isAlpha hfold
  rw [isAlpha_fold (hname.plain a (by rw [hcons]; exact List.mem_cons_self)), isAlpha_fold hd, ha,
    hletter] at hsame
  cases hsame

lemma isAlpha_of_isDigit {c : Char} (h : c.isDigit = true) : c.isAlpha = false :=
  forall_plain (P := fun c => c.isDigit = true → c.isAlpha = false) (by decide)
    (toNat_lt_of_isDigit h) h

/-- No name is a numeral. -/
lemma IsName.sameWord_natDigits {name : List Char} (hname : IsName name) (n : Nat) :
    sameWord name (natDigits n) = false := by
  obtain ⟨d, ds, hdigits⟩ := List.exists_cons_of_ne_nil (natDigits_ne_nil n)
  have hd : d.isDigit = true :=
    isDigit_of_mem_natDigits (by rw [hdigits]; exact List.mem_cons_self)
  rw [hdigits]
  exact hname.sameWord_cons (toNat_lt_of_isDigit hd) (isAlpha_of_isDigit hd) ds

/-- A numeral stays as it is. -/
lemma foldl_replaceConstant_natDigits {table : List (String × Nat)}
    (htable : ∀ c ∈ table, IsName c.1.toList) (n : Nat) :
    table.foldl replaceConstant (natDigits n) = natDigits n := by
  induction table with
  | nil => rfl
  | cons c table ih =>
    have hfirst : replaceConstant (natDigits n) c = natDigits n := by
      rw [replaceConstant, replaceWord_word (natDigits_ne_nil n) fun d hd =>
        isWord_of_isDigit (isDigit_of_mem_natDigits hd),
        (htable c List.mem_cons_self).sameWord_natDigits]
      rfl
    rw [List.foldl_cons, hfirst]
    exact ih fun d hd => htable d (List.mem_cons_of_mem c hd)

/-- What a word becomes by a table of names and values: the value of the first name that it is a
spelling of, or itself. -/
def namedText (table : List (String × Nat)) (w : List Char) : List Char :=
  ((table.find? fun c => sameWord c.1.toList w).map fun c => natDigits c.2).getD w

/-- A word is replaced by the value of the first name that it is a spelling of, or stays. -/
lemma foldl_replaceConstant_word {table : List (String × Nat)}
    (htable : ∀ c ∈ table, IsName c.1.toList) {w : List Char} (hne : w ≠ [])
    (hw : ∀ c ∈ w, isWord c = true) : table.foldl replaceConstant w = namedText table w := by
  induction table with
  | nil => rfl
  | cons c table ih =>
    have hrest : ∀ d ∈ table, IsName d.1.toList := fun d hd => htable d (List.mem_cons_of_mem c hd)
    rw [List.foldl_cons, replaceConstant, replaceWord_word hne hw, namedText]
    cases hname : sameWord c.1.toList w with
    | true =>
      rw [if_pos rfl, foldl_replaceConstant_natDigits hrest, List.find?_cons, hname]
      rfl
    | false =>
      rw [if_neg Bool.false_ne_true, ih hrest, List.find?_cons, hname, namedText]

/-- A word is replaced by the value of the constant that it names, or stays. -/
theorem substitute_word {w : List Char} (hne : w ≠ []) (hw : ∀ c ∈ w, isWord c = true) :
    substitute w = constantText w :=
  foldl_replaceConstant_word (fun _ hc => isName_of_mem_constants hc) hne hw

/-! ### Words of the text that comes out -/

/-- A word of a text lies on one side of every character that belongs to no word. -/
lemma IsWordOf.of_append_cons {w a b : List Char} {c : Char} (hc : isWord c = false)
    (h : IsWordOf w (a ++ c :: b)) : IsWordOf w a ∨ IsWordOf w b := by
  obtain ⟨before, after, hcut, hbefore, hafter⟩ := h.whole
  have hnot : c ∉ w := by
    intro hmem
    have hword := h.chars c hmem
    rw [hc] at hword
    cases hword
  rcases List.append_eq_append_iff.1 hcut with ⟨front, hfront, hback⟩ | ⟨back, ha, hback⟩
  · cases front with
    | nil =>
      exact .inl ⟨h.ne_nil, h.chars, before, [], by simpa using hfront.symm, hbefore, by simp⟩
    | cons d front =>
      obtain ⟨rfl, hb⟩ := List.cons.inj hback
      -- The word comes after the character, since it does not hold it.
      rcases List.append_eq_append_iff.1 hfront with ⟨x, ha, hw⟩ | ⟨x, hx, hw⟩
      · exact absurd (hw ▸ by simp) hnot
      · cases x with
        | nil => exact absurd (show c ∈ w by rw [← List.nil_append w, ← hw]; simp) hnot
        | cons e x =>
          obtain ⟨rfl, rfl⟩ := List.cons.inj hw
          refine .inr ⟨h.ne_nil, h.chars, x, after, hb, ?_, hafter⟩
          intro d hd
          have hne : x ≠ [] := by
            rintro rfl
            cases hd
          have hlast : before.getLast? = x.getLast? := by
            simp [hx, List.getLast?_eq_some_getLast hne, List.getLast?_cons]
          exact hbefore d (hlast ▸ hd)
  · refine .inl ⟨h.ne_nil, h.chars, before, back, ha, hbefore, ?_⟩
    intro d hd
    refine hafter d ?_
    have hne : back ≠ [] := by
      rintro rfl
      cases hd
    rw [hback, List.head?_append_of_ne_nil _ hne]
    exact hd

/-- A run of word characters is its only word. -/
lemma IsWordOf.eq_of_forall {w t : List Char} (h : IsWordOf w t) (ht : ∀ c ∈ t, isWord c = true) :
    w = t := by
  obtain ⟨before, after, rfl, hbefore, hafter⟩ := h.whole
  have hnone (d : Char) (hd : d ∈ before ++ w ++ after) : ¬ isWord d = false := by
    rw [ht d hd]
    exact Bool.noConfusion
  obtain rfl : before = [] := by
    by_contra hne
    refine hnone (before.getLast hne) ?_ (hbefore _ (List.getLast?_eq_some_getLast hne))
    simp
  obtain rfl : after = [] := by
    by_contra hne
    refine hnone (after.head hne) ?_ (hafter _ (List.head?_eq_some_head hne))
    simp
  simp

lemma constantText_cases (w : List Char) :
    constantText w = w ∨ ∃ n, constantText w = natDigits n := by
  unfold constantText
  cases constants.find? fun c => sameWord c.1.toList w with
  | none => exact .inl rfl
  | some c => exact .inr ⟨c.2, rfl⟩

lemma isWord_constantText {w : List Char} (hw : ∀ c ∈ w, isWord c = true) :
    ∀ c ∈ constantText w, isWord c = true := by
  rcases constantText_cases w with h | ⟨n, h⟩
  · rw [h]
    exact hw
  · rw [h]
    exact fun c hc => isWord_of_isDigit (isDigit_of_mem_natDigits hc)

/-- The words of a text whose constants are replaced are what became of its words. -/
theorem exists_word_of_substitute {w cs : List Char} (h : IsWordOf w (substitute cs)) :
    ∃ u, IsWordOf u cs ∧ w = constantText u := by
  have hrun {t : List Char} (ht : ∀ c ∈ t, isWord c = true) (h : IsWordOf w (substitute t)) :
      t ≠ [] ∧ w = constantText t := by
    have hne : t ≠ [] := by
      rintro rfl
      have hnone : substitute [] = [] := by decide
      obtain ⟨before, after, hcut, -⟩ := h.whole
      rw [hnone] at hcut
      have hempty := List.append_eq_nil_iff.1 (List.append_eq_nil_iff.1 hcut.symm).1
      exact h.ne_nil hempty.2
    rw [substitute_word hne ht] at h
    exact ⟨hne, h.eq_of_forall (isWord_constantText ht)⟩
  induction cs using word_induction with
  | last t ht =>
    obtain ⟨hne, hw⟩ := hrun ht h
    exact ⟨t, isWordOf_self hne ht, hw⟩
  | cut t c rest ht hc ih =>
    rw [substitute_append_cons hc] at h
    rcases h.of_append_cons hc with h | h
    · obtain ⟨hne, hw⟩ := hrun ht h
      exact ⟨t, isWordOf_append_cons hne ht hc rest, hw⟩
    · obtain ⟨u, hu, hw⟩ := ih h
      exact ⟨u, hu.append_cons hc t, hw⟩

end ScriptHost.Script
