import Mathlib.Data.List.Basic
import Mathlib.Data.List.TakeWhile
import ScriptHost.Script.Shape

/-!
# Readers and the pieces they take

A reader tries one length after the other. If it succeeded, the piece it took is of its kind
(`exists_of_blanks`, `exists_of_keyword`, `exists_of_char`). The other way round, it takes a known
piece if what follows fits after that piece and after none that is tried earlier
(`shortest_append`, `longest_append`).
-/

namespace ScriptHost.Script.Shape

open ScriptHost.Text

variable {R : Type}

/-! ### What was taken -/

/-- What is taken consists of characters that may be taken. -/
lemma all_of_mem_lengths {p : Char → Bool} {least n : Nat} {cs : List Char}
    (h : n ∈ lengths p least cs) : ∀ c ∈ cs.take n, p c = true := by
  intro c hc
  have hle : n ≤ (cs.takeWhile p).length := by
    simp only [lengths, List.mem_range'_1] at h
    omega
  have htake : cs.take n <+: cs.takeWhile p := by
    have hprefix := List.takeWhile_prefix (l := cs) p
    rw [List.prefix_iff_eq_take.1 hprefix]
    exact (List.take_prefix_take_left hle)
  exact List.mem_takeWhile_imp (htake.subset hc)

/-- Blanks are taken from the head of the text. -/
lemma exists_of_blanks {least : Nat} {cs : List Char} {next : List Char → Option R} {r : R}
    (h : blanks least cs next = some r) :
    ∃ taken more, taken ++ more = cs ∧ least ≤ taken.length ∧
      (∀ b ∈ taken, isBlank b = true) ∧ next more = some r := by
  obtain ⟨n, hn, hr⟩ := List.exists_of_findSome?_eq_some h
  have hmem := List.mem_reverse.1 hn
  exact ⟨cs.take n, cs.drop n, List.take_append_drop n cs, least_le_of_mem_lengths hmem,
    all_of_mem_lengths hmem, hr⟩

/-- A keyword is taken from the head of the text, in any case. -/
lemma exists_of_keyword {w : String} {cs : List Char} {next : List Char → Option R} {r : R}
    (h : keyword w cs next = some r) :
    ∃ word more, word ++ more = cs ∧ sameWord word w.toList = true ∧ next more = some r := by
  unfold keyword at h
  split at h
  · next hsame => exact ⟨cs.take w.length, cs.drop w.length, List.take_append_drop _ cs, hsame, h⟩
  · cases h

/-- A character is taken where it stands. -/
lemma char_cons (c : Char) (cs : List Char) (next : List Char → Option R) :
    char c (c :: cs) next = next cs := by
  rw [char, beq_self_eq_true, if_pos rfl]

/-- A character that was taken was the first one. -/
lemma exists_of_char {c : Char} {cs : List Char} {next : List Char → Option R} {r : R}
    (h : char c cs next = some r) : ∃ rest, cs = c :: rest ∧ next rest = some r := by
  cases cs with
  | nil => cases h
  | cons d rest =>
    rw [char] at h
    split at h
    · next hc => exact ⟨rest, by rw [eq_of_beq hc], h⟩
    · cases h

/-! ### Taking a known piece -/

variable {p : Char → Bool} {least : Nat} {a b : List Char} {next : List Char → List Char → Option R}
  {r : R}

/-- The lengths that a reader may take, with that of a known piece among them. -/
lemma lengths_append (ha : ∀ c ∈ a, p c = true) (hleast : least ≤ a.length) (b : List Char) :
    lengths p least (a ++ b) = List.range' least (a.length - least) ++
      a.length :: List.range' (a.length + 1) (((a ++ b).takeWhile p).length - a.length) := by
  have hle : a.length ≤ ((a ++ b).takeWhile p).length := by
    rw [List.takeWhile_append_of_pos ha, List.length_append]
    exact Nat.le_add_right _ _
  have hcount : ((a ++ b).takeWhile p).length + 1 - least =
      (a.length - least) + (((a ++ b).takeWhile p).length - a.length + 1) := by
    omega
  have hstart : least + (a.length - least) = a.length := by omega
  rw [lengths, hcount, ← List.range'_append_1, hstart, List.range'_succ]

/-- A reader that takes as little as possible takes the first piece after which the rest fits. -/
lemma shortest_append (ha : ∀ c ∈ a, p c = true) (hleast : least ≤ a.length)
    (hnext : next a b = some r)
    (hless : ∀ x y, x ++ y = a → least ≤ x.length → y ≠ [] → next x (y ++ b) = none) :
    shortest p least (a ++ b) next = some r := by
  refine List.findSome?_eq_some_iff.2 ⟨_, _, _, lengths_append ha hleast b, by
    simpa using hnext, ?_⟩
  intro n hn
  rw [List.mem_range'_1] at hn
  have hlt : n < a.length := by omega
  rw [List.take_append_of_le_length hlt.le, List.drop_append_of_le_length hlt.le]
  refine hless _ _ (List.take_append_drop n a) ?_ ?_
  · rw [List.length_take]
    omega
  · rw [ne_eq, List.drop_eq_nil_iff]
    omega

/-- A reader that takes as much as possible takes the last piece after which the rest fits. -/
lemma longest_append (ha : ∀ c ∈ a, p c = true) (hleast : least ≤ a.length)
    (hnext : next a b = some r)
    (hmore : ∀ x y, x ++ y = b → x ≠ [] → (∀ c ∈ x, p c = true) → next (a ++ x) y = none) :
    longest p least (a ++ b) next = some r := by
  have hlengths := congrArg List.reverse (lengths_append ha hleast b)
  rw [List.reverse_append, List.reverse_cons, List.append_assoc, List.singleton_append] at hlengths
  refine List.findSome?_eq_some_iff.2 ⟨_, _, _, hlengths, by simpa using hnext, ?_⟩
  intro n hn
  rw [List.mem_reverse] at hn
  have hmem : n ∈ lengths p least (a ++ b) := by
    rw [lengths_append ha hleast b]
    simp [hn]
  have hall := all_of_mem_lengths hmem
  have hlt : a.length < n := (List.mem_range'_1.1 hn).1
  have hle : n ≤ (a ++ b).length := by
    have hcount := (List.mem_range'_1.1 hn).2
    have htake : ((a ++ b).takeWhile p).length ≤ (a ++ b).length :=
      (List.takeWhile_sublist p).length_le
    omega
  obtain ⟨k, rfl⟩ := Nat.exists_eq_add_of_lt hlt
  have htake : (a ++ b).take (a.length + k + 1) = a ++ b.take (k + 1) := by
    rw [Nat.add_assoc, List.take_length_add_append]
  have hdrop : (a ++ b).drop (a.length + k + 1) = b.drop (k + 1) := by
    rw [Nat.add_assoc, List.drop_length_add_append]
  rw [htake] at hall
  rw [htake, hdrop]
  refine hmore _ _ (List.take_append_drop (k + 1) b) ?_ fun c hc =>
    hall c (List.mem_append_right a hc)
  rw [ne_eq, List.take_eq_nil_iff]
  rintro (h | rfl)
  · omega
  · simp only [List.append_nil] at hle
    omega

/-- A keyword is taken where it stands. -/
lemma keyword_append {w : String} {word : List Char} (h : sameWord word w.toList = true)
    (cs : List Char) (next : List Char → Option R) : keyword w (word ++ cs) next = next cs := by
  have hlen : w.length = word.length := by
    rw [length_eq_of_sameWord h, String.length_toList]
  rw [keyword, hlen, List.take_left, List.drop_left, if_pos h]

/-- All blanks before a text that starts with another character are taken. -/
lemma blanks_append {l m : List Char} {next : List Char → Option R} (hl : ∀ c ∈ l, isBlank c = true)
    (hleast : least ≤ l.length) (hm : ∀ c ∈ m.head?, isBlank c = false) (hnext : next m = some r) :
    blanks least (l ++ m) next = some r := by
  refine longest_append hl hleast hnext fun x y hxy hne hx => ?_
  obtain ⟨c, x, rfl⟩ := List.exists_cons_of_ne_nil hne
  have hblank := hx c List.mem_cons_self
  rw [hm c (by rw [← hxy]; rfl)] at hblank
  cases hblank

/-- No comma is read where a text comes first that ends with no blank and has no comma. -/
lemma comma_eq_none {y : List Char} {next : List Char → Option R} (hy : y ≠ [])
    (hlast : ∀ c ∈ y.getLast?, isBlank c = false) (hcomma : ',' ∉ y) (z : List Char) :
    comma (y ++ z) next = none := by
  rw [Option.eq_none_iff_forall_ne_some]
  intro res h
  obtain ⟨taken, more, hcut, -, hblank, h⟩ := exists_of_blanks h
  obtain ⟨rest, rfl, -⟩ := exists_of_char h
  have hend := hlast _ (List.getLast?_eq_some_getLast hy)
  have hmem := List.getLast_mem hy
  rcases List.append_eq_append_iff.1 hcut with ⟨x, hx, hz⟩ | ⟨x, hx, -⟩
  · cases x with
    | nil =>
      rw [hblank _ (by rw [← List.append_nil taken, ← hx]; exact hmem)] at hend
      cases hend
    | cons c x =>
      obtain ⟨rfl, -⟩ := List.cons.inj hz
      exact hcomma (by rw [hx]; simp)
  · rw [hblank _ (by rw [hx]; exact List.mem_append_left x hmem)] at hend
    cases hend

/-- A comma is taken with the blanks around it. -/
lemma comma_append {before after m : List Char} {next : List Char → Option R}
    (hbefore : ∀ c ∈ before, isBlank c = true) (hafter : ∀ c ∈ after, isBlank c = true)
    (hm : ∀ c ∈ m.head?, isBlank c = false) (hnext : next m = some r) :
    comma (before ++ ',' :: (after ++ m)) next = some r := by
  refine blanks_append hbefore (Nat.zero_le _) ?_ ?_
  · rintro c ⟨⟩
    decide
  · rw [char, if_pos (by decide)]
    exact blanks_append hafter (Nat.zero_le _) hm hnext

/-- A text that goes on is not done. -/
lemma done_eq_none {cs : List Char} (hne : cs ≠ []) (hbreak : cs ≠ ['\n']) (r : R) :
    done cs r = none := by
  have hend : ¬ atEnd cs = true := by
    intro hend
    rcases (Bool.or_eq_true _ _).mp hend with h | h
    · exact hne (List.isEmpty_iff.1 h)
    · exact hbreak (eq_of_beq h)
  rw [done, if_neg hend]

/-- A text without a newline is in one line. -/
lemma inLine_of_notMem {cs : List Char} (h : '\n' ∉ cs) : ∀ c ∈ cs, inLine c = true := by
  intro c hc
  refine bne_iff_ne.2 ?_
  rintro rfl
  exact h hc

/-- A part before a comma ends where the blanks before the comma begin. -/
lemma part_comma {s before after m : List Char} {k : List Char → List Char → Option R}
    {d : List Char → R} (hs : s ≠ []) (hlast : ∀ c ∈ s.getLast?, isBlank c = false)
    (hcomma : ',' ∉ s) (hline : '\n' ∉ s) (hbefore : ∀ c ∈ before, isBlank c = true)
    (hafter : ∀ c ∈ after, isBlank c = true) (hm : ∀ c ∈ m.head?, isBlank c = false)
    (hk : k s m = some r) :
    part (s ++ (before ++ ',' :: (after ++ m))) (fun x cs => (comma cs (k x)).or (done cs (d x))) =
      some r := by
  refine shortest_append (inLine_of_notMem hline) (List.length_pos_of_ne_nil hs) ?_ ?_
  · rw [comma_append hbefore hafter hm hk, Option.some_or]
  · intro x y hxy _ hy
    have hend : ∀ c ∈ y.getLast?, isBlank c = false := by
      intro c hc
      refine hlast c ?_
      rw [← hxy, List.getLast?_append_of_ne_nil _ hy]
      exact hc
    have hnone : ',' ∉ y := fun hmem => hcomma (by rw [← hxy]; exact List.mem_append_right x hmem)
    have hmem : ',' ∈ y ++ (before ++ ',' :: (after ++ m)) := by simp
    have hbreak : y ++ (before ++ ',' :: (after ++ m)) ≠ ['\n'] := by
      intro heq
      rw [heq] at hmem
      exact absurd hmem (by decide)
    rw [comma_eq_none hy hend hnone, done_eq_none (List.ne_nil_of_mem hmem) hbreak, Option.or_none]

/-- A part after which nothing else fits goes to the end. -/
lemma part_end {t : List Char} {f : List Char → List Char → Option R} {d : List Char → R}
    (ht : t ≠ []) (hline : '\n' ∉ t) (hf : ∀ x y, x ++ y = t → f x y = none) :
    part t (fun x cs => (f x cs).or (done cs (d x))) = some (d t) := by
  have hend : part (t ++ []) (fun x cs => (f x cs).or (done cs (d x))) = some (d t) := by
    refine shortest_append (inLine_of_notMem hline) (List.length_pos_of_ne_nil ht) ?_ ?_
    · rw [hf t [] (List.append_nil t)]
      rfl
    · intro x y hxy _ hy
      have hbreak : y ≠ ['\n'] := by
        rintro rfl
        exact hline (by rw [← hxy]; simp)
      rw [List.append_nil, hf x y hxy, done_eq_none hy hbreak]
      rfl
  rwa [List.append_nil] at hend

/-- Without a comma none is taken. -/
lemma comma_eq_none_of_notMem {cs : List Char} {next : List Char → Option R} (h : ',' ∉ cs) :
    comma cs next = none := by
  rw [Option.eq_none_iff_forall_ne_some]
  intro res hres
  obtain ⟨taken, more, hcut, -, -, hres⟩ := exists_of_blanks hres
  obtain ⟨rest, rfl, -⟩ := exists_of_char hres
  exact h (by rw [← hcut]; simp)

end ScriptHost.Script.Shape
