/-!
# Blank characters

White space in the widest sense: control characters that separate, the no-break space, and the
typographic blanks. `strip` and its halves remove blanks at the ends, `words` cuts a text into the
runs between them.
-/

namespace ScriptHost.Text

/-- White space: tab to carriage return, the four separators and the space, next line, no-break
space, and the typographic blanks up to the ideographic space. -/
def isBlank (c : Char) : Bool :=
  let n := c.toNat
  (9 ≤ n && n ≤ 13) || (28 ≤ n && n ≤ 32) || n == 0x85 || n == 0xa0 || n == 0x1680 ||
  (0x2000 ≤ n && n ≤ 0x200a) || n == 0x2028 || n == 0x2029 || n == 0x202f || n == 0x205f ||
    n == 0x3000

/-- Removes leading blanks. -/
def stripLeft (cs : List Char) : List Char :=
  cs.dropWhile isBlank

/-- Removes trailing blanks. -/
def stripRight (cs : List Char) : List Char :=
  (cs.reverse.dropWhile isBlank).reverse

/-- Removes blanks at both ends. -/
def strip (cs : List Char) : List Char :=
  stripRight (stripLeft cs)

/-- Cuts at every run of blanks; `cur` is the word read so far, backwards. -/
def wordsFrom (cur : List Char) : List Char → List (List Char)
  | [] => if cur.isEmpty then [] else [cur.reverse]
  | c :: cs =>
    if isBlank c then
      if cur.isEmpty then wordsFrom [] cs else cur.reverse :: wordsFrom [] cs
    else wordsFrom (c :: cur) cs

/-- The maximal runs of characters that are not blank. -/
def words (cs : List Char) : List (List Char) :=
  wordsFrom [] cs

/-- Removing blanks leaves a piece of the text. -/
theorem strip_isInfix (cs : List Char) : strip cs <:+: cs := by
  have hright : stripRight (stripLeft cs) <+: stripLeft cs := by
    simpa [stripRight] using List.reverse_prefix.2
      (List.dropWhile_suffix (l := (stripLeft cs).reverse) isBlank)
  exact hright.isInfix.trans (List.dropWhile_suffix isBlank).isInfix

/-- Removing blanks never lengthens a text. -/
theorem length_strip_le (cs : List Char) : (strip cs).length ≤ cs.length :=
  (strip_isInfix cs).length_le

/-! ### Blanks around a text -/

theorem strip_cons_of_isBlank {b : Char} (h : isBlank b = true) (cs : List Char) :
    strip (b :: cs) = strip cs := by
  simp [strip, stripLeft, h]

theorem strip_concat_of_isBlank {b : Char} (h : isBlank b = true) (cs : List Char) :
    strip (cs ++ [b]) = strip cs := by
  unfold strip stripLeft stripRight
  rw [List.dropWhile_append]
  split
  · next hall =>
    rw [List.isEmpty_iff.1 hall]
    simp [h]
  · simp [h]

/-- A text that neither starts nor ends with a blank has none around it. -/
theorem strip_eq_self {cs : List Char} (hhead : ∀ c ∈ cs.head?, isBlank c = false)
    (hlast : ∀ c ∈ cs.getLast?, isBlank c = false) : strip cs = cs := by
  have hdrop : ∀ ds : List Char, (∀ c ∈ ds.head?, isBlank c = false) → ds.dropWhile isBlank =
      ds := by
    intro ds hds
    cases ds with
    | nil => rfl
    | cons d ds => simp [hds d rfl]
  rw [← List.head?_reverse] at hlast
  rw [strip, stripLeft, hdrop cs hhead, stripRight, hdrop cs.reverse hlast, List.reverse_reverse]

/-- What a blank before or after a text does not change, blanks around it do not change. -/
theorem eq_of_blanks_around {α : Type} {f : List Char → α}
    (hbefore : ∀ {b}, isBlank b = true → ∀ cs, f (b :: cs) = f cs)
    (hafter : ∀ {b}, isBlank b = true → ∀ cs, f (cs ++ [b]) = f cs) {l r : List Char}
    (hl : ∀ b ∈ l, isBlank b = true) (cs : List Char) (hr : ∀ b ∈ r, isBlank b = true) :
    f (l ++ cs ++ r) = f cs := by
  have hleft : f (l ++ cs) = f cs := by
    induction l with
    | nil => rfl
    | cons b l ih =>
      rw [List.cons_append, hbefore (hl b List.mem_cons_self)]
      exact ih fun c hc => hl c (List.mem_cons_of_mem b hc)
  rw [← hleft]
  generalize l ++ cs = cs
  induction r generalizing cs with
  | nil => rw [List.append_nil]
  | cons b r ih =>
    rw [List.append_cons, ih (fun c hc => hr c (List.mem_cons_of_mem b hc)),
      hafter (hr b List.mem_cons_self)]

/-- Blanks before and after a text do not matter. -/
theorem strip_append_append {l r : List Char} (hl : ∀ b ∈ l, isBlank b = true) (cs : List Char)
    (hr : ∀ b ∈ r, isBlank b = true) : strip (l ++ cs ++ r) = strip cs :=
  eq_of_blanks_around strip_cons_of_isBlank strip_concat_of_isBlank hl cs hr

/-- A text is what is left of it with blanks around that. -/
theorem exists_strip (cs : List Char) :
    ∃ l r, (∀ b ∈ l, isBlank b = true) ∧ (∀ b ∈ r, isBlank b = true) ∧ cs = l ++ strip cs ++ r := by
  refine ⟨cs.takeWhile isBlank, ((stripLeft cs).reverse.takeWhile isBlank).reverse,
    List.all_eq_true.1 List.all_takeWhile, fun b hb => ?_, ?_⟩
  · exact List.all_eq_true.1 List.all_takeWhile b (List.mem_reverse.1 hb)
  · have hright : stripRight (stripLeft cs) ++ ((stripLeft cs).reverse.takeWhile isBlank).reverse =
        stripLeft cs := by
      rw [stripRight, ← List.reverse_append, List.takeWhile_append_dropWhile, List.reverse_reverse]
    rw [strip, List.append_assoc, hright, stripLeft, List.takeWhile_append_dropWhile]

theorem strip_strip (cs : List Char) : strip (strip cs) = strip cs := by
  obtain ⟨l, r, hl, hr, hcs⟩ := exists_strip cs
  conv => rhs; rw [hcs]
  exact (strip_append_append hl (strip cs) hr).symm

end ScriptHost.Text
