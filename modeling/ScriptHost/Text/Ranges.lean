/-!
# Sets of characters given by ranges

A character class of a standard is a sorted table of code-point ranges, looked up by bisection. The
tables are written as rows of text, `30+9 7+19 4`, with hexadecimal numbers: how many code points
are left out before a range, and how many more than one it has.
-/

namespace ScriptHost.Text

/-- The value of a hexadecimal digit; anything else counts as zero. -/
def hexValue (c : Char) : Nat :=
  if '0' ≤ c ∧ c ≤ '9' then c.toNat - 48
  else if 'a' ≤ c ∧ c ≤ 'f' then c.toNat - 87
  else if 'A' ≤ c ∧ c ≤ 'F' then c.toNat - 55
  else 0

/-- The number a run of hexadecimal digits stands for. -/
def readHex (cs : List Char) : Nat :=
  cs.foldl (fun n c => 16 * n + hexValue c) 0

/-- The items in the rows of a table. -/
def tableItems (rows : List String) : List (List Char) :=
  rows.flatMap fun row => row.toList.splitOn ' '

namespace Ranges

/-- One range lies before another. -/
def Before (p q : Nat × Nat) : Prop :=
  p.1 ≤ p.2 ∧ p.2 < q.1

/-- The range an item stands for, when `next` is the first code point it may have. -/
def ofItem (next : Nat) (item : List Char) : Nat × Nat :=
  match item.splitOn '+' with
  | [gap, more] => (next + readHex gap, next + readHex gap + readHex more)
  | gap :: _ => (next + readHex gap, next + readHex gap)
  | [] => (next, next)

/-- The ranges of a list of items, each after the one before it. -/
def ofItems (next : Nat) : List (List Char) → List (Nat × Nat)
  | [] => []
  | item :: items => ofItem next item :: ofItems ((ofItem next item).2 + 1) items

/-- A range is not empty and starts no earlier than it may. -/
theorem ofItem_bounds (next : Nat) (item : List Char) :
    next ≤ (ofItem next item).1 ∧ (ofItem next item).1 ≤ (ofItem next item).2 := by
  unfold ofItem
  split <;> simp

/-- The ranges of a table start no earlier than they may. -/
theorem le_of_mem_ofItems {next : Nat} {items : List (List Char)} {p : Nat × Nat}
    (hp : p ∈ ofItems next items) : next ≤ p.1 := by
  induction items generalizing next with
  | nil => cases hp
  | cons item items ih =>
    obtain ⟨hfirst, hlast⟩ := ofItem_bounds next item
    rcases List.mem_cons.1 hp with rfl | hp
    · exact hfirst
    · have hrest := ih hp
      omega

/-- The ranges of a table are in ascending order, whatever it says. -/
theorem ofItems_pairwise (next : Nat) (items : List (List Char)) :
    (ofItems next items).Pairwise Before := by
  induction items generalizing next with
  | nil => exact .nil
  | cons item items ih =>
    exact .cons (fun q hq => ⟨(ofItem_bounds next item).2, le_of_mem_ofItems hq⟩) (ih _)

end Ranges

/-- A set of code points as ascending, disjoint ranges with both ends included. -/
structure Ranges where
  pairs : Array (Nat × Nat)
  ascending : pairs.toList.Pairwise Ranges.Before

namespace Ranges

/-- Reads a table with rows such as `30+9 7+19 4`. -/
def ofRows (rows : List String) : Ranges where
  pairs := (ofItems 0 (tableItems rows)).toArray
  ascending := ofItems_pairwise 0 (tableItems rows)

/-- Looks for `n` among the ranges with index from `lo` up to `hi`. -/
def search (r : Ranges) (n lo hi : Nat) : Bool :=
  if lo < hi then
    let mid := (lo + hi) / 2
    match r.pairs[mid]? with
    | none => false
    | some (a, b) =>
      if n < a then r.search n lo mid
      else if b < n then r.search n (mid + 1) hi
      else true
  else false
termination_by hi - lo

/-- Whether the code point `n` lies in one of the ranges. -/
def contains (r : Ranges) (n : Nat) : Bool :=
  r.search n 0 r.pairs.size

/-- Bisection answers yes only for a code point of one of the ranges. -/
theorem exists_of_search {r : Ranges} {n lo hi : Nat} (h : r.search n lo hi = true) :
    ∃ p ∈ r.pairs, p.1 ≤ n ∧ n ≤ p.2 := by
  fun_induction search r n lo hi with
  | case1 => cases h
  | case2 _ _ _ _ _ _ _ _ ih => exact ih h
  | case3 _ _ _ _ _ _ _ _ _ ih => exact ih h
  | case4 lo hi _ mid a b hget hlow hhigh =>
    exact ⟨(a, b), Array.mem_of_getElem? hget, by simp; omega⟩
  | case5 => cases h

/-- A code point in the set is in one of its ranges. -/
theorem exists_of_contains {r : Ranges} {n : Nat} (h : r.contains n = true) :
    ∃ p ∈ r.pairs, p.1 ≤ n ∧ n ≤ p.2 :=
  exists_of_search h

end Ranges

end ScriptHost.Text
