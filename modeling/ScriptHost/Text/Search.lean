/-!
# Searching, cutting and replacing

Everything works on lists of characters and takes occurrences from left to right without overlap. A
cut needs a separator that is not empty; callers refuse the empty one before.
-/

namespace ScriptHost.Text

/-- The position of the first occurrence of `pat`, counted from `at`. -/
def findFrom (pat : List Char) (pos : Nat) : List Char → Option Nat
  | [] => if pat.isEmpty then some pos else none
  | c :: cs => if pat.isPrefixOf (c :: cs) then some pos else findFrom pat (pos + 1) cs

/-- The position of the first occurrence of `pat` that starts at `start` or later. -/
def find? (pat cs : List Char) (start : Nat) : Option Nat :=
  if cs.length < start then none else findFrom pat start (cs.drop start)

/-- Whether `pat` occurs. -/
def occurs (pat cs : List Char) : Bool :=
  (find? pat cs 0).isSome

/-- Cuts at each occurrence of `sep`; `cur` is the piece read so far, backwards. -/
def cutFrom (sep cur : List Char) : List Char → List (List Char)
  | [] => [cur.reverse]
  | c :: cs =>
    if sep.isPrefixOf (c :: cs) then cur.reverse :: cutFrom sep [] (cs.drop (sep.length - 1))
    else cutFrom sep (c :: cur) cs
termination_by cs => cs.length
decreasing_by
  · simp only [List.length_drop, List.length_cons]; omega
  · simp

/-- The pieces of a text between the occurrences of a separator that is not empty. -/
def cut (sep cs : List Char) : List (List Char) :=
  cutFrom sep [] cs

/-- Joins pieces with a separator between them. -/
def join (sep : List Char) : List (List Char) → List Char
  | [] => []
  | [p] => p
  | p :: q :: ps => p ++ sep ++ join sep (q :: ps)

/-- Writes `new` before, between and after all characters. -/
def interleave (new : List Char) : List Char → List Char
  | [] => new
  | c :: cs => new ++ c :: interleave new cs

/-- Replaces every occurrence of `old` by `new`; an empty `old` occurs at every position. -/
def replaceAll (old new cs : List Char) : List Char :=
  if old.isEmpty then interleave new cs else join new (cut old cs)

/-! ### Replacing from left to right -/

theorem cutFrom_ne_nil (sep cur cs : List Char) : cutFrom sep cur cs ≠ [] := by
  fun_induction cutFrom sep cur cs with
  | case1 => simp
  | case2 => simp
  | case3 _ _ _ _ ih => exact ih

/-- The characters read so far stand before the first piece. -/
theorem join_cutFrom (new sep cur cs : List Char) :
    join new (cutFrom sep cur cs) = cur.reverse ++ join new (cutFrom sep [] cs) := by
  induction hlen : cs.length using Nat.strongRecOn generalizing cur cs with
  | ind n ih =>
    cases cs with
    | nil => simp [cutFrom, join]
    | cons c cs =>
      have hlt : cs.length < n := by
        simp only [List.length_cons] at hlen
        omega
      rw [cutFrom, cutFrom]
      split
      · obtain ⟨p, ps, hp⟩ :=
          List.exists_cons_of_ne_nil (cutFrom_ne_nil sep [] (cs.drop (sep.length - 1)))
        simp [hp, join]
      · rw [ih cs.length hlt (c :: cur) cs rfl, ih cs.length hlt [c] cs rfl]
        simp

theorem replaceAll_nil {old : List Char} (h : old ≠ []) (new : List Char) :
    replaceAll old new [] = [] := by
  rw [replaceAll, if_neg (by simpa using h), cut, cutFrom]
  rfl

/-- Replacing goes on after an occurrence, or with the next character. -/
theorem replaceAll_cons {old : List Char} (h : old ≠ []) (new : List Char) (c : Char)
    (cs : List Char) :
    replaceAll old new (c :: cs) =
      if old.isPrefixOf (c :: cs) then new ++ replaceAll old new (cs.drop (old.length - 1))
      else c :: replaceAll old new cs := by
  have hempty : ¬ old.isEmpty = true := by simpa using h
  simp only [replaceAll, if_neg hempty, cut]
  rw [cutFrom]
  split
  · obtain ⟨p, ps, hp⟩ :=
      List.exists_cons_of_ne_nil (cutFrom_ne_nil old [] (cs.drop (old.length - 1)))
    simp [hp, join]
  · rw [join_cutFrom]
    rfl

/-! ### Characters, lines and ends -/

/-- Removes the first occurrence of a character. -/
def eraseFirst (x : Char) (cs : List Char) : List Char :=
  cs.erase x

/-- Cuts a text at its newlines. -/
def lines (cs : List Char) : List (List Char) :=
  cs.splitOn '\n'

/-- Whether a text ends with `tail`. -/
def endsWith (tail cs : List Char) : Bool :=
  tail.isSuffixOf cs

end ScriptHost.Text
