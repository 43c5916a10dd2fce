import ScriptHost.Number.Shortest
import ScriptHost.Text.Letter
import ScriptHost.Text.Word

/-!
# Named constants

A script may write a constant by name, in any mixture of capital and small letters. Before a line is
understood, the names in it are replaced by their values, one name after the other. A name is only
replaced where it is a whole word.
-/

namespace ScriptHost.Script

open ScriptHost.Number ScriptHost.Text

/-- The constants and their values. -/
def constants : List (String × Nat) :=
  [("vbOKOnly", 0), ("vbOKCancel", 1), ("vbAbortRetryIgnore", 2), ("vbYesNoCancel", 3),
    ("vbYesNo", 4), ("vbRetryCancel", 5), ("vbCritical", 16), ("vbQuestion", 32),
    ("vbExclamation", 48), ("vbInformation", 64), ("vbOK", 1), ("vbCancel", 2), ("vbAbort", 3),
    ("vbRetry", 4), ("vbIgnore", 5), ("vbYes", 6), ("vbNo", 7), ("vbBinaryCompare", 0),
    ("vbTextCompare", 1), ("ForReading", 1), ("ForWriting", 2), ("ForAppending", 8),
    ("vbGeneralDate", 0), ("vbLongDate", 1), ("vbShortDate", 2), ("vbLongTime", 3),
    ("vbShortTime", 4), ("vbSunday", 1), ("vbMonday", 2), ("vbTuesday", 3), ("vbWednesday", 4),
    ("vbThursday", 5), ("vbFriday", 6), ("vbSaturday", 7), ("vbEmpty", 0), ("vbNull", 1),
    ("vbInteger", 2), ("vbLong", 3), ("vbSingle", 4), ("vbDouble", 5), ("vbCurrency", 6),
    ("vbDate", 7), ("vbString", 8), ("vbObject", 9), ("vbBoolean", 11), ("vbArray", 8192)]

/-- The name of a constant in capitals. -/
def capitalName (name : String) : String :=
  String.ofList (upper name.toList)

/-- The constants under their names in capitals. -/
def capitalConstants : List (String × Nat) :=
  constants.map fun (name, v) => (capitalName name, v)

/-- The value of the constant with a name in capitals. -/
def capitalConstant? (name : String) : Option Nat :=
  capitalConstants.lookup name

/-- The value of the constant with a name as it is usually written, or in capitals. -/
def spelledConstant? (name : String) : Option Nat :=
  (constants.lookup name).or (capitalConstant? name)

/-! ### Words of a line -/

/-- A run of word characters after the change `f`; there is nothing to change in an empty one. -/
def changeRun (f : List Char → List Char) (run : List Char) : List Char :=
  if run.isEmpty then [] else f run

/-- Changes every maximal run of word characters and keeps all other characters. `run` is the run
read so far, backwards. -/
def mapWordsFrom (f : List Char → List Char) (run : List Char) : List Char → List Char
  | [] => changeRun f run.reverse
  | c :: cs =>
    if isWord c then mapWordsFrom f (c :: run) cs
    else changeRun f run.reverse ++ c :: mapWordsFrom f [] cs

/-- Changes every maximal run of word characters and keeps all other characters. -/
def mapWords (f : List Char → List Char) (cs : List Char) : List Char :=
  mapWordsFrom f [] cs

/-- Puts `new` in the place of a word, case aside. -/
def replaceWord (name new : List Char) (cs : List Char) : List Char :=
  mapWords (fun w => if sameWord name w then new else w) cs

/-- Replaces the name of a constant by its value. -/
def replaceConstant (line : List Char) (c : String × Nat) : List Char :=
  replaceWord c.1.toList (natDigits c.2) line

/-- Replaces the names of all constants by their values. -/
def substitute (line : List Char) : List Char :=
  constants.foldl replaceConstant line

/-! ### Substitution never makes a line longer -/

theorem length_changeRun_le {f : List Char → List Char} (h : ∀ w, (f w).length ≤ w.length)
    (run : List Char) :
    (changeRun f run).length ≤ run.length := by
  unfold changeRun
  split
  · simp
  · exact h run

theorem length_mapWordsFrom_le {f : List Char → List Char} (h : ∀ w, (f w).length ≤ w.length)
    (run cs : List Char) : (mapWordsFrom f run cs).length ≤ run.length + cs.length := by
  induction cs generalizing run with
  | nil =>
    have := length_changeRun_le h run.reverse
    simpa [mapWordsFrom] using this
  | cons c cs ih =>
    have hrun := length_changeRun_le h run.reverse
    have hnil := ih []
    have hcons := ih (c :: run)
    unfold mapWordsFrom
    split
    · simp only [List.length_cons] at hcons ⊢
      omega
    · simp only [List.length_append, List.length_cons, List.length_reverse,
        List.length_nil] at hrun hnil ⊢
      omega

theorem length_replaceWord_le {name new : List Char} (h : new.length ≤ name.length)
    (cs : List Char) :
    (replaceWord name new cs).length ≤ cs.length := by
  have hword : ∀ w : List Char, (if sameWord name w then new else w).length ≤ w.length := by
    intro w
    split
    · next hs => rw [← length_eq_of_sameWord hs]; exact h
    · exact Nat.le_refl _
  simpa [replaceWord, mapWords] using length_mapWordsFrom_le hword [] cs

theorem digits_le_name : ∀ c ∈ constants, (natDigits c.2).length ≤ c.1.toList.length := by
  decide +kernel

theorem length_foldl_replaceConstant_le (cs : List (String × Nat))
    (h : ∀ c ∈ cs, (natDigits c.2).length ≤ c.1.toList.length) (line : List Char) :
    (cs.foldl replaceConstant line).length ≤ line.length := by
  induction cs generalizing line with
  | nil => simp
  | cons c cs ih =>
    have hhead := length_replaceWord_le (h c (by simp)) line
    have htail := ih (fun d hd => h d (by simp [hd])) (replaceConstant line c)
    simp only [List.foldl_cons]
    exact Nat.le_trans htail hhead

theorem length_substitute_le (line : List Char) : (substitute line).length ≤ line.length :=
  length_foldl_replaceConstant_le constants digits_le_name line

end ScriptHost.Script
