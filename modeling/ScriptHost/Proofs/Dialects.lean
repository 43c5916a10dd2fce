import ScriptHost.Proofs.Turns

/-!
# Scripts that both dialects run alike

The two dialects differ in the names of the dialogs and of the functions that have to do with
scripts, and in whether a dialog can be a statement. A script in which none of these names occurs is
run alike in both: `run_dialects_eq`. The names are looked for in the capital form of the script, as
statements and functions are recognised by their capital forms. Nothing is asked of the objects that
a script makes: the text of an object names its class, and classes have the same names in both. Of
the evaluator of formulas it is asked that it is confined to its scope, since the tables of
functions do differ.

Constants are replaced by their values before a line is executed, and that could bring letters
together that were apart. It does not make one of the names, since what comes in is digits, and
there is no digit in them.
-/

namespace ScriptHost.Script

open ScriptHost.Number ScriptHost.Text

/-! ### Texts without reserved words -/

/-- The words, in capitals, that the dialects do not treat alike, and the mark of internal names. -/
def reservedWords : List String :=
  ["MSGBOX", "INPUTBOX", "RUNVBS", "EVALVBS", "SIMPLEVBSINTERPRETER", "__"]

/-- No reserved word occurs in the capital form of a text. -/
def Unreserved (cs : List Char) : Prop :=
  ∀ w ∈ reservedWords, ¬ w.toList <:+: upper cs

/-- A word occurs in a text if it is a piece of it. -/
lemma findFrom_isSome_iff (pat : List Char) (pos : Nat) (cs : List Char) :
    (findFrom pat pos cs).isSome = true ↔ pat <:+: cs := by
  induction cs generalizing pos with
  | nil =>
    unfold findFrom
    cases pat with
    | nil => simp
    | cons c pat => simp
  | cons c cs ih =>
    unfold findFrom
    rw [List.infix_cons_iff, ← List.isPrefixOf_iff_prefix]
    split
    · next h => simp [h]
    · next h => simp [h, ih]

lemma occurs_iff {pat cs : List Char} : occurs pat cs = true ↔ pat <:+: cs := by
  unfold occurs find?
  rw [if_neg (by omega), List.drop_zero, ← findFrom_isSome_iff pat 0 cs]

lemma occurs_eq_false_iff {pat cs : List Char} : occurs pat cs = false ↔ ¬ pat <:+: cs := by
  rw [← occurs_iff, Bool.not_eq_true]

lemma upper_append (a b : List Char) : upper (a ++ b) = upper a ++ upper b :=
  List.flatMap_append

/-- The capital form of a piece is a piece of the capital form. -/
lemma upper_isInfix {p cs : List Char} (h : p <:+: cs) : upper p <:+: upper cs := by
  obtain ⟨before, after, rfl⟩ := h
  exact ⟨upper before, upper after, by rw [upper_append, upper_append]⟩

lemma Unreserved.of_isInfix {p cs : List Char} (h : Unreserved cs) (hp : p <:+: cs) :
    Unreserved p :=
  fun w hw hpiece => h w hw (hpiece.trans (upper_isInfix hp))

/-! ### Putting digits in the place of words -/

/-- A word that lacks a character lies on one side of it. -/
lemma infix_of_infix_append_cons {w a b : List Char} {d : Char} (hd : d ∉ w)
    (h : w <:+: a ++ d :: b) : w <:+: a ∨ w <:+: b := by
  obtain ⟨before, after, h⟩ := h
  rcases List.append_eq_append_iff.1 h with ⟨rest, rfl, _⟩ | ⟨rest, hleft, hright⟩
  · exact .inl ⟨before, rest, rfl⟩
  · cases rest with
    | nil => exact .inl ⟨before, [], by simpa using hleft⟩
    | cons c rest =>
      obtain ⟨rfl, rfl⟩ := List.cons.inj hright
      rcases List.append_eq_append_iff.1 hleft with ⟨_, _, rfl⟩ | ⟨gap, _, hgap⟩
      · simp at hd
      · cases gap with
        | nil =>
          obtain rfl : d :: rest = w := hgap
          simp at hd
        | cons c gap =>
          obtain ⟨_, rfl⟩ := List.cons.inj hgap
          exact .inr ⟨gap, after, rfl⟩

/-- A word that lacks some characters lies on one side of them. -/
lemma infix_of_infix_append_append {w a ds b : List Char} (hds : ds ≠ [])
    (hw : ∀ d ∈ ds, d ∉ w) (h : w <:+: a ++ (ds ++ b)) : w <:+: a ∨ w <:+: b := by
  induction ds generalizing a with
  | nil => exact absurd rfl hds
  | cons d ds ih =>
    rcases infix_of_infix_append_cons (hw d List.mem_cons_self) h with h | h
    · exact .inl h
    · by_cases hnil : ds = []
      · subst hnil
        exact .inr h
      · rcases ih hnil (fun e he => hw e (List.mem_cons_of_mem d he)) (a := []) h with h | h
        · exact .inl (h.trans List.nil_infix)
        · exact .inr h

lemma upperChar_digit {c : Char} (h : c.isDigit = true) : upperChar c = [c] := by
  obtain ⟨hlow, hhigh⟩ : 48 ≤ c.toNat ∧ c.toNat ≤ 57 := by
    simpa [Char.isDigit, UInt32.le_iff_toNat_le] using h
  have hupper : c.toUpper = c := by
    unfold Char.toUpper
    refine dif_neg fun hsmall => ?_
    have : 97 ≤ c.toNat := UInt32.le_iff_toNat_le.1 hsmall.1
    omega
  rw [upperChar, if_pos (by omega), hupper]

/-- Digits are their own capital forms. -/
lemma upper_digits {ds : List Char} (h : ∀ d ∈ ds, d.isDigit = true) : upper ds = ds := by
  induction ds with
  | nil => rfl
  | cons d ds ih =>
    have hds := ih fun e he => h e (List.mem_cons_of_mem d he)
    unfold upper at hds ⊢
    rw [List.flatMap_cons, upperChar_digit (h d List.mem_cons_self), hds]
    rfl

/-- A run of word characters stays or is replaced. -/
lemma changeRun_eq_or (name new run : List Char) :
    changeRun (fun u => if sameWord name u then new else u) run = run ∨
      changeRun (fun u => if sameWord name u then new else u) run = new := by
  unfold changeRun
  split
  · next h => exact .inl (List.isEmpty_iff.1 h).symm
  · by_cases h : sameWord name run
    · exact .inr (if_pos h)
    · exact .inl (if_neg h)

section Replace

variable {name w : List Char} {v : Nat}

/-- A word without digits that occurs around a numeral occurs before it or after it. -/
lemma infix_of_infix_natDigits (hw : ∀ d ∈ w, d.isDigit = false) {a b : List Char}
    (h : w <:+: upper (a ++ (natDigits v ++ b))) : w <:+: upper a ∨ w <:+: upper b := by
  rw [upper_append, upper_append, upper_digits fun d hd => isDigit_of_mem_natDigits hd] at h
  exact infix_of_infix_append_append Nat.toDigits_ne_nil
    (fun d hd hmem => notMem_natDigits (hw d hmem) v hd) h

/-- A word without digits that occurs after a word was replaced by a numeral occurred before. -/
lemma infix_of_infix_mapWordsFrom (hw : ∀ d ∈ w, d.isDigit = false) (before run cs : List Char)
    (h : w <:+: upper (before ++
      mapWordsFrom (fun u => if sameWord name u then natDigits v else u) run cs)) :
    w <:+: upper (before ++ (run.reverse ++ cs)) := by
  -- The text before the place that is looked at is kept as it is: what was found to stay is added
  -- to it, and what was replaced cuts it off.
  induction cs generalizing before run with
  | nil =>
    rw [mapWordsFrom] at h
    rcases changeRun_eq_or name (natDigits v) run.reverse with heq | heq
    · rw [heq] at h
      simpa using h
    · rw [heq, ← List.append_nil (natDigits v)] at h
      rcases infix_of_infix_natDigits hw h with h | h
      · exact h.trans (upper_isInfix (List.prefix_append _ _).isInfix)
      · exact h.trans List.nil_infix
  | cons c cs ih =>
    rw [mapWordsFrom] at h
    split at h
    · simpa using ih before (c :: run) h
    · rcases changeRun_eq_or name (natDigits v) run.reverse with heq | heq
      · rw [heq] at h
        have hkept := ih (before ++ (run.reverse ++ [c])) [] (by simpa using h)
        simpa using hkept
      · rw [heq] at h
        rcases infix_of_infix_natDigits hw h with h | h
        · exact h.trans (upper_isInfix (List.prefix_append _ _).isInfix)
        · have hkept := ih [c] [] h
          refine hkept.trans (upper_isInfix (List.IsSuffix.isInfix ⟨before ++ run.reverse, ?_⟩))
          simp

end Replace

/-- No reserved word has a digit in it. -/
lemma isDigit_reservedWords {w : String} (hw : w ∈ reservedWords) {d : Char} (hd : d ∈ w.toList) :
    d.isDigit = false := by
  have hall : reservedWords.all (fun w => w.toList.all fun d => !d.isDigit) = true := by decide
  have hdigit := List.all_eq_true.1 (List.all_eq_true.1 hall w hw) d hd
  rwa [Bool.not_eq_true'] at hdigit

/-- Replacing constants by their values makes no reserved words. -/
lemma Unreserved.substitute {cs : List Char} (h : Unreserved cs) :
    Unreserved (substitute cs) := by
  unfold Script.substitute
  generalize constants = replaced
  induction replaced generalizing cs with
  | nil => exact h
  | cons c replaced ih =>
    refine ih fun w hw hpiece => h w hw ?_
    exact infix_of_infix_mapWordsFrom (fun d hd => isDigit_reservedWords hw hd) [] [] cs hpiece

/-! ### The libraries of the dialects -/

lemma exists_mem_of_kindByStart {table : List (String × StatementKind)} {capitals : List Char}
    {kind : StatementKind} (h : kindByStart table capitals = some kind) :
    kind ∈ table.map Prod.snd := by
  obtain ⟨p, hp, rfl⟩ := Option.map_eq_some_iff.1 h
  exact List.mem_map_of_mem (List.mem_of_find?_eq_some hp)

/-- Where dialogs are no statements, no statement shows a dialog. -/
lemma isDialog_kindOf_small (cs : List Char) : (kindOf .small cs).isDialog = false := by
  have hopenings : ∀ kind ∈ openings.map Prod.snd, kind.isDialog = false := by decide
  have hcommands : ∀ kind ∈ (commands .small).map Prod.snd, kind.isDialog = false := by decide
  unfold kindOf
  dsimp only
  split
  · next kind h => exact hopenings kind (exists_mem_of_kindByStart h)
  · split
    · rfl
    · split
      · next kind h => exact hcommands kind (exists_mem_of_kindByStart h)
      · split <;> rfl

/-- Texts without reserved words do not start with one. -/
lemma Unreserved.isPrefixOf_eq_false {cs : List Char} (h : Unreserved cs) {w : String}
    (hw : w ∈ reservedWords) : w.toList.isPrefixOf (upper cs) = false :=
  Bool.eq_false_iff.2 fun hstart =>
    h w hw (List.isPrefixOf_iff_prefix.1 hstart).isInfix

/-- In texts without reserved words the statements are of the same kinds in both dialects. -/
lemma Unreserved.kindOf_eq {cs : List Char} (h : Unreserved cs) :
    kindOf .capital cs = kindOf .small cs := by
  have hcommands : kindByStart (commands .capital) (upper cs) =
      kindByStart (commands .small) (upper cs) := by
    have hmessage := h.isPrefixOf_eq_false (w := "MSGBOX") (by decide)
    have hinput := h.isPrefixOf_eq_false (w := "INPUTBOX") (by decide)
    simp only [kindByStart, commands, beq_self_eq_true, if_true, List.cons_append, List.find?_cons,
      hmessage, hinput]
    rfl
  unfold kindOf
  dsimp only
  rw [hcommands]

/-- The capital form of a name without reserved words is none of them. -/
lemma Unreserved.beq_eq_false {name : List Char} (h : Unreserved name) {w : String}
    (hw : w ∈ reservedWords) : (String.ofList (upper name) == w) = false := by
  refine beq_false_of_ne fun heq => h w hw ?_
  have hsame : w.toList = upper name := by rw [← heq, String.toList_ofList]
  exact hsame ▸ List.infix_rfl

lemma Unreserved.lookup_dialogEntries {name : List Char} (h : Unreserved name) (d : Dialect) :
    (inCapitals (dialogEntries d)).lookup (String.ofList (upper name)) = none := by
  have hmessage : capitalName "MsgBox" = "MSGBOX" := by decide
  have hinput : capitalName "InputBox" = "INPUTBOX" := by decide
  cases d with
  | capital =>
    change List.lookup _ [(capitalName "MsgBox", _), (capitalName "InputBox", _)] = none
    rw [hmessage, hinput, List.lookup_cons, h.beq_eq_false (by decide), List.lookup_cons,
      h.beq_eq_false (by decide), List.lookup_nil]
  | small => rfl

/-- A name without reserved words is that of one of the functions on scripts only if the function
neither runs nor evaluates them. -/
lemma Unreserved.lookup_scriptEntries {name : List Char} (h : Unreserved name) (lib lib' : Library)
    (d d' : Dialect) :
    (inCapitals (scriptEntries lib d)).lookup (String.ofList (upper name)) =
      (inCapitals (scriptEntries lib' d')).lookup (String.ofList (upper name)) := by
  have hrun : ∀ d : Dialect, capitalName d.runScript = "RUNVBS" := by
    intro d
    cases d <;> decide
  have hevaluate : capitalName "EvalVBS" = "EVALVBS" := by decide
  simp only [inCapitals, scriptEntries, Catalog.function, List.map_cons, List.lookup_cons, hrun,
    hevaluate, h.beq_eq_false (w := "RUNVBS") (by decide),
    h.beq_eq_false (w := "EVALVBS") (by decide)]

/-- Both dialects have the same function under a name without reserved words. -/
lemma Unreserved.routine_eq {name : List Char} (h : Unreserved name) (ev : Evaluator) :
    (libraryWith ev .capital).routine? (String.ofList (upper name)) =
      (libraryWith ev .small).routine? (String.ofList (upper name)) := by
  have hsplit : ∀ entries entries', inCapitals (entries ++ entries') =
      inCapitals entries ++ inCapitals entries' := fun _ _ => List.map_append
  change Option.or _ _ = Option.or _ _
  congr 1
  rw [hsplit, hsplit, List.lookup_append, List.lookup_append, h.lookup_dialogEntries,
    h.lookup_dialogEntries, h.lookup_scriptEntries]

/-- The libraries of the dialects are interchangeable for texts without reserved words. -/
lemma interchangeable_library {ev : Evaluator} (hev : ev.Confined) :
    Interchangeable id (libraryWith ev .capital) (libraryWith ev .small) Unreserved where
  infix_closed hp hcs := hcs.of_isInfix hp
  substitute_closed hcs := hcs.substitute
  agreeOn hcs := ⟨fun name hname => (hcs.of_isInfix hname).routine_eq ev,
    fun p _ => hev.mirrors .refl _ _ p⟩
  kind hcs := hcs.kindOf_eq
  dialog hcs hdialog := by
    change (kindOf .capital _).isDialog = true at hdialog
    rw [hcs.kindOf_eq, isDialog_kindOf_small] at hdialog
    cases hdialog

/-- Both dialects run a script without reserved words alike, with an evaluator of formulas that is
confined to its scope: what the script does to the session and to the world, what it prints and how
it ends are the same. -/
theorem run_dialects_eq {ev : Evaluator} (hev : ev.Confined) (code : List Char)
    (h : ∀ w ∈ reservedWords, occurs w.toList (upper code) = false) (scene : Scene) :
    (run (libraryWith ev .capital) code).take scene =
      (run (libraryWith ev .small) code).take scene := by
  have hcode : Unreserved code := fun w hw => occurs_eq_false_iff.1 (h w hw)
  have hlines : ∀ l ∈ lines code, Unreserved l :=
    fun l hl => hcode.of_isInfix (infix_of_mem_splitOn hl)
  have hcapital : (libraryWith ev .capital).evaluator.Confined := hev
  have hsmall : (libraryWith ev .small).evaluator.Confined := hev
  rw [take_run hcapital, take_run hsmall]
  exact (interchangeable_library hev).play_eq (p := start scene code) hlines

/-- A script that calls functions, uses a constant and makes an error. -/
def plainScript : List Char :=
  "s = Left(\"abc\", 2) & vbYesNo\nIf Len(s) > 2 Then\nEnd If\nx = CInt(\"one\")".toList

/-- The script is run alike with the evaluator that scripts have. -/
theorem run_dialects_eq_plainScript :
    (∀ w ∈ reservedWords, occurs w.toList (upper plainScript) = false) ∧
      (run (library .capital) plainScript).take firstScene =
        (run (library .small) plainScript).take firstScene := by
  have h : ∀ w ∈ reservedWords, occurs w.toList (upper plainScript) = false := by decide
  exact ⟨h, run_dialects_eq Evaluator.confined_formulaEvaluator plainScript h firstScene⟩

end ScriptHost.Script
