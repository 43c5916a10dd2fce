import ScriptHost.Proofs.Parentheses

/-!
# Spellings in arithmetic

A formula looks up its names as they are written. A name in capitals is found with the value of the
last write to any spelling, since every write also stores its value under the capitals. Any other
spelling is found with the value that was last written to it, which may be stale: a write to another
spelling does not reach it.

So an arithmetic expression over variables has the value that it has with the last values of its
variables exactly if the stale values make no difference, and if none of its names is taken for a
function: `evaluate_arithmetic_iff`.
-/

namespace ScriptHost.Formula.Arithmetic

/-- The value depends on the names of the expression only. -/
lemma value_congr {r : Rank} {env env' : List Char → Int} {e : Arithmetic r}
    (h : ∀ x ∈ e.names, env x = env' x) : e.value env = e.value env' := by
  induction e with
  | literal l => rfl
  | name x => exact h x List.mem_cons_self
  | group e ih => exact ih h
  | ofFactor f ih => exact ih h
  | times p f ihp ihf =>
    rw [value, value, ihp fun x hx => h x (List.mem_append_left _ hx),
      ihf fun x hx => h x (List.mem_append_right _ hx)]
  | ofProduct p ih => exact ih h
  | plus e s p ihe ihp =>
    rw [value, value, ihe fun x hx => h x (List.mem_append_left _ hx),
      ihp fun x hx => h x (List.mem_append_right _ hx)]

end ScriptHost.Formula.Arithmetic

namespace ScriptHost.Script

open ScriptHost.Formula ScriptHost.Number ScriptHost.Text

/-! ### The last writes -/

/-- The number of the last write of a kind; zero if there is none. -/
def lastNumber (p : Write → Bool) (ws : List Write) : Int :=
  match (ws.reverse.find? p).map Write.value with
  | some (.int n) => n
  | _ => 0

/-- The number that was last written to a name under any spelling. -/
def lastWritten (ws : List Write) (x : List Char) : Int :=
  lastNumber (fun w => upper w.name == upper x) ws

/-- The number that was last stored under a name as it is spelled. -/
def lastStored (ws : List Write) (x : List Char) : Int :=
  lastNumber (fun w => decide (w.Stores (String.ofList x))) ws

/-- The last write of a kind, if all writes are of numbers. -/
lemma exists_lastNumber {p : Write → Bool} {ws : List Write} (h : ∃ w ∈ ws, p w = true)
    (hws : ∀ w ∈ ws, ∃ n, w.value = .int n) :
    ∃ before last after, ws = before ++ last :: after ∧ p last = true ∧
      (∀ w ∈ after, p w = false) ∧ last.value = .int (lastNumber p ws) := by
  obtain ⟨w, hw, hp⟩ := h
  obtain ⟨last, hlast⟩ : ∃ last, ws.reverse.find? p = some last :=
    Option.isSome_iff_exists.1 (List.find?_isSome.2 ⟨w, List.mem_reverse.2 hw, hp⟩)
  obtain ⟨hkind, as, bs, hsplit, has⟩ := List.find?_eq_some_iff_append.1 hlast
  obtain ⟨n, hn⟩ := hws last (List.mem_reverse.1 (List.mem_of_find?_eq_some hlast))
  refine ⟨bs.reverse, last, as.reverse, ?_, hkind, fun w hw => ?_, ?_⟩
  · rw [← List.reverse_reverse ws, hsplit]
    simp
  · simpa using has w (List.mem_reverse.1 hw)
  · rw [lastNumber, hlast, hn, Option.map_some, hn]

/-- A name in capitals is stored by every write to one of its spellings. -/
lemma lastStored_upper {v : List Char} (hv : IsName v) (hupper : upper v = v) (ws : List Write) :
    lastStored ws v = lastWritten ws v := by
  have hsame : (fun w : Write => decide (w.Stores (String.ofList v))) =
      fun w => upper w.name == upper v := by
    funext w
    have hiff := stores_upper_iff hv w
    rw [hupper] at hiff
    rw [Bool.eq_iff_iff, decide_eq_true_iff, hiff, beq_iff_eq, hupper]
  rw [lastStored, lastWritten, hsame]

/-! ### Texts that are no names -/

/-- Writes to names store nothing under a text with a character that no name has. -/
lemma not_stores_of_mem {w : Write} (hw : IsName w.name) {d : Char} (hd : isPlainWord d = false)
    {cs : List Char} (h : d ∈ cs) : ¬ w.Stores (String.ofList cs) := by
  have hname {x : List Char} (hx : IsName x) : String.ofList cs ≠ String.ofList x := by
    intro heq
    rw [String.ofList_inj.1 heq] at h
    rw [hx.chars d h] at hd
    cases hd
  rintro (heq | heq)
  · exact hname hw heq
  · exact hname hw.isName_upper heq

/-- Nothing is stored under a text with a character that no name has, if all writes are to names. -/
lemma pairGet?_written_of_mem {ws : List Write} (hws : ∀ w ∈ ws, IsName w.name) {d : Char}
    (hd : isPlainWord d = false) {cs : List Char} (h : d ∈ cs) :
    pairGet? (String.ofList cs) (written freshSession ws).variables = none := by
  have hkey (key : String) (hkey : key.toList.all isPlainWord = true) : String.ofList cs ≠ key := by
    rintro rfl
    rw [String.toList_ofList] at hkey
    rw [List.all_eq_true.1 hkey d h] at hd
    cases hd
  rw [pairGet?_written_of_forall _ fun w hw => not_stores_of_mem (hws w hw) hd h, freshSession,
    pairGet?_cons, if_neg (hkey "WSCRIPT" (by decide)), pairGet?_cons,
    if_neg (hkey "WScript" (by decide))]
  rfl

/-- So such a text is no variable. -/
lemma variableValue?_of_mem {ws : List Write} (hws : ∀ w ∈ ws, IsName w.name) {s : Session}
    (hs : Alike (written freshSession ws) s) {d : Char} (hd : d.toNat < 128)
    (hword : isPlainWord d = false) {cs : List Char} (h : d ∈ cs) : variableValue? s cs = none := by
  unfold variableValue?
  rw [← hs.variables_eq, pairGet?_written_of_mem hws hword (mem_upper_of_mem hd hword h),
    pairGet?_written_of_mem hws hword h]
  rfl

/-! ### Values at a moment -/

section Values

variable {ws : List Write} (hws : ∀ w ∈ ws, IsName w.name ∧ ∃ n, w.value = .int n) {s : Session}
  (hs : Alike (written freshSession ws) s) {x : List Char}

include hws hs

/-- A variable that was written reads in a formula as what was stored under its spelling. -/
lemma formulaScope_lastStored (hx : IsVariable x) (hstored : ∃ w ∈ ws, w.Stores (String.ofList x)) :
    formulaScope s (String.ofList x) = some (.int (lastStored ws x)) := by
  obtain ⟨before, last, after, hsplit, hlast, hafter, hvalue⟩ :=
    exists_lastNumber (p := fun w => decide (w.Stores (String.ofList x))) (by simpa using hstored)
      fun w hw => (hws w hw).2
  refine hx.formulaScope_eq ?_
  rw [← hs.variables_eq, lastStored, ← hvalue, hsplit]
  exact pairGet?_written_of_last _ (by simpa using hlast) fun w hw => by simpa using hafter w hw

/-- By itself it reads as what was last written to any of its spellings. -/
lemma take_evaluate_lastWritten (hx : IsVariable x)
    (hstored : ∃ w ∈ ws, w.Stores (String.ofList x)) (lib : Library) (w : World) :
    (evaluate lib x).take ⟨s, w⟩ = (.ok (.int (lastWritten ws x)), ⟨s, w⟩) := by
  obtain ⟨u, hu, hstores⟩ := hstored
  have hspelled : upper u.name = upper x := by
    rcases hstores with h | h
    · rw [String.ofList_inj.1 h]
    · rw [String.ofList_inj.1 h, (hws u hu).1.upper_upper]
  obtain ⟨before, last, after, hsplit, hlast, hafter, hvalue⟩ :=
    exists_lastNumber (p := fun w => upper w.name == upper x) ⟨u, hu, by simpa using hspelled⟩
      fun w hw => (hws w hw).2
  have hget : pairGet? (String.ofList (upper x)) s.variables = some (.int (lastWritten ws x)) := by
    rw [← hs.variables_eq, lastWritten, ← hvalue, hsplit]
    refine pairGet?_written_of_last _ ((stores_upper_iff hx.toIsName last).2 (by simpa using hlast))
      fun w hw h => ?_
    simpa [(stores_upper_iff hx.toIsName w).1 h] using hafter w hw
  have hscene : pairGet? (String.ofList (upper x)) (Scene.mk s w).session.variables =
      some (.int (lastWritten ws x)) := hget
  exact hx.evaluate_eq rfl hscene

end Values

/-- What is asked of an expression: its names are variables that have been written and no reserved
words of formulas, its literals and its parentheses are such as can be read, it does not end with a
parenthesis, and the evaluator reads it. -/
structure IsReadableAt (lib : Library) (ws : List Write) (e : Arithmetic .sum) : Prop where
  names : ∀ x ∈ e.names, IsVariable x ∧ reserved.contains (String.ofList x) = false ∧
    ∃ w ∈ ws, w.Stores (String.ofList x)
  literals : ∀ l ∈ e.literals, l.IsReadable ∧ l.digits.length ≤ digitLimit
  depth : e.depth ≤ depthLimit
  no_call : endsWith [')'] e.text = false
  reads : lib.ReadsFormula e.text

/-- An expression that is no variable by itself reads every name as what was stored under its
spelling. -/
lemma take_evaluate_arithmetic_iff {ws : List Write}
    (hws : ∀ w ∈ ws, IsName w.name ∧ ∃ n, w.value = .int n) {s : Session}
    (hs : Alike (written freshSession ws) s) {lib : Library} {e : Arithmetic .sum}
    (he : IsReadableAt lib ws e) (hname : ∀ x, e ≠ .ofProduct (.ofFactor (.name x))) (w : World)
    (n : Int) :
    (evaluate lib e.text).take ⟨s, w⟩ = (.ok (.int n), ⟨s, w⟩) ↔
      (∀ x ∈ e.names, ¬ IsFunction x) ∧ e.value (lastStored ws) = n := by
  rcases e.leaf_or_mark with ⟨l, rfl⟩ | ⟨x, rfl⟩ | hmark
  · have hshort : ¬ digitLimit < l.digits.length :=
      Nat.not_lt.2 (he.literals l List.mem_cons_self).2
    have hvalue : evaluate lib l.text = pure (.int l.value) :=
      (l.evaluate_text lib).trans (if_neg hshort)
    have htake : (evaluate lib (Arithmetic.ofProduct (.ofFactor (.literal l))).text).take ⟨s, w⟩ =
        (.ok (.int l.value), ⟨s, w⟩) := congrArg (Step.take · ⟨s, w⟩) hvalue
    rw [htake]
    simp [Arithmetic.names, Arithmetic.value]
  · exact absurd rfl (hname x)
  · have hisName : ∀ x ∈ e.names, IsName x := fun x hx => (he.names x hx).1.toIsName
    have hnames : ∀ u ∈ ws, IsName u.name := fun u hu => (hws u hu).1
    have hvariable : variableValue? s e.text = none := by
      rcases hmark with hmark | hmark
      · exact variableValue?_of_mem hnames hs (by decide) (by decide) hmark
      · exact variableValue?_of_mem hnames hs (by decide) (by decide) hmark
    have hscope : ∀ x ∈ e.names, IsName x ∧ reserved.contains (String.ofList x) = false ∧
        formulaScope s (String.ofList x) = some (.int (lastStored ws x)) := by
      intro x hx
      obtain ⟨hx, hreserved, hstored⟩ := he.names x hx
      exact ⟨hx.toIsName, hreserved, formulaScope_lastStored hws hs hx hstored⟩
    rw [evaluate_of_mark hisName hmark hvariable, he.no_call, if_neg (by decide),
      take_formulaValue_iff he.reads hscope (fun l hl => (he.literals l hl).1) he.depth,
        Arithmetic.number?]
    split
    · next hfree => rw [Option.some.injEq, and_iff_right hfree]
    · next hfree => exact iff_of_false (Option.some_ne_none n).symm fun h => hfree h.1

/-- At every moment of a run that has only written numbers to names, an arithmetic expression over
variables that have been written has the value that it has with the last values of its variables,
under whatever spelling they were written, exactly if it is a variable by itself, or if none of its
names is taken for a function and the values stored under their own spellings come to the same. With
all names in capitals it always has this value. -/
theorem evaluate_arithmetic_iff {lib : Library} (hlib : lib.evaluator.WritesNothing) (w : World)
    (code : List Char) (m : Moment) (hm : m ∈ runTrail lib ⟨freshSession, w⟩ code)
    (hws : ∀ u ∈ m.writes, IsName u.name ∧ ∃ n, u.value = .int n) (e : Arithmetic .sum)
    (he : IsReadableAt lib m.writes e) :
    ((evaluate lib e.text).take m.scene =
        (.ok (.int (e.value (lastWritten m.writes))), m.scene) ↔
      (∃ x, e = .ofProduct (.ofFactor (.name x))) ∨ (∀ x ∈ e.names, ¬ IsFunction x) ∧
        e.value (lastStored m.writes) = e.value (lastWritten m.writes)) ∧
    ((∀ x ∈ e.names, upper x = x) →
      (evaluate lib e.text).take m.scene =
        (.ok (.int (e.value (lastWritten m.writes))), m.scene)) := by
  have hs : Alike (written freshSession m.writes) m.scene.session :=
    (leads_runTrail hlib ⟨freshSession, w⟩ code).alike m hm
  have hiff : (evaluate lib e.text).take m.scene =
        (.ok (.int (e.value (lastWritten m.writes))), m.scene) ↔
      (∃ x, e = .ofProduct (.ofFactor (.name x))) ∨ (∀ x ∈ e.names, ¬ IsFunction x) ∧
        e.value (lastStored m.writes) = e.value (lastWritten m.writes) := by
    by_cases hname : ∃ x, e = .ofProduct (.ofFactor (.name x))
    · obtain ⟨x, rfl⟩ := hname
      obtain ⟨hx, -, hstored⟩ := he.names x List.mem_cons_self
      exact iff_of_true (take_evaluate_lastWritten hws hs hx hstored lib m.scene.world)
        (.inl ⟨x, rfl⟩)
    · rw [or_iff_right hname]
      exact take_evaluate_arithmetic_iff hws hs he (not_exists.1 hname) m.scene.world _
  refine ⟨hiff, fun hupper => hiff.2 (.inr ⟨fun x hx => ?_, ?_⟩)⟩
  · exact not_not.2 (isFree_of_upper_eq (hupper x hx)).2
  · exact Arithmetic.value_congr fun x hx =>
      lastStored_upper (he.names x hx).1.toIsName (hupper x hx) m.writes

/-! ### Two spellings -/

/-- What `twoSpellings` writes. -/
def twoWrites : List Write := [⟨['x'], .int 1⟩, ⟨['X'], .int 2⟩]

lemma upper_x : upper ['x'] = ['X'] := by decide

lemma isVariable_capital_x : IsVariable ['X'] :=
  upper_x ▸ isVariable_x.isVariable_upper

lemma forall_mem_twoWrites : ∀ w ∈ twoWrites, IsName w.name ∧ ∃ n, w.value = .int n := by
  intro w hw
  rcases List.mem_pair.1 hw with rfl | rfl
  · exact ⟨isVariable_x.toIsName, 1, rfl⟩
  · exact ⟨isVariable_capital_x.toIsName, 2, rfl⟩

/-- The expression `X * X - X + X * X`. -/
def capitalSum : Arithmetic .sum :=
  .plus (.plus (.ofProduct (.times (.ofFactor (.name ['X'])) (.name ['X']))) .minus
    (.ofFactor (.name ['X']))) .plus (.times (.ofFactor (.name ['X'])) (.name ['X']))

/-- The capital counts as what was written last. -/
theorem evaluate_arithmetic_iff_capitals :
    ∃ m ∈ runTrail (library .capital) firstScene twoSpellings, m.writes = twoWrites ∧
      (evaluate (library .capital) "X * X - X + X * X".toList).take m.scene =
        (.ok (.int 6), m.scene) := by
  obtain ⟨last, hlast⟩ := exists_mem_trail_twoSpellings
  have hnames : ∀ x ∈ capitalSum.names, x = ['X'] := by decide
  have htext : capitalSum.text = "X * X - X + X * X".toList := by decide
  have hvalue : capitalSum.value (lastWritten twoWrites) = 6 := by decide
  have hreadable : IsReadableAt (library .capital) twoWrites capitalSum :=
    { names := fun x hx => by
        rw [hnames x hx]
        exact ⟨isVariable_capital_x, by decide, ⟨['X'], .int 2⟩, by simp [twoWrites], .inl rfl⟩
      literals := by rintro l ⟨⟩
      depth := by decide
      no_call := by decide
      reads := rfl }
  have heval := (evaluate_arithmetic_iff (confined_library .capital).writesNothing firstScene.world
    twoSpellings _ hlast forall_mem_twoWrites capitalSum hreadable).2 fun x hx => by
      rw [hnames x hx]
      decide
  refine ⟨_, hlast, rfl, ?_⟩
  rw [← htext, ← hvalue]
  exact heval

/-- The expression `x + x`. -/
def smallSum : Arithmetic .sum :=
  .plus (.ofProduct (.ofFactor (.name ['x']))) .plus (.ofFactor (.name ['x']))

/-- The small letter by itself is what was written last, but in a sum it counts as what was written
to it before. -/
theorem evaluate_sum_stale :
    ∃ m ∈ runTrail (library .capital) firstScene twoSpellings, m.writes = twoWrites ∧
      (evaluate (library .capital) "x".toList).take m.scene = (.ok (.int 2), m.scene) ∧
      smallSum.value (lastWritten m.writes) = 4 ∧
      (evaluate (library .capital) "x + x".toList).take m.scene = (.ok (.int 2), m.scene) := by
  obtain ⟨last, hlast⟩ := exists_mem_trail_twoSpellings
  have hs : Alike (written freshSession twoWrites) last.session :=
    (leads_runTrail (confined_library .capital).writesNothing firstScene twoSpellings).alike _ hlast
  have hstored : ∃ w ∈ twoWrites, w.Stores (String.ofList ['x']) :=
    ⟨⟨['x'], .int 1⟩, List.mem_cons_self, .inl rfl⟩
  have hnames : ∀ x ∈ smallSum.names, x = ['x'] := by decide
  have htext : smallSum.text = "x + x".toList := by decide
  have hvalue : smallSum.value (lastWritten twoWrites) = 4 := by decide
  have hreadable : IsReadableAt (library .capital) twoWrites smallSum :=
    { names := fun x hx => by
        rw [hnames x hx]
        exact ⟨isVariable_x, by decide, hstored⟩
      literals := by rintro l ⟨⟩
      depth := by decide
      no_call := by decide
      reads := rfl }
  refine ⟨_, hlast, rfl, ?_, hvalue, ?_⟩
  · exact take_evaluate_lastWritten forall_mem_twoWrites hs isVariable_x hstored _ last.world
  · rw [← htext]
    refine (take_evaluate_arithmetic_iff forall_mem_twoWrites hs hreadable ?_ last.world 2).2 ?_
    · rintro x ⟨⟩
    · exact ⟨fun x hx => by rw [hnames x hx]; decide, by decide⟩

end ScriptHost.Script
