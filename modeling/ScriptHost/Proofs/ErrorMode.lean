import ScriptHost.Proofs.Turns

/-!
# Errors in scripts

An error in a line stops the script or lets it go on with the next line. Which of the two happens is
settled by the error mode at the moment of the error: `error_discipline`. If the script stops, then
everything is as after the lines up to the error alone, the report being the last thing printed. If
the mode is to go on and no statement takes it back, then no error ends the script or gets out of
it.

The error mode is part of the session, and a statement changes it only if it is one of the two that
are there for it, at the top of a line or inside a conditional. Formulas leave it alone and do not
see the lines that follow, if the evaluator is confined to its scope.
-/

namespace ScriptHost.Script

open ScriptHost.Text

/-! ### Statements and the error mode -/

/-- In a scene, executing a line executes a statement of a kind: the line itself, or the statement
that its condition picks, and so on. -/
inductive Executes (lib : Library) : List Char → Scene → StatementKind → Prop
  | here (line : List Char) (scene : Scene) :
    Executes lib line scene (kindOf lib.dialect (prepare scene.session line))
  | inside {line statement : List Char} {scene after : Scene} {c : Shape.Conditional} {v : Value}
    {kind : StatementKind} :
    kindOf lib.dialect (prepare scene.session line) = .conditional →
    Shape.conditional (prepare scene.session line) = some c →
    (evaluate lib c.condition).take scene = (.ok v, after) →
    c.pick v.truthy = some statement →
    Executes lib statement after kind → Executes lib line scene kind

/-- A line that is no conditional executes no other statement than itself. -/
lemma Executes.kind_eq {lib : Library} {line : List Char} {scene : Scene} {kind : StatementKind}
    (h : Executes lib line scene kind)
    (hplain : kindOf lib.dialect (prepare scene.session line) ≠ .conditional) :
    kind = kindOf lib.dialect (prepare scene.session line) := by
  cases h with
  | here => rfl
  | inside hkind => exact absurd hkind hplain

/-- A session that goes on after errors. -/
def resuming (s : Session) : Session :=
  { s with resume := true }

lemma unseen_resuming : Unseen resuming :=
  ⟨fun _ => ⟨rfl, rfl⟩, fun _ _ _ => rfl⟩

/-- A step that mirrors itself in sessions that go on after errors leaves them so. -/
lemma Mirrors.resume_eq {α : Type} {a : Step α} (h : Mirrors resuming a a) {scene : Scene}
    (hscene : scene.session.resume = true) : (a.take scene).2.session.resume = true := by
  have hsame : scene.onSession resuming = scene := by
    unfold Scene.onSession resuming
    rw [← hscene]
  have htake := h scene
  rw [hsame] at htake
  rw [htake]
  rfl

section Resuming

variable {lib : Library} (hlib : lib.evaluator.Confined)

include hlib

/-- Plain statements leave the mode to go on, except the one that takes it back. -/
lemma resume_executePlain {kind : StatementKind} (line : List Char)
    (hkind : kind ≠ .resumeNever) {scene : Scene} (hscene : scene.session.resume = true) :
    ((executePlain lib kind line).take scene).2.session.resume = true := by
  by_cases hnext : kind = .resumeNext
  · subst hnext
    rfl
  · have hmode : kind.setsErrorMode = false := by simp [StatementKind.setsErrorMode, hnext, hkind]
    have hagree := hlib.agreeOn unseen_resuming.alike
    exact (executePlain_mirrors unseen_resuming (hagree line) (fun _ => ⟨rfl, hagree⟩)
      (by simp [hmode])).resume_eq hscene

/-- Executing a line leaves the mode to go on, unless it executes a statement that takes it back. -/
theorem resume_executeLine (line : List Char) (scene : Scene)
    (hscene : scene.session.resume = true) (hnever : ¬ Executes lib line scene .resumeNever) :
    ((executeLine lib line).take scene).2.session.resume = true := by
  -- By induction on the line, since the statement in a conditional is executed like a line.
  induction line using executeLine.induct generalizing scene with
  | case1 line ih =>
    rw [take_executeLine]
    split
    · next hkind =>
      rw [executeConditional]
      split
      · exact hscene
      · next c hc =>
        rw [Step.take_bind]
        have hafter := (evaluate_mirrors unseen_resuming.alike
          (hlib.agreeOn unseen_resuming.alike c.condition)).resume_eq hscene
        rcases hv : (evaluate lib c.condition).take scene with ⟨e | v, after⟩
        · rw [hv] at hafter
          exact hafter
        · rw [hv] at hafter
          dsimp only
          split
          · next statement hpick =>
            exact ih scene c hc v statement hpick after hafter fun h =>
              hnever (.inside hkind hc hv hpick h)
          · exact hafter
    · next hkind =>
      refine resume_executePlain hlib _ (fun h => hnever ?_) hscene
      rw [← h]
      exact .here line scene

end Resuming

/-! ### Lines of a text -/

/-- The first lines of a text, put together, are these lines. -/
lemma lines_intercalate_take (cs : List Char) {k : Nat} (hk : 0 < k) :
    lines (['\n'].intercalate ((lines cs).take k)) = (lines cs).take k := by
  refine List.splitOn_intercalate '\n' (fun l hl => ?_) ?_
  · exact newline_notMem_of_mem_lines (List.mem_of_mem_take hl)
  · have hne : lines cs ≠ [] := List.splitOn_ne_nil _ _
    simp [List.take_eq_nil_iff, hne, Nat.ne_of_gt hk]

/-! ### Errors -/

/-- The line at a position is executed and fails, by an error and not to leave the script. -/
structure FailsAt (lib : Library) (q : Position) (l : List Char) (more : List (List Char))
    (e : Fault) (last : Scene) : Prop where
  rest : q.rest = l :: more
  busy : isIdle (strip l) = false
  failure : (executeAt lib (strip l) more).take (q.scene.atLine q.number) = (.error e, last)
  error : e.isExit = false

section Errors

variable {lib : Library} {scene : Scene} {code : List Char} {q : Position} {l : List Char}
  {more : List (List Char)} {e : Fault} {last : Scene}

/-- What a run does at an error depends on the error mode alone. -/
lemma FailsAt.turn_eq (h : FailsAt lib q l more e last) (rest : List (List Char)) :
    turn lib { q with rest := l :: rest } =
      if last.session.resume then .onward ⟨q.number + 1, rest, last⟩ else .halt e last := by
  have hfailure := h.failure
  rw [executeAt_eq_attempt] at hfailure
  rw [turn_error h.busy hfailure, h.error]
  rfl

/-- A run that comes to a line has its number right, and depends only on the lines up to there. -/
lemma Reaches.exists_before (h : Reaches lib (start scene code) q) (hq : q.rest = l :: more) :
    ∃ before, lines code = before ++ l :: more ∧ q.number = before.length + 1 ∧
      ∀ rest, Reaches lib ⟨1, before ++ rest, scene⟩ { q with rest := rest } := by
  have hstop := h.stop_eq_of_ne_nil (by simp [hq])
  obtain ⟨before, hbefore, hreach⟩ := h.exists_seen hstop
  have hcode : lines code = before ++ l :: more := by
    rw [← hq]
    exact hbefore
  refine ⟨before, hcode, ?_, hreach⟩
  simp only [Position.stop, start, hcode, hq, List.length_append, List.length_cons] at hstop
  omega

/-- If the run of a script comes to a line, then so does the run of every script with the same lines
up to there. -/
lemma Reaches.of_take_eq (h : Reaches lib (start scene code) q) (hq : q.rest = l :: more)
    {code' : List Char} (hsame : (lines code').take q.number = (lines code).take q.number) :
    Reaches lib (start scene code') { q with rest := l :: (lines code').drop q.number } := by
  obtain ⟨before, hcode, hnumber, hreach⟩ := h.exists_before hq
  have htake : (lines code').take q.number = before ++ [l] := by
    rw [hsame, hcode, hnumber, List.take_append, List.take_of_length_le (by omega)]
    simp
  have hcode' : lines code' = before ++ l :: (lines code').drop q.number :=
    calc lines code' = (lines code').take q.number ++ (lines code').drop q.number :=
          (List.take_append_drop _ _).symm
      _ = before ++ l :: (lines code').drop q.number := by rw [htake]; simp
  have hreach' := hreach (l :: (lines code').drop q.number)
  rw [← hcode'] at hreach'
  exact hreach'

/-- An error stops the script if the error mode is to stop, and the script could as well have ended
with that line. -/
theorem run_of_error (hlib : lib.evaluator.Confined) (h : Reaches lib (start scene code) q)
    (hfails : FailsAt lib q l more e last) (hmode : last.session.resume = false) {code' : List Char}
    (hsame : (lines code').take q.number = (lines code).take q.number) :
    (run lib code').take scene = (.ok (), last.printing (errorLine q.number e)) := by
  have hturn := hfails.turn_eq ((lines code').drop q.number)
  rw [hmode] at hturn
  have hplay := (h.of_take_eq hfails.rest hsame).play_eq
  rw [play_eq_turn lib { q with rest := _ }, hturn] at hplay
  rw [take_run hlib, hplay]
  rfl

/-- In the run of a script no statement takes back the mode to go on after errors. -/
def NeverTakenBack (lib : Library) (p : Position) : Prop :=
  ∀ q l more, Reaches lib p q → q.rest = l :: more → isIdle (strip l) = false →
    ¬ Executes lib (strip l) (q.scene.atLine q.number) .resumeNever

section Resuming

variable (hlib : lib.evaluator.Confined) (h : Reaches lib (start scene code) q)
  (hscene : scene.session.resume = true) (hnever : NeverTakenBack lib (start scene code))

include hlib h hscene hnever

/-- The mode to go on after errors stays in all of a run, if no statement takes it back. -/
lemma Reaches.resume_eq : q.scene.session.resume = true := by
  induction h with
  | refl => exact hscene
  | tail hreach hturn ih =>
    obtain ⟨l, more, hrest, hafter, _⟩ := turn_eq_onward hturn
    rw [hafter, sceneAfter]
    split
    · exact ih
    · next hidle =>
      rw [attempt_of_reaches hreach hrest]
      exact resume_executeLine hlib (strip l) _ ih
        (hnever _ l more hreach hrest (by simpa using hidle))

/-- In the mode to go on, a run goes on with the next line after an error. -/
lemma FailsAt.turn_eq_onward (hfails : FailsAt lib q l more e last) :
    turn lib q = .onward ⟨q.number + 1, more, last⟩ := by
  have hmode : last.session.resume = true := by
    have hafter := resume_executeLine hlib (strip l) (q.scene.atLine q.number)
      (h.resume_eq hlib hscene hnever) (hnever q l more h hfails.rest hfails.busy)
    rwa [← attempt_of_reaches h hfails.rest, ← executeAt_eq_attempt lib l more, hfails.failure]
      at hafter
  have hturn := hfails.turn_eq more
  rw [hmode, ← hfails.rest] at hturn
  exact hturn

/-- In the mode to go on, no error stops a run. -/
lemma turn_ne_halt : turn lib q ≠ .halt e last := by
  intro hturn
  obtain ⟨l, more, hrest, hidle, hrun, hexit, _⟩ := turn_eq_halt hturn
  rw [← executeAt_eq_attempt lib l more] at hrun
  have hon := FailsAt.turn_eq_onward hlib h hscene hnever ⟨hrest, hidle, hrun, hexit⟩
  rw [hturn] at hon
  cases hon

end Resuming

/-- In the mode to go on, a run ends because its lines are used up or because it is left. -/
lemma exists_end (hlib : lib.evaluator.Confined) (hscene : scene.session.resume = true)
    (hnever : NeverTakenBack lib (start scene code)) :
    ∃ q, Reaches lib (start scene code) q ∧
      ((q.rest = [] ∧ (run lib code).take scene = (.ok (), q.scene)) ∨
        ∃ e last, e.isExit = true ∧ turn lib q = .leave e last ∧
          (run lib code).take scene = (.error e, last)) := by
  obtain ⟨q, hreach, hlast⟩ := Reaches.exists_last lib (start scene code)
  refine ⟨q, hreach, ?_⟩
  rw [take_run hlib, hreach.play_eq, play_eq_turn]
  cases hturn : turn lib q with
  | done => exact .inl ⟨rest_of_done hturn, rfl⟩
  | onward r => exact absurd hturn (hlast r)
  | halt e last => exact absurd hturn (turn_ne_halt hlib hreach hscene hnever)
  | leave e last =>
    obtain ⟨_, _, _, _, _, hexit⟩ := turn_eq_leave hturn
    exact .inr ⟨e, last, hexit, rfl, rfl⟩

end Errors

/-- What errors do to a script.

An error in a line while the error mode is to stop: the script ends with the report of the error,
being at that line, and it would have done exactly the same with other lines after that one, or
with none.

The error mode is to go on from the start and no statement takes it back: no error stops the script,
each is followed by the next line, and the script ends when its lines are used up, unless it is
left. -/
theorem error_discipline {lib : Library} (hlib : lib.evaluator.Confined) (scene : Scene)
    (code : List Char) :
    (∀ q l more e last, Reaches lib (start scene code) q → FailsAt lib q l more e last →
      last.session.resume = false →
        (lines code).drop (q.number - 1) = l :: more ∧
        (run lib code).take scene = (.ok (), last.printing (errorLine q.number e)) ∧
        last.session.line = q.number ∧
        (run lib (['\n'].intercalate ((lines code).take q.number))).take scene =
          (run lib code).take scene ∧
        ∀ code', (lines code').take q.number = (lines code).take q.number →
          (run lib code').take scene = (run lib code).take scene) ∧
    (scene.session.resume = true → NeverTakenBack lib (start scene code) →
      (∀ q e last, Reaches lib (start scene code) q → turn lib q ≠ .halt e last) ∧
      (∀ q l more e last, Reaches lib (start scene code) q → FailsAt lib q l more e last →
        turn lib q = .onward ⟨q.number + 1, more, last⟩) ∧
      ∃ q, Reaches lib (start scene code) q ∧
        ((q.rest = [] ∧ (run lib code).take scene = (.ok (), q.scene)) ∨
          ∃ e last, e.isExit = true ∧ turn lib q = .leave e last ∧
            (run lib code).take scene = (.error e, last))) := by
  refine ⟨fun q l more e last hreach hfails hmode => ?_, fun hscene hnever => ?_⟩
  · obtain ⟨before, hcode, hnumber, _⟩ := hreach.exists_before hfails.rest
    have hrun {code' : List Char}
        (hsame : (lines code').take q.number = (lines code).take q.number) :
        (run lib code').take scene = (run lib code).take scene := by
      rw [run_of_error hlib hreach hfails hmode hsame, run_of_error hlib hreach hfails hmode rfl]
    have hline := line_executeLine hlib (strip l) (q.scene.atLine q.number)
    rw [← attempt_of_reaches hreach hfails.rest, ← executeAt_eq_attempt lib l more,
      hfails.failure] at hline
    refine ⟨?_, run_of_error hlib hreach hfails hmode rfl, hline, hrun ?_, fun code' => hrun⟩
    · rw [hcode, hnumber]
      simp
    · rw [lines_intercalate_take code (by omega), List.take_take, Nat.min_self]
  · exact ⟨fun q e last hreach => turn_ne_halt hlib hreach hscene hnever,
      fun q l more e last hreach hfails => FailsAt.turn_eq_onward hlib hreach hscene hnever hfails,
      exists_end hlib hscene hnever⟩

/-- A line that is taken for a numeral and is none. -/
def brokenNumeral : List Char := "1-".toList

lemma strip_brokenNumeral : strip brokenNumeral = brokenNumeral := by
  decide

lemma lines_brokenNumeral : lines brokenNumeral = [brokenNumeral] := by
  decide

lemma evaluate_brokenNumeral (lib : Library) :
    evaluate lib brokenNumeral = Step.act (Act.ofExcept (.error (.badWholeText "1-"))) := by
  have hblank : ¬ (strip brokenNumeral).isEmpty = true := by decide
  have hjoined : ¬ (strip brokenNumeral).contains '&' = true := by decide
  have hquoted : quotedText? brokenNumeral = none := by decide
  have hnumeric : looksNumeric brokenNumeral = true := by decide
  have hnumeral : numeral brokenNumeral = .error (.badWholeText "1-") := rfl
  rw [evaluate, if_neg hblank, if_neg hjoined, strip_brokenNumeral, evaluateOperand, if_neg hblank,
    strip_brokenNumeral, hquoted]
  dsimp only
  rw [if_pos hnumeric, hnumeral]

lemma kindOf_brokenNumeral {s : Session} (hs : s.constants = true) :
    kindOf .capital (prepare s brokenNumeral) = .expression := by
  rw [prepare, hs]
  decide

lemma failsAt_brokenNumeral {scene : Scene} (hscene : scene.session.constants = true) :
    FailsAt (library .capital) (start scene brokenNumeral) brokenNumeral [] (.badWholeText "1-")
      (scene.atLine 1) where
  rest := lines_brokenNumeral
  busy := by decide
  error := rfl
  failure := by
    have hprepare : prepare (scene.atLine 1).session brokenNumeral = brokenNumeral := by
      unfold prepare
      rw [show (scene.atLine 1).session.constants = true from hscene]
      decide
    have hkind := kindOf_brokenNumeral (s := (scene.atLine 1).session) hscene
    have hblank : (!(strip brokenNumeral).isEmpty) = true := by decide
    rw [executeAt_eq_attempt, attempt_of_notMem _ (by decide), strip_brokenNumeral]
    show (executeLine (library .capital) brokenNumeral).take (scene.atLine 1) = _
    rw [take_executeLine, show (library .capital).dialect = .capital from rfl, hkind, hprepare,
      if_neg (by decide), executePlain, executeExpression, if_pos hblank, Step.take_bind,
      evaluate_brokenNumeral, Step.take_act, Act.carryOut_ofExcept]

/-- No statement in the line takes back the error mode. -/
lemma neverTakenBack_brokenNumeral {scene : Scene} (hscene : scene.session.constants = true) :
    NeverTakenBack (library .capital) (start scene brokenNumeral) := by
  intro q l more hreach hrest _
  rcases hreach.cases_head with rfl | ⟨r, hr, hq⟩
  · obtain rfl : brokenNumeral = l := (List.cons.inj (lines_brokenNumeral.symm.trans hrest)).1
    intro hexec
    rw [strip_brokenNumeral] at hexec
    change Executes (library .capital) brokenNumeral (scene.atLine 1) .resumeNever at hexec
    have hkind : kindOf (library .capital).dialect
        (prepare (scene.atLine 1).session brokenNumeral) = .expression :=
      kindOf_brokenNumeral hscene
    have hnever := hexec.kind_eq (by rw [hkind]; decide)
    rw [hkind] at hnever
    cases hnever
  · -- There is no second line.
    have hlines : (start scene brokenNumeral).rest = [brokenNumeral] := lines_brokenNumeral
    have hnil : r.rest = [] := by
      have hlt := length_lt_of_turn hr
      rw [hlines, List.length_singleton] at hlt
      exact List.length_eq_zero_iff.1 (by omega)
    rcases hq.cases_head with rfl | ⟨t, ht, _⟩
    · simp [hnil] at hrest
    · have hlt := length_lt_of_turn ht
      simp [hnil] at hlt

/-- A numeral that is none stops a script that is to stop at errors, and does not stop one that is
to go on. -/
theorem error_discipline_brokenNumeral :
    (run (library .capital) brokenNumeral).take firstScene =
        (.ok (), (firstScene.atLine 1).printing (errorLine 1 (.badWholeText "1-"))) ∧
      turn (library .capital) (start (firstScene.onSession resuming) brokenNumeral) =
        .onward ⟨2, [], (firstScene.onSession resuming).atLine 1⟩ :=
  ⟨((error_discipline (confined_library .capital) firstScene brokenNumeral).1 _ _ _ _ _ .refl
      (failsAt_brokenNumeral rfl) rfl).2.1,
    ((error_discipline (confined_library .capital) (firstScene.onSession resuming) brokenNumeral).2
      rfl
      (neverTakenBack_brokenNumeral rfl)).2.1 _ _ _ _ _ .refl (failsAt_brokenNumeral rfl)⟩

end ScriptHost.Script
