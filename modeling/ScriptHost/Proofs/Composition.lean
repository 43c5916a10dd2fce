import Mathlib.Data.List.TakeWhile
import ScriptHost.Proofs.Turns

/-!
# Scripts one after the other

A script that is the lines of two scripts does what the two do one after the other, if the first of
them comes to its end: `run_append`. Only line numbers tell the difference, and all that a script
shows of its line numbers is the one in the report of an error that stops it.

That takes two facts about runs. The first script runs as it would alone, because the way to a
position depends only on the lines up to there, except that the end of a conditional must not be
looked for beyond the end of the script. And a run whose lines have larger numbers goes the same
way. Formulas must not see the number of their line or the lines after it, so the evaluator has to
be confined to its scope.
-/

namespace ScriptHost.Script

open ScriptHost.Text

/-! ### Larger line numbers -/

/-- A result and the same with larger line numbers: the session is at a line further on, and if an
error was reported at the end, then for a line further on. -/
inductive LaterBy (k : Nat) : Except Fault Unit × Scene → Except Fault Unit × Scene → Prop
  | unreported (outcome : Except Fault Unit) (scene : Scene) :
    LaterBy k (outcome, scene) (outcome, scene.later k)
  | reported (e : Fault) (scene : Scene) :
    LaterBy k (.ok (), scene.printing (errorLine scene.session.line e))
      (.ok (), (scene.later k).printing (errorLine (scene.session.line + k) e))

/-- A position among lines with larger numbers. -/
def Position.later (k : Nat) (p : Position) : Position :=
  ⟨p.number + k, p.rest, p.scene.later k⟩

/-- A turn among lines with larger numbers. -/
def Turn.later (k : Nat) : Turn → Turn
  | .done => .done
  | .onward q => .onward (q.later k)
  | .halt e last => .halt e (last.later k)
  | .leave e last => .leave e (last.later k)

/-- Among lines with larger numbers a run takes the same turns. -/
lemma turn_later {lib : Library} (hlib : lib.evaluator.Confined) (k : Nat) (p : Position) :
    turn lib (p.later k) = (turn lib p).later k := by
  obtain ⟨number, rest, scene⟩ := p
  cases rest with
  | nil => rfl
  | cons l more =>
    have hline : (attempt lib l).take ((scene.later k).atLine (number + k)) =
        (((attempt lib l).take (scene.atLine number)).1,
          ((attempt lib l).take (scene.atLine number)).2.later k) := by
      obtain ⟨line, -, hattempt⟩ := exists_attempt_eq l
      rw [hattempt]
      exact executeLine_reline hlib line (· + k) (scene.atLine number)
    unfold Position.later
    dsimp only
    cases hidle : isIdle (strip l) with
    | true =>
      rw [turn_idle hidle, turn_idle hidle, Nat.add_right_comm]
      rfl
    | false =>
      rcases hrun : (attempt lib l).take (scene.atLine number) with ⟨e | _, after⟩
      · rw [hrun] at hline
        have hresume : (after.later k).session.resume = after.session.resume := rfl
        rw [turn_error hidle hline, turn_error hidle hrun, Nat.add_right_comm, hresume]
        cases e.isExit with
        | true => rfl
        | false => cases after.session.resume <;> rfl
      · rw [hrun] at hline
        rw [turn_ok hidle hline, turn_ok hidle hrun]
        simp only [Turn.later, Position.later]
        congr 2
        omega

/-- Among lines with larger numbers a run comes to the same positions. -/
lemma Reaches.later {lib : Library} (hlib : lib.evaluator.Confined) {p q : Position}
    (h : Reaches lib p q) (k : Nat) :
    Reaches lib (p.later k) (q.later k) := by
  induction h with
  | refl => exact .refl
  | tail _ hturn ih => exact ih.tail (by rw [turn_later hlib, hturn]; rfl)

/-- A run among lines with larger numbers comes to the same, with larger line numbers. -/
theorem play_later {lib : Library} (hlib : lib.evaluator.Confined) (k : Nat) (p : Position) :
    LaterBy k (play lib p) (play lib (p.later k)) := by
  obtain ⟨q, hreach, hlast⟩ := Reaches.exists_last lib p
  rw [hreach.play_eq, (hreach.later hlib k).play_eq, play_eq_turn, play_eq_turn, turn_later hlib]
  cases hturn : turn lib q with
  | done => exact .unreported _ _
  | onward r => exact absurd hturn (hlast r)
  | halt e last =>
    have hline := line_of_halt hlib hturn
    show LaterBy k (.ok (), last.printing (errorLine q.number e))
      (.ok (), (last.later k).printing (errorLine (q.number + k) e))
    rw [← hline]
    exact .reported e last
  | leave e last => exact .unreported _ _

/-- The line number at the start of a run does not matter. -/
lemma play_reline (lib : Library) {p : Position} (hp : p.rest ≠ []) (f : Nat → Nat) :
    play lib { p with scene := p.scene.onSession (reline f) } = play lib p := by
  obtain ⟨number, rest, scene⟩ := p
  cases rest with
  | nil => exact absurd rfl hp
  | cons l more =>
    unfold play
    rw [runLines, Step.take_bind, Step.take_bind]
    rfl

/-! ### One script after the other -/

/-- A run comes to the end of its lines: no error stops it, and it is not left. -/
def Finishes (lib : Library) (p : Position) : Prop :=
  ∃ q, Reaches lib p q ∧ turn lib q = .done

/-- If the line at a position is the head of a conditional that spans lines, then a line that ends
the conditional comes after it. -/
def HeadClosed (p : Position) : Prop :=
  ∀ l more, p.rest = l :: more → isHead (strip l) → ∃ t ∈ more, isTail t

/-- Where the end of a conditional is found, no line beyond the last one is passed over. -/
lemma stop_eq_of_headClosed {lib : Library} {p q : Position} (h : turn lib p = .onward q)
    (hp : HeadClosed p) : p.stop = q.stop := by
  obtain ⟨l, more, hrest, _, hcases⟩ := turn_eq_onward h
  have hskipped : skipped (strip l) more ≤ more.length := by
    unfold skipped
    split
    · next hhead =>
      obtain ⟨t, ht, htail⟩ := hp l more hrest hhead
      refine Nat.succ_le_of_lt (Nat.lt_of_not_le fun hlen => ?_)
      have hall : more.takeWhile (fun l => !isTail l) = more :=
        (List.takeWhile_sublist _).eq_of_length_le hlen
      have hnot := List.takeWhile_eq_self_iff.1 hall t ht
      simp [htail] at hnot
    · exact Nat.zero_le _
  rcases hcases with ⟨hnumber, hq, _⟩ | ⟨hnumber, hq, _⟩ <;>
  · simp only [Position.stop, hrest, hnumber, hq, List.length_cons, List.length_drop]
    omega

lemma Reaches.stop_eq_of_headClosed {lib : Library} {p q : Position} (h : Reaches lib p q)
    (hclosed : ∀ r, Reaches lib p r → HeadClosed r) : p.stop = q.stop := by
  induction h with
  | refl => rfl
  | tail hreach hturn ih => rw [ih, Script.stop_eq_of_headClosed hturn (hclosed _ hreach)]

/-- The lines of a text made of two, with a line break between them. -/
lemma lines_append (a b : List Char) : lines (a ++ '\n' :: b) = lines a ++ lines b :=
  List.splitOn_append_cons_self a b

/-- If a script comes to its end without looking beyond it, then a script that goes on from there
does what the rest of it does alone, with larger line numbers. -/
lemma laterBy_of_reaches {lib : Library} (hlib : lib.evaluator.Confined) {scene : Scene}
    {a : List Char} {q : Position} (hreach : Reaches lib (start scene a) q)
    (hstop : (start scene a).stop = q.stop) (hrest : q.rest = []) (b : List Char) :
    LaterBy (lines a).length ((run lib b).take q.scene)
      ((run lib (a ++ '\n' :: b)).take scene) := by
  obtain ⟨seen, hseen, hlocal⟩ := hreach.exists_seen hstop
  have hnumber : q.number = 1 + (lines a).length := by
    simpa [Position.stop, start, hrest] using hstop.symm
  have hjoint : (run lib (a ++ '\n' :: b)).take scene =
      play lib ⟨1 + (lines a).length, lines b, q.scene⟩ := by
    have h := (hlocal (lines b)).play_eq
    rw [hrest, List.append_nil] at hseen
    rw [← hseen, hnumber] at h
    rw [take_run hlib, start, lines_append]
    exact h
  have hlater : play lib ⟨1 + (lines a).length, lines b, q.scene⟩ =
      play lib (Position.later (lines a).length ⟨1, lines b, q.scene⟩) :=
    (play_reline lib (List.splitOn_ne_nil _ _) (· + (lines a).length)).symm
  rw [take_run hlib, hjoint, hlater]
  exact play_later hlib (lines a).length ⟨1, lines b, q.scene⟩

/-- A script made of the lines of two scripts does what the second does after the first, with larger
line numbers, if the first one comes to its end and no conditional in it is open at the end. -/
theorem run_append {lib : Library} (hlib : lib.evaluator.Confined) (scene : Scene) (a b : List Char)
    (hfinish : Finishes lib (start scene a))
    (hclosed : ∀ p, Reaches lib (start scene a) p → HeadClosed p) :
    LaterBy (lines a).length ((run lib a >>= fun _ => run lib b).take scene)
      ((run lib (a ++ '\n' :: b)).take scene) := by
  obtain ⟨q, hreach, hdone⟩ := hfinish
  have hfirst : (run lib a).take scene = (.ok (), q.scene) := by
    have h := hreach.play_eq
    rw [play_eq_turn lib q, hdone] at h
    rw [take_run hlib, h]
  rw [Step.take_bind, hfirst]
  exact laterBy_of_reaches hlib hreach (hreach.stop_eq_of_headClosed hclosed) (rest_of_done hdone) b

/-- A conditional that spans lines and holds no lines. -/
def emptyConditional : List Char := "If 1 Then\nEnd If".toList

lemma lines_emptyConditional :
    lines emptyConditional = ["If 1 Then".toList, "End If".toList] := by
  decide

/-- The head of the conditional is no statement, and with it the end is passed over. -/
lemma turn_emptyConditional :
    turn (library .capital) (start firstScene emptyConditional) =
      .onward ⟨3, [], firstScene.atLine 1⟩ := by
  have hidle : isIdle (strip "If 1 Then".toList) = false := by decide
  have hkind : kindOf .capital (prepare (firstScene.atLine 1).session (strip "If 1 Then".toList)) =
      .conditional := by decide
  have hshape : Shape.conditional
      (prepare (firstScene.atLine 1).session (strip "If 1 Then".toList)) = none :=
    Option.isNone_iff_eq_none.1 (by decide)
  have hrun : (attempt (library .capital) "If 1 Then".toList).take
      (firstScene.atLine 1) = (.ok (), firstScene.atLine 1) := by
    rw [attempt_of_notMem _ (by decide), take_executeLine]
    refine (if_pos hkind).trans ?_
    rw [executeConditional, hshape]
    rfl
  have hskipped : skipped (strip "If 1 Then".toList) ["End If".toList] = 1 := by decide
  rw [start, lines_emptyConditional, turn_ok hidle hrun, hskipped]
  rfl

/-- An empty conditional comes to its end, so that an error in the line after it is reported for the
third line where the line alone would have it in the first. -/
theorem run_append_emptyConditional :
    LaterBy 2 ((run (library .capital) emptyConditional >>= fun _ =>
        run (library .capital) "1-".toList).take firstScene)
      ((run (library .capital) (emptyConditional ++ '\n' :: "1-".toList)).take firstScene) := by
  refine run_append (confined_library .capital) firstScene emptyConditional "1-".toList
    ⟨_, .single turn_emptyConditional, rfl⟩ fun p hp l more hrest hhead => ?_
  rcases hp.cases_head with rfl | ⟨q, hq, hp⟩
  · have hmore : ["End If".toList] = more :=
      (List.cons.inj (lines_emptyConditional.symm.trans hrest)).2
    exact ⟨"End If".toList, by simp [← hmore], by decide⟩
  · obtain rfl := Turn.onward.inj (turn_emptyConditional.symm.trans hq)
    rcases hp.cases_head with rfl | ⟨r, hr, _⟩
    · simp at hrest
    · simp [turn] at hr

end ScriptHost.Script
