import Mathlib.Data.List.Infix
import ScriptHost.Proofs.Concatenation
import ScriptHost.Proofs.Substitution

/-!
# Scripts of one line

What a script of a single line does is what executing that line does, except that an error is
reported. Two kinds of lines are followed to the end here, with any text in the place of their
operand: one that prints a value, and one that assigns a value to a variable. How such a line is
understood depends on its operand in two ways only, since the kind of a statement is told by an
equals sign and by the word `THEN`, wherever they stand.
-/

namespace ScriptHost.Script

open ScriptHost.Text

/-! ### Running one line -/

section Run

variable {lib : Library} {scene after : Scene} {code : List Char}

/-- A text without line ends is one line. -/
lemma lines_of_notMem (h : '\n' ∉ code) : lines code = [code] :=
  List.splitOn_eq_singleton h

/-- Nothing is done when no lines are left. -/
lemma play_nil (lib : Library) (n : Nat) (scene : Scene) :
    play lib ⟨n, [], scene⟩ = (.ok (), scene) := by
  rw [play_eq_turn]
  rfl

variable (hlib : lib.evaluator.Confined)

include hlib

lemma run_eq_play (h : '\n' ∉ code) :
    (run lib code).take scene = play lib ⟨1, [code], scene⟩ := by
  rw [take_run hlib, start, lines_of_notMem h]

/-- A line that is executed without an error is all that its script does. -/
lemma run_of_executeLine_ok (hline : '\n' ∉ code) (hbusy : isIdle (strip code) = false)
    (h : (executeLine lib (strip code)).take (scene.atLine 1) = (.ok (), after)) :
    (run lib code).take scene = (.ok (), after) := by
  rw [← attempt_of_notMem lib hline] at h
  rw [run_eq_play hlib hline, play_eq_turn, turn_ok hbusy h]
  dsimp only
  rw [List.drop_nil, play_nil]

/-- The session after a script of one line is the one that the line leaves, error or not. -/
lemma session_run (hline : '\n' ∉ code) (hbusy : isIdle (strip code) = false) :
    ((run lib code).take scene).2.session =
      ((executeLine lib (strip code)).take (scene.atLine 1)).2.session := by
  rcases h : (executeLine lib (strip code)).take (scene.atLine 1) with ⟨e | _, after⟩
  · rw [← attempt_of_notMem lib hline] at h
    rw [run_eq_play hlib hline, play_eq_turn, turn_error hbusy h]
    cases e.isExit with
    | true => rfl
    | false =>
      cases after.session.resume with
      | true => exact congrArg (fun r => r.2.session) (play_nil lib _ after)
      | false => rfl
  · rw [run_of_executeLine_ok hlib hline hbusy h]

end Run

/-! ### Understanding a line -/

/-- Characters that are not blank are still there after stripping. -/
lemma mem_strip {c : Char} {cs : List Char} (hc : isBlank c = false) (h : c ∈ cs) :
    c ∈ strip cs := by
  obtain ⟨l, r, hl, hr, hcs⟩ := exists_strip cs
  have hblank : ¬ isBlank c = true := by simp [hc]
  rw [hcs, List.mem_append, List.mem_append] at h
  rcases h with (h | h) | h
  · exact absurd (hl c h) hblank
  · exact h
  · exact absurd (hr c h) hblank

/-- A line that starts with a letter has no label. -/
lemma withoutLabel_cons {c : Char} (hblank : isBlank c = false) (hdigit : isDigit c = false)
    (hcolon : c ≠ ':') (cs : List Char) : withoutLabel (c :: cs) = c :: cs := by
  have hmem : c ∈ strip ((c :: cs).takeWhile (· != ':')) :=
    mem_strip hblank (by simp [hcolon])
  have hlabel : isLabel (strip ((c :: cs).takeWhile (· != ':'))) = false := by
    refine Bool.eq_false_iff.2 fun hlabel => ?_
    have hall := List.all_eq_true.1 ((Bool.and_eq_true _ _ ▸ hlabel).2) c hmem
    rw [hdigit] at hall
    cases hall
  rw [withoutLabel, hlabel, Bool.and_false, if_neg Bool.false_ne_true]

/-- A line that prints the value of a text. -/
def printLine (cs : List Char) : List Char :=
  "WScript.Echo ".toList ++ cs

/-- A line that assigns the value of a text to the variable `x`. -/
def assignLine (cs : List Char) : List Char :=
  "x = ".toList ++ cs

lemma printLine_eq (cs : List Char) : printLine cs = "WScript.Echo".toList ++ ' ' :: cs :=
  rfl

lemma assignLine_eq (cs : List Char) : assignLine cs = "x =".toList ++ ' ' :: cs :=
  rfl

/-- Constants are replaced in the operand of a line that prints. -/
lemma substitute_printLine (cs : List Char) :
    substitute (printLine cs) = printLine (substitute cs) := by
  have hword : substitute "WScript.Echo".toList = "WScript.Echo".toList := by decide
  rw [printLine_eq, substitute_append_cons (by decide), hword, printLine_eq]

/-- Constants are replaced in the operand of a line that assigns. -/
lemma substitute_assignLine (cs : List Char) :
    substitute (assignLine cs) = assignLine (substitute cs) := by
  have hname : substitute "x =".toList = "x =".toList := by decide
  rw [assignLine_eq, substitute_append_cons (by decide), hname, assignLine_eq]

lemma prepare_printLine {s : Session} (hs : s.constants = true) (cs : List Char) :
    prepare s (printLine cs) = printLine (substitute cs) := by
  rw [prepare, if_pos hs, substitute_printLine]
  exact withoutLabel_cons (by decide) (by decide) (by decide) _

lemma prepare_assignLine {s : Session} (hs : s.constants = true) (cs : List Char) :
    prepare s (assignLine cs) = assignLine (substitute cs) := by
  rw [prepare, if_pos hs, substitute_assignLine]
  exact withoutLabel_cons (by decide) (by decide) (by decide) _

lemma upper_printLine (cs : List Char) :
    upper (printLine cs) = "WSCRIPT.ECHO ".toList ++ upper cs := by
  have hword : upper "WScript.Echo ".toList = "WSCRIPT.ECHO ".toList := by decide
  have hparts : upper (printLine cs) = upper "WScript.Echo ".toList ++ upper cs :=
    upper_append _ cs
  rw [hparts, hword]

lemma upper_assignLine (cs : List Char) : upper (assignLine cs) = "X = ".toList ++ upper cs := by
  have hname : upper "x = ".toList = "X = ".toList := by decide
  rw [assignLine, upper_append, hname]

/-- A line that prints is taken for an assignment if there is an equals sign in it, unless there is
a `THEN` as well. -/
lemma kindOf_printLine (d : Dialect) (cs : List Char) :
    kindOf d (printLine cs) =
      if '=' ∈ cs ∧ ¬ " THEN ".toList <:+: upper (printLine cs) then .assignment else .echo := by
  have hopening : kindByStart openings (upper (printLine cs)) = none := by
    rw [upper_printLine]
    rfl
  have hcommand : kindByStart (commands d) (upper (printLine cs)) = some .echo := by
    rw [upper_printLine]
    rfl
  have hequals : (printLine cs).contains '=' = cs.contains '=' := by
    simp [printLine_eq]
  unfold kindOf
  dsimp only
  rw [hopening, hcommand, hequals]
  simp [occurs_eq_false_iff]

/-- A line that assigns is taken for something else if there is a `THEN` in it. -/
lemma kindOf_assignLine (d : Dialect) (cs : List Char) :
    kindOf d (assignLine cs) =
      if " THEN ".toList <:+: upper (assignLine cs) then
        (if looksLikeCall (assignLine cs) then .call else .expression)
      else .assignment := by
  have hopening : kindByStart openings (upper (assignLine cs)) = none := by
    rw [upper_assignLine]
    rfl
  have hcommand : kindByStart (commands d) (upper (assignLine cs)) = none := by
    rw [upper_assignLine]
    cases d <;> rfl
  have hequals : (assignLine cs).contains '=' = true := by
    simp [assignLine]
  unfold kindOf
  dsimp only
  rw [hopening, hcommand, hequals]
  simp [occurs_eq_false_iff]

/-- A text without blanks around it does not end in a blank. -/
lemma isBlank_of_getLast?_strip {cs : List Char} {c : Char} (h : (strip cs).getLast? = some c) :
    isBlank c = false := by
  rw [strip, stripRight, List.getLast?_reverse] at h
  have hhead := List.head?_dropWhile_not isBlank (stripLeft cs).reverse
  rw [h] at hhead
  exact hhead

/-- A text without blanks around it does not start with a blank. -/
lemma isBlank_of_head?_strip {cs : List Char} {c : Char} (h : c ∈ (strip cs).head?) :
    isBlank c = false := by
  rw [Bool.eq_false_iff]
  intro hblank
  obtain ⟨rest, hrest⟩ : ∃ rest, strip cs = c :: rest := ⟨_, List.eq_cons_of_mem_head? h⟩
  have hstrip := strip_strip cs
  rw [hrest, strip_cons_of_isBlank hblank] at hstrip
  have hle := length_strip_le rest
  rw [hstrip, List.length_cons] at hle
  omega

/-- A line that assigns keeps the blanks in front of its operand and loses those after it. -/
lemma exists_strip_assignLine {cs : List Char} (h : strip cs ≠ []) :
    ∃ l, (∀ b ∈ l, isBlank b = true) ∧ strip (assignLine cs) = assignLine (l ++ strip cs) := by
  obtain ⟨l, r, hl, hr, hcs⟩ := exists_strip cs
  have hsplit : assignLine cs = [] ++ assignLine (l ++ strip cs) ++ r := by
    conv => lhs; rw [hcs]
    simp [assignLine]
  have hlast : (assignLine (l ++ strip cs)).getLast? = (strip cs).getLast? := by
    rw [assignLine, ← List.append_assoc, List.getLast?_append_of_ne_nil _ h]
  refine ⟨l, hl, ?_⟩
  rw [hsplit, strip_append_append (by simp) _ hr]
  refine strip_eq_self ?_ fun c hc => ?_
  · rintro c ⟨⟩
    decide
  · rw [hlast] at hc
    exact isBlank_of_getLast?_strip hc

/-! ### Formulas -/

/-- The evaluator reads a text by the rules of formulas: it does with it what `formulaEvaluator`
does. An evaluator that gives up on long texts does not do so with all of them. -/
def Library.ReadsFormula (lib : Library) (cs : List Char) : Prop :=
  lib.evaluator lib.frame cs = formulaEvaluator lib.frame cs

namespace Library.ReadsFormula

variable {lib : Library} {cs : List Char} {scene : Scene}

/-- A formula that comes to a value has it. -/
lemma take_formulaValue (h : lib.ReadsFormula cs) {v : Value}
    (hv : Formula.evaluate (formulaScope scene.session) cs = pure v) :
    (formulaValue lib cs).take scene = (.ok v, scene) := by
  rw [formulaValue, Step.take_recover, h, formulaEvaluator, Step.take_consult, hv]
  rfl

/-- A formula that comes to nothing stands for its text. -/
lemma take_of_fault (h : lib.ReadsFormula cs) {e : Fault} (hexit : e.isExit = false)
    (he : Formula.evaluate (formulaScope scene.session) cs = throw e) :
    (formulaValue lib cs).take scene = (.ok (.text (String.ofList cs)), scene) := by
  have htake : (formulaEvaluator lib.frame cs).take scene = (.error e, scene) := by
    rw [formulaEvaluator, Step.take_consult, he]
    rfl
  rw [formulaValue, Step.take_recover, h, htake]
  dsimp only
  rw [hexit]
  rfl

/-- A text that cannot be read as a formula stands for itself. -/
lemma take_unreadable (h : lib.ReadsFormula cs) (hcs : Formula.Tree.ofText? cs = none) :
    (formulaValue lib cs).take scene = (.ok (.text (String.ofList cs)), scene) := by
  refine h.take_of_fault (e := .noFormula) rfl ?_
  rw [Formula.evaluate, hcs]

end Library.ReadsFormula

/-! ### Executing a line -/

section Execute

variable (lib : Library)

/-- An expression without ampersands is a single operand. -/
lemma evaluate_of_notMem {cs : List Char} (h : '&' ∉ cs) :
    evaluate lib cs = evaluateOperand lib cs := by
  have hstrip : '&' ∉ strip cs := fun hmem => h ((strip_isInfix cs).subset hmem)
  rw [evaluate]
  split
  · next hblank => exact (evaluateOperand_blank lib hblank).symm
  · rw [if_neg fun hmem => hstrip (List.contains_iff_mem.1 hmem),
      evaluateOperand_congr_strip lib (strip_strip cs)]

/-- Blanks around an expression do not matter. -/
lemma evaluate_strip (cs : List Char) : evaluate lib (strip cs) = evaluate lib cs := by
  by_cases h : '&' ∈ cs
  · rw [evaluate_of_mem lib h, evaluate_of_mem lib (mem_strip (by decide) h), operands_strip]
  · have hstrip : '&' ∉ strip cs := fun hmem => h ((strip_isInfix cs).subset hmem)
    rw [evaluate_of_notMem lib h, evaluate_of_notMem lib hstrip,
      evaluateOperand_congr_strip lib (strip_strip cs)]

/-- A text that is neither quoted nor a numeral, a word with a value or a call is a formula. -/
lemma take_evaluate_formula {t : List Char} {scene : Scene} (hstrip : strip t = t) (hne : t ≠ [])
    (hjoined : '&' ∉ t) (hquoted : quotedText? t = none) (hnumeric : looksNumeric t = false)
    (hword : wordValue? scene.session t = none) (hcall : looksLikeCall t = false) :
    (evaluate lib t).take scene = (formulaValue lib t).take scene := by
  rw [evaluate_of_notMem lib hjoined, evaluateOperand, hstrip, if_neg (by simpa using hne), hquoted]
  dsimp only
  rw [hnumeric, if_neg (by decide), Step.take_bind, Step.take_get]
  dsimp only
  rw [hword]
  dsimp only
  rw [hcall, if_neg (by decide)]

/-- A line of a kind that holds no other statements is executed as it is. -/
lemma take_executeLine_of_kind {line : List Char} {kind : StatementKind} {scene : Scene}
    (h : kindOf lib.dialect (prepare scene.session line) = kind) (hkind : kind ≠ .conditional) :
    (executeLine lib line).take scene =
      (executePlain lib kind (prepare scene.session line)).take scene := by
  rw [take_executeLine, h, if_neg hkind]

/-- A line that is taken for a printing one prints the value of its operand. -/
lemma take_executeEcho {cs : List Char} {t : String} (scene : Scene)
    (h : (evaluate lib cs).take scene = (.ok (.text t), scene)) :
    (executeEcho lib (printLine cs)).take scene = (.ok (), scene.printing (t ++ "\n")) := by
  have hdrop : (printLine cs).drop 13 = cs := rfl
  rw [executeEcho, Step.take_bind, hdrop, evaluate_strip, h]
  dsimp only
  rw [Step.take_act]
  rfl

/-- A line that is taken for an assigning one puts the value of its operand into the variable; if
there is no value, nothing is put anywhere. -/
lemma take_executeAssignment (cs : List Char) (scene : Scene) :
    (executeAssignment lib (assignLine cs)).take scene =
      match (evaluate lib cs).take scene with
      | (.ok v, after) => (.ok (), after.onSession fun s => assign s ['x'] v)
      | (.error e, after) => (.error e, after) := by
  have hname : strip ((assignLine cs).takeWhile (· != '=')) = ['x'] := rfl
  have hafter : ((assignLine cs).dropWhile (· != '=')).drop 1 = ' ' :: cs := rfl
  have hblank : isBlank ' ' = true := by decide
  have hequals : (assignLine cs).contains '=' = true := by simp [assignLine]
  rw [executeAssignment, if_pos hequals, hname, hafter, strip_cons_of_isBlank hblank,
    Step.take_bind, evaluate_strip]
  rcases (evaluate lib cs).take scene with ⟨e | v, after⟩ <;> rfl

variable {lib} {cs : List Char} {scene : Scene}

/-- What a line that assigns does, if it is not taken for something else. -/
lemma take_executeLine_assignLine (hs : scene.session.constants = true)
    (hthen : ¬ " THEN ".toList <:+: upper (assignLine (substitute cs))) :
    (executeLine lib (assignLine cs)).take scene =
      match (evaluate lib (substitute cs)).take scene with
      | (.ok v, after) => (.ok (), after.onSession fun s => assign s ['x'] v)
      | (.error e, after) => (.error e, after) := by
  have hkind : kindOf lib.dialect (prepare scene.session (assignLine cs)) = .assignment := by
    rw [prepare_assignLine hs, kindOf_assignLine, if_neg hthen]
  rw [take_executeLine_of_kind lib hkind (by decide), prepare_assignLine hs]
  exact take_executeAssignment lib (substitute cs) scene

/-- A line with a `THEN` in it assigns nothing. -/
lemma alike_executeLine_of_then (hlib : lib.evaluator.WritesNothing)
    (hs : scene.session.constants = true)
    (hthen : " THEN ".toList <:+: upper (assignLine (substitute cs))) :
    Alike scene.session ((executeLine lib (assignLine cs)).take scene).2.session := by
  have hkind := kindOf_assignLine lib.dialect (substitute cs)
  rw [if_pos hthen, ← prepare_assignLine hs] at hkind
  split at hkind
  · rw [take_executeLine_of_kind lib hkind (by decide)]
    have hcall : Still (executePlain lib .call (prepare scene.session (assignLine cs))) :=
      .discard (callFunction_keeps hlib _)
    exact hcall scene
  · rw [take_executeLine_of_kind lib hkind (by decide)]
    exact executeExpression_still hlib (prepare scene.session (assignLine cs)) scene

/-- A variable that was assigned to has the value. -/
lemma variableValue?_assign (s : Session) (name : List Char) (v : Value) :
    variableValue? (assign s name v) name = some v := by
  have hcapitals : pairGet? (String.ofList (upper name)) (assign s name v).variables = some v := by
    rw [assign, pairGet?_pairSet, pairGet?_pairSet]
    simp
  rw [variableValue?, hcapitals, Option.some_or]

lemma variableValue?_freshSession : variableValue? freshSession ['x'] = none := by
  decide

/-- After a script of one line that assigns, the variable has the value of the operand with its
constants replaced. It has none if there is no value, or if the line has a `THEN` in it when it is
executed. -/
theorem variableValue?_run_assignLine (hlib : lib.evaluator.Confined) (w : World)
    (hline : '\n' ∉ cs) (hcs : strip cs ≠ []) :
    variableValue? ((run lib (assignLine cs)).take ⟨freshSession, w⟩).2.session ['x'] =
      if " THEN ".toList <:+: upper (substitute (strip (assignLine cs))) then none
      else ((evaluate lib (substitute cs)).take ⟨freshSession, w⟩).1.toOption := by
  obtain ⟨l, hl, hstrip⟩ := exists_strip_assignLine hcs
  have hbusy : isIdle (strip (assignLine cs)) = false := by
    rw [hstrip]
    rfl
  have hnewline : '\n' ∉ assignLine cs := by simp [assignLine_eq, hline]
  have halike : Alike freshSession (Scene.atLine 1 ⟨freshSession, w⟩).session := ⟨rfl, rfl⟩
  have hvalue : evaluate lib (substitute (l ++ strip cs)) = evaluate lib (substitute cs) := by
    rw [substitute_blanks_append hl, ← evaluate_strip, ← List.append_nil (l ++ _),
      strip_append_append hl _ (by simp), strip_substitute_strip, evaluate_strip]
  -- The number of the line makes no difference to the value.
  have hoffline := evaluate_mirrors (unseen_reline fun _ => 1).alike
    (hlib.agreeOn (unseen_reline fun _ => 1).alike (substitute cs)) ⟨freshSession, w⟩
  have hkept := evaluate_keeps hlib.writesNothing (substitute cs) ⟨freshSession, w⟩
  rw [session_run hlib hnewline hbusy, hstrip, substitute_assignLine]
  split
  · next hthen =>
    have hkept : Alike freshSession ((executeLine lib (assignLine (l ++ strip cs))).take
        (Scene.atLine 1 ⟨freshSession, w⟩)).2.session :=
      halike.trans (alike_executeLine_of_then hlib.writesNothing rfl hthen)
    rw [variableValue?, ← hkept.variables_eq]
    exact variableValue?_freshSession
  · next hthen =>
    rw [take_executeLine_assignLine rfl hthen, hvalue, Scene.atLine, hoffline]
    rcases hout : (evaluate lib (substitute cs)).take ⟨freshSession, w⟩ with ⟨e | v, after⟩
    · rw [hout] at hkept
      have hsame : Alike freshSession (reline (fun _ => 1) after.session) :=
        hkept.trans ((unseen_reline fun _ => 1).alike _)
      dsimp only
      rw [variableValue?, Scene.onSession_session, ← hsame.variables_eq]
      exact variableValue?_freshSession
    · exact variableValue?_assign _ ['x'] v

end Execute

end ScriptHost.Script
