import ScriptHost.Proofs.Dependence

/-!
# Statements in changed sessions and with changed libraries

Statements mirror themselves under every change of the session that expressions do not see and
assignments do not disturb, such as a change of the line number, and they mirror the same statements
with another library as long as the two libraries agree on the texts in them. Both facts have the
same proof, so they are stated together.
-/

namespace ScriptHost.Script

open ScriptHost.Text

/-- A change of the session that expressions do not see and assignments do not disturb. -/
structure Unseen (g : Session → Session) : Prop where
  alike : ∀ s, Alike s (g s)
  assign : ∀ s name v, g (assign s name v) = assign (g s) name v

/-! ### Parts of statements

The texts that a statement evaluates are pieces of it. -/

/-- A piece stands in the text that pieces are joined to. -/
lemma infix_of_mem_intercalate {p : List Char} (sep : List Char) {ps : List (List Char)}
    (h : p ∈ ps) : p <:+: sep.intercalate ps := by
  induction ps with
  | nil => simp at h
  | cons q ps ih =>
    cases ps with
    | nil =>
      obtain rfl := List.mem_singleton.1 h
      simp
    | cons r ps =>
      rw [List.intercalate_cons_cons]
      rcases List.mem_cons.1 h with rfl | h
      · exact ⟨[], sep ++ sep.intercalate (r :: ps), by simp⟩
      · exact (ih h).trans (List.suffix_append _ _).isInfix

/-- The pieces of a text at a character stand in it. -/
lemma infix_of_mem_splitOn {p cs : List Char} {c : Char} (h : p ∈ cs.splitOn c) : p <:+: cs := by
  simpa only [List.intercalate_splitOn] using infix_of_mem_intercalate [c] h

/-- The expression of a `Set` statement is a piece of it. -/
lemma parts_of_setting {cs name expression : List Char}
    (h : Shape.setting cs = some (name, expression)) : expression <:+: cs := by
  obtain ⟨_, h0, _, h⟩ := Shape.keyword_eq_some h
  obtain ⟨_, h1, h⟩ := Shape.blanks_eq_some h
  obtain ⟨word, _, h2, _, h⟩ := Shape.longest_eq_some h
  obtain ⟨_, h3, h⟩ := Shape.blanks_eq_some h
  obtain ⟨_, h4, _, h⟩ := Shape.char_eq_some h
  obtain ⟨_, h5, h⟩ := Shape.blanks_eq_some h
  obtain ⟨taken, more, h6, _, h⟩ := Shape.longest_eq_some h
  obtain rfl : taken = expression := (Prod.mk.inj (Option.some.inj h)).2
  have hstart := ((h5.trans h4).trans h3).trans (.trans ⟨word, h2⟩ (h1.trans h0))
  exact List.IsInfix.trans ⟨[], more, h6⟩ hstart.isInfix

/-- The condition of a `While` statement is a piece of it. -/
lemma parts_of_whileLoop {cs condition : List Char} (h : Shape.whileLoop cs = some condition) :
    condition <:+: cs := by
  obtain ⟨_, h0, _, h⟩ := Shape.keyword_eq_some h
  obtain ⟨_, h1, h⟩ := Shape.blanks_eq_some h
  obtain ⟨taken, more, h2, _, h⟩ := Shape.longest_eq_some h
  obtain rfl := Option.some.inj h
  exact List.IsInfix.trans ⟨[], more, h2⟩ (h1.trans h0).isInfix

/-- The arguments of a call are a piece of it. -/
lemma parts_of_called {w : String} {cs args : List Char} (h : Shape.called w cs = some args) :
    args <:+: cs := by
  obtain ⟨_, h0, _, h⟩ := Shape.keyword_eq_some h
  obtain ⟨_, h1, h⟩ := Shape.blanks_eq_some h
  obtain ⟨_, h2, _, h⟩ := Shape.char_eq_some h
  obtain ⟨taken, more, h3, _, h⟩ := Shape.longest_eq_some h
  obtain ⟨_, _, _, h⟩ := Shape.char_eq_some h
  obtain rfl := Option.some.inj h
  exact List.IsInfix.trans ⟨[], more, h3⟩ ((h2.trans h1).trans h0).isInfix

/-- The bounds and the step of a `For` statement are pieces of it. -/
lemma parts_of_loop {cs : List Char} {l : Shape.Loop} (h : Shape.loop cs = some l) :
    l.start <:+: cs ∧ l.stop <:+: cs ∧ ∀ step, l.step = some step → step <:+: cs := by
  obtain ⟨_, h0, _, h⟩ := Shape.keyword_eq_some h
  obtain ⟨_, h1, h⟩ := Shape.blanks_eq_some h
  obtain ⟨name, _, h2, _, h⟩ := Shape.longest_eq_some h
  obtain ⟨_, h3, h⟩ := Shape.blanks_eq_some h
  obtain ⟨_, h4, _, h⟩ := Shape.char_eq_some h
  obtain ⟨_, h5, h⟩ := Shape.blanks_eq_some h
  obtain ⟨start, m6, h6, _, h⟩ := Shape.shortest_eq_some h
  obtain ⟨_, h7, h⟩ := Shape.blanks_eq_some h
  obtain ⟨_, h8, _, h⟩ := Shape.keyword_eq_some h
  obtain ⟨_, h9, h⟩ := Shape.blanks_eq_some h
  obtain ⟨stop, m10, h10, _, h⟩ := Shape.shortest_eq_some h
  have hfrom := ((h5.trans h4).trans h3).trans (.trans ⟨name, h2⟩ (h1.trans h0))
  have hto := ((h9.trans h8).trans h7).trans (.trans ⟨start, h6⟩ hfrom)
  have hstart : start <:+: cs := List.IsInfix.trans ⟨[], m6, h6⟩ hfrom.isInfix
  have hstop : stop <:+: cs := List.IsInfix.trans ⟨[], m10, h10⟩ hto.isInfix
  rcases Option.or_eq_some_iff.1 h with h | ⟨_, h⟩
  · obtain ⟨_, h11, h⟩ := Shape.blanks_eq_some h
    obtain ⟨_, h12, _, h⟩ := Shape.keyword_eq_some h
    obtain ⟨_, h13, h⟩ := Shape.blanks_eq_some h
    obtain ⟨step, m14, h14, _, h⟩ := Shape.longest_eq_some h
    obtain rfl := Shape.done_eq_some h
    refine ⟨hstart, hstop, fun other hother => ?_⟩
    obtain rfl := Option.some.inj hother
    have hby := ((h13.trans h12).trans h11).trans (.trans ⟨stop, h10⟩ hto)
    exact List.IsInfix.trans ⟨[], m14, h14⟩ hby.isInfix
  · obtain rfl := Shape.done_eq_some h
    exact ⟨hstart, hstop, by simp⟩

/-! ### Plain statements -/

section Plain

variable {lib lib' : Library} {g : Session → Session} {line : List Char}

/-- The whole number that a text stands for comes from its evaluation. -/
lemma wholeValue_mirrors (hg : Unseen g) {cs : List Char} (h : AgreeOn g lib lib' cs) :
    Mirrors g (wholeValue lib cs) (wholeValue lib' cs) :=
  (evaluate_mirrors hg.alike h).bind fun _ => .act _

/-- A variable is put the same way in both sessions. -/
lemma put_mirrors (hg : Unseen g) (name : List Char) (v : Value) :
    Mirrors g (put name v) (put name v) :=
  .modifySession fun s => hg.assign s name v

/-- A routine is called with what its arguments evaluate to. -/
lemma callWith_mirrors (hg : Unseen g) (r : Routine) {args : List Char}
    (h : AgreeOn g lib lib' args) : Mirrors g (callWith lib r args) (callWith lib' r args) :=
  (evaluateArguments_mirrors hg.alike h).bind fun _ => .act _

/-- Of a declared name only the size of its array is evaluated. -/
lemma declareOne_mirrors (hg : Unseen g) (h : AgreeOn g lib lib' line) :
    Mirrors g (declareOne lib line) (declareOne lib' line) := by
  have hsize : declaredSize line <:+: line := by
    refine (strip_isInfix _).trans ((List.takeWhile_prefix _).isInfix.trans ?_)
    refine (List.takeWhile_prefix _).isInfix.trans ?_
    exact ((List.drop_suffix _ _).trans (List.dropWhile_suffix _)).isInfix
  refine .ite ?_ (put_mirrors hg _ _)
  refine (evaluate_mirrors hg.alike (h.of_isInfix hsize)).bind fun _ => ?_
  exact (Mirrors.act _).bind fun _ => put_mirrors hg _ _

/-- A declaration mirrors itself name by name. -/
lemma declare_mirrors (hg : Unseen g) (h : AgreeOn g lib lib' line) :
    Mirrors g (declare lib line) (declare lib' line) := by
  refine .forM _ fun p hp => declareOne_mirrors hg (h.of_isInfix ?_)
  refine ((strip_isInfix p).trans (infix_of_mem_splitOn hp)).trans ?_
  exact (strip_isInfix _).trans (List.drop_suffix _ _).isInfix

/-- A `Set` statement puts what its expression comes to. -/
lemma executeSet_mirrors (hg : Unseen g) (h : AgreeOn g lib lib' line) :
    Mirrors g (executeSet lib line) (executeSet lib' line) := by
  unfold executeSet
  split
  · exact .pure ()
  · next hset =>
    exact (evaluate_mirrors hg.alike (h.of_isInfix (parts_of_setting hset))).bind fun _ =>
      put_mirrors hg _ _

/-- An assignment puts what its right side comes to. -/
lemma executeAssignment_mirrors (hg : Unseen g) (h : AgreeOn g lib lib' line) :
    Mirrors g (executeAssignment lib line) (executeAssignment lib' line) := by
  have hpart : strip ((line.dropWhile (· != '=')).drop 1) <:+: line :=
    (strip_isInfix _).trans ((List.drop_suffix _ _).trans (List.dropWhile_suffix _)).isInfix
  refine .ite ?_ (.pure ())
  exact (evaluate_mirrors hg.alike (h.of_isInfix hpart)).bind fun _ => put_mirrors hg _ _

/-- Counting does not look at the session. -/
lemma countThrough_mirrors (hg : Unseen g) (name : List Char) (start stop step : Int) :
    Mirrors g (countThrough name start stop step) (countThrough name start stop step) := by
  unfold countThrough
  refine .ite (.throw _) ?_
  split
  · exact put_mirrors hg _ _
  · exact .pure ()

/-- A `For` statement evaluates its bounds and its step, and counts. -/
lemma executeLoop_mirrors (hg : Unseen g) (h : AgreeOn g lib lib' line) :
    Mirrors g (executeLoop lib line) (executeLoop lib' line) := by
  unfold executeLoop
  split
  · exact .pure ()
  · next l hloop =>
    obtain ⟨hstart, hstop, hstep⟩ := parts_of_loop hloop
    refine (wholeValue_mirrors hg (h.of_isInfix hstart)).bind fun start => ?_
    refine (wholeValue_mirrors hg (h.of_isInfix hstop)).bind fun stop => ?_
    split
    · next e he =>
      exact (wholeValue_mirrors hg (h.of_isInfix (hstep e he))).bind fun step =>
        countThrough_mirrors hg l.name start stop step
    · exact countThrough_mirrors hg l.name start stop 1

/-- A `While` statement evaluates its condition. -/
lemma executeWhile_mirrors (hg : Unseen g) (h : AgreeOn g lib lib' line) :
    Mirrors g (executeWhile lib line) (executeWhile lib' line) := by
  unfold executeWhile
  split
  · exact .pure ()
  · next hwhile =>
      exact (evaluate_mirrors hg.alike (h.of_isInfix (parts_of_whileLoop hwhile))).discard

/-- `WScript.Echo` prints what its arguments come to. -/
lemma executeEcho_mirrors (hg : Unseen g) (h : AgreeOn g lib lib' line) :
    Mirrors g (executeEcho lib line) (executeEcho lib' line) := by
  have hpart : strip (line.drop 13) <:+: line :=
    (strip_isInfix _).trans (List.drop_suffix _ _).isInfix
  exact (evaluate_mirrors hg.alike (h.of_isInfix hpart)).bind fun _ => .act _

/-- An object is made from the name that stands in the statement. -/
lemma executeCreateObject_mirrors (hg : Unseen g) (h : AgreeOn g lib lib' line) :
    Mirrors g (executeCreateObject lib line) (executeCreateObject lib' line) := by
  unfold executeCreateObject
  split
  · exact .pure Value.null
  · next hcalled => exact callWith_mirrors hg _ (h.of_isInfix (parts_of_called hcalled))

/-- A `Call` statement evaluates what stands behind the word. -/
lemma executeCall_mirrors (hg : Unseen g) (h : AgreeOn g lib lib' line) :
    Mirrors g (executeCall lib line) (executeCall lib' line) :=
  callFunction_mirrors hg.alike line h

/-- An expression that stands alone is evaluated. -/
lemma executeExpression_mirrors (hg : Unseen g) (h : AgreeOn g lib lib' line) :
    Mirrors g (executeExpression lib line) (executeExpression lib' line) := by
  refine .ite ?_ (.pure ())
  exact (evaluate_mirrors hg.alike h).bind fun _ => .ite (.act _) (.pure ())

/-- A `MsgBox` statement is read by the dialect, and its arguments are evaluated. -/
lemma executeMessageBox_mirrors (hg : Unseen g) (hdialect : lib.dialect = lib'.dialect)
    (h : ∀ cs, AgreeOn g lib lib' cs) :
    Mirrors g (executeMessageBox lib line) (executeMessageBox lib' line) := by
  unfold executeMessageBox
  rw [← hdialect]
  dsimp only
  split
  · exact callWith_mirrors hg _ (h _)
  · split
    · exact .pure Value.null
    · refine (evaluate_mirrors hg.alike (h _)).bind fun _ => ?_
      refine (wholeValue_mirrors hg (h _)).bind fun _ => ?_
      exact (evaluate_mirrors hg.alike (h _)).bind fun _ => .act _

/-- An `InputBox` statement is read by the dialect, and its arguments are evaluated. -/
lemma executeInputBox_mirrors (hg : Unseen g) (hdialect : lib.dialect = lib'.dialect)
    (h : ∀ cs, AgreeOn g lib lib' cs) :
    Mirrors g (executeInputBox lib line) (executeInputBox lib' line) := by
  unfold executeInputBox
  rw [← hdialect]
  dsimp only
  split
  · exact callWith_mirrors hg _ (h _)
  · split
    · exact .pure Value.null
    · refine (evaluate_mirrors hg.alike (h _)).bind fun _ => ?_
      refine (evaluate_mirrors hg.alike (h _)).bind fun _ => ?_
      exact (evaluate_mirrors hg.alike (h _)).bind fun _ => .act _

/-- Whether a statement shows a dialog. -/
def StatementKind.isDialog (kind : StatementKind) : Bool :=
  kind == .messageBox || kind == .inputBox

/-- Whether a statement sets the error mode. -/
def StatementKind.setsErrorMode (kind : StatementKind) : Bool :=
  kind == .resumeNext || kind == .resumeNever

/-- Plain statements act alike in sessions that differ by an unseen change and with libraries that
agree on the text; the dialogs do so with libraries of one dialect that agree on all texts, and the
statements that set the error mode if the change lets them. -/
theorem executePlain_mirrors (hg : Unseen g) {kind : StatementKind} (h : AgreeOn g lib lib' line)
    (hdialog : kind.isDialog → lib.dialect = lib'.dialect ∧ ∀ cs, AgreeOn g lib lib' cs)
    (hmode : kind.setsErrorMode →
      ∀ b s, g { s with resume := b } = { g s with resume := b }) :
    Mirrors g (executePlain lib kind line) (executePlain lib' kind line) := by
  cases kind with
  | declare => exact declare_mirrors hg h
  | set => exact executeSet_mirrors hg h
  | conditional => exact .pure ()
  | loop => exact executeLoop_mirrors hg h
  | whileLoop => exact executeWhile_mirrors hg h
  | passed => exact .pure ()
  | resumeNext => exact .modifySession (hmode rfl true)
  | resumeNever => exact .modifySession (hmode rfl false)
  | assignment => exact executeAssignment_mirrors hg h
  | echo => exact executeEcho_mirrors hg h
  | messageBox =>
    obtain ⟨hdialect, hall⟩ := hdialog rfl
    exact (executeMessageBox_mirrors hg hdialect hall).discard
  | inputBox =>
    obtain ⟨hdialect, hall⟩ := hdialog rfl
    exact (executeInputBox_mirrors hg hdialect hall).discard
  | createObject => exact (executeCreateObject_mirrors hg h).discard
  | call => exact (executeCall_mirrors hg h).discard
  | expression => exact executeExpression_mirrors hg h

end Plain

/-! ### Lines -/

/-- What executing a line does: a conditional is executed by its parts, every other statement as it
is. -/
lemma take_executeLine (lib : Library) (line : List Char) (scene : Scene) :
    (executeLine lib line).take scene =
      if kindOf lib.dialect (prepare scene.session line) = .conditional then
        (executeConditional lib (prepare scene.session line)).take scene
      else
        (executePlain lib (kindOf lib.dialect (prepare scene.session line))
          (prepare scene.session line)).take scene := by
  rw [executeLine, executeConditional, Step.take_bind, Step.take_get]
  dsimp only
  simp only [beq_iff_eq]
  split
  · cases Shape.conditional (prepare scene.session line) with
    | none => rfl
    | some c =>
      refine congrArg (fun f => Step.take (evaluate lib c.condition >>= f) scene) ?_
      funext v
      cases c.pick v.truthy <;> rfl
  · rfl

/-- A conditional acts alike if its condition and the statements in it do. -/
lemma executeConditional_mirrors {lib lib' : Library} {g : Session → Session} {line : List Char}
    (hvalue : ∀ c, Shape.conditional line = some c →
      Mirrors g (evaluate lib c.condition) (evaluate lib' c.condition))
    (hline : ∀ c (v : Value) statement, Shape.conditional line = some c →
      c.pick v.truthy = some statement →
        Mirrors g (executeLine lib statement) (executeLine lib' statement)) :
    Mirrors g (executeConditional lib line) (executeConditional lib' line) := by
  unfold executeConditional
  split
  · exact .pure ()
  · next c hc =>
    refine (hvalue c hc).bind fun v => ?_
    split
    · next statement hpick => exact hline c v statement hc hpick
    · exact .pure ()

/-- Libraries with which the lines in a class of texts are executed alike in changed sessions. The
class is closed under what happens to a line before it is executed, and under taking pieces. -/
structure Interchangeable (g : Session → Session) (lib lib' : Library) (P : List Char → Prop) :
    Prop where
  infix_closed : ∀ {p cs}, p <:+: cs → P cs → P p
  substitute_closed : ∀ {cs}, P cs → P (substitute cs)
  agreeOn : ∀ {cs}, P cs → AgreeOn g lib lib' cs
  kind : ∀ {cs}, P cs → kindOf lib.dialect cs = kindOf lib'.dialect cs
  dialog : ∀ {cs}, P cs → (kindOf lib.dialect cs).isDialog →
    lib.dialect = lib'.dialect ∧ ∀ cs, AgreeOn g lib lib' cs

namespace Interchangeable

variable {lib lib' : Library} {P : List Char → Prop} {g : Session → Session}

/-- With a confined evaluator it does not matter which lines are being run. -/
lemma within (h : lib.evaluator.Confined) (hg : ∀ s, Alike s (g s)) (lines : List (List Char)) :
    Interchangeable g lib (lib.within lines) fun _ => True := by
  have hagree (cs : List Char) : AgreeOn g lib (lib.within lines) cs :=
    ⟨fun _ _ => rfl, fun p _ => h.mirrors hg lib.frame (lib.within lines).frame p⟩
  exact ⟨fun _ _ => trivial, fun _ => trivial, fun _ => hagree _, fun _ => rfl,
    fun _ _ => ⟨rfl, hagree⟩⟩

/-- What holds of a line holds of the line without label and constants. -/
lemma prepare (h : Interchangeable g lib lib' P) {cs : List Char} (hcs : P cs) (s : Session) :
    P (prepare s cs) := by
  unfold Script.prepare
  refine h.infix_closed (withoutLabel_isInfix _) ?_
  split
  · exact h.substitute_closed hcs
  · exact hcs

/-- Lines act alike with interchangeable libraries, in sessions that differ by an unseen change that
lets the error mode be set. -/
theorem executeLine_mirrors (h : Interchangeable g lib lib' P)
    (hg : Unseen g) (hmode : ∀ b s, g { s with resume := b } = { g s with resume := b })
    {line : List Char} (hline : P line) :
    Mirrors g (executeLine lib line) (executeLine lib' line) := by
  -- By induction on the line: the statements in a conditional are pieces of the prepared line.
  induction line using executeLine.induct with
  | case1 line ih =>
    intro scene
    have hsame : Script.prepare (g scene.session) line = Script.prepare scene.session line := by
      unfold Script.prepare
      rw [(hg.alike scene.session).constants_eq]
    have hP := h.prepare hline scene.session
    rw [take_executeLine, take_executeLine, Scene.onSession_session, hsame, ← h.kind hP]
    split
    · refine executeConditional_mirrors (fun c hc => ?_) (fun c v statement hc hpick => ?_) scene
      · obtain ⟨_, hbody, _, hcondition, _⟩ := Shape.parts_of_conditional hc
        exact evaluate_mirrors hg.alike ((h.agreeOn hP).of_isInfix (hcondition.trans hbody.isInfix))
      · have hpiece := (Shape.infix_of_pick hc hpick).1
        exact ih scene c hc v statement hpick (h.infix_closed hpiece hP)
    · exact executePlain_mirrors hg (h.agreeOn hP) (h.dialog hP) (fun _ => hmode) scene

end Interchangeable

end ScriptHost.Script
