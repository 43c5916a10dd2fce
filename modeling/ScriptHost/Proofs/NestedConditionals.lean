import ScriptHost.Proofs.Conditionals

/-!
# Conditionals in conditionals

Lines and conditionals are executed by two procedures that call each other. A line that is a
conditional goes to the second one as it is understood, and the statement that is picked there goes
back to the first one, which replaces constants and drops a label once more. Such a call is the last
thing that a procedure does. So executing a line is a chain of activations: each does its own work,
and then the chain is over or goes on with a call of the other procedure.

Understanding a line does not make it longer, and a conditional has at least ten characters besides
the statement that it passes back (`Shape.length_add_of_pick`). So every call takes away from what
an activation may still use up (`Activation.weight_lt_of_work`), and the chain ends for every line,
with what executing the line comes to (`executeLine_ends`).
-/

namespace ScriptHost.Script

open ScriptHost.Text

/-! ### The size of a conditional -/

/-- A conditional has at least ten characters besides the statement that is picked: its two
keywords, a blank after the first one and two around the second one, and a condition. -/
lemma Shape.length_add_of_pick {cs statement : List Char} {c : Conditional} {holds : Bool}
    (h : conditional cs = some c) (hpick : c.pick holds = some statement) :
    statement.length + 10 ≤ cs.length := by
  obtain ⟨first, _, rfl, hfirst, h⟩ := exists_of_keyword h
  obtain ⟨gap₁, _, rfl, hgap₁, -, h⟩ := exists_of_blanks h
  obtain ⟨condition, _, rfl, hcondition, h⟩ := shortest_eq_some h
  obtain ⟨gap₂, _, rfl, hgap₂, -, h⟩ := exists_of_blanks h
  obtain ⟨second, _, rfl, hsecond, h⟩ := exists_of_keyword h
  obtain ⟨gap₃, body, rfl, hgap₃, -, h⟩ := exists_of_blanks h
  have hif : first.length = 2 := length_eq_of_sameWord hfirst
  have hthen : second.length = 4 := length_eq_of_sameWord hsecond
  have hbody : statement.length ≤ body.length := by
    obtain ⟨yes, _, rfl, -, h⟩ := shortest_eq_some h
    rcases Option.or_eq_some_iff.1 h with h | ⟨-, h⟩
    · obtain ⟨_, _, rfl, -, -, h⟩ := exists_of_blanks h
      obtain ⟨_, _, rfl, -, h⟩ := exists_of_keyword h
      obtain ⟨_, _, rfl, -, -, h⟩ := exists_of_blanks h
      obtain ⟨no, _, rfl, -, h⟩ := longest_eq_some h
      obtain rfl := done_eq_some h
      simp only [List.length_append]
      cases holds with
      | true =>
        obtain rfl : yes = statement := Option.some.inj hpick
        omega
      | false =>
        obtain rfl : no = statement := Option.some.inj hpick
        omega
    · obtain rfl := done_eq_some h
      cases holds with
      | true =>
        obtain rfl : yes = statement := Option.some.inj hpick
        simp
      | false => cases hpick
  simp only [List.length_append]
  omega

-- Fewer than ten it need not have: of these eleven characters one is the statement.
example : (Shape.conditional "If a Then b".toList).map Shape.Conditional.yes = some ['b'] := by
  decide

/-! ### Activations -/

/-- A call of one of the two procedures, with the text it is given. -/
inductive Activation where
  | line (text : List Char)
  | conditional (text : List Char)

namespace Activation

/-- What an activation does before it calls the other procedure, and the call that it ends with if
there is one. Conditions are evaluated and plain statements executed on the way. -/
def work (lib : Library) : Activation → Step (Option Activation)
  | .line text => do
    let scene ← get
    let kind := kindOf lib.dialect (prepare scene.session text)
    if kind = .conditional then return some (.conditional (prepare scene.session text))
    else
      executePlain lib kind (prepare scene.session text)
      return none
  | .conditional text => do
    match Shape.conditional text with
    | none => return none
    | some c =>
      let v ← evaluate lib c.condition
      return (c.pick v.truthy).map .line

/-- What an activation does with all the calls that come of it. -/
def execute (lib : Library) : Activation → Step Unit
  | .line text => executeLine lib text
  | .conditional text => executeConditional lib text

/-- The chain of calls from an activation on is over after so many further calls, with a result. -/
inductive EndsAfter (lib : Library) :
    Nat → Activation → Scene → Except Fault Unit × Scene → Prop
  | returns {a : Activation} {scene after : Scene}
      (hwork : (a.work lib).take scene = (.ok none, after)) :
      EndsAfter lib 0 a scene (.ok (), after)
  | fails {a : Activation} {scene after : Scene} {e : Fault}
      (hwork : (a.work lib).take scene = (.error e, after)) :
      EndsAfter lib 0 a scene (.error e, after)
  | calls {n : Nat} {a next : Activation} {scene after : Scene}
      {result : Except Fault Unit × Scene}
      (hwork : (a.work lib).take scene = (.ok (some next), after))
      (hnext : EndsAfter lib n next after result) : EndsAfter lib (n + 1) a scene result

variable {lib : Library} {a next : Activation} {text : List Char} {scene after : Scene}

lemma take_work_line (lib : Library) (text : List Char) (scene : Scene) :
    ((line text).work lib).take scene =
      if kindOf lib.dialect (prepare scene.session text) = .conditional then
        (.ok (some (.conditional (prepare scene.session text))), scene)
      else
        (executePlain lib (kindOf lib.dialect (prepare scene.session text))
          (prepare scene.session text) >>= fun _ => pure none).take scene := by
  rw [work, Step.take_bind, Step.take_get]
  dsimp only
  split
  · rfl
  · rfl

/-- An activation does its work and then what the activation it calls does. -/
lemma execute_eq_work (lib : Library) (a : Activation) :
    a.execute lib = a.work lib >>= fun next => next.elim (pure ()) (execute lib) := by
  refine Step.ext fun scene => ?_
  rw [Step.take_bind]
  cases a with
  | line text =>
    rw [execute, take_executeLine, take_work_line]
    split
    · rfl
    · rw [Step.take_bind]
      rcases (executePlain _ _ _).take scene with ⟨e | _, after⟩
      · rfl
      · rfl
  | conditional text =>
    rw [execute, executeConditional, work]
    cases Shape.conditional text with
    | none => rfl
    | some c =>
      dsimp only
      rw [Step.take_bind, Step.take_bind]
      rcases (evaluate lib c.condition).take scene with ⟨e | v, after⟩
      · rfl
      · dsimp only
        cases c.pick v.truthy with
        | none => rfl
        | some statement => rfl

/-! ### Calls go down -/

/-- A line only calls for itself, as it is understood. -/
lemma eq_of_work_line (h : ((line text).work lib).take scene = (.ok (some next), after)) :
    next = .conditional (prepare scene.session text) := by
  rw [take_work_line] at h
  split at h
  · exact (Option.some.inj (Except.ok.inj (Prod.mk.inj h).1)).symm
  · obtain ⟨_, _, -, h⟩ := Step.exists_of_take_bind_eq_ok h
    simp at h

/-- A conditional only calls for a statement that it picks. -/
lemma exists_of_work_conditional
    (h : ((conditional text).work lib).take scene = (.ok (some next), after)) :
    ∃ c holds statement, Shape.conditional text = some c ∧ c.pick holds = some statement ∧
      next = .line statement := by
  rw [work] at h
  cases hc : Shape.conditional text with
  | none =>
    rw [hc] at h
    cases (Prod.mk.inj h).1
  | some c =>
    rw [hc] at h
    obtain ⟨v, _, -, h⟩ := Step.exists_of_take_bind_eq_ok h
    obtain ⟨statement, hpick, hnext⟩ :=
      Option.map_eq_some_iff.1 (Except.ok.inj (Prod.mk.inj h).1)
    exact ⟨c, v.truthy, statement, rfl, hpick, hnext.symm⟩

/-- A bound for the calls that come of an activation: two for each ten characters, and one more for
a line, which may turn out to be a conditional that passes nothing back. -/
def weight : Activation → Nat
  | .line text => 2 * (text.length / 10) + 1
  | .conditional text => 2 * (text.length / 10)

/-- An activation calls for less than it was called for. -/
lemma weight_lt_of_work (h : (a.work lib).take scene = (.ok (some next), after)) :
    next.weight < a.weight := by
  cases a with
  | line text =>
    rw [eq_of_work_line h]
    have hle := length_prepare_le scene.session text
    simp only [weight]
    omega
  | conditional text =>
    obtain ⟨c, holds, statement, hc, hpick, rfl⟩ := exists_of_work_conditional h
    have hle := Shape.length_add_of_pick hc hpick
    simp only [weight]
    omega

/-- Every chain of calls ends, with what its first activation comes to. -/
lemma exists_endsAfter (lib : Library) (a : Activation) (scene : Scene) :
    ∃ n ≤ a.weight, EndsAfter lib n a scene ((a.execute lib).take scene) := by
  -- The induction is on the weight: the text need not get shorter from a line to its conditional.
  induction hw : a.weight using Nat.strong_induction_on generalizing a scene with
  | _ w ih =>
    subst hw
    rw [execute_eq_work, Step.take_bind]
    rcases hwork : (a.work lib).take scene with ⟨e | next, after⟩
    · exact ⟨0, Nat.zero_le _, .fails hwork⟩
    · cases next with
      | none => exact ⟨0, Nat.zero_le _, .returns hwork⟩
      | some next =>
        have hlt := weight_lt_of_work hwork
        obtain ⟨n, hn, hends⟩ := ih next.weight hlt next after rfl
        exact ⟨n + 1, Nat.lt_of_le_of_lt hn hlt, .calls hwork hends⟩

end Activation

/-- Executing a line ends for every line. Replacing constants does not make the line longer, a
statement that a conditional passes back is shorter than the line it came with, and so there are at
most two calls for each ten characters of the line, and one more. -/
theorem executeLine_ends (lib : Library) (line : List Char) (scene : Scene) :
    (substitute line).length ≤ line.length ∧
    (∀ text mid statement after,
      ((Activation.line line).work lib).take scene = (.ok (some (.conditional text)), mid) →
      ((Activation.conditional text).work lib).take mid = (.ok (some (.line statement)), after) →
        statement.length < line.length) ∧
    ∃ n ≤ 2 * (line.length / 10) + 1,
      Activation.EndsAfter lib n (.line line) scene ((executeLine lib line).take scene) := by
  refine ⟨length_substitute_le line, fun text mid statement after hline hconditional => ?_,
    Activation.exists_endsAfter lib (.line line) scene⟩
  obtain rfl := Activation.conditional.inj (Activation.eq_of_work_line hline)
  obtain ⟨c, holds, _, hc, hpick, heq⟩ := Activation.exists_of_work_conditional hconditional
  obtain rfl := Activation.line.inj heq
  have hpassed := Shape.length_add_of_pick hc hpick
  have hprepared := length_prepare_le scene.session line
  omega

/-- A line with a label and constants passes back a conditional that has a label too. -/
theorem executeLine_ends_labelled :
    ((Activation.line "1: If vbOK Then 2: If vbNo Then x".toList).work (library .capital)).take
        firstScene = (.ok (some (.conditional "If 1 Then 2: If 7 Then x".toList)), firstScene) ∧
    ((Activation.conditional "If 1 Then 2: If 7 Then x".toList).work (library .capital)).take
        firstScene = (.ok (some (.line "2: If 7 Then x".toList)), firstScene) ∧
    "2: If 7 Then x".toList.length < "1: If vbOK Then 2: If vbNo Then x".toList.length := by
  refine ⟨?hline, ?hconditional,
    (executeLine_ends (library .capital) _ firstScene).2.1 _ _ _ _ ?hline ?hconditional⟩
  case hline =>
    have hprepare : prepare firstScene.session "1: If vbOK Then 2: If vbNo Then x".toList =
        "If 1 Then 2: If 7 Then x".toList := by decide
    rw [Activation.take_work_line, hprepare, if_pos (by decide)]
  case hconditional =>
    have hshape : Shape.conditional "If 1 Then 2: If 7 Then x".toList =
        some ⟨['1'], "2: If 7 Then x".toList, none⟩ := by rfl
    rw [Activation.work, hshape]
    dsimp only
    rw [Step.take_bind, evaluate_one]
    rfl

end ScriptHost.Script
