import Mathlib.Order.Defs.Unbundled
import ScriptHost.Proofs.Acts
import ScriptHost.Script.Statement

/-!
# What expressions depend on

An expression sees little of what it is evaluated with: the variables of the session, whether the
session knows the constants, the functions whose names are written in the expression, and what the
evaluator sees that formulas are handed to. Of the evaluator it is asked here that it is confined to
its scope: it gets the names of the session and nothing else, and it leaves the session as it is.

A step mirrors another one if it does the same in a session that was changed before. Expressions
mirror themselves under every change of the session that keeps the variables, and they mirror the
same expressions with another library that agrees on the texts in them. The three parts of an
evaluation call each other on pieces of the text, so the statement is made for all three at once,
and the condition on the libraries is one that passes to the pieces of a text. In the same way an
expression keeps of the session whatever the evaluator keeps.
-/

namespace ScriptHost.Script

open ScriptHost.Text

/-! ### Sessions that look alike -/

/-- Sessions that an expression cannot tell apart. -/
structure Alike (s t : Session) : Prop where
  variables_eq : s.variables = t.variables
  constants_eq : s.constants = t.constants

/-- Every session looks like itself. -/
lemma Alike.refl (s : Session) : Alike s s :=
  ⟨rfl, rfl⟩

/-- Looking alike is passed on. -/
lemma Alike.trans {s t u : Session} (h : Alike s t) (h' : Alike t u) : Alike s u :=
  ⟨h.variables_eq.trans h'.variables_eq, h.constants_eq.trans h'.constants_eq⟩

instance : IsPreorder Session Alike where
  refl := Alike.refl
  trans _ _ _ := Alike.trans

/-- A word has the same value in sessions that are alike. -/
lemma wordValue?_congr {s t : Session} (hs : Alike s t) (cs : List Char) :
    wordValue? s cs = wordValue? t cs := by
  unfold wordValue? variableValue?
  rw [hs.variables_eq, hs.constants_eq]

/-- A formula sees the same names in sessions that are alike. -/
lemma formulaScope_congr {s t : Session} (hs : Alike s t) : formulaScope s = formulaScope t := by
  funext name
  unfold formulaScope
  rw [hs.variables_eq, hs.constants_eq]

/-! ### Evaluators -/

namespace Evaluator

/-- An evaluator that is confined to its scope. Formulas leave the session as it is; and their value
and what they do to the world depend on the text, on the names in scope and on the world, and not on
the lines of the script, on its dialect or on the rest of the session. -/
structure Confined (ev : Evaluator) : Prop where
  keeps : ∀ frame cs scene, ((ev frame cs).take scene).2.session = scene.session
  sees : ∀ frame frame' cs s s' w, formulaScope s = formulaScope s' →
    ((ev frame cs).take ⟨s, w⟩).1 = ((ev frame' cs).take ⟨s', w⟩).1 ∧
      ((ev frame cs).take ⟨s, w⟩).2.world = ((ev frame' cs).take ⟨s', w⟩).2.world

/-- The evaluator that scripts are run with is confined to its scope. -/
lemma confined_formulaEvaluator : Confined formulaEvaluator where
  keeps frame cs scene := by
    rw [formulaEvaluator, Step.take_consult, Step.take_act]
  sees frame frame' cs s s' w h := by
    simp only [formulaEvaluator, Step.take_consult, Step.take_act, h, and_self]

end Evaluator

/-! ### Steps that mirror each other -/

/-- The step `b` does in a session changed by `g` what the step `a` does in the session itself. -/
def Mirrors {α : Type} (g : Session → Session) (a b : Step α) : Prop :=
  ∀ scene, b.take (scene.onSession g) = ((a.take scene).1, (a.take scene).2.onSession g)

namespace Mirrors

variable {α β : Type} {g : Session → Session}

lemma pure (a : α) : Mirrors g (Pure.pure a : Step α) (Pure.pure a) :=
  fun _ => rfl

lemma throw (e : Fault) : Mirrors g (MonadExcept.throw e : Step α) (MonadExcept.throw e) :=
  fun _ => rfl

/-- What only touches the world is not disturbed by a change of the session. -/
lemma act (a : Act α) : Mirrors g (Step.act a) (Step.act a) := by
  intro scene
  rw [Step.take_act, Step.take_act]
  rfl

lemma modifySession {f : Session → Session} (h : ∀ s, g (f s) = f (g s)) :
    Mirrors g (Step.modifySession f) (Step.modifySession f) := by
  intro scene
  rw [Step.take_modifySession, Step.take_modifySession]
  simp only [Scene.onSession, h]

lemma bind {a b : Step α} {f f' : α → Step β} (hab : Mirrors g a b)
    (hf : ∀ x, Mirrors g (f x) (f' x)) : Mirrors g (a >>= f) (b >>= f') := by
  intro scene
  rw [Step.take_bind, Step.take_bind, hab scene]
  rcases a.take scene with ⟨e | x, after⟩
  · rfl
  · exact hf x after

/-- Steps that look at the scene mirror each other if they do so whatever they see. -/
lemma get_bind {f f' : Scene → Step α} (h : ∀ scene, Mirrors g (f scene) (f' (scene.onSession g))) :
    Mirrors g (get >>= f) (get >>= f') := by
  intro scene
  rw [Step.take_bind, Step.take_bind, Step.take_get, Step.take_get]
  exact h scene scene

lemma ite {a b a' b' : Step α} {c : Prop} [Decidable c] (h : Mirrors g a b)
    (h' : Mirrors g a' b') : Mirrors g (if c then a else a') (if c then b else b') := by
  split
  · exact h
  · exact h'

lemma discard {a b : Step α} (h : Mirrors g a b) :
    Mirrors g (Functor.discard a) (Functor.discard b) :=
  h.bind fun _ => pure ()

lemma recover {a b : Step α} {f f' : Fault → Step α} (hab : Mirrors g a b)
    (hf : ∀ e, Mirrors g (f e) (f' e)) : Mirrors g (Step.recover a f) (Step.recover b f') := by
  intro scene
  rw [Step.take_recover, Step.take_recover, hab scene]
  rcases a.take scene with ⟨e | x, after⟩
  · dsimp only
    split
    · rfl
    · exact hf e after
  · rfl

lemma mapM {f f' : β → Step α} (l : List β) (h : ∀ x ∈ l, Mirrors g (f x) (f' x)) :
    Mirrors g (l.mapM f) (l.mapM f') := by
  induction l with
  | nil => exact pure []
  | cons x l ih =>
    rw [List.mapM_cons, List.mapM_cons]
    refine (h x List.mem_cons_self).bind fun y => ?_
    exact (ih fun z hz => h z (List.mem_cons_of_mem x hz)).bind fun _ => pure _

lemma forM {f f' : β → Step Unit} (l : List β) (h : ∀ x ∈ l, Mirrors g (f x) (f' x)) :
    Mirrors g (l.forM f) (l.forM f') := by
  induction l with
  | nil => exact pure ()
  | cons x l ih =>
    exact (h x List.mem_cons_self).bind fun _ => ih fun y hy => h y (List.mem_cons_of_mem x hy)

end Mirrors

/-! ### Expressions -/

/-- Libraries that have the same functions under the names that occur in a text, and whose
evaluators do the same with the pieces of the text in changed sessions. -/
structure AgreeOn (g : Session → Session) (lib lib' : Library) (cs : List Char) : Prop where
  routine : ∀ name, name <:+: cs →
    lib.routine? (String.ofList (upper name)) = lib'.routine? (String.ofList (upper name))
  formula : ∀ p, p <:+: cs →
    Mirrors g (lib.evaluator lib.frame p) (lib'.evaluator lib'.frame p)

section Expressions

variable {lib lib' : Library} {g : Session → Session}

/-- Libraries that agree on a text agree on its pieces. -/
lemma AgreeOn.of_isInfix {p cs : List Char} (h : AgreeOn g lib lib' cs) (hp : p <:+: cs) :
    AgreeOn g lib lib' p :=
  ⟨fun name hname => h.routine name (hname.trans hp), fun q hq => h.formula q (hq.trans hp)⟩

/-- An evaluator that is confined to its scope does the same in sessions that are alike. -/
lemma Evaluator.Confined.mirrors {ev : Evaluator} (h : ev.Confined) (hg : ∀ s, Alike s (g s))
    (frame frame' : Frame) (cs : List Char) : Mirrors g (ev frame cs) (ev frame' cs) := by
  intro scene
  obtain ⟨houtcome, hworld⟩ := h.sees frame frame' cs scene.session (g scene.session) scene.world
    (formulaScope_congr (hg scene.session))
  have hkept := h.keeps frame cs scene
  have hkept' := h.keeps frame' cs (scene.onSession g)
  rcases hleft : (ev frame cs).take scene with ⟨outcome, ⟨s, w⟩⟩
  rcases hright : (ev frame' cs).take (scene.onSession g) with ⟨outcome', ⟨s', w'⟩⟩
  have hright' : (ev frame' cs).take ⟨g scene.session, scene.world⟩ = (outcome', ⟨s', w'⟩) := hright
  simp only [hleft, hright', hright, Scene.onSession_session] at houtcome hworld hkept hkept'
  rw [← houtcome, ← hworld, hkept']
  simp only [Scene.onSession, hkept]

/-- A library with a confined evaluator agrees with itself while other lines are run. -/
lemma Evaluator.Confined.agreeOn (h : lib.evaluator.Confined) (hg : ∀ s, Alike s (g s))
    (cs : List Char) : AgreeOn g lib lib cs :=
  ⟨fun _ _ => rfl, fun p _ => h.mirrors hg lib.frame lib.frame p⟩

/-- A call depends on the library only through the function that has the name. -/
lemma callLibrary_congr {name : String} (h : lib.routine? name = lib'.routine? name)
    (args : List Value) : callLibrary lib name args = callLibrary lib' name args := by
  unfold callLibrary
  rw [h]

/-- Expressions act alike if the operands in them do. -/
lemma evaluate_mirrors_of {cs : List Char}
    (h : ∀ p, p <:+: cs → Mirrors g (evaluateOperand lib p) (evaluateOperand lib' p)) :
    Mirrors g (evaluate lib cs) (evaluate lib' cs) := by
  rw [evaluate, evaluate]
  refine .ite (.pure _) (.ite ?_ (h _ (strip_isInfix cs)))
  refine .bind (.mapM _ fun x _ => ?_) fun _ => .pure _
  exact (h x.1 ((infix_of_mem_operands x.2).trans (strip_isInfix cs))).bind fun _ => .act _

/-- An operand acts alike in sessions that are alike if it does so as a call and as a formula. -/
lemma evaluateOperand_mirrors_of (hg : ∀ s, Alike s (g s)) {cs : List Char}
    (hcall : Mirrors g (callFunction lib (strip cs)) (callFunction lib' (strip cs)))
    (hformula : Mirrors g (lib.evaluator lib.frame (strip cs))
      (lib'.evaluator lib'.frame (strip cs))) :
    Mirrors g (evaluateOperand lib cs) (evaluateOperand lib' cs) := by
  rw [evaluateOperand, evaluateOperand]
  refine .ite (.pure _) ?_
  split
  · exact .pure _
  · refine .ite (.act _) (.get_bind fun scene => ?_)
    rw [Scene.onSession_session, ← wordValue?_congr (hg scene.session)]
    split
    · exact .pure _
    · exact .ite (hcall.bind fun _ => .pure _) (hformula.recover fun _ => .pure _)

/-- A call acts alike with libraries that agree on it, if its arguments do. -/
lemma callFunction_mirrors_of {cs : List Char} (hlib : AgreeOn g lib lib' cs)
    (h : ∀ name args, Shape.call cs = some (name, args) → ∀ p ∈ argumentTexts args,
      Mirrors g (evaluate lib p) (evaluate lib' p)) :
    Mirrors g (callFunction lib cs) (callFunction lib' cs) := by
  rw [callFunction, callFunction]
  split
  · exact .pure _
  · next name args hcall =>
    refine .bind (.mapM _ fun x _ => h name args hcall x.1 x.2) fun values => ?_
    rw [callLibrary_congr (hlib.routine name (Shape.parts_of_call hcall).1)]
    exact .act _

/-- Calls act alike in sessions that are alike and with libraries that agree on the text. -/
theorem callFunction_mirrors (hg : ∀ s, Alike s (g s)) (cs : List Char)
    (hlib : AgreeOn g lib lib' cs) : Mirrors g (callFunction lib cs) (callFunction lib' cs) := by
  -- By induction on the length: calls in the arguments are shorter than the call around them.
  induction hlen : cs.length using Nat.strongRecOn generalizing cs with
  | ind n ih =>
    refine callFunction_mirrors_of hlib fun name args hcall p hp => ?_
    obtain ⟨_, hargs, hshort⟩ := Shape.parts_of_call hcall
    have hp : p <:+: args := infix_of_mem_argumentTexts hp
    refine evaluate_mirrors_of fun q hq => ?_
    have hq : strip q <:+: args := ((strip_isInfix q).trans hq).trans hp
    have hpiece := hlib.of_isInfix (hq.trans hargs)
    have hlt : (strip q).length < n := by
      have := hq.length_le
      omega
    exact evaluateOperand_mirrors_of hg (ih _ hlt (strip q) hpiece rfl)
      (hpiece.formula _ List.infix_rfl)

/-- Operands act alike in sessions that are alike and with libraries that agree on the text. -/
theorem evaluateOperand_mirrors (hg : ∀ s, Alike s (g s)) (cs : List Char)
    (hlib : AgreeOn g lib lib' cs) :
    Mirrors g (evaluateOperand lib cs) (evaluateOperand lib' cs) :=
  evaluateOperand_mirrors_of hg (callFunction_mirrors hg _ (hlib.of_isInfix (strip_isInfix cs)))
    (hlib.formula _ (strip_isInfix cs))

/-- Expressions act alike in sessions that are alike and with libraries that agree on the text. -/
theorem evaluate_mirrors (hg : ∀ s, Alike s (g s)) {cs : List Char}
    (hlib : AgreeOn g lib lib' cs) : Mirrors g (evaluate lib cs) (evaluate lib' cs) :=
  evaluate_mirrors_of fun p hp => evaluateOperand_mirrors hg p (hlib.of_isInfix hp)

/-- Arguments act alike in sessions that are alike and with libraries that agree on the text. -/
theorem evaluateArguments_mirrors (hg : ∀ s, Alike s (g s)) {cs : List Char}
    (hlib : AgreeOn g lib lib' cs) :
    Mirrors g (evaluateArguments lib cs) (evaluateArguments lib' cs) :=
  .mapM _ fun _ hp => evaluate_mirrors hg (hlib.of_isInfix (infix_of_mem_argumentTexts hp))

end Expressions

/-! ### Steps that keep the session -/

/-- A step after which the session stands in the relation `R` to what it was. -/
def Keeps {α : Type} (R : Session → Session → Prop) (a : Step α) : Prop :=
  ∀ scene, R scene.session (a.take scene).2.session

namespace Keeps

variable {α β : Type} {R : Session → Session → Prop}

lemma ite {a b : Step α} {c : Prop} [Decidable c] (ha : Keeps R a) (hb : Keeps R b) :
    Keeps R (if c then a else b) := by
  split
  · exact ha
  · exact hb

lemma get_bind {f : Scene → Step α} (h : ∀ scene, Keeps R (f scene)) : Keeps R (get >>= f) := by
  intro scene
  rw [Step.take_bind, Step.take_get]
  exact h scene scene

variable [IsPreorder Session R]

lemma pure (a : α) : Keeps R (Pure.pure a : Step α) :=
  fun scene => refl_of R scene.session

lemma throw (e : Fault) : Keeps R (MonadExcept.throw e : Step α) :=
  fun scene => refl_of R scene.session

/-- What only touches the world keeps the session as it is. -/
lemma act (a : Act α) : Keeps R (Step.act a) := by
  intro scene
  rw [Step.take_act]
  exact refl_of R scene.session

lemma bind {a : Step α} {f : α → Step β} (ha : Keeps R a) (hf : ∀ x, Keeps R (f x)) :
    Keeps R (a >>= f) := by
  intro scene
  have hafter := ha scene
  rw [Step.take_bind]
  rcases h : a.take scene with ⟨e | x, after⟩ <;> rw [h] at hafter
  · exact hafter
  · exact trans_of R hafter (hf x after)

lemma discard {a : Step α} (h : Keeps R a) : Keeps R (Functor.discard a) :=
  h.bind fun _ => pure ()

lemma recover {a : Step α} {f : Fault → Step α} (ha : Keeps R a) (hf : ∀ e, Keeps R (f e)) :
    Keeps R (Step.recover a f) := by
  intro scene
  have hafter := ha scene
  rw [Step.take_recover]
  rcases h : a.take scene with ⟨e | x, after⟩ <;> rw [h] at hafter
  · dsimp only
    split
    · exact hafter
    · exact trans_of R hafter (hf e after)
  · exact hafter

lemma mapM {f : β → Step α} (l : List β) (h : ∀ x ∈ l, Keeps R (f x)) : Keeps R (l.mapM f) := by
  induction l with
  | nil => exact pure []
  | cons x l ih =>
    rw [List.mapM_cons]
    refine (h x List.mem_cons_self).bind fun y => ?_
    exact (ih fun z hz => h z (List.mem_cons_of_mem x hz)).bind fun _ => pure _

end Keeps

section Keeping

variable {lib : Library} {R : Session → Session → Prop} [IsPreorder Session R]

/-- Expressions keep what the operands in them keep. -/
lemma evaluate_keeps_of {cs : List Char} (h : ∀ p, p <:+: cs → Keeps R (evaluateOperand lib p)) :
    Keeps R (evaluate lib cs) := by
  rw [evaluate]
  refine .ite (.pure _) (.ite ?_ (h _ (strip_isInfix cs)))
  refine .bind (.mapM _ fun x _ => ?_) fun _ => .pure _
  exact (h x.1 ((infix_of_mem_operands x.2).trans (strip_isInfix cs))).bind fun _ => .act _

/-- Operands keep what calls and formulas keep. -/
lemma evaluateOperand_keeps_of (hev : ∀ frame cs, Keeps R (lib.evaluator frame cs))
    {cs : List Char} (hcall : Keeps R (callFunction lib (strip cs))) :
    Keeps R (evaluateOperand lib cs) := by
  rw [evaluateOperand]
  refine .ite (.pure _) ?_
  split
  · exact .pure _
  · refine .ite (.act _) (.get_bind fun scene => ?_)
    split
    · exact .pure _
    · exact .ite (hcall.bind fun _ => .pure _) ((hev _ _).recover fun _ => .pure _)

/-- Calls keep what formulas keep. -/
theorem callFunction_keeps (hev : ∀ frame cs, Keeps R (lib.evaluator frame cs)) (cs : List Char) :
    Keeps R (callFunction lib cs) := by
  -- By induction on the length, as for steps that mirror each other.
  induction hlen : cs.length using Nat.strongRecOn generalizing cs with
  | ind n ih =>
    rw [callFunction]
    split
    · exact .pure _
    · next name args hcall =>
      obtain ⟨_, _, hshort⟩ := Shape.parts_of_call hcall
      refine .bind (.mapM _ fun x _ => ?_) fun values => .act _
      refine evaluate_keeps_of fun q hq => evaluateOperand_keeps_of hev ?_
      have hlt : (strip q).length < n := by
        have hpiece :=
          (((strip_isInfix q).trans hq).trans (infix_of_mem_argumentTexts x.2)).length_le
        omega
      exact ih _ hlt (strip q) rfl

/-- Operands keep what formulas keep. -/
theorem evaluateOperand_keeps (hev : ∀ frame cs, Keeps R (lib.evaluator frame cs))
    (cs : List Char) : Keeps R (evaluateOperand lib cs) :=
  evaluateOperand_keeps_of hev (callFunction_keeps hev _)

/-- Expressions keep what formulas keep. -/
theorem evaluate_keeps (hev : ∀ frame cs, Keeps R (lib.evaluator frame cs)) (cs : List Char) :
    Keeps R (evaluate lib cs) :=
  evaluate_keeps_of fun p _ => evaluateOperand_keeps hev p

/-- Arguments keep what formulas keep. -/
theorem evaluateArguments_keeps (hev : ∀ frame cs, Keeps R (lib.evaluator frame cs))
    (cs : List Char) : Keeps R (evaluateArguments lib cs) :=
  .mapM _ fun p _ => evaluate_keeps hev p

end Keeping

end ScriptHost.Script
