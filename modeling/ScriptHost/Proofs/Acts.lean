import Mathlib.Tactic.Lemma
import ScriptHost.Script.Scene

/-!
# Laws of acts and steps

An act is a function from worlds to outcomes and worlds, and a step the same with scenes. The laws
below say what the combinators of acts and steps do, so that no later proof has to open the monads
they are built from.
-/

namespace ScriptHost

/-- After a success the next computation goes on with its result. -/
lemma ok_bind {α β : Type} (a : α) (f : α → Except Fault β) : (Except.ok a >>= f) = f a := rfl

/-- Two computations in sequence succeed only if both do. -/
lemma exists_of_bind_eq_ok {α β : Type} {x : Except Fault α} {f : α → Except Fault β} {r : β}
    (h : (x >>= f) = .ok r) : ∃ a, x = .ok a ∧ f a = .ok r := by
  cases x with
  | error e => cases h
  | ok a => exact ⟨a, rfl, h⟩

namespace Act

variable {α β : Type}

@[simp] lemma carryOut_pure (a : α) (w : World) : (pure a : Act α).carryOut w = (.ok a, w) := rfl

@[simp] lemma carryOut_throw (e : Fault) (w : World) :
    (throw e : Act α).carryOut w = (.error e, w) := rfl

@[simp] lemma carryOut_get (w : World) : (get : Act World).carryOut w = (.ok w, w) := rfl

@[simp] lemma carryOut_ofExcept (r : Except Fault α) (w : World) :
    (ofExcept r).carryOut w = (r, w) := by
  cases r <;> rfl

/-- What a sequence of two acts does: the second one is carried out only after a success. -/
lemma carryOut_bind (a : Act α) (f : α → Act β) (w : World) :
    (a >>= f).carryOut w =
      match a.carryOut w with
      | (.ok x, after) => (f x).carryOut after
      | (.error e, after) => (.error e, after) := by
  unfold carryOut
  rw [ExceptT.run_bind, StateT.run_bind]
  rcases StateT.run (ExceptT.run a) w with ⟨_ | x, after⟩ <;> rfl

/-- Nothing is done after a fault. -/
lemma throw_bind (e : Fault) (f : α → Act β) : (throw e : Act α) >>= f = throw e := rfl

/-- What catching a fault does. -/
lemma carryOut_tryCatch (a : Act α) (handler : Fault → Act α) (w : World) :
    (tryCatch a handler : Act α).carryOut w =
      match a.carryOut w with
      | (.ok x, after) => (.ok x, after)
      | (.error e, after) => (handler e).carryOut after := by
  unfold carryOut
  simp only [tryCatch, tryCatchThe, MonadExceptOf.tryCatch, ExceptT.tryCatch, ExceptT.run,
    ExceptT.mk, StateT.run_bind]
  rcases StateT.run a w with ⟨e | x, after⟩ <;> rfl

/-- A handler is given every fault except the one by which a script is left. -/
lemma carryOut_recover (a : Act α) (handler : Fault → Act α) (w : World) :
    (recover a handler).carryOut w =
      match a.carryOut w with
      | (.ok x, after) => (.ok x, after)
      | (.error e, after) =>
        if e.isExit then (.error e, after) else (handler e).carryOut after := by
  unfold recover
  rw [carryOut_tryCatch]
  rcases a.carryOut w with ⟨e | x, after⟩
  · show (if e.isExit then throw e else handler e : Act α).carryOut after = _
    split <;> simp_all
  · rfl

/-- If a sequence of two acts succeeds, both of them do. -/
lemma exists_of_carryOut_bind_eq_ok {a : Act α} {f : α → Act β} {w w' : World} {y : β}
    (h : (a >>= f).carryOut w = (.ok y, w')) :
    ∃ x mid, a.carryOut w = (.ok x, mid) ∧ (f x).carryOut mid = (.ok y, w') := by
  rw [carryOut_bind] at h
  rcases ha : a.carryOut w with ⟨e | x, mid⟩
  · rw [ha] at h
    exact absurd (congrArg Prod.fst h) (by simp)
  · rw [ha] at h
    exact ⟨x, mid, rfl, h⟩

end Act

namespace Script

/-! ### Scenes -/

namespace Scene

/-- A scene in which something is changed about the session. -/
def onSession (g : Session → Session) (scene : Scene) : Scene :=
  { scene with session := g scene.session }

/-- A scene in which a text has been printed. -/
def printing (text : String) (scene : Scene) : Scene :=
  { scene with world := { scene.world with output := scene.world.output ++ text } }

@[simp] lemma onSession_session (g : Session → Session) (scene : Scene) :
    (scene.onSession g).session = g scene.session := rfl

end Scene

/-! ### Steps -/

namespace Step

variable {α β : Type}

/-- Steps that come to the same in every scene are equal. -/
lemma ext {s t : Step α} (h : ∀ scene, s.take scene = t.take scene) : s = t :=
  funext h

@[simp] lemma take_pure (a : α) (scene : Scene) :
    (pure a : Step α).take scene = (.ok a, scene) := rfl

@[simp] lemma take_throw (e : Fault) (scene : Scene) :
    (throw e : Step α).take scene = (.error e, scene) := rfl

@[simp] lemma take_get (scene : Scene) : (get : Step Scene).take scene = (.ok scene, scene) := rfl

/-- Changing the session always succeeds. -/
@[simp] lemma take_modifySession (f : Session → Session) (scene : Scene) :
    (modifySession f).take scene = (.ok (), scene.onSession f) := rfl

/-- What a sequence of two steps does: the second one is taken only after a success. -/
lemma take_bind (s : Step α) (f : α → Step β) (scene : Scene) :
    (s >>= f).take scene =
      match s.take scene with
      | (.ok x, after) => (f x).take after
      | (.error e, after) => (.error e, after) := by
  unfold take
  rw [ExceptT.run_bind, StateT.run_bind]
  rcases StateT.run (ExceptT.run s) scene with ⟨_ | x, after⟩ <;> rfl

/-- If a sequence of two steps succeeds, both of them do. -/
lemma exists_of_take_bind_eq_ok {s : Step α} {f : α → Step β} {scene last : Scene} {y : β}
    (h : (s >>= f).take scene = (.ok y, last)) :
    ∃ x mid, s.take scene = (.ok x, mid) ∧ (f x).take mid = (.ok y, last) := by
  rw [take_bind] at h
  rcases hs : s.take scene with ⟨e | x, mid⟩
  · rw [hs] at h
    exact absurd (congrArg Prod.fst h) (by simp)
  · rw [hs] at h
    exact ⟨x, mid, rfl, h⟩

/-- A step that only touches the world leaves the session alone. -/
lemma take_act (a : Act α) (scene : Scene) :
    (act a).take scene =
      ((a.carryOut scene.world).1, { scene with world := (a.carryOut scene.world).2 }) := by
  unfold act
  rw [take_bind, take_get]
  dsimp only
  rcases a.carryOut scene.world with ⟨_ | x, after⟩ <;> rfl

/-- An act that does nothing is a step that does nothing. -/
@[simp] lemma act_pure (a : α) : act (pure a : Act α) = pure a :=
  ext fun _ => rfl

/-- Acts one after the other are steps one after the other. -/
lemma act_bind (a : Act α) (f : α → Act β) : act (a >>= f) = act a >>= fun x => act (f x) := by
  refine ext fun scene => ?_
  rw [take_bind, take_act, take_act, Act.carryOut_bind]
  rcases a.carryOut scene.world with ⟨e | x, w⟩
  · rfl
  · dsimp only
    rw [take_act]

/-- The value of an act may be changed before or after it is taken for a step. -/
lemma act_map (f : α → β) (a : Act α) : act (f <$> a) = f <$> act a := by
  rw [map_eq_pure_bind, map_eq_pure_bind, act_bind]
  rfl

/-- A step that needs the session acts as it would in a session like this one. -/
lemma take_consult (f : Session → Act α) (scene : Scene) :
    (consult f).take scene = (act (f scene.session)).take scene := by
  unfold consult
  rw [take_bind, take_get]

/-- Without its result a step does what it did. -/
lemma take_discard (s : Step α) (scene : Scene) :
    (discard s).take scene =
      match s.take scene with
      | (.ok _, after) => (.ok (), after)
      | (.error e, after) => (.error e, after) := by
  have hdiscard : discard s = s >>= fun _ => pure () := rfl
  rw [hdiscard, take_bind]
  rfl

/-- A handler is given every fault except the one by which a script is left. -/
lemma take_recover (s : Step α) (handler : Fault → Step α) (scene : Scene) :
    (recover s handler).take scene =
      match s.take scene with
      | (.ok x, after) => (.ok x, after)
      | (.error e, after) =>
        if e.isExit then (.error e, after) else (handler e).take after := by
  have hcatch (h : Fault → Step α) : (tryCatch s h : Step α).take scene =
      match s.take scene with
      | (.ok x, after) => (.ok x, after)
      | (.error e, after) => (h e).take after := by
    unfold take
    simp only [tryCatch, tryCatchThe, MonadExceptOf.tryCatch, ExceptT.tryCatch, ExceptT.run,
      ExceptT.mk, StateT.run_bind]
    rcases StateT.run s scene with ⟨e | x, after⟩ <;> rfl
  unfold recover
  rw [hcatch]
  rcases s.take scene with ⟨e | x, after⟩
  · show (if e.isExit then throw e else handler e : Step α).take after = _
    split <;> simp_all
  · rfl

end Step

end Script

end ScriptHost
