import ScriptHost.Builtin.Catalog
import ScriptHost.Proofs.ExactNumbers
import ScriptHost.Proofs.Traces
import ScriptHost.Proofs.Turns

/-!
# What random numbers depend on

The functions on random numbers share a generator and the number that was drawn last. What a call
does to them depends on its argument alone (`Call.move`): it draws a number, gives the last one
again, starts a new sequence and may draw its first number, or fails and does nothing. So zero only
looks, and after a new sequence was started from a negative number nothing depends on what was done
before (`random_numbers`). Minus infinity is negative, but there is no whole number to start a
sequence from, and the call does nothing.
-/

namespace ScriptHost.RandomFunction

open Catalog (numbers)
open ScriptHost.Number

/-! ### Calls -/

/-- A call of one of the functions on random numbers. -/
inductive Call where
  | rnd (args : List Value) (named : List (String × Value))
  | randomize (args : List Value) (named : List (String × Value))

namespace Call

/-- Makes a call. -/
def perform (rnd randomize : Routine) : Call → Act Value
  | .rnd args named => rnd.call args named
  | .randomize args named => randomize.call args named

end Call

/-- The argument of a function with one parameter, which may be left out. -/
def argument (name param : String) (args : List Value) (named : List (String × Value)) :
    Except Fault Value :=
  ((Signature.mk name [given param .null] false false).bind args named).map fun vs => vs.headD .null

/-- The order of a value and zero, if it is a number. -/
def signOf? (x : Value) : Option Ordering :=
  x.number?.bind fun n => n.order? (.int 0)

/-- The number from which a negative number starts a new sequence. -/
def seedOf (x : Value) : Except Fault Int :=
  x.neg >>= Value.toWhole

/-- The least double. -/
def minusInfinity : Float := Float.ofBits 0xFFF0000000000000

namespace Call

/-- A call that asks for a random number with an argument. -/
def AsksWith (x : Value) : Call → Prop
  | rnd args named => argument "Rnd" "seed" args named = .ok x
  | randomize .. => False

/-- The sign of the argument with which a random number is asked for. -/
def sign? : Call → Option Ordering
  | rnd args named => (argument "Rnd" "seed" args named).toOption.bind signOf?
  | randomize .. => none

/-- A call that asks for the last number. -/
def IsRecall (c : Call) : Prop := c.sign? = some .eq

instance : DecidablePred IsRecall := fun c => inferInstanceAs (Decidable (c.sign? = some .eq))

/-- A call that starts a new sequence from the present. -/
def ReadsClock : Call → Prop
  | rnd .. => False
  | randomize args named => argument "Randomize" "number" args named = .ok .null

/-- The random number that a call has drawn. -/
def drawn? : Call × Except Fault Value → Option Value
  | (rnd args named, .ok v) => if (rnd args named).IsRecall then none else some v
  | _ => none

/-- The random number that some calls have drawn last. -/
def lastDrawn (before : Float) (xs : List (Call × Except Fault Value)) : Value :=
  (xs.filterMap drawn?).getLast?.getD (.float before)

end Call

/-! ### Moves -/

/-- What a call does to the generator and the last number. -/
inductive Move where
  | draw
  | again
  /-- Starts a new sequence and draws its first number. -/
  | restart (seed : Int)
  /-- Starts a new sequence. -/
  | reseed (seed : Int)
  | reseedByClock
  | fail (e : Fault)

/-- A world in which a generator has drawn a number. -/
def drawing (t : Random.Twister) (w : World) : World :=
  { w with random := (Random.next t).2, lastRandom := (Random.next t).1 }

/-- The move that is made for what was computed, if it was. -/
def Move.after {α : Type} (move : α → Move) : Except Fault α → Move
  | .ok a => move a
  | .error e => fail e

/-- What comes of starting a new sequence from what was computed, if it was. -/
def reseeding : Except Fault Int → World → Except Fault Value × World
  | .ok k, w => (.ok .null, { w with random := Random.seed k })
  | .error e, w => (.error e, w)

/-- What comes of a move. -/
def Move.outcome : Move → World → Except Fault Value × World
  | draw, w => (.ok (.float (Random.next w.random).1), drawing w.random w)
  | again, w => (.ok (.float w.lastRandom), w)
  | restart k, w => (.ok (.float (Random.next (Random.seed k)).1), drawing (Random.seed k) w)
  | reseed k, w => reseeding (.ok k) w
  | reseedByClock, w => reseeding (milliseconds w) w
  | fail e, w => (.error e, w)

/-- The move that is made for a number, by its sign. -/
def moveBySign (sign? : Option Ordering) (x : Value) : Move :=
  match sign? with
  | some .gt => .draw
  | some .eq => .again
  | _ => Move.after .restart (seedOf x)

/-- The move that is made when a random number is asked for. -/
def moveOf : Value → Move
  | .null => .draw
  | x =>
    match x.number? with
    | some n => moveBySign (n.order? (.int 0)) x
    | none => .fail (.unordered ">" x.typeName "int")

/-- The move that is made when a new sequence is asked for. -/
def seedMoveOf : Value → Move
  | .null => .reseedByClock
  | v => Move.after .reseed v.toWhole

/-- The move that a call makes. -/
def Call.move : Call → Move
  | rnd args named => Move.after moveOf (argument "Rnd" "seed" args named)
  | randomize args named => Move.after seedMoveOf (argument "Randomize" "number" args named)

/-! ### What the functions do -/

lemma compareWith_zero {x : Value} {n : Num} (hx : x.number? = some n) :
    x.compareWith .gt (.int 0) = .ok (n.order? (.int 0) == some .gt) := by
  cases x with
  | bool _ | int _ | float _ =>
    obtain rfl := Option.some.inj hx
    simp only [Value.compareWith, Value.number?]
    rcases Num.order? _ (.int 0) with _ | o <;> rfl
  | _ => cases hx

lemma same_zero {x : Value} {n : Num} (hx : x.number? = some n) :
    x.same (.int 0) = (n.order? (.int 0) == some .eq) := by
  cases x with
  | bool _ | int _ | float _ =>
    obtain rfl := Option.some.inj hx
    rfl
  | _ => cases hx

lemma carryOut_restart (x : Value) (w : World) :
    (do let n ← Act.ofExcept x.neg; restart (← Act.ofExcept n.toWhole); draw : Act Value).carryOut
        w =
      (Move.after .restart (seedOf x)).outcome w := by
  rw [seedOf, Act.carryOut_bind, Act.carryOut_ofExcept]
  rcases x.neg with e | v
  · rfl
  · dsimp only [Bind.bind, Except.bind]
    rcases v.toWhole with e | k <;> rfl

/-- Whether a number is drawn, given again or the first of a new sequence depends on the sign of the
argument. -/
lemma carryOut_random_of_number {x : Value} {n : Num} (hx : x.number? = some n) (w : World) :
    (random x).carryOut w = (moveBySign (n.order? (.int 0)) x).outcome w := by
  have hrandom : random x = (do
      if ← Act.ofExcept (x.compareWith .gt (.int 0)) then draw
      else if x.same (.int 0) then return .float (← get).lastRandom
      else
        let n ← Act.ofExcept x.neg
        restart (← Act.ofExcept n.toWhole)
        draw) := by
    cases x with
    | null => cases hx
    | _ => rfl
  rw [hrandom, compareWith_zero hx, same_zero hx]
  rcases n.order? (.int 0) with _ | (_ | _ | _)
  · exact carryOut_restart x w
  · exact carryOut_restart x w
  · rfl
  · rfl

lemma carryOut_random (x : Value) (w : World) : (random x).carryOut w = (moveOf x).outcome w := by
  cases x with
  | bool _ | int _ | float _ => exact carryOut_random_of_number rfl w
  | _ => rfl

lemma carryOut_reseeding (k : Except Fault Int) (w : World) :
    (do restart (← Act.ofExcept k); return .null : Act Value).carryOut w = reseeding k w := by
  rw [Act.carryOut_bind, Act.carryOut_ofExcept]
  rcases k with e | k <;> rfl

lemma outcome_after_reseed (k : Except Fault Int) (w : World) :
    (Move.after .reseed k).outcome w = reseeding k w := by
  rcases k with e | k <;> rfl

lemma carryOut_randomize (v : Value) (w : World) :
    (randomize v).carryOut w = (seedMoveOf v).outcome w := by
  cases v with
  | null =>
    have hclock : randomize .null =
        get >>= fun w => (do restart (← Act.ofExcept (milliseconds w)); return .null : Act Value) :=
          rfl
    rw [hclock, Act.carryOut_bind, Act.carryOut_get]
    exact carryOut_reseeding (milliseconds w) w
  | _ => exact (carryOut_reseeding _ w).trans (outcome_after_reseed _ w).symm

lemma exists_bind_eq_singleton {name param : String} {args vs : List Value}
    {named : List (String × Value)}
    (h : (Signature.mk name [given param .null] false false).bind args named = .ok vs) :
      ∃ x, vs = [x] := by
  unfold Signature.bind at h
  split at h
  · cases h
  · rcases args with _ | ⟨x, rest⟩
    · rcases hlookup : named.lookup param with _ | v
      · exact ⟨_, by simpa [Signature.fill, given, hlookup, eq_comm] using h⟩
      · exact ⟨_, by simpa [Signature.fill, given, hlookup, eq_comm] using h⟩
    · rcases rest with _ | ⟨y, rest⟩
      · exact ⟨x, by simpa [Signature.fill, given, eq_comm] using h⟩
      · simp at h

/-- A function with one parameter, which may be left out, makes the move of its argument. -/
lemma carryOut_call {f : Value → Act Value} {move : Value → Move}
    (hf : ∀ x w, (f x).carryOut w = (move x).outcome w) (name param : String) (args : List Value)
    (named : List (String × Value)) (w : World) :
    ((Routine.function name [given param .null] (Routine.on1 f)).call args named).carryOut w =
      (Move.after move (argument name param args named)).outcome w := by
  rw [argument, Routine.call, Routine.function, Act.carryOut_bind, Act.carryOut_ofExcept]
  rcases hbind : (Signature.mk name [given param .null] false false).bind args named with e | vs
  · rfl
  · obtain ⟨x, rfl⟩ := exists_bind_eq_singleton hbind
    exact hf x w

/-- What a call does is the move that it makes. -/
lemma carryOut_perform {rnd randomize : Routine} (hrnd : numbers.lookup "Rnd" = some rnd)
    (hrandomize : numbers.lookup "Randomize" = some randomize) (c : Call) (w : World) :
    (c.perform rnd randomize).carryOut w = c.move.outcome w := by
  obtain rfl := Option.some.inj hrnd
  obtain rfl := Option.some.inj hrandomize
  cases c with
  | rnd args named => exact carryOut_call carryOut_random "Rnd" "seed" args named w
  | randomize args named => exact carryOut_call carryOut_randomize "Randomize" "number" args named w

/-! ### Which moves calls make -/

lemma after_restart_cases (k : Except Fault Int) :
    (∃ n, Move.after .restart k = .restart n) ∨ ∃ e, Move.after .restart k = .fail e := by
  rcases k with e | n
  · exact .inr ⟨e, rfl⟩
  · exact .inl ⟨n, rfl⟩

lemma moveOf_of_sign {x : Value} {o : Ordering} (h : signOf? x = some o) :
    moveOf x = moveBySign (some o) x := by
  obtain ⟨n, hn, ho⟩ := Option.bind_eq_some_iff.1 h
  cases x with
  | bool _ | int _ | float _ =>
    obtain rfl := Option.some.inj hn
    exact congrArg (moveBySign · _) ho
  | _ => cases hn

lemma moveOf_cases {x : Value} (h : signOf? x ≠ some .eq) :
    moveOf x = .draw ∨ (∃ k, moveOf x = .restart k) ∨ ∃ e, moveOf x = .fail e := by
  have hsign : ∀ o, o ≠ some .eq → moveBySign o x = .draw ∨ (∃ k, moveBySign o x = .restart k) ∨
      ∃ e, moveBySign o x = .fail e := by
    rintro (_ | _ | _ | _) ho
    · exact .inr (after_restart_cases _)
    · exact .inr (after_restart_cases _)
    · exact absurd rfl ho
    · exact .inl rfl
  cases x with
  | null => exact .inl rfl
  | bool _ | int _ | float _ => exact hsign _ h
  | _ => exact .inr (.inr ⟨_, rfl⟩)

lemma seedMoveOf_of_ne_null {v : Value} (hv : v ≠ .null) :
    seedMoveOf v = Move.after .reseed v.toWhole := by
  cases v with
  | null => exact absurd rfl hv
  | _ => rfl

namespace Call

variable {c : Call} {x : Value} {w w' : World}

lemma AsksWith.move_eq (h : c.AsksWith x) : c.move = moveOf x := by
  cases c with
  | rnd args named => exact congrArg (Move.after moveOf) h
  | randomize args named => exact False.elim h

lemma IsRecall.move_eq (h : c.IsRecall) : c.move = .again := by
  cases c with
  | rnd args named =>
    obtain ⟨x, hx, hsign⟩ := Option.bind_eq_some_iff.1 h
    have hasks : (rnd args named).AsksWith x := by
      rw [AsksWith]
      rcases hargument : argument "Rnd" "seed" args named with e | y
      · rw [hargument] at hx
        cases hx
      · rw [hargument] at hx
        exact congrArg Except.ok (Option.some.inj hx)
    rw [hasks.move_eq, moveOf_of_sign hsign]
    rfl
  | randomize args named => cases h

lemma move_rnd_cases {args : List Value} {named : List (String × Value)}
    (h : ¬ (rnd args named).IsRecall) :
    (rnd args named).move = .draw ∨ (∃ k, (rnd args named).move = .restart k) ∨
      ∃ e, (rnd args named).move = .fail e := by
  rw [IsRecall, sign?] at h
  rw [move]
  rcases hargument : argument "Rnd" "seed" args named with e | x
  · exact .inr (.inr ⟨e, rfl⟩)
  · rw [hargument] at h
    exact moveOf_cases h

lemma move_ne_reseedByClock (h : ¬ c.ReadsClock) : c.move ≠ .reseedByClock := by
  cases c with
  | rnd args named =>
    intro hmove
    by_cases hrecall : (rnd args named).IsRecall
    · exact absurd (hrecall.move_eq.symm.trans hmove) nofun
    · rcases move_rnd_cases hrecall with hother | ⟨k, hother⟩ | ⟨e, hother⟩ <;>
        exact absurd (hother.symm.trans hmove) nofun
  | randomize args named =>
    rw [ReadsClock] at h
    rw [move]
    rcases hargument : argument "Randomize" "number" args named with e | v
    · nofun
    · have hv : v ≠ .null := fun hv => h (hargument.trans (congrArg Except.ok hv))
      rw [Move.after, seedMoveOf_of_ne_null hv]
      rcases v.toWhole with e | k <;> nofun

/-! ### The last number -/

lemma lastRandom_reseeding (k : Except Fault Int) (w : World) :
    (reseeding k w).2.lastRandom = w.lastRandom := by
  rcases k with e | n <;> rw [reseeding]

lemma lastRandom_seedMoveOf (v : Value) (w : World) :
    ((seedMoveOf v).outcome w).2.lastRandom = w.lastRandom := by
  rcases eq_or_ne v .null with rfl | hv
  · exact lastRandom_reseeding _ w
  · rw [seedMoveOf_of_ne_null hv, outcome_after_reseed, lastRandom_reseeding]

/-- A call that draws a number also remembers it, and every other call leaves the last number as it
is. -/
lemma drawn?_outcome (c : Call) (w : World) :
    drawn? (c, (c.move.outcome w).1) = none ∧ (c.move.outcome w).2.lastRandom = w.lastRandom ∨
      drawn? (c, (c.move.outcome w).1) = some (.float (c.move.outcome w).2.lastRandom) := by
  cases c with
  | rnd args named =>
    by_cases h : (rnd args named).IsRecall
    · rw [h.move_eq]
      exact .inl ⟨if_pos h, rfl⟩
    · rcases move_rnd_cases h with hmove | ⟨k, hmove⟩ | ⟨e, hmove⟩
      · rw [hmove]
        exact .inr (if_neg h)
      · rw [hmove]
        exact .inr (if_neg h)
      · rw [hmove]
        exact .inl ⟨rfl, rfl⟩
  | randomize args named =>
    refine .inl ⟨rfl, ?_⟩
    rw [move]
    rcases argument "Randomize" "number" args named with e | v
    · rfl
    · exact lastRandom_seedMoveOf v w

end Call

/-! ### Negative numbers -/

lemma seedOf_minusInfinity : seedOf (.float minusInfinity) = .error .infinityToInt := by
  with_unfolding_all rfl

/-- Every negative number but minus infinity starts a new sequence. -/
lemma exists_seedOf {x : Value} (h : signOf? x = some .lt) (hx : x ≠ .float minusInfinity) :
    ∃ k, seedOf x = .ok k := by
  cases x with
  | bool _ | int _ => exact ⟨_, rfl⟩
  | float f =>
    -- Negation keeps a double finite, so that it has a whole part.
    rcases hf : parts f with b | negative | _
    · obtain ⟨c, hc⟩ := exists_parts_neg ⟨b, hf⟩
      refine ⟨c.truncate, ?_⟩
      change Value.floatToWhole Binary.truncate (-f) = .ok c.truncate
      rw [Value.floatToWhole, hc]
    · have hsign : Num.order? (.float f) (.int 0) = some .lt := h
      rw [Num.order?, hf] at hsign
      cases negative with
      | true =>
        exact absurd (congrArg Value.float (eq_of_parts hf (by with_unfolding_all rfl) nofun)) hx
      | false => cases hsign
    · have hsign : Num.order? (.float f) (.int 0) = some .lt := h
      rw [Num.order?, hf] at hsign
      cases hsign
  | _ => cases h

lemma Call.AsksWith.move_of_negative {c : Call} {x : Value} (hc : c.AsksWith x)
    (h : signOf? x = some .lt) :
    c.move = Move.after .restart (seedOf x) := by
  rw [hc.move_eq, moveOf_of_sign h]
  rfl

/-! ### Alike worlds -/

/-- Two worlds in which the generator and the last number are the same. -/
structure Alike (w w' : World) : Prop where
  random_eq : w.random = w'.random
  lastRandom_eq : w.lastRandom = w'.lastRandom

lemma Alike.of_restart (k : Int) (w w' : World) :
    Alike ((Move.restart k).outcome w).2 ((Move.restart k).outcome w').2 :=
  ⟨rfl, rfl⟩

/-- A move that does not read the clock has the same result in alike worlds, and they stay alike. -/
lemma Alike.outcome {w w' : World} (h : Alike w w') {m : Move} (hm : m ≠ .reseedByClock) :
    (m.outcome w).1 = (m.outcome w').1 ∧ Alike (m.outcome w).2 (m.outcome w').2 := by
  obtain ⟨hrandom, hlast⟩ := h
  cases m with
  | draw =>
    rw [Move.outcome, Move.outcome, hrandom]
    exact ⟨rfl, rfl, rfl⟩
  | again =>
    rw [Move.outcome, Move.outcome, hlast]
    exact ⟨rfl, hrandom, hlast⟩
  | restart k => exact ⟨rfl, Alike.of_restart k w w'⟩
  | reseed k =>
    rw [Move.outcome, Move.outcome, reseeding, reseeding]
    exact ⟨rfl, rfl, hlast⟩
  | reseedByClock => exact absurd rfl hm
  | fail e => exact ⟨rfl, hrandom, hlast⟩

/-! ### Sequences of calls -/

section Calls

variable {rnd randomize : Routine} (hrnd : numbers.lookup "Rnd" = some rnd)
  (hrandomize : numbers.lookup "Randomize" = some randomize)
include hrnd hrandomize

/-- The last number is the one that was drawn last. -/
lemma lastDrawn_trace (cs : List Call) (w : World) :
    Call.lastDrawn w.lastRandom (trace (Call.perform rnd randomize) cs w) =
      .float (worldAfterAll (Call.perform rnd randomize) cs w).lastRandom := by
  -- By induction on the calls, for all worlds: what a call draws is the last number where the
  -- others start.
  induction cs generalizing w with
  | nil => rfl
  | cons c cs ih =>
    rw [trace, worldAfterAll_cons, ← ih, worldAfter, carryOut_perform hrnd hrandomize,
      Call.lastDrawn, Call.lastDrawn]
    rcases c.drawn?_outcome w with ⟨hnone, hlast⟩ | hsome
    · rw [List.filterMap_cons_none hnone, hlast]
    · rw [List.filterMap_cons_some hsome, List.getLast?_cons, Option.getD_some]

lemma insertsFreely_recall (w : World) :
    InsertsFreely (Call.perform rnd randomize) Call.IsRecall w := by
  refine InsertsFreely.of_kept (P := fun _ => True) (fun _ _ _ => trivial)
    (fun c w hc _ => ?_) trivial
  rw [worldAfter, carryOut_perform hrnd hrandomize, hc.move_eq]
  rfl

/-- Calls that do not read the clock have the same results in alike worlds. -/
lemma Alike.trace_eq {cs : List Call} (hcs : ∀ c ∈ cs, ¬ c.ReadsClock) {w w' : World}
    (h : Alike w w') :
    trace (Call.perform rnd randomize) cs w = trace (Call.perform rnd randomize) cs w' := by
  induction cs generalizing w w' with
  | nil => rfl
  | cons c cs ih =>
    obtain ⟨hresult, hafter⟩ := h.outcome (Call.move_ne_reseedByClock (hcs c List.mem_cons_self))
    rw [trace, trace, worldAfter, worldAfter, carryOut_perform hrnd hrandomize,
      carryOut_perform hrnd hrandomize,
      hresult, ih (fun d hd => hcs d (List.mem_cons_of_mem c hd)) hafter]

end Calls

/-- Zero gives the random number that was drawn last, whatever sequences were started since, and can
be asked for anywhere without changing another result. After a negative number other than minus
infinity all results depend on the whole number from which it starts a sequence and on the later
calls alone. Minus infinity is refused, and nothing changes. -/
theorem random_numbers {rnd randomize : Routine} (hrnd : numbers.lookup "Rnd" = some rnd)
    (hrandomize : numbers.lookup "Randomize" = some randomize) (w : World) :
    (∀ (cs : List Call) (z : Call), z.IsRecall →
      (z.perform rnd randomize).carryOut (worldAfterAll (Call.perform rnd randomize) cs w) =
        (.ok (Call.lastDrawn w.lastRandom (trace (Call.perform rnd randomize) cs w)),
          worldAfterAll (Call.perform rnd randomize) cs w)) ∧
    InsertsFreely (Call.perform rnd randomize) Call.IsRecall w ∧
    (∀ (c : Call) (x : Value), c.AsksWith x → signOf? x = some .lt → x ≠ .float minusInfinity →
      ∃ k, seedOf x = .ok k ∧
        ((c.perform rnd randomize).carryOut w).1 = .ok (.float (Random.next (Random.seed k)).1) ∧
        ∀ (c' : Call) (x' : Value), c'.AsksWith x' → signOf? x' = some .lt → seedOf x' = .ok k →
          ∀ (w' : World) (cs : List Call), (∀ d ∈ cs, ¬ d.ReadsClock) →
            (trace (Call.perform rnd randomize) (c :: cs) w).map Prod.snd =
              (trace (Call.perform rnd randomize) (c' :: cs) w').map Prod.snd) ∧
    ∀ c : Call, c.AsksWith (.float minusInfinity) →
      (c.perform rnd randomize).carryOut w = (.error .infinityToInt, w) := by
  have hperform := carryOut_perform hrnd hrandomize
  refine ⟨fun cs z hz => ?_, insertsFreely_recall hrnd hrandomize w, fun c x hc hsign hx => ?_,
    fun c hc => ?_⟩
  · rw [hperform, hz.move_eq, lastDrawn_trace hrnd hrandomize]
    rfl
  · obtain ⟨k, hk⟩ := exists_seedOf hsign hx
    have hmove : c.move = .restart k := by
      rw [hc.move_of_negative hsign, hk]
      rfl
    refine ⟨k, hk, by rw [hperform, hmove]; rfl, fun c' x' hc' hsign' hk' w' cs hcs => ?_⟩
    -- Both calls put the same generator and the same last number into their worlds.
    have hmove' : c'.move = .restart k := by
      rw [hc'.move_of_negative hsign', hk']
      rfl
    rw [trace, trace, worldAfter, worldAfter, hperform, hperform, hmove, hmove',
      Alike.trace_eq hrnd hrandomize hcs (Alike.of_restart k w w')]
    rfl
  · rw [hperform, hc.move_of_negative (by with_unfolding_all rfl), seedOf_minusInfinity]
    rfl

theorem random_numbers_sameWhole : ∃ rnd randomize, numbers.lookup "Rnd" = some rnd ∧
    numbers.lookup "Randomize" = some randomize ∧
    (trace (Call.perform rnd randomize) [.rnd [.int (-2)] [], .rnd [] [], .randomize [.int 7] [],
      .rnd [] []]
        Script.firstScene.world).map Prod.snd =
      (trace (Call.perform rnd randomize)
        [.rnd [] [("seed", .float (Float.ofBits 0xC004000000000000))], .rnd [] [],
        .randomize [.int 7] [], .rnd [] []] { Script.firstScene.world with lastRandom := 1 }).map
          Prod.snd := by
  obtain ⟨rnd, hrnd⟩ : ∃ rnd, numbers.lookup "Rnd" = some rnd := ⟨_, rfl⟩
  obtain ⟨randomize, hrandomize⟩ : ∃ randomize, numbers.lookup "Randomize" = some randomize :=
    ⟨_, rfl⟩
  obtain ⟨-, -, hnegative, -⟩ := random_numbers hrnd hrandomize Script.firstScene.world
  obtain ⟨k, hk, -, hsame⟩ := hnegative (.rnd [.int (-2)] []) (.int (-2)) rfl rfl nofun
  have hminus : seedOf (.float (Float.ofBits 0xC004000000000000)) = .ok k := by
    rw [← hk]
    with_unfolding_all rfl
  have hasks : (Call.rnd [] [("seed", .float (Float.ofBits 0xC004000000000000))]).AsksWith
      (.float (Float.ofBits 0xC004000000000000)) := rfl
  have hnext : ¬ (Call.rnd [] []).ReadsClock := id
  have hseven : ¬ (Call.randomize [.int 7] []).ReadsClock := fun h =>
    absurd (Except.ok.inj (show Except.ok (Value.int 7) = .ok .null from h)) nofun
  refine ⟨rnd, randomize, hrnd, hrandomize, hsame _ _ hasks (by with_unfolding_all rfl) hminus _ _
    ?_⟩
  exact List.forall_mem_cons.2 ⟨hnext, List.forall_mem_cons.2 ⟨hseven,
    List.forall_mem_cons.2 ⟨hnext, by simp⟩⟩⟩

lemma trace_minusInfinity {rnd randomize : Routine} (hrnd : numbers.lookup "Rnd" = some rnd)
    (hrandomize : numbers.lookup "Randomize" = some randomize) (w : World) :
    (trace (Call.perform rnd randomize) [.rnd [.float minusInfinity] [], .rnd [.int 0] []] w).map
      Prod.snd =
      [.error .infinityToInt, .ok (.float w.lastRandom)] := by
  have hasks : (Call.rnd [.float minusInfinity] []).AsksWith (.float minusInfinity) := rfl
  have hfirst : (Call.rnd [.float minusInfinity] []).move = .fail .infinityToInt := by
    rw [hasks.move_of_negative (by with_unfolding_all rfl), seedOf_minusInfinity]
    rfl
  have hzero : (Call.rnd [.int 0] []).IsRecall := rfl
  rw [trace, worldAfter, carryOut_perform hrnd hrandomize, hfirst, trace,
    carryOut_perform hrnd hrandomize, hzero.move_eq]
  rfl

/-- Minus infinity is negative, but after it the last number is still the one from before. -/
theorem minusInfinity_keeps_lastRandom : ∃ rnd randomize, numbers.lookup "Rnd" = some rnd ∧
    numbers.lookup "Randomize" = some randomize ∧ signOf? (.float minusInfinity) = some .lt ∧
    (trace (Call.perform rnd randomize) [.rnd [.float minusInfinity] [], .rnd [.int 0] []]
        { Script.firstScene.world with lastRandom := 0 }).map Prod.snd ≠
      (trace (Call.perform rnd randomize) [.rnd [.float minusInfinity] [], .rnd [.int 0] []]
        { Script.firstScene.world with lastRandom := 1 }).map Prod.snd := by
  obtain ⟨rnd, hrnd⟩ : ∃ rnd, numbers.lookup "Rnd" = some rnd := ⟨_, rfl⟩
  obtain ⟨randomize, hrandomize⟩ : ∃ randomize, numbers.lookup "Randomize" = some randomize :=
    ⟨_, rfl⟩
  refine ⟨rnd, randomize, hrnd, hrandomize, by with_unfolding_all rfl, ?_⟩
  rw [trace_minusInfinity hrnd hrandomize, trace_minusInfinity hrnd hrandomize]
  intro h
  simp only [List.cons.injEq, Except.ok.injEq, Value.float.injEq, true_and, and_true] at h
  exact absurd (congrArg Float.toBits h) (by with_unfolding_all decide)

end ScriptHost.RandomFunction
