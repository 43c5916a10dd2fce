import Mathlib.Data.List.Forall2
import ScriptHost.Proofs.Turns
import ScriptHost.Proofs.Writes

/-!
# The moments of a run

A line comes to a plain statement, after the conditions before it, and a plain statement has parts.
So a run has moments, between its parts, and at each of them the writes made so far are known: the
trail of the run.

At every moment of a run the variables are what these writes have made of the variables at its
start, and the last moment is the end of the run: `leads_trail`.
-/

namespace ScriptHost.Script

open ScriptHost.Text

/-! ### The statement that a line comes to -/

/-- The plain statement that executing a line comes to, with its kind, if it comes to one. The
conditions before it are evaluated on the way. -/
def resolve (lib : Library) (line : List Char) : Step (Option (StatementKind × List Char)) := do
  let scene ← get
  let kind := kindOf lib.dialect (prepare scene.session line)
  if kind == .conditional then
    match _h : Shape.conditional (prepare scene.session line) with
    | none => return none
    | some c =>
      let v ← evaluate lib c.condition
      match _hpick : c.pick v.truthy with
      | some statement => resolve lib statement
      | none => return none
  else return some (kind, prepare scene.session line)
termination_by line.length
decreasing_by
  have hlt := (Shape.infix_of_pick _h _hpick).2
  have hle := length_prepare_le scene.session line
  omega

/-- The parts of the statement that a line comes to. -/
def partsOf (lib : Library) : Option (StatementKind × List Char) → List (Step (List Write))
  | some (kind, line) => parts lib kind line
  | none => []

/-- A conditional comes to what its picked statement comes to. -/
def resolveConditional (lib : Library) (line : List Char) :
    Step (Option (StatementKind × List Char)) := do
  match Shape.conditional line with
  | none => return none
  | some c =>
    let v ← evaluate lib c.condition
    match c.pick v.truthy with
    | some statement => resolve lib statement
    | none => return none

/-- Every statement but a conditional comes to itself. -/
lemma take_resolve (lib : Library) (line : List Char) (scene : Scene) :
    (resolve lib line).take scene =
      if kindOf lib.dialect (prepare scene.session line) = .conditional then
        (resolveConditional lib (prepare scene.session line)).take scene
      else
        (.ok (some (kindOf lib.dialect (prepare scene.session line), prepare scene.session line)),
          scene) := by
  rw [resolve, resolveConditional, Step.take_bind, Step.take_get]
  dsimp only
  simp only [beq_iff_eq]
  split
  · cases Shape.conditional (prepare scene.session line) with
    | none => rfl
    | some c =>
      refine congrArg (fun f => Step.take (evaluate lib c.condition >>= f) scene) ?_
      funext v
      cases c.pick v.truthy <;> rfl
  · rfl

/-- Executing a line executes the statement that it comes to. -/
theorem executeLine_eq_resolve (lib : Library) (line : List Char) :
    executeLine lib line = resolve lib line >>= fun r => executeParts (partsOf lib r) := by
  refine Step.ext fun scene => ?_
  -- By induction on the line, since the statement in a conditional is executed like a line.
  induction line using executeLine.induct generalizing scene with
  | case1 line ih =>
    rw [take_executeLine, Step.take_bind, take_resolve]
    split
    · rw [executeConditional, resolveConditional, ← Step.take_bind]
      cases hc : Shape.conditional (prepare scene.session line) with
      | none => rfl
      | some c =>
        rw [bind_assoc, Step.take_bind, Step.take_bind]
        rcases (evaluate lib c.condition).take scene with ⟨e | v, after⟩
        · rfl
        · dsimp only
          cases hpick : c.pick v.truthy with
          | none => rfl
          | some statement => exact ih scene c hc v statement hpick after
    · rw [executePlain_eq_executeParts]
      rfl

/-- Finding the statement that a line comes to writes nothing. -/
lemma resolve_still {lib : Library} (hlib : lib.evaluator.WritesNothing) (line : List Char) :
    Still (resolve lib line) := by
  intro scene
  induction line using executeLine.induct generalizing scene with
  | case1 line ih =>
    rw [take_resolve]
    split
    · rw [resolveConditional]
      cases hc : Shape.conditional (prepare scene.session line) with
      | none => exact .refl scene.session
      | some c =>
        refine (evaluate_keeps hlib c.condition).bind (fun v => ?_) scene
        cases hpick : c.pick v.truthy with
        | none => exact .pure none
        | some statement => exact ih scene c hc v statement hpick
    · exact .refl scene.session

/-! ### Moments -/

/-- A moment of a run: the writes made so far, and the scene. -/
structure Moment where
  writes : List Write
  scene : Scene

/-- A moment that comes after other writes. -/
def Moment.after (ws : List Write) (m : Moment) : Moment :=
  { m with writes := ws ++ m.writes }

/-- The moments of the parts of a statement: before each part, and at the end. -/
def partsTrail : List (Step (List Write)) → Scene → List Moment
  | [], scene => [⟨[], scene⟩]
  | p :: ps, scene =>
    ⟨[], scene⟩ ::
      match p.take scene with
      | (.ok ws, after) =>
        (partsTrail ps (after.onSession fun s => written s ws)).map (Moment.after ws)
      | (.error _, after) => [⟨[], after⟩]

/-- The moments of a line. -/
def lineTrail (lib : Library) (line : List Char) (scene : Scene) : List Moment :=
  match (resolve lib line).take scene with
  | (.ok r, after) => partsTrail (partsOf lib r) after
  | (.error _, after) => [⟨[], after⟩]

/-- The moments of a turn. -/
def turnTrail (lib : Library) (p : Position) : List Moment :=
  match p.rest with
  | [] => [⟨[], p.scene⟩]
  | l :: _ =>
    if isIdle (strip l) then [⟨[], p.scene.atLine p.number⟩]
    else lineTrail lib (strip l) (p.scene.atLine p.number)

/-- All the writes made by the end of some moments. -/
def allWrites (ms : List Moment) : List Write :=
  (ms.getLast?.map Moment.writes).getD []

/-- The moments of a run from a position on. -/
def trail (lib : Library) (p : Position) : List Moment :=
  match _h : turn lib p with
  | .onward q =>
    turnTrail lib p ++ (trail lib q).map (Moment.after (allWrites (turnTrail lib p)))
  | _ => turnTrail lib p
termination_by p.rest.length
decreasing_by exact length_lt_of_turn _h

lemma trail_of_onward {lib : Library} {p q : Position} (h : turn lib p = .onward q) :
    trail lib p =
      turnTrail lib p ++ (trail lib q).map (Moment.after (allWrites (turnTrail lib p))) := by
  rw [trail]
  split
  · next r hr =>
    rw [h] at hr
    obtain rfl := Turn.onward.inj hr
    rfl
  · next hlast => exact absurd h (hlast q)

/-! ### The variables at a moment -/

lemma Alike.written {s t : Session} (h : Alike s t) (ws : List Write) :
    Alike (written s ws) (written t ws) := by
  induction ws generalizing s t with
  | nil => exact h
  | cons w ws ih =>
    have hassign : Alike (assign s w.name w.value) (assign t w.name w.value) :=
      ⟨by simp only [assign, h.variables_eq], h.constants_eq⟩
    exact ih hassign

/-- Moments on the way from a session to another one: at each of them the variables are what the
writes have made of those at the start. -/
structure Leads (ms : List Moment) (s t : Session) : Prop where
  alike : ∀ m ∈ ms, Alike (written s m.writes) m.scene.session
  last : ∃ m, ms.getLast? = some m ∧ m.scene.session = t

namespace Leads

variable {ms ms' : List Moment} {s t u : Session}

lemma single {scene : Scene} (h : Alike s scene.session) :
    Leads [⟨[], scene⟩] s scene.session where
  alike m hm := by
    rw [List.mem_singleton.1 hm]
    exact h
  last := ⟨_, rfl, rfl⟩

/-- What leads on from a session also leads on from before the writes that led there. -/
lemma shift {ws : List Write} (hws : Alike (written s ws) t) (h : Leads ms t u) :
    Leads (ms.map (Moment.after ws)) s u where
  alike m hm := by
    obtain ⟨m, hmem, rfl⟩ := List.mem_map.1 hm
    have hwritten : Alike (written s (ws ++ m.writes)) (written t m.writes) := by
      rw [written_append]
      exact hws.written m.writes
    exact hwritten.trans (h.alike m hmem)
  last := by
    obtain ⟨m, hlast, hm⟩ := h.last
    exact ⟨m.after ws, by rw [List.getLast?_map, hlast]; rfl, hm⟩

/-- Earlier moments may be put before moments that lead somewhere. -/
lemma prepend (hms : ∀ m ∈ ms, Alike (written s m.writes) m.scene.session)
    (h : Leads ms' s u) : Leads (ms ++ ms') s u where
  alike m hm := by
    rcases List.mem_append.1 hm with hm | hm
    · exact hms m hm
    · exact h.alike m hm
  last := by
    obtain ⟨m, hlast, hm⟩ := h.last
    exact ⟨m, by rw [List.getLast?_append, hlast]; rfl, hm⟩

/-- One way after another. -/
lemma append (h : Leads ms s t) (h' : Leads ms' t u) :
    Leads (ms ++ ms'.map (Moment.after (allWrites ms))) s u := by
  obtain ⟨m, hlast, rfl⟩ := h.last
  have hall : allWrites ms = m.writes := by
    unfold allWrites
    rw [hlast]
    rfl
  rw [hall]
  exact prepend h.alike (shift (h.alike m (List.mem_of_getLast? hlast)) h')

end Leads

/-- The parts of a statement lead to the session after it. -/
lemma leads_partsTrail {ps : List (Step (List Write))} (hps : ∀ p ∈ ps, Still p) (scene : Scene) :
    Leads (partsTrail ps scene) scene.session ((executeParts ps).take scene).2.session := by
  induction ps generalizing scene with
  | nil => exact .single (.refl scene.session)
  | cons p ps ih =>
    have hstart : ∀ m ∈ [(⟨[], scene⟩ : Moment)], Alike (written scene.session m.writes)
        m.scene.session := (Leads.single (.refl scene.session)).alike
    have hp := hps p List.mem_cons_self scene
    refine Leads.prepend hstart ?_
    rw [executeParts_cons, Step.take_bind]
    rcases htake : p.take scene with ⟨e | ws, after⟩ <;> rw [htake] at hp
    · exact .single hp
    · exact .shift (hp.written ws) (ih (fun q hq => hps q (List.mem_cons_of_mem p hq)) _)

/-- A line leads to the session after it. -/
lemma leads_lineTrail {lib : Library} (hlib : lib.evaluator.WritesNothing) (line : List Char)
    (scene : Scene) :
    Leads (lineTrail lib line scene) scene.session
      ((executeLine lib line).take scene).2.session := by
  have hresolve := resolve_still hlib line scene
  rw [executeLine_eq_resolve, Step.take_bind, lineTrail]
  rcases htake : (resolve lib line).take scene with ⟨e | r, after⟩ <;> rw [htake] at hresolve
  · exact .single hresolve
  · have hparts : ∀ p ∈ partsOf lib r, Still p := by
      intro p hp
      cases r with
      | none => simp [partsOf] at hp
      | some r => exact still_of_mem_parts hlib r.2 hp
    have hleads := leads_partsTrail hparts after
    exact ⟨fun m hm => (hresolve.written m.writes).trans (hleads.alike m hm), hleads.last⟩

/-- A turn leads to the session after its line. -/
lemma leads_turnTrail {lib : Library} (hlib : lib.evaluator.WritesNothing) {p : Position}
    {l : List Char} {more : List (List Char)} (hp : p.rest = l :: more) (hl : '\n' ∉ l) :
    Leads (turnTrail lib p) p.scene.session (sceneAfter lib p.number l p.scene).session := by
  rw [turnTrail, hp]
  dsimp only
  unfold sceneAfter
  split
  · exact .single ⟨rfl, rfl⟩
  · have hleads := leads_lineTrail hlib (strip l) (p.scene.atLine p.number)
    rw [← attempt_of_notMem lib hl] at hleads
    have hline : Alike p.scene.session (p.scene.atLine p.number).session := ⟨rfl, rfl⟩
    exact ⟨fun m hm => (hline.written m.writes).trans (hleads.alike m hm), hleads.last⟩

/-- A run that is stopped by an error ends in the scene after the line with the error. -/
lemma sceneAfter_of_halt {lib : Library} {p : Position} {e : Fault} {last : Scene}
    (h : turn lib p = .halt e last) :
    ∃ l more, p.rest = l :: more ∧ sceneAfter lib p.number l p.scene = last := by
  obtain ⟨l, more, hp, hidle, hrun, _⟩ := turn_eq_halt h
  exact ⟨l, more, hp, by simp [sceneAfter, hidle, hrun]⟩

/-- A run that is left ends in the scene after the line that leaves it. -/
lemma sceneAfter_of_leave {lib : Library} {p : Position} {e : Fault} {last : Scene}
    (h : turn lib p = .leave e last) :
    ∃ l more, p.rest = l :: more ∧ sceneAfter lib p.number l p.scene = last := by
  obtain ⟨l, more, hp, hidle, hrun, _⟩ := turn_eq_leave h
  exact ⟨l, more, hp, by simp [sceneAfter, hidle, hrun]⟩

/-- A run through single lines leads to its end. -/
theorem leads_trail {lib : Library} (hlib : lib.evaluator.WritesNothing) {p : Position}
    (hlines : ∀ l ∈ p.rest, '\n' ∉ l) :
    Leads (trail lib p) p.scene.session (play lib p).2.session := by
  fun_induction trail lib p with
  | case1 p q hturn ih =>
    obtain ⟨l, more, hp, hscene, _⟩ := turn_eq_onward hturn
    have hleads := leads_turnTrail hlib hp (hlines l (by simp [hp]))
    have hrest := (Reaches.rest_suffix (.single hturn)).subset
    rw [← hscene] at hleads
    rw [play_eq_turn, hturn]
    exact hleads.append (ih fun l' hl' => hlines l' (hrest hl'))
  | case2 p hlast =>
    rw [play_eq_turn]
    cases hturn : turn lib p with
    | done =>
      rw [turnTrail, rest_of_done hturn]
      exact .single (.refl p.scene.session)
    | onward q => exact absurd hturn (hlast q)
    | halt e last =>
      obtain ⟨l, more, hp, rfl⟩ := sceneAfter_of_halt hturn
      exact leads_turnTrail hlib hp (hlines l (by simp [hp]))
    | leave e last =>
      obtain ⟨l, more, hp, rfl⟩ := sceneAfter_of_leave hturn
      exact leads_turnTrail hlib hp (hlines l (by simp [hp]))

/-- The moments of the run of a script. -/
def runTrail (lib : Library) (scene : Scene) (code : List Char) : List Moment :=
  trail (lib.within (lines code)) (start scene code)

/-- The run of a script leads to its end. -/
theorem leads_runTrail {lib : Library} (hlib : lib.evaluator.WritesNothing) (scene : Scene)
    (code : List Char) :
    Leads (runTrail lib scene code) scene.session ((run lib code).take scene).2.session := by
  have hwithin : (lib.within (lines code)).evaluator.WritesNothing := hlib
  exact leads_trail (p := start scene code) hwithin fun _ hl => newline_notMem_of_mem_lines hl

/-! ### Scripts of assignments -/

/-- A line that is an assignment of a value which is the same in every session. -/
structure Assigns (lib : Library) (line : List Char) (w : Write) : Prop where
  stripped : strip line = line
  busy : isIdle line = false
  single : isHead line = false
  prepared : ∀ s, s.constants = true → prepare s line = line
  kind : kindOf lib.dialect line = .assignment
  equals : line.contains '=' = true
  name : strip (line.takeWhile (· != '=')) = w.name
  value : evaluate lib (strip ((line.dropWhile (· != '=')).drop 1)) = pure w.value

namespace Assigns

variable {lib : Library} {line : List Char} {w : Write} {scene : Scene}

lemma take_assignmentWrites (h : Assigns lib line w) (scene : Scene) :
    (assignmentWrites lib line).take scene = (.ok [w], scene) := by
  rw [assignmentWrites, if_pos h.equals, h.value, h.name]
  rfl

lemma take_resolve (h : Assigns lib line w) (hscene : scene.session.constants = true) :
    (resolve lib line).take scene = (.ok (some (.assignment, line)), scene) := by
  rw [Script.take_resolve, h.prepared _ hscene, h.kind, if_neg (by decide)]

/-- An assignment has two moments, before its write and after it. -/
lemma lineTrail_eq (h : Assigns lib line w) (hscene : scene.session.constants = true) :
    lineTrail lib line scene =
      [⟨[], scene⟩, ⟨[w], scene.onSession fun s => assign s w.name w.value⟩] := by
  rw [lineTrail, h.take_resolve hscene]
  dsimp only [partsOf, parts, partsTrail]
  rw [h.take_assignmentWrites]
  rfl

lemma take_executeLine (h : Assigns lib line w) (hscene : scene.session.constants = true) :
    (executeLine lib line).take scene =
      (.ok (), scene.onSession fun s => assign s w.name w.value) := by
  rw [executeLine_eq_resolve, Step.take_bind, h.take_resolve hscene]
  dsimp only [partsOf, parts]
  rw [executeParts_cons, Step.take_bind, h.take_assignmentWrites]
  rfl

lemma turnTrail_eq (h : Assigns lib line w) {n : Nat}
    (hscene : (scene.atLine n).session.constants = true) (more : List (List Char)) :
    turnTrail lib ⟨n, line :: more, scene⟩ =
      [⟨[], scene.atLine n⟩,
        ⟨[w], (scene.atLine n).onSession fun s => assign s w.name w.value⟩] := by
  rw [turnTrail]
  dsimp only
  rw [h.stripped, h.busy, if_neg (by decide), h.lineTrail_eq hscene]

lemma turn_eq (h : Assigns lib line w) {n : Nat}
    (hscene : (scene.atLine n).session.constants = true) (more : List (List Char)) :
    turn lib ⟨n, line :: more, scene⟩ =
      .onward ⟨n + 1, more, (scene.atLine n).onSession fun s => assign s w.name w.value⟩ := by
  have hskipped : skipped (strip line) more = 0 := by simp [skipped, h.stripped, h.single]
  have hattempt : attempt lib line = executeLine lib line := by
    rw [attempt, executeAt, h.stripped, h.single, if_neg (by decide)]
  rw [turn_ok (by rw [h.stripped, h.busy]) (by rw [hattempt]; exact h.take_executeLine hscene),
    hskipped]
  rfl

/-- A script of assignments makes these assignments one after the other. -/
theorem exists_mem_trail {ls : List (List Char)} {ws : List Write}
    (h : List.Forall₂ (Assigns lib) ls ws) (n : Nat) (scene : Scene)
    (hscene : scene.session.constants = true) :
    ∃ last, ⟨ws, last⟩ ∈ trail lib ⟨n, ls, scene⟩ := by
  induction h generalizing n scene with
  | nil =>
    refine ⟨scene, ?_⟩
    rw [trail]
    exact List.mem_singleton.2 rfl
  | @cons l w ls ws hl _ ih =>
    have hline : (scene.atLine n).session.constants = true := hscene
    obtain ⟨last, hlast⟩ :=
      ih (n + 1) ((scene.atLine n).onSession fun s => assign s w.name w.value) hline
    refine ⟨last, ?_⟩
    rw [trail_of_onward (hl.turn_eq hline ls), hl.turnTrail_eq hline ls]
    exact List.mem_append_right _ (List.mem_map.2 ⟨_, hlast, rfl⟩)

end Assigns

end ScriptHost.Script
