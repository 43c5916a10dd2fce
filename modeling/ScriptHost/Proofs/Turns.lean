import Mathlib.Data.List.TakeWhile
import Mathlib.Logic.Relation
import ScriptHost.Proofs.Mirror
import ScriptHost.Script.Library

/-!
# A run as a sequence of turns

A run of a script is a sequence of turns, each of which deals with the first of the lines that are
left: it passes over it, or executes it and goes on after the lines that it keeps from being
executed, or goes on with the next line after an error, or ends the run. What holds of whole runs is
proved by following the turns.

A turn looks at the lines after its own only to find the end of a conditional that spans lines. So
the way to a position depends on the lines up to there alone (`Reaches.exists_seen`), unless the end
of a conditional was looked for in vain, and then nothing is left to be executed.
-/

namespace ScriptHost.Script

open ScriptHost.Number ScriptHost.Text

/-! ### Line numbers -/

/-- A session with another line number. -/
def reline (f : Nat → Nat) (s : Session) : Session :=
  { s with line := f s.line }

/-- No expression sees the line number, and no assignment changes it. -/
lemma unseen_reline (f : Nat → Nat) : Unseen (reline f) :=
  ⟨fun _ => ⟨rfl, rfl⟩, fun _ _ _ => rfl⟩

section Confined

variable {lib : Library} (hlib : lib.evaluator.Confined)

include hlib

/-- Executing a line does not depend on the line number. -/
lemma executeLine_reline (line : List Char) (f : Nat → Nat) :
    Mirrors (reline f) (executeLine lib line) (executeLine lib line) :=
  (Interchangeable.within hlib (unseen_reline f).alike lib.lines).executeLine_mirrors
    (unseen_reline f) (fun _ _ => rfl) trivial

/-- Executing a line does not change the line number. -/
lemma line_executeLine (line : List Char) (scene : Scene) :
    ((executeLine lib line).take scene).2.session.line = scene.session.line := by
  have h := executeLine_reline hlib line (fun _ => scene.session.line) scene
  have hsame : scene.onSession (reline fun _ => scene.session.line) = scene := rfl
  rw [hsame] at h
  exact congrArg (fun r => r.2.session.line) h

end Confined

/-- A scene whose session is at the line of a number. -/
def Scene.atLine (n : Nat) (scene : Scene) : Scene :=
  scene.onSession (reline fun _ => n)

/-- A scene whose session is so many lines further on. -/
def Scene.later (k : Nat) (scene : Scene) : Scene :=
  scene.onSession (reline (· + k))

/-! ### Lines of a script -/

/-- Removing the blanks around a text that goes on from a stripped one leaves all of the latter. -/
lemma exists_strip_append {line x : List Char} (hline : strip line = line) (hne : line ≠ []) :
    ∃ y, y <+: x ∧ strip (line ++ x) = line ++ y := by
  have hleft (x : List Char) : stripLeft (line ++ x) = line ++ x := by
    obtain ⟨c, rest, rfl⟩ := List.exists_cons_of_ne_nil hne
    cases hc : isBlank c with
    | false => simp [stripLeft, hc]
    | true =>
      have hshort := congrArg List.length hline
      have hle := length_strip_le rest
      rw [strip_cons_of_isBlank hc, List.length_cons] at hshort
      omega
  have hkept : stripRight line = line := by
    have hwhole := hleft []
    rw [List.append_nil] at hwhole
    rwa [strip, hwhole] at hline
  refine ⟨stripRight x, ?_, ?_⟩
  · simpa [stripRight] using List.reverse_prefix.2 (List.dropWhile_suffix (l := x.reverse) isBlank)
  · rw [strip, hleft]
    unfold stripRight at hkept ⊢
    rw [List.reverse_append, List.dropWhile_append]
    split
    · next hblank => simp [List.isEmpty_iff.1 hblank, hkept]
    · simp

/-- What executing a line does, whatever lines come after it. -/
def attempt (lib : Library) (l : List Char) : Step Unit :=
  executeAt lib (strip l) []

/-- Of a block only the first line is executed. -/
lemma executeAt_eq_attempt (lib : Library) (l : List Char) (more : List (List Char)) :
    executeAt lib (strip l) more = attempt lib l := by
  unfold attempt executeAt
  split
  · next hhead =>
    have hne : strip l ≠ [] := by
      intro hempty
      rw [hempty] at hhead
      exact absurd hhead (by decide)
    have hfirst (more : List (List Char)) :
        (strip (blockFrom (strip l) more)).takeWhile (· != '\n') =
          (strip l).takeWhile (· != '\n') := by
      unfold blockFrom
      cases more.take (skipped (strip l) more) with
      | nil => rw [join, strip_strip]
      | cons m ms =>
        obtain ⟨y, hy, hblock⟩ := exists_strip_append (x := ['\n'] ++ join ['\n'] (m :: ms))
          (strip_strip l) hne
        rw [join, List.append_assoc, hblock, List.takeWhile_append]
        split
        · next hwhole =>
          rw [(List.takeWhile_prefix _).eq_of_length hwhole]
          cases y with
          | nil => simp
          | cons c y =>
            obtain ⟨rfl, -⟩ := List.cons_prefix_cons.1 hy
            simp
        · rfl
    unfold executeBlock
    rw [hfirst, hfirst]
  · rfl

/-- A line without line breaks is executed as it is. -/
lemma attempt_of_notMem (lib : Library) {l : List Char} (h : '\n' ∉ l) :
    attempt lib l = executeLine lib (strip l) := by
  unfold attempt executeAt
  split
  · have hall : ∀ c ∈ strip l, (c != '\n') = true := fun c hc =>
      bne_iff_ne.2 fun hbreak => h (hbreak ▸ (strip_isInfix l).subset hc)
    rw [executeBlock, blockFrom, List.take_nil, join, strip_strip,
      List.takeWhile_eq_self_iff.2 hall, strip_strip]
  · rfl
/-- What is executed for a line is a piece of it. -/
lemma exists_attempt_eq (l : List Char) :
    ∃ line, line <:+: l ∧ ∀ lib, attempt lib l = executeLine lib line := by
  by_cases hhead : isHead (strip l)
  · refine ⟨strip ((strip (blockFrom (strip l) [])).takeWhile (· != '\n')), ?_, fun lib => ?_⟩
    · rw [blockFrom, List.take_nil, join, strip_strip]
      exact (strip_isInfix _).trans ((List.takeWhile_prefix _).isInfix.trans (strip_isInfix l))
    · rw [attempt, executeAt, if_pos hhead, executeBlock]
  · exact ⟨strip l, strip_isInfix l, fun lib => by rw [attempt, executeAt, if_neg hhead]⟩

/-! ### Turns -/

/-- Where a run stands: at the line of a number, with that line and those after it still to be dealt
with. -/
structure Position where
  number : Nat
  rest : List (List Char)
  scene : Scene

/-- What a run does with the line it is at. -/
inductive Turn where
  /-- There is no line. -/
  | done
  | onward (next : Position)
  /-- The run stops at an error, which is reported. -/
  | halt (e : Fault) (last : Scene)
  /-- The run is left. -/
  | leave (e : Fault) (last : Scene)

/-- The turn of a run at a position. -/
def turn (lib : Library) (p : Position) : Turn :=
  match p.rest with
  | [] => .done
  | l :: more =>
    if isIdle (strip l) then .onward ⟨p.number + 1, more, p.scene.atLine p.number⟩
    else
      match (attempt lib l).take (p.scene.atLine p.number) with
      | (.ok (), after) =>
        .onward ⟨p.number + 1 + skipped (strip l) more, more.drop (skipped (strip l) more), after⟩
      | (.error e, after) =>
        if e.isExit then .leave e after
        else if after.session.resume then .onward ⟨p.number + 1, more, after⟩
        else .halt e after

/-- The report of an error in a line, with the line break after it. -/
def errorLine (number : Nat) (e : Fault) : String :=
  "第" ++ String.ofList (natDigits number) ++ "行错误: " ++ e.message ++ "\n"

/-- What comes of a run from a position on. -/
def play (lib : Library) (p : Position) : Except Fault Unit × Scene :=
  (runLines lib p.number p.rest).take p.scene

lemma take_report (number : Nat) (e : Fault) (scene : Scene) :
    (report number e).take scene = (.ok (), scene.printing (errorLine number e)) := by
  unfold report
  rw [Step.take_act]
  rfl

/-- A run takes its turn and goes on from where that leads. -/
lemma play_eq_turn (lib : Library) (p : Position) :
    play lib p =
      match turn lib p with
      | .done => (.ok (), p.scene)
      | .onward q => play lib q
      | .halt e last => (.ok (), last.printing (errorLine p.number e))
      | .leave e last => (.error e, last) := by
  obtain ⟨number, rest, scene⟩ := p
  cases rest with
  | nil =>
    unfold play turn
    rw [runLines]
    rfl
  | cons l more =>
    unfold play turn
    rw [runLines, Step.take_bind, Step.take_modifySession]
    dsimp only
    change (if isIdle (strip l) then runLines lib (number + 1) more else _ : Step Unit).take
      (scene.atLine number) = _
    split
    · rfl
    · rw [Step.take_bind, Step.take_recover, Step.take_bind, executeAt_eq_attempt]
      rcases (attempt lib l).take (scene.atLine number) with ⟨e | _, after⟩
      · dsimp only
        cases hexit : e.isExit with
        | true => rfl
        | false =>
          cases hresume : after.session.resume with
          | true => simp [Step.take_bind, hresume]
          | false => simp [Step.take_bind, hresume, take_report]
      · rfl

/-! ### Where a turn leads -/

section Onward

variable {lib : Library} {p q : Position}

variable {n : Nat} {l : List Char} {more : List (List Char)} {scene after : Scene} {e : Fault}

lemma turn_idle (hidle : isIdle (strip l) = true) :
    turn lib ⟨n, l :: more, scene⟩ = .onward ⟨n + 1, more, scene.atLine n⟩ := by
  simp [turn, hidle]

lemma turn_ok (hidle : isIdle (strip l) = false)
    (h : (attempt lib l).take (scene.atLine n) = (.ok (), after)) :
    turn lib ⟨n, l :: more, scene⟩ =
      .onward ⟨n + 1 + skipped (strip l) more, more.drop (skipped (strip l) more), after⟩ := by
  simp [turn, hidle, h]

lemma turn_error (hidle : isIdle (strip l) = false)
    (h : (attempt lib l).take (scene.atLine n) = (.error e, after)) :
    turn lib ⟨n, l :: more, scene⟩ =
      if e.isExit then .leave e after
      else if after.session.resume then .onward ⟨n + 1, more, after⟩ else .halt e after := by
  simp [turn, hidle, h]

/-- The scene after a line has been dealt with. -/
def sceneAfter (lib : Library) (n : Nat) (l : List Char) (scene : Scene) : Scene :=
  if isIdle (strip l) then scene.atLine n else ((attempt lib l).take (scene.atLine n)).2

/-- What a turn can do with a line: go on with the next line, go on after the lines that its own
line keeps from being executed, stop at an error, or leave. Which of these it does is settled by the
line and not by the lines after it. -/
lemma turn_cons_cases (lib : Library) (n : Nat) (l : List Char) (scene : Scene) :
    (∀ more, turn lib ⟨n, l :: more, scene⟩ =
      .onward ⟨n + 1, more, sceneAfter lib n l scene⟩) ∨
    (∀ more, turn lib ⟨n, l :: more, scene⟩ =
      .onward ⟨n + 1 + skipped (strip l) more, more.drop (skipped (strip l) more),
        sceneAfter lib n l scene⟩) ∨
    (∃ e after, isIdle (strip l) = false ∧
      (attempt lib l).take (scene.atLine n) = (.error e, after) ∧
      e.isExit = false ∧ after.session.resume = false ∧
      ∀ more, turn lib ⟨n, l :: more, scene⟩ = .halt e after) ∨
    (∃ e after, isIdle (strip l) = false ∧
      (attempt lib l).take (scene.atLine n) = (.error e, after) ∧
      e.isExit = true ∧ ∀ more, turn lib ⟨n, l :: more, scene⟩ = .leave e after) := by
  cases hidle : isIdle (strip l) with
  | true => exact .inl fun _ => by rw [turn_idle hidle, sceneAfter, hidle]; rfl
  | false =>
    rcases hrun : (attempt lib l).take (scene.atLine n) with ⟨e | _, after⟩
    · have hturn (more : List (List Char)) : turn lib ⟨n, l :: more, scene⟩ = _ :=
        turn_error hidle hrun
      have hafter : sceneAfter lib n l scene = after := by simp [sceneAfter, hidle, hrun]
      cases hexit : e.isExit with
      | true =>
        exact .inr (.inr (.inr ⟨e, after, rfl, rfl, hexit, fun more => by rw [hturn, hexit]; rfl⟩))
      | false =>
        cases hresume : after.session.resume with
        | true => exact .inl fun more => by rw [hturn, hexit, hresume, hafter]; rfl
        | false =>
          exact .inr (.inr (.inl ⟨e, after, rfl, rfl, hexit, hresume, fun more => by
            rw [hturn, hexit, hresume]; rfl⟩))
    · have hafter : sceneAfter lib n l scene = after := by simp [sceneAfter, hidle, hrun]
      exact .inr (.inl fun _ => by rw [turn_ok hidle hrun, hafter])

/-- A turn that goes on leads to the next line whatever that is, or past the lines that its own line
keeps from being executed. -/
lemma turn_eq_onward (h : turn lib p = .onward q) :
    ∃ l more, p.rest = l :: more ∧ q.scene = sceneAfter lib p.number l p.scene ∧
      ((q.number = p.number + 1 ∧ q.rest = more ∧
          ∀ more', turn lib { p with rest := l :: more' } = .onward { q with rest := more' }) ∨
        (q.number = p.number + 1 + skipped (strip l) more ∧
          q.rest = more.drop (skipped (strip l) more) ∧
          ∀ more', turn lib { p with rest := l :: more' } =
            .onward ⟨p.number + 1 + skipped (strip l) more', more'.drop (skipped (strip l) more'),
              q.scene⟩)) := by
  obtain ⟨n, rest, scene⟩ := p
  cases rest with
  | nil => simp [turn] at h
  | cons l more =>
    refine ⟨l, more, rfl, ?_⟩
    rcases turn_cons_cases lib n l scene with hturn | hturn | ⟨_, _, _, _, _, _, hturn⟩ |
      ⟨_, _, _, _, _, hturn⟩
    · obtain rfl := Turn.onward.inj ((hturn more).symm.trans h)
      exact ⟨rfl, .inl ⟨rfl, rfl, hturn⟩⟩
    · obtain rfl := Turn.onward.inj ((hturn more).symm.trans h)
      exact ⟨rfl, .inr ⟨rfl, rfl, hturn⟩⟩
    · simp [hturn] at h
    · simp [hturn] at h

/-- A run stops at an error in the line that it is at, whatever comes after that line. -/
lemma turn_eq_halt (h : turn lib p = .halt e after) :
    ∃ l more, p.rest = l :: more ∧ isIdle (strip l) = false ∧
      (attempt lib l).take (p.scene.atLine p.number) = (.error e, after) ∧
      e.isExit = false ∧ after.session.resume = false ∧
      ∀ more', turn lib { p with rest := l :: more' } = .halt e after := by
  obtain ⟨n, rest, scene⟩ := p
  cases rest with
  | nil => simp [turn] at h
  | cons l more =>
    refine ⟨l, more, rfl, ?_⟩
    rcases turn_cons_cases lib n l scene with hturn | hturn |
      ⟨_, _, hidle, hrun, hexit, hresume, hturn⟩ | ⟨_, _, _, _, _, hturn⟩
    · simp [hturn] at h
    · simp [hturn] at h
    · obtain ⟨rfl, rfl⟩ := Turn.halt.inj ((hturn more).symm.trans h)
      exact ⟨hidle, hrun, hexit, hresume, hturn⟩
    · simp [hturn] at h

/-- The line number after an error that stops a run is the one of the line with the error. -/
lemma line_of_halt (hlib : lib.evaluator.Confined) (h : turn lib p = .halt e after) :
    after.session.line = p.number := by
  obtain ⟨l, more, _, _, hrun, _⟩ := turn_eq_halt h
  obtain ⟨line, -, hattempt⟩ := exists_attempt_eq l
  have hline := line_executeLine hlib line (p.scene.atLine p.number)
  rw [← hattempt, hrun] at hline
  exact hline

/-- A run comes to its end only if no lines are left. -/
lemma rest_of_done (h : turn lib p = .done) : p.rest = [] := by
  obtain ⟨n, rest, scene⟩ := p
  cases rest with
  | nil => rfl
  | cons l more =>
    rcases turn_cons_cases lib n l scene with hturn | hturn | ⟨_, _, _, _, _, _, hturn⟩ |
      ⟨_, _, _, _, _, hturn⟩ <;> simp [hturn] at h

/-- A run is left in the line that it is at, and only by a fault that is meant for that. -/
lemma turn_eq_leave (h : turn lib p = .leave e after) :
    ∃ l more, p.rest = l :: more ∧ isIdle (strip l) = false ∧
      (attempt lib l).take (p.scene.atLine p.number) = (.error e, after) ∧
      e.isExit = true := by
  obtain ⟨n, rest, scene⟩ := p
  cases rest with
  | nil => simp [turn] at h
  | cons l more =>
    rcases turn_cons_cases lib n l scene with hturn | hturn | ⟨_, _, _, _, _, _, hturn⟩ |
      ⟨_, _, hidle, hrun, hexit, hturn⟩
    · simp [hturn] at h
    · simp [hturn] at h
    · simp [hturn] at h
    · obtain ⟨rfl, rfl⟩ := Turn.leave.inj ((hturn more).symm.trans h)
      exact ⟨l, more, rfl, hidle, hrun, hexit⟩

/-- The number after the last line. -/
def Position.stop (p : Position) : Nat :=
  p.number + p.rest.length

/-- Going on never goes back. -/
lemma stop_le_of_turn (h : turn lib p = .onward q) : p.stop ≤ q.stop := by
  obtain ⟨l, more, hp, _, ⟨hnumber, hrest, _⟩ | ⟨hnumber, hrest, _⟩⟩ := turn_eq_onward h <;>
  · simp only [Position.stop, hp, hnumber, hrest, List.length_cons, List.length_drop]
    omega

/-- Going on uses up lines. -/
lemma length_lt_of_turn (h : turn lib p = .onward q) : q.rest.length < p.rest.length := by
  obtain ⟨l, more, hp, _, ⟨_, hrest, _⟩ | ⟨_, hrest, _⟩⟩ := turn_eq_onward h <;>
  · simp only [hp, hrest, List.length_cons, List.length_drop]
    omega

/-- The lines up to the end of a conditional are found again if the lines after it change. -/
lemma skipped_take_append (line : List Char) {more : List (List Char)}
    (h : skipped line more ≤ more.length) (rest : List (List Char)) :
    skipped line (more.take (skipped line more) ++ rest) = skipped line more := by
  unfold skipped at h ⊢
  split at h
  · next hhead =>
    simp only [hhead, if_true, Nat.add_right_cancel_iff]
    -- The line that ends the conditional is among those kept.
    induction more with
    | nil => simp at h
    | cons l more ih =>
      by_cases hl : isTail l
      · simp [hl]
      · simp only [hl, List.takeWhile_cons, Bool.not_false, if_true, List.length_cons,
          List.take_succ_cons, List.cons_append] at h ⊢
        rw [ih (by omega)]
  · next hhead => simp [hhead]

/-- A turn depends only on the lines that it uses up, if it does not look for the end of a
conditional in vain. -/
lemma turn_local (h : turn lib p = .onward q) (hstop : p.stop = q.stop) :
    ∃ seen, p.rest = seen ++ q.rest ∧
      ∀ rest, turn lib { p with rest := seen ++ rest } = .onward { q with rest := rest } := by
  obtain ⟨l, more, hp, _, ⟨_, hrest, hturn⟩ | ⟨hnumber, hrest, hturn⟩⟩ := turn_eq_onward h
  · exact ⟨[l], by simp [hp, hrest], hturn⟩
  · have hle : skipped (strip l) more ≤ more.length := by
      simp only [Position.stop, hp, hnumber, hrest, List.length_cons, List.length_drop] at hstop
      omega
    refine ⟨l :: more.take (skipped (strip l) more), by simp [hp, hrest], fun rest => ?_⟩
    rw [List.cons_append, hturn, skipped_take_append _ hle, hnumber, List.drop_left']
    simp [hle]

end Onward

/-! ### Runs -/

/-- The start of a run. -/
def start (scene : Scene) (code : List Char) : Position :=
  ⟨1, lines code, scene⟩

/-- A run from the position `p` comes to the position `q`. -/
def Reaches (lib : Library) : Position → Position → Prop :=
  Relation.ReflTransGen fun p q => turn lib p = .onward q

namespace Reaches

variable {lib : Library} {p q : Position}

/-- What comes of a run is settled by every position that it reaches. -/
lemma play_eq (h : Reaches lib p q) : play lib p = play lib q := by
  induction h with
  | refl => rfl
  | tail _ hturn ih => rw [ih, play_eq_turn, hturn]

lemma stop_le (h : Reaches lib p q) : p.stop ≤ q.stop := by
  induction h with
  | refl => exact Nat.le_refl _
  | tail _ hturn ih => exact Nat.le_trans ih (stop_le_of_turn hturn)

/-- The way to a position depends only on the lines up to there, if no end of a conditional was
looked for in vain. -/
theorem exists_seen (h : Reaches lib p q) (hstop : p.stop = q.stop) :
    ∃ seen, p.rest = seen ++ q.rest ∧
      ∀ rest, Reaches lib { p with rest := seen ++ rest } { q with rest := rest } := by
  induction h with
  | refl => exact ⟨[], rfl, fun _ => .refl⟩
  | tail hreach hturn ih =>
    have hle := stop_le hreach
    have hle' := stop_le_of_turn hturn
    obtain ⟨seen, hp, hseen⟩ := ih (by omega)
    obtain ⟨more, hr, hmore⟩ := turn_local hturn (by omega)
    refine ⟨seen ++ more, by rw [hp, hr, List.append_assoc], fun rest => ?_⟩
    rw [List.append_assoc]
    exact (hseen (more ++ rest)).tail (hmore rest)

/-- If lines are left, then no end of a conditional was looked for in vain. -/
lemma stop_eq_of_ne_nil (h : Reaches lib p q) (hq : q.rest ≠ []) : p.stop = q.stop := by
  induction h with
  | refl => rfl
  | tail hreach hturn ih =>
    obtain ⟨l, more, hr, _, hcases⟩ := turn_eq_onward hturn
    rw [ih (by simp [hr])]
    rcases hcases with ⟨hnumber, hrest, _⟩ | ⟨hnumber, hrest, _⟩
    · simp only [Position.stop, hr, hnumber, hrest, List.length_cons]
      omega
    · have hpos := List.length_pos_iff.2 hq
      simp only [Position.stop, hr, hnumber, hrest, List.length_cons, List.length_drop] at hpos ⊢
      omega

/-- The lines that are left are the last ones of those that were left before. -/
lemma rest_suffix (h : Reaches lib p q) : q.rest <:+ p.rest := by
  induction h with
  | refl => exact List.suffix_rfl
  | tail _ hturn ih =>
    obtain ⟨l, more, hr, _, ⟨_, hrest, _⟩ | ⟨_, hrest, _⟩⟩ := turn_eq_onward hturn
    · rw [hr] at ih
      rw [hrest]
      exact (List.suffix_cons l more).trans ih
    · rw [hr] at ih
      rw [hrest]
      exact (List.drop_suffix _ _).trans ((List.suffix_cons l more).trans ih)

/-- Every run comes to a position from which it does not go on. -/
theorem exists_last (lib : Library) (p : Position) :
    ∃ q, Reaches lib p q ∧ ∀ r, turn lib q ≠ .onward r := by
  -- By induction on the number of lines: every turn that goes on uses up lines.
  induction hlen : p.rest.length using Nat.strongRecOn generalizing p with
  | ind n ih =>
    by_cases h : ∃ r, turn lib p = .onward r
    · obtain ⟨r, hr⟩ := h
      obtain ⟨q, hq, hlast⟩ := ih r.rest.length (hlen ▸ length_lt_of_turn hr) r rfl
      exact ⟨q, .head hr hq, hlast⟩
    · exact ⟨p, .refl, fun r hr => h ⟨r, hr⟩⟩

end Reaches

/-- A line has no line breaks in it. -/
lemma newline_notMem_of_mem_lines {cs line : List Char} (h : line ∈ lines cs) : '\n' ∉ line := by
  induction cs generalizing line with
  | nil =>
    obtain rfl := List.mem_singleton.1 h
    simp
  | cons c cs ih =>
    unfold lines at h ih
    rw [List.splitOn_cons_eq_if_modifyHead] at h
    split at h
    · rcases List.mem_cons.1 h with rfl | h
      · simp
      · exact ih h
    · next hc =>
      cases hcs : cs.splitOn '\n' with
      | nil => exact absurd hcs (List.splitOn_ne_nil _ _)
      | cons first others =>
        rw [hcs] at h ih
        rcases List.mem_cons.1 h with rfl | h
        · have hfirst : '\n' ∉ first := ih List.mem_cons_self
          simp only [beq_iff_eq] at hc
          simp [hfirst, Ne.symm hc]
        · exact ih (List.mem_cons_of_mem _ h)

/-- The lines of a script are executed as they are. -/
lemma attempt_of_reaches {lib lib' : Library} {scene : Scene} {code l : List Char}
    {more : List (List Char)} {q : Position} (h : Reaches lib (start scene code) q)
    (hrest : q.rest = l :: more) : attempt lib' l = executeLine lib' (strip l) := by
  have hmem : l ∈ lines code := h.rest_suffix.subset (by simp [hrest])
  exact attempt_of_notMem lib' (newline_notMem_of_mem_lines hmem)

/-! ### Runs with interchangeable libraries -/

namespace Interchangeable

variable {lib lib' : Library} {P : List Char → Prop} {p q : Position}

/-- Lines of the class are executed alike. -/
lemma attempt_eq (h : Interchangeable id lib lib' P) {l : List Char} (hl : P l) :
    attempt lib l = attempt lib' l := by
  have hid : Unseen id := ⟨.refl, fun _ _ _ => rfl⟩
  obtain ⟨line, hpiece, hattempt⟩ := exists_attempt_eq l
  rw [hattempt, hattempt]
  refine Step.ext fun scene => ?_
  exact (h.executeLine_mirrors hid (fun _ _ => rfl) (h.infix_closed hpiece hl) scene).symm

/-- At lines of the class the same turns are taken. -/
lemma turn_eq (h : Interchangeable id lib lib' P) (hp : ∀ l ∈ p.rest, P l) :
    turn lib p = turn lib' p := by
  unfold turn
  split
  · rfl
  · next l more hrest => rw [h.attempt_eq (hp l (by simp [hrest]))]

/-- The same positions are reached. -/
lemma reaches (h : Interchangeable id lib lib' P) (hreach : Reaches lib p q)
    (hp : ∀ l ∈ p.rest, P l) : Reaches lib' p q := by
  induction hreach with
  | refl => exact .refl
  | tail hbefore hturn ih =>
    have hrest := fun l hl => hp l (Reaches.rest_suffix hbefore |>.subset hl)
    exact ih.tail ((h.turn_eq hrest).symm.trans hturn)

/-- Runs through lines of the class come to the same with interchangeable libraries. -/
theorem play_eq (h : Interchangeable id lib lib' P) (hp : ∀ l ∈ p.rest, P l) :
    play lib p = play lib' p := by
  obtain ⟨q, hreach, hlast⟩ := Reaches.exists_last lib p
  have hq := fun l hl => hp l (hreach.rest_suffix.subset hl)
  rw [hreach.play_eq, Reaches.play_eq (h.reaches hreach hp), play_eq_turn, play_eq_turn lib',
    ← h.turn_eq hq]
  cases hturn : turn lib q with
  | onward r => exact absurd hturn (hlast r)
  | done => rfl
  | halt e last => rfl
  | leave e last => rfl

end Interchangeable

/-- With a confined evaluator a script is run as its lines are. -/
lemma take_run {lib : Library} (hlib : lib.evaluator.Confined) (code : List Char) (scene : Scene) :
    (run lib code).take scene = play lib (start scene code) :=
  ((Interchangeable.within hlib .refl (lines code)).play_eq (p := start scene code)
    fun _ _ => trivial).symm

/-! ### A library and a scene to start from -/

/-- Formulas in the scripts of a dialect are confined to their scope. -/
lemma confined_library (d : Dialect) : (library d).evaluator.Confined :=
  Evaluator.confined_formulaEvaluator

/-- A scene in which nothing has happened yet, with an empty folder to work in. -/
def firstScene : Scene where
  session := freshSession
  world :=
    { dialect := .capital
      clock := .ofDate .first
      disk := ⟨.folder [], []⟩
      environment := []
      replies := []
      display := true
      input := []
      registry := none
      random := Random.seed 0
      lastRandom := 0
      objects := #[⟨.host {}, []⟩]
      output := ""
      warnings := ""
      effects := #[] }

end ScriptHost.Script
