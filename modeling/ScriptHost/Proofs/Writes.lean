import ScriptHost.Proofs.Mirror

/-!
# What statements write

Declarations, settings, assignments and counting loops write variables, and no other statement does.
A plain statement is taken apart here into parts, each of which says what it writes before anything
is written: a declaration has a part for each of its names, every other statement is one part. A
counting loop writes every count, which leaves what writing the last one would leave.

A statement does what its parts do (`executePlain_eq_executeParts`), and the parts themselves leave
the variables alone (`still_of_mem_parts`).
-/

namespace ScriptHost.Script

open ScriptHost.Text

/-! ### Writes -/

/-- A value that is put into a variable. -/
structure Write where
  name : List Char
  value : Value

/-- A session after some writes, the first of them first. -/
def written (s : Session) (ws : List Write) : Session :=
  ws.foldl (fun s w => assign s w.name w.value) s

/-- Makes some writes. -/
def record (ws : List Write) : Step Unit :=
  Step.modifySession fun s => written s ws

@[simp] lemma written_nil (s : Session) : written s [] = s := rfl

@[simp] lemma written_cons (s : Session) (w : Write) (ws : List Write) :
    written s (w :: ws) = written (assign s w.name w.value) ws := rfl

/-- Writes are made in turn. -/
lemma written_append (s : Session) (ws ws' : List Write) :
    written s (ws ++ ws') = written (written s ws) ws' :=
  List.foldl_append

/-- Making no writes does nothing. -/
lemma record_nil : record [] = pure () := rfl

/-- Making one write puts a variable. -/
lemma record_singleton (name : List Char) (v : Value) : record [⟨name, v⟩] = put name v := rfl

/-- A variable keeps only what was put into it last. -/
lemma assign_assign (s : Session) (name : List Char) (u v : Value) :
    assign (assign s name u) name v = assign s name v := by
  unfold assign
  congr 1
  by_cases h : String.ofList (upper name) = String.ofList name
  · rw [h]
    simp only [pairSet_pairSet]
  · rw [pairSet_comm h (mem_keys_pairSet _ _ _), pairSet_pairSet, pairSet_pairSet]

/-! ### The counts of a loop -/

/-- The values that a counter takes on its way from `start` to just before `stop`. -/
def counts (start stop step : Int) : List Int :=
  if 0 < step ∧ start < stop ∨ step < 0 ∧ stop < start then
    start :: counts (start + step) stop step
  else []
termination_by (if 0 < step then stop - start else start - stop).toNat
decreasing_by
  split <;> omega

/-- One divisor less makes one quotient less. -/
lemma ediv_eq_sub_ediv_add_one {a b : Int} (hb : 0 < b) : a / b = (a - b) / b + 1 := by
  have h := Int.add_mul_ediv_right (a - b) 1 (Int.ne_of_gt hb)
  rwa [Int.one_mul, Int.sub_add_cancel] at h

/-- A counter that has not come to its end goes on with the next count, if that is before it. -/
lemma lastCount?_eq_getD {start stop step : Int}
    (h : 0 < step ∧ start < stop ∨ step < 0 ∧ stop < start) :
    lastCount? start stop step = some ((lastCount? (start + step) stop step).getD start) := by
  unfold lastCount?
  rcases h with ⟨hstep, hlt⟩ | ⟨hstep, hlt⟩
  · simp only [hstep, hlt, if_true]
    split
    · have hdiv := ediv_eq_sub_ediv_add_one (a := stop - start - 1) hstep
      rw [Option.getD_some, hdiv, Int.mul_add, show stop - start - 1 - step =
        stop - (start + step) - 1 by omega]
      congr 1
      omega
    · rw [Int.ediv_eq_zero_of_lt (by omega) (by omega), Int.mul_zero, Int.add_zero]
      rfl
  · have hneg : ¬ 0 < step := by omega
    simp only [hneg, hlt, if_true, if_false]
    split
    · have hdiv := ediv_eq_sub_ediv_add_one (a := start - stop - 1) (b := -step) (by omega)
      rw [Option.getD_some, hdiv, Int.mul_add, show start - stop - 1 - -step =
        start + step - stop - 1 by omega]
      congr 1
      omega
    · rw [Int.ediv_eq_zero_of_lt (by omega) (by omega), Int.mul_zero, Int.add_zero]
      rfl

/-- A counter ends at the last of its values. -/
lemma getLast?_counts {step : Int} (hstep : step ≠ 0) (start stop : Int) :
    (counts start stop step).getLast? = lastCount? start stop step := by
  fun_induction counts start stop step with
  | case1 start h ih => rw [List.getLast?_cons, ih, lastCount?_eq_getD h]
  | case2 start h =>
    unfold lastCount?
    split
    · rw [if_neg (by omega)]
      rfl
    · rw [if_neg (by omega)]
      rfl

/-- Writing every count leaves what writing the last one leaves. -/
lemma written_counts (s : Session) (name : List Char) (ns : List Int) :
    written s (ns.map fun n => ⟨name, .int n⟩) =
      match ns.getLast? with
      | some n => assign s name (.int n)
      | none => s := by
  induction ns generalizing s with
  | nil => rfl
  | cons n ns ih =>
    rw [List.map_cons, written_cons, ih, List.getLast?_cons]
    cases ns.getLast? with
    | none => rfl
    | some last => exact assign_assign s name _ _

/-! ### The parts of statements -/

section Parts

variable (lib : Library)

/-- What a part of a declaration writes. -/
def declaredWrite (cs : List Char) : Step Write := do
  if cs.contains '(' then
    let size ← evaluate lib (declaredSize cs)
    return ⟨strip (cs.takeWhile (· != '(')), ← Step.act (Act.ofExcept (blankList size))⟩
  else return ⟨cs, .null⟩

/-- What a setting writes. -/
def settingWrites (line : List Char) : Step (List Write) := do
  match Shape.setting line with
  | none => return []
  | some (name, expression) => return [⟨name, ← evaluate lib expression⟩]

/-- What an assignment writes. -/
def assignmentWrites (line : List Char) : Step (List Write) := do
  if line.contains '=' then
    let v ← evaluate lib (strip ((line.dropWhile (· != '=')).drop 1))
    return [⟨strip (line.takeWhile (· != '=')), v⟩]
  else return []

/-- What counting writes: every count. -/
def countWrites (name : List Char) (start stop step : Int) : Step (List Write) :=
  if step == 0 then throw .zeroStep
  else return (counts start (stop + 1) step).map fun n => ⟨name, .int n⟩

/-- What a counting loop writes. -/
def loopWrites (line : List Char) : Step (List Write) := do
  match Shape.loop line with
  | none => return []
  | some l =>
    let start ← wholeValue lib l.start
    let stop ← wholeValue lib l.stop
    match l.step with
    | some e => countWrites l.name start stop (← wholeValue lib e)
    | none => countWrites l.name start stop 1

/-- The parts of a plain statement. Each does what it does before it writes, and tells what it
writes; a statement of a kind that writes nothing is one part. -/
def parts (kind : StatementKind) (line : List Char) : List (Step (List Write)) :=
  match kind with
  | .declare =>
    ((strip (line.drop 4)).splitOn ',').map fun p => do return [← declaredWrite lib (strip p)]
  | .set => [settingWrites lib line]
  | .assignment => [assignmentWrites lib line]
  | .loop => [loopWrites lib line]
  | kind => [do executePlain lib kind line; return []]

/-- Carries out the parts of a statement one after the other. -/
def executeParts (ps : List (Step (List Write))) : Step Unit :=
  ps.forM fun p => p >>= record

/-- Parts are taken in turn, and each makes its writes before the next is taken. -/
lemma executeParts_cons (p : Step (List Write)) (ps : List (Step (List Write))) :
    executeParts (p :: ps) = p >>= fun ws => record ws >>= fun _ => executeParts ps := by
  rw [← bind_assoc]
  rfl

/-- Declaring a name is one write. -/
lemma declareOne_eq (cs : List Char) :
    declareOne lib cs = declaredWrite lib cs >>= fun w => record [w] := by
  unfold declareOne declaredWrite
  split
  · simp [record_singleton]
  · simp [record_singleton]

/-- A `Set` statement works out its writes and makes them. -/
lemma executeSet_eq (line : List Char) :
    executeSet lib line = settingWrites lib line >>= record := by
  unfold executeSet settingWrites
  cases Shape.setting line with
  | none => simp [record_nil]
  | some parts => simp [record_singleton]

/-- An assignment works out its writes and makes them. -/
lemma executeAssignment_eq (line : List Char) :
    executeAssignment lib line = assignmentWrites lib line >>= record := by
  unfold executeAssignment assignmentWrites
  split
  · simp [record_singleton]
  · simp [record_nil]

/-- Counting leaves what the writes of the counts leave. -/
lemma countThrough_eq (name : List Char) (start stop step : Int) :
    countThrough name start stop step = countWrites name start stop step >>= record := by
  unfold countThrough countWrites
  by_cases hstep : step = 0
  · simp only [hstep, beq_self_eq_true, if_true]
    rfl
  · have hlast := getLast?_counts hstep start (stop + 1)
    simp only [beq_iff_eq, hstep, if_false, pure_bind]
    unfold record
    simp only [written_counts, hlast]
    cases lastCount? start (stop + 1) step <;> rfl

/-- A `For` statement works out its writes and makes them. -/
lemma executeLoop_eq (line : List Char) :
    executeLoop lib line = loopWrites lib line >>= record := by
  unfold executeLoop loopWrites
  cases Shape.loop line with
  | none => simp [record_nil]
  | some l =>
    simp only [bind_assoc]
    cases l.step <;> simp [countThrough_eq]

/-- A statement does what its parts do. -/
theorem executePlain_eq_executeParts (kind : StatementKind) (line : List Char) :
    executePlain lib kind line = executeParts (parts lib kind line) := by
  cases kind with
  | declare =>
    unfold executePlain executeParts parts declare
    simp [declareOne_eq, List.forM_map]
  | set => simp [executePlain, executeParts, parts, executeSet_eq]
  | assignment => simp [executePlain, executeParts, parts, executeAssignment_eq]
  | loop => simp [executePlain, executeParts, parts, executeLoop_eq]
  | _ => simp [executeParts, parts, record_nil]

end Parts

/-! ### Steps that write nothing -/

/-- A step that leaves the variables alone, and whether constants are known. -/
abbrev Still {α : Type} (a : Step α) : Prop :=
  Keeps Alike a

/-- An evaluator that writes nothing: formulas leave the variables alone, and what is in them. -/
def Evaluator.WritesNothing (ev : Evaluator) : Prop :=
  ∀ frame cs, Still (ev frame cs)

/-- An evaluator that is confined to its scope writes nothing. -/
lemma Evaluator.Confined.writesNothing {ev : Evaluator} (h : ev.Confined) : ev.WritesNothing := by
  intro frame cs scene
  rw [h.keeps frame cs scene]
  exact .refl scene.session

section Still

variable {lib : Library} (hlib : lib.evaluator.WritesNothing) (cs line : List Char)

include hlib

/-- Evaluating a whole number writes nothing. -/
lemma wholeValue_still : Still (wholeValue lib cs) :=
  (evaluate_keeps hlib cs).bind fun _ => .act _

/-- Calling a routine writes nothing. -/
lemma callWith_still (r : Routine) : Still (callWith lib r cs) :=
  (evaluateArguments_keeps hlib cs).bind fun _ => .act _

/-- Working out what a declaration writes does not write it. -/
lemma declaredWrite_still : Still (declaredWrite lib cs) := by
  refine .ite ?_ (.pure _)
  exact (evaluate_keeps hlib _).bind fun _ => (Keeps.act _).bind fun _ => .pure _

/-- Working out what a `Set` statement writes does not write it. -/
lemma settingWrites_still : Still (settingWrites lib line) := by
  unfold settingWrites
  split
  · exact .pure _
  · exact (evaluate_keeps hlib _).bind fun _ => .pure _

/-- Working out what an assignment writes does not write it. -/
lemma assignmentWrites_still : Still (assignmentWrites lib line) :=
  .ite ((evaluate_keeps hlib _).bind fun _ => .pure _) (.pure _)

omit hlib in
/-- Working out the counts does not write them. -/
lemma countWrites_still (name : List Char) (start stop step : Int) :
    Still (countWrites name start stop step) :=
  .ite (.throw _) (.pure _)

/-- Working out what a `For` statement writes does not write it. -/
lemma loopWrites_still : Still (loopWrites lib line) := by
  unfold loopWrites
  split
  · exact .pure _
  · refine (wholeValue_still hlib _).bind fun start => (wholeValue_still hlib _).bind fun stop => ?_
    split
    · exact (wholeValue_still hlib _).bind fun step => countWrites_still _ start stop step
    · exact countWrites_still _ start stop 1

/-- A `While` statement writes nothing. -/
lemma executeWhile_still : Still (executeWhile lib line) := by
  unfold executeWhile
  split
  · exact .pure _
  · exact (evaluate_keeps hlib _).discard

/-- A `MsgBox` statement writes nothing. -/
lemma executeMessageBox_still : Still (executeMessageBox lib line) := by
  unfold executeMessageBox
  dsimp only
  split
  · exact callWith_still hlib _ _
  · split
    · exact .pure _
    · exact (evaluate_keeps hlib _).bind fun _ => (wholeValue_still hlib _).bind fun _ =>
        (evaluate_keeps hlib _).bind fun _ => .act _

/-- An `InputBox` statement writes nothing. -/
lemma executeInputBox_still : Still (executeInputBox lib line) := by
  unfold executeInputBox
  dsimp only
  split
  · exact callWith_still hlib _ _
  · split
    · exact .pure _
    · exact (evaluate_keeps hlib _).bind fun _ => (evaluate_keeps hlib _).bind fun _ =>
        (evaluate_keeps hlib _).bind fun _ => .act _

/-- Creating an object writes nothing. -/
lemma executeCreateObject_still : Still (executeCreateObject lib line) := by
  unfold executeCreateObject
  split
  · exact .pure _
  · exact callWith_still hlib _ _

/-- An expression that stands alone writes nothing. -/
lemma executeExpression_still : Still (executeExpression lib line) := by
  refine .ite ?_ (.pure _)
  exact (evaluate_keeps hlib _).bind fun _ => .ite (.act _) (.pure _)

/-- The parts of a statement write nothing themselves. -/
theorem still_of_mem_parts {kind : StatementKind} {p : Step (List Write)}
    (h : p ∈ parts lib kind line) : Still p := by
  have hone {a : Step Unit} (ha : Still a) (hp : p ∈ [do a; return []]) : Still p := by
    rw [List.mem_singleton.1 hp]
    exact ha.bind fun _ => .pure _
  cases kind with
  | declare =>
    obtain ⟨q, _, rfl⟩ := List.mem_map.1 h
    exact (declaredWrite_still hlib _).bind fun _ => .pure _
  | set =>
    rw [List.mem_singleton.1 h]
    exact settingWrites_still hlib line
  | assignment =>
    rw [List.mem_singleton.1 h]
    exact assignmentWrites_still hlib line
  | loop =>
    rw [List.mem_singleton.1 h]
    exact loopWrites_still hlib line
  | conditional => exact hone (.pure _) h
  | passed => exact hone (.pure _) h
  | whileLoop => exact hone (executeWhile_still hlib line) h
  | resumeNext => exact hone (fun scene => ⟨rfl, rfl⟩) h
  | resumeNever => exact hone (fun scene => ⟨rfl, rfl⟩) h
  | echo => exact hone ((evaluate_keeps hlib _).bind fun _ => .act _) h
  | messageBox => exact hone (executeMessageBox_still hlib line).discard h
  | inputBox => exact hone (executeInputBox_still hlib line).discard h
  | createObject => exact hone (executeCreateObject_still hlib line).discard h
  | call => exact hone (callFunction_keeps hlib line).discard h
  | expression => exact hone (executeExpression_still hlib line) h

end Still

end ScriptHost.Script
