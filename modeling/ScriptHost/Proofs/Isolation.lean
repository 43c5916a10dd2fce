import Mathlib.Tactic.Lemma
import ScriptHost.Measure.SemanticCheck
import ScriptHost.Proofs.Acts

/-!
# Benchmarks do not disturb each other

All benchmarks of a suite are checked on one stage, and one that is stopped leaves it as it happens
to be: random numbers have been drawn, the profiler holds what it has seen. The first run of the
next benchmark seeds the random numbers and sets the alarm, and what the profiler holds is replaced
before it is read. So nothing is left of the stage before (`run_trial_zero`), and the row of a
benchmark is the same in every suite (`exists_row_of_benchmark`).
-/

namespace ScriptHost.Measure

/-- The first run of a benchmark, with the stage that it leaves, is the same on every stage. -/
lemma run_trial_zero (rules : CheckRules) (b : Benchmark) (ps : Parameters) (st st' : Stage) :
    (trial rules b ps 0).run.run st = (trial rules b ps 0).run.run st' := by
  obtain ⟨direct, action, cases⟩ := b
  cases direct <;> rfl

namespace Finding

/-- So are the two runs with default parameters. -/
lemma run_checkDefault (rules : CheckRules) (repo : Repository) (b : Benchmark) (st st' : Stage) :
    (checkDefault rules repo b).run.run st = (checkDefault rules repo b).run.run st' := by
  unfold checkDefault
  rw [ExceptT.run_bind, StateT.run_bind, StateT.run_bind, run_trial_zero rules b [] st st']

/-- So is all that is found out about a benchmark, since the runs of its cases come later. -/
lemma run_check (rules : CheckRules) (repo : Repository) (b : Benchmark) (st st' : Stage) :
    (check rules repo b).run st = (check rules repo b).run st' := by
  unfold check
  rw [StateT.run_bind, StateT.run_bind, run_checkDefault rules repo b st st']

end Finding

/-- What is worked out about each benchmark in turn, if that does not depend on the stage. -/
lemma run_inTurn {α : Type} {work : Benchmark → StateM Stage α} {result : Benchmark → α}
    (h : ∀ b st, ((work b).run st).1 = result b) (bs : List (String × Benchmark)) (st : Stage) :
    ((inTurn work bs).run st).1 = bs.map fun p => (p.1, result p.2) := by
  induction bs generalizing st with
  | nil => rfl
  | cons p bs ih =>
    have hfirst := h p.2 st
    unfold inTurn at ih ⊢
    rw [List.mapM_cons, List.map_cons, ← hfirst, ← ih ((work p.2).run st).2]
    rfl

/-- The check of a suite reports rows, on every stage, and warns of what it likes. -/
def Reports (rules : CheckRules) (repo : Repository) (entries : List (String × Entry))
    (rows : List (String × JsonValue)) : Prop :=
  ∀ (st : Stage) (w : World), ∃ warnings,
    (semanticCheck rules repo st (.ok entries)).carryOut w = (.ok (), { w with
      output := w.output ++ ((JsonValue.record [("semcheck", .record rows)]).write ++ "\n")
      warnings := w.warnings ++ warnings })

/-- Warnings touch nothing else. -/
lemma carryOut_forM_warnOf (stops : List Stop) (w : World) : ∃ warnings,
    (stops.forM warnOf).carryOut w = (.ok (), { w with warnings := w.warnings ++ warnings }) := by
  induction stops generalizing w with
  | nil => exact ⟨"", by rw [String.append_empty]; rfl⟩
  | cons e stops ih =>
    obtain ⟨first, hfirst⟩ : ∃ first, (warnOf e).carryOut w =
        (.ok (), { w with warnings := w.warnings ++ first }) := by
      cases e with
      | fault e => exact ⟨_, rfl⟩
      | timeout => exact ⟨"", by rw [String.append_empty]; rfl⟩
    obtain ⟨rest, hrest⟩ := ih { w with warnings := w.warnings ++ first }
    refine ⟨first ++ rest, ?_⟩
    rw [List.forM_eq_forM, List.forM_cons, Act.carryOut_bind, hfirst]
    dsimp only
    rw [List.forM_eq_forM] at hrest
    rw [hrest, String.append_assoc]

/-- Every benchmark has its row, whatever suite it is checked in and on whatever stage: the report
of a suite lists the rows of its benchmarks, and that of a benchmark alone is the same row. -/
theorem exists_row_of_benchmark (rules : CheckRules) (repo : Repository) :
    ∃ row : Benchmark → JsonValue,
      (∀ entries, Reports rules repo entries
        ((benchmarksOf entries).map fun p => (p.1, row p.2))) ∧
      ∀ (name : String) (b : Benchmark),
        Reports rules repo [("bench_" ++ name, .benchmark b)] [("bench_" ++ name, row b)] := by
  let start : Stage := ⟨Random.seed 0, none, {}⟩
  let row (b : Benchmark) : JsonValue := Finding.report ((Finding.check rules repo b).run start).1
  have hall (entries : List (String × Entry)) : Reports rules repo entries
      ((benchmarksOf entries).map fun p => (p.1, row p.2)) := by
    intro st w
    have hfound :=
      run_inTurn (fun b st => congrArg Prod.fst (Finding.run_check rules repo b st start))
      (benchmarksOf entries) st
    obtain ⟨warnings, hwarn⟩ := carryOut_forM_warnOf
      (((inTurn (Finding.check rules repo) (benchmarksOf entries)).run st).1.filterMap
        fun row => row.2.2) w
    refine ⟨warnings, ?_⟩
    unfold semanticCheck
    dsimp only
    rw [Act.carryOut_bind, hwarn, hfound, List.map_map]
    rfl
  refine ⟨row, hall, fun name b => ?_⟩
  have hname : ("bench_" ++ name).startsWith "bench_" = true := by simp
  have hone : benchmarksOf [("bench_" ++ name, .benchmark b)] = [("bench_" ++ name, b)] := by
    simp only [benchmarksOf, List.filterMap_cons, List.filterMap_nil, hname, if_true,
      List.mergeSort_singleton]
  have hrow := hall [("bench_" ++ name, .benchmark b)]
  rw [hone] at hrow
  exact hrow

end ScriptHost.Measure
