import ScriptHost.Workload.Functions
import ScriptHost.Workload.Interpreter

/-!
# The workloads by name

Each workload has one parameter, the amount of work.
-/

namespace ScriptHost.Workload

/-- A workload: its name, its parameter, the amount it has by default, and the work. -/
structure Task where
  name : String
  parameter : String
  amount : Int
  work : Value → Act Value

/-- All workloads, in the order of their names. -/
def all : List Task :=
  [⟨"bench_date_arithmetic", "n_ops", 60, dates⟩,
    ⟨"bench_dialog_boxes", "n_calls", 60, dialogs⟩,
    ⟨"bench_interpreter_execute", "n_stmts", 20, scripts⟩,
    ⟨"bench_interpreter_expressions", "n_exprs", 60, expressions⟩,
    ⟨"bench_string_replace", "n_items", 60, texts⟩,
    ⟨"bench_type_and_filter", "n_values", 300, types⟩]

/-- A workload as a function with named parameters. -/
def Task.routine (w : Task) : Routine :=
  .function w.name [given w.parameter (.int w.amount)] (Routine.on1 fun n => quietly (w.work n))

/-- Does the workload of a name. -/
def run (name : String) (named : List (String × Value)) : Act Value :=
  match all.find? (·.name == name) with
  | some w => w.routine.call [] named
  | none => throw (.noBenchmark name)

/-- The workloads with their parameters and amounts. -/
def amounts : Value :=
  .list (all.map fun w => .list [.text w.name, .list [.list [.text w.parameter, .int w.amount]]])

end ScriptHost.Workload
