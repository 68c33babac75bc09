import Extraction.Proofs.Document
import Extraction.Proofs.Run.Course

/-!
# Runs behind other acts

Statements that are run behind some acts do what they do without these, on the document as it
answers behind the queries among them.

* `Run.State.behind` is a state with some acts done before all others.
* `Run.Runs.behind` runs statements behind some acts.
* `Run.execute_eq` executes a program on an executor that was used before.
-/

namespace Extraction.Run

variable {ν ε : Type}

/-! ## States -/

namespace State

/-- `state` as it is when `acts` were done before all others. -/
def behind (acts : List Act) (state : State ν) : State ν :=
  { state with trace := acts ++ state.trace }

variable (acts : List Act) (state : State ν)

@[simp]
theorem functions_behind : (state.behind acts).functions = state.functions := rfl

/-- The queries among the acts in front stand before the others. -/
theorem queries_behind :
    (state.behind acts).queries = acts.filterMap Act.query? ++ state.queries :=
  List.filterMap_append

/-- What is done, is done behind the acts in front. -/
theorem behind_perform (act : Act) :
    (state.perform act).behind acts = (state.behind acts).perform act := by
  simp [behind, perform]

theorem behind_report (event : Event) :
    (state.report event).behind acts = (state.behind acts).report event :=
  behind_perform ..

/-- `setStatus` does nothing that could stand behind other acts. -/
theorem behind_setStatus (name : String) (status : Status ν) :
    (state.setStatus name status).behind acts = (state.behind acts).setStatus name status := by
  unfold setStatus
  rw [functions_behind]
  split <;> rfl

theorem behind_foldl_report (events : List Event) :
    (events.foldl report state).behind acts = events.foldl report (state.behind acts) := by
  induction events generalizing state with
  | nil => rfl
  | cons event events ih => rw [List.foldl_cons, List.foldl_cons, ih, behind_report]

/-- `conclude` reports behind the acts in front. -/
theorem behind_conclude (name : String) (definition : Definition) (env : Env ν) :
    (conclude name definition env state).behind acts =
      conclude name definition env (state.behind acts) := by
  rw [conclude, conclude, behind_foldl_report, behind_setStatus]

end State

/-- The fault of a statement does not depend on what was done before. -/
theorem fault?_behind (acts : List Act) (state : State ν) (first : Statement) :
    fault? (state.behind acts) first = fault? state first := by
  cases first <;> rfl

/-! ## Runs -/

variable [Node ν] {document : Document ν ε} {list : List Statement} {env : Env ν}
  {state : State ν} {outcome : Outcome ν ε (Env ν)}

/-- `outcome`, with `acts` done before all others. -/
def Outcome.behind {α : Type} (acts : List Act) (outcome : Outcome ν ε α) : Outcome ν ε α :=
  (outcome.1, outcome.2.behind acts)

/-- What a document is asked behind some acts, it answers as it does behind their queries. -/
theorem select_behind (document : Document ν ε) (selection : Selection) (acts : List Act)
    (state : State ν) :
    select document selection (state.behind acts) =
      (select (document.later (acts.filterMap Act.query?)) selection state).behind acts := by
  unfold select queryFirst queryAll Document.later
  simp only [State.queries_behind]
  split
  · cases document.first (acts.filterMap Act.query? ++ state.queries) selection.selector <;>
      simp only [Outcome.behind, State.behind_perform]
  · cases document.all (acts.filterMap Act.query? ++ state.queries) selection.selector <;>
      simp only [Outcome.behind, State.behind_perform]

/-- Statements that are run behind some acts do what they do without these. -/
theorem Runs.behind (acts : List Act)
    (h : Runs (document.later (acts.filterMap Act.query?)) list env state outcome) :
    Runs document list env (state.behind acts) (outcome.behind acts) := by
  induction h with
  | nil => exact .nil
  | @selected _ selection _ _ _ state _ state' _ hselect _ ih =>
    exact .selected (by rw [select_behind, hselect, Outcome.behind]) ih
  | unselected hselect => exact .unselected (by rw [select_behind, hselect, Outcome.behind])
  | stopped hfault => exact .stopped ((fault?_behind ..).trans hfault)
  | cached hget hle _ ih =>
    rw [State.behind_report] at ih
    exact .cached hget hle ih
  | evaluated hget hle _ _ ihbody ih =>
    rw [State.behind_setStatus] at ihbody
    rw [State.behind_conclude] at ih
    exact .evaluated hget hle ihbody ih
  | failed hget hle _ ihbody =>
    rw [State.behind_setStatus] at ihbody
    rw [Outcome.behind, State.behind_setStatus]
    exact .failed hget hle ihbody
  | defined hget _ ih =>
    rw [State.behind_report] at ih
    exact .defined hget ih

/-- A run behind `acts` is the run on the document as it answers behind their queries, with `acts`
in front of its trace. -/
theorem statements_behind (document : Document ν ε) (list : List Statement) (env : Env ν)
    (acts : List Act) (state : State ν) :
    statements document list env (state.behind acts) =
      (statements (document.later (acts.filterMap Act.query?)) list env state).behind acts :=
  ((runs_statements _ list env state).behind acts).eq_statements.symm

/-- A program does and comes to what it does and comes to on an executor that was not used before,
on the document as it answers behind the queries of the executor. -/
theorem execute_eq_later (document : Document ν ε) (program : Program) (state : State ν) :
    execute document program state =
      (run program (document.later state.queries)).behind state.trace := by
  have hstatements := statements_behind document program.statements .empty state.trace
    (start program)
  have hstart : { state with functions := .empty }.report
      (.started program.path program.statements.length) =
        (start program : State ν).behind state.trace := rfl
  rw [run_eq, execute, hstart, hstatements, ← State.queries]
  rcases statements (document.later state.queries) program.statements .empty (start program) with
    ⟨stop | env, state'⟩
  · rfl
  · simp only [Outcome.behind, State.behind_report, State.functions_behind]

/-- On a steady document a program does and comes to what it does and comes to on an executor that
was not used before. -/
theorem execute_eq {program : Program} (hsteady : document.Steady) (state : State ν) :
    execute document program state = (run program document).behind state.trace := by
  rw [execute_eq_later, hsteady.later_eq]

end Extraction.Run
