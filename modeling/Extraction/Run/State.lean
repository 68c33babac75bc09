import Extraction.Bindings
import Extraction.Document
import Extraction.ProgramFault

/-!
# The state of a run

What a run remembers: the functions that are defined, and everything that it did so far.

* `Run.Event` are the events that a run reports.
* `Run.Status` says whether the body of a function is yet to be run, is being run, or was run.
* `Run.State` is the state. Its trace holds the queries of the document and the reported events
  in one order; `Run.State.queries` and `Run.State.events` are the two kinds by themselves.
* `Run.State.pending` bounds the statements in the bodies that are yet to be run.
-/

namespace Extraction.Run

/-- An event that a run reports: what is logged, with its fields. -/
inductive Event where
  /-- A program with this many statements is started. -/
  | started (path : Option String) (statements : Nat)
  /-- A program came to its end with this many names and functions. -/
  | finished (path : Option String) (results functions : Nat)
  /-- A function is defined. -/
  | defined (function : String) (returns : List String)
  /-- The body of a function was run. -/
  | evaluated (function : String) (returns : Nat)
  /-- The results of a function are used again. -/
  | cached (function : String)
  /-- A function returns a name that its body did not assign. -/
  | unassigned (function name : String)
deriving DecidableEq, Repr

/-- What a run does: it queries the document or reports an event. -/
inductive Act where
  /-- A query of the document. -/
  | query (query : Query)
  /-- A reported event. -/
  | event (event : Event)
deriving DecidableEq, Repr

/-- The query, if it is one. -/
def Act.query? : Act → Option Query
  | .query q => some q
  | .event _ => none

/-- The event, if it is one. -/
def Act.event? : Act → Option Event
  | .query _ => none
  | .event e => some e

/-- The results of a function: a value for each of the returned names. -/
abbrev Results (ν : Type) := List (String × Value ν)

/-- The names of one scope with their values (`Frame`). -/
abbrev Env (ν : Type) := Bindings (Value ν)

/-- How far the body of a function has come (`FunctionEntry.state`). -/
inductive Status (ν : Type) where
  /-- It is not being run and has not come to its end. -/
  | idle
  /-- It is being run. -/
  | running
  /-- It came to its end with these results. -/
  | done (results : Results ν)

/-- A function that is defined (`FunctionEntry`). -/
structure Entry (ν : Type) where
  /-- Its definition. -/
  definition : Definition
  /-- How far its body has come. -/
  status : Status ν

/-- What a run remembers: the fields of an `Executor`, and what was done so far. -/
structure State (ν : Type) where
  /-- The functions, in the order of their definition. -/
  functions : Bindings (Entry ν)
  /-- What was done, in order. -/
  trace : List Act

/-- Why a run stops before its end: a fault of the program, a refusal of the document, or a number
beyond the front of the matches. -/
inductive Stop (ε : Type) where
  /-- The program has a fault. -/
  | fault (failure : Failure ProgramFault)
  /-- A negative number counts beyond the front of the matches. -/
  | outOfRange
  /-- The document refuses a query. -/
  | refused (refusal : ε)

mutual

/-- A bound on the statements that a statement leads to, other than by invocation. -/
def weight : Statement → Nat
  | .definition _ body _ _ => weights body + 1
  | _ => 1

/-- A bound on the statements that some statements lead to, other than by invocation. -/
def weights : List Statement → Nat
  | [] => 0
  | statement :: rest => weight statement + weights rest + 1

end

/-- A bound on the statements in the body of `entry` that is yet to be run: none once it was
started. -/
def Entry.pending {ν : Type} (entry : Entry ν) : Nat :=
  match entry.status with
  | .idle => weights entry.definition.body + 1
  | _ => 0

namespace State

variable {ν : Type}

/-- The state before anything was done. -/
def empty : State ν := ⟨.empty, []⟩

instance : Inhabited (State ν) := ⟨empty⟩

/-- The queries among the acts of `state`. -/
def queries (state : State ν) : List Query := state.trace.filterMap Act.query?

/-- The events among the acts of `state`. -/
def events (state : State ν) : List Event := state.trace.filterMap Act.event?

/-- `state` after one more `act`. -/
def perform (state : State ν) (act : Act) : State ν := { state with trace := state.trace ++ [act] }

/-- `state` after one more `event`. -/
def report (state : State ν) (event : Event) : State ν := state.perform (.event event)

/-- `state` with `entry` for the function `name`. -/
def setEntry (state : State ν) (name : String) (entry : Entry ν) : State ν :=
  { state with functions := state.functions.set name entry }

/-- `state` in which the function `name`, if it is defined, has come to `status`. -/
def setStatus (state : State ν) (name : String) (status : Status ν) : State ν :=
  match state.functions.get? name with
  | some entry => state.setEntry name { entry with status := status }
  | none => state

/-- A bound on the statements in the bodies that are yet to be run in `state`. -/
def pending (state : State ν) : Nat :=
  Bindings.total Entry.pending state.functions.entries

/-- To do something leaves the bodies that are yet to be run. -/
@[simp]
theorem pending_perform (state : State ν) (act : Act) :
    (state.perform act).pending = state.pending := rfl

@[simp]
theorem pending_report (state : State ν) (event : Event) :
    (state.report event).pending = state.pending := rfl

/-- To do something changes no function. -/
@[simp]
theorem functions_perform (state : State ν) (act : Act) :
    (state.perform act).functions = state.functions := rfl

/-- To report an event changes no function. -/
@[simp]
theorem functions_report (state : State ν) (event : Event) :
    (state.report event).functions = state.functions := rfl

/-- To define a function adds the statements in its body to those that are yet to be run. -/
theorem pending_setEntry_of_none {state : State ν} {name : String} (entry : Entry ν)
    (h : state.functions.get? name = none) :
    (state.setEntry name entry).pending = state.pending + entry.pending := by
  have := Bindings.total_put Entry.pending name entry state.functions.entries
  rw [show state.functions.entries.lookup name = none from h] at this
  simpa [pending, setEntry, Bindings.set] using this

/-- To run the body of a function takes its statements from those that are yet to be run. -/
theorem pending_setStatus_running {state : State ν} {name : String} {entry : Entry ν}
    (h : state.functions.get? name = some entry) (hidle : entry.status = .idle) :
    (state.setStatus name .running).pending + (weights entry.definition.body + 1) =
      state.pending := by
  have := Bindings.total_put Entry.pending name { entry with status := .running }
    state.functions.entries
  rw [show state.functions.entries.lookup name = some entry from h] at this
  have hentry : entry.pending = weights entry.definition.body + 1 := by
    simp [Entry.pending, hidle]
  simp only [Option.elim_some, hentry] at this
  simpa [setStatus, h, setEntry, pending, Bindings.set, Entry.pending] using this

/-- To give a function its results adds nothing to what is yet to be run. -/
theorem pending_setStatus_done_le (state : State ν) (name : String) (results : Results ν) :
    (state.setStatus name (.done results)).pending ≤ state.pending := by
  unfold setStatus
  split
  · rename_i entry h
    have := Bindings.total_put Entry.pending name { entry with status := .done results }
      state.functions.entries
    rw [show state.functions.entries.lookup name = some entry from h] at this
    simp only [Option.elim_some] at this
    have hnew : ({ entry with status := .done results } : Entry ν).pending = 0 := rfl
    simp only [pending, setEntry, Bindings.set]
    omega
  · exact Nat.le_refl _

end State

end Extraction.Run
