import Extraction.Proofs.Program.Form
import Extraction.Run.Evaluation

/-!
# States of a run

What the operations of a run leave as it was, and what they answer on the documents that a theorem
may ask for.

* `Run.State.get?_setStatus_self` and `Run.State.get?_setStatus_of_ne` are the functions after one
  of them has come further.
* `Run.State.Lists` relates the functions of a state to definitions, and to what else is known of
  them; `Run.State.Lists.of_status` and `Run.State.Lists.define` preserve it.
* `Run.exists_select_eq` answers a selection with no negative number on a document that refuses
  nothing.
* `Run.select_fst_eq` answers a selection alike in all states on a steady document.
* `Run.exists_stop` finds the statement at which a run stops.
-/

namespace Extraction.Run

variable {ν ε : Type}

/-! ## Functions -/

namespace State

variable {state : State ν} {name other : String}

/-- A function that is listed keeps its definition under `setStatus`, and has the given status. -/
theorem get?_setStatus_self {entry : Entry ν} (h : state.functions.get? name = some entry)
    (status : Status ν) :
    (state.setStatus name status).functions.get? name = some { entry with status := status } := by
  rw [setStatus, h]
  exact Bindings.get?_set_self ..

/-- `setStatus` changes no other function. -/
theorem get?_setStatus_of_ne (state : State ν) (status : Status ν) (h : other ≠ name) :
    (state.setStatus name status).functions.get? other = state.functions.get? other := by
  unfold setStatus
  split
  · exact Bindings.get?_set_of_ne _ _ h
  · rfl

/-- `setEntry` lists the entry that it is given. -/
theorem get?_setEntry_self (state : State ν) (name : String) (entry : Entry ν) :
    (state.setEntry name entry).functions.get? name = some entry := Bindings.get?_set_self ..

theorem get?_setEntry_of_ne (state : State ν) (entry : Entry ν) (h : other ≠ name) :
    (state.setEntry name entry).functions.get? other = state.functions.get? other :=
  Bindings.get?_set_of_ne _ _ h

/-- To report several events changes no function. -/
theorem functions_foldl_report (events : List Event) (state : State ν) :
    (events.foldl State.report state).functions = state.functions := by
  induction events generalizing state with
  | nil => rfl
  | cons event events ih => rw [List.foldl_cons, ih, functions_report]

/-- A function that is listed has the values of its returned names as results once `conclude` is
done with it. -/
theorem get?_conclude_self {entry : Entry ν} (h : state.functions.get? name = some entry)
    (definition : Definition) (env : Env ν) :
    (conclude name definition env state).functions.get? name =
      some { entry with status := .done (results definition.returns.names env) } := by
  rw [conclude, functions_foldl_report]
  exact get?_setStatus_self h _

theorem get?_conclude_of_ne (definition : Definition) (env : Env ν) (state : State ν)
    (h : other ≠ name) :
    (conclude name definition env state).functions.get? other = state.functions.get? other := by
  rw [conclude, functions_foldl_report]
  exact get?_setStatus_of_ne _ _ h

/-- There are results of the function `name` in `state`. -/
def IsDone (state : State ν) (name : String) : Prop :=
  ∃ definition results, state.functions.get? name = some ⟨definition, .done results⟩

/-- The body of the function `name` is marked as being run. -/
def IsRunning (state : State ν) (name : String) : Prop :=
  ∃ definition, state.functions.get? name = some ⟨definition, .running⟩

/-- A function whose status is no results has none. -/
theorem not_isDone {definition : Definition} {status : Status ν}
    (h : state.functions.get? name = some ⟨definition, status⟩)
    (hstatus : ∀ results, status ≠ .done results) : ¬state.IsDone name := by
  rintro ⟨other, rs, hget⟩
  rw [h] at hget
  exact hstatus rs (congrArg Entry.status (Option.some.inj hget))

/-- The functions of `state` are `functions`, and what is `told` of them is so. -/
structure Lists (functions : Bindings Definition)
    (told : String → Definition → Status ν → Prop) (state : State ν) : Prop where
  /-- No others are listed. -/
  undefined : ∀ name, functions.get? name = none → state.functions.get? name = none
  /-- Those that are defined are listed, and have come as far as is told. -/
  defined : ∀ name definition, functions.get? name = some definition → ∃ status,
    state.functions.get? name = some ⟨definition, status⟩ ∧ told name definition status

namespace Lists

variable {functions : Bindings Definition} {told told' : String → Definition → Status ν → Prop}
  {state' : State ν} {definition : Definition}

/-- `Lists` depends on the functions of a state alone. -/
theorem of_functions_eq (h : state.Lists functions told)
    (hfunctions : state'.functions = state.functions) : state'.Lists functions told where
  undefined := by
    rw [hfunctions]
    exact h.undefined
  defined := by
    rw [hfunctions]
    exact h.defined

/-- A function that a state lists is one of those that are defined, and what is told of it is so. -/
theorem of_get? (h : state.Lists functions told) {status : Status ν}
    (hget : state.functions.get? name = some ⟨definition, status⟩) :
    functions.get? name = some definition ∧ told name definition status := by
  match hname : functions.get? name with
  | none =>
    rw [h.undefined name hname] at hget
    cases hget
  | some other =>
    obtain ⟨status', hget', htold⟩ := h.defined name other hname
    rw [hget'] at hget
    cases hget
    exact ⟨rfl, htold⟩

/-- A function that a state does not list is not defined. -/
theorem of_get?_eq_none (h : state.Lists functions told)
    (hget : state.functions.get? name = none) : functions.get? name = none := by
  match hname : functions.get? name with
  | none => rfl
  | some definition =>
    obtain ⟨status, hlisted, -⟩ := h.defined name definition hname
    rw [hget] at hlisted
    cases hlisted

/-- One function comes further. What was told of the others is still so. -/
theorem of_status (h : state.Lists functions told) {status : Status ν}
    (hname : functions.get? name = some definition)
    (hself : state'.functions.get? name = some ⟨definition, status⟩)
    (hothers : ∀ other, other ≠ name →
      state'.functions.get? other = state.functions.get? other)
    (htold : told' name definition status)
    (hold : ∀ other definition' status', other ≠ name →
      told other definition' status' → told' other definition' status') :
    state'.Lists functions told' where
  undefined other hnone := by
    have hne : other ≠ name := by
      rintro rfl
      rw [hname] at hnone
      cases hnone
    rw [hothers other hne]
    exact h.undefined other hnone
  defined other definition' hsome := by
    by_cases hne : other = name
    · subst hne
      obtain rfl : definition = definition' := Option.some.inj (hname.symm.trans hsome)
      exact ⟨status, hself, htold⟩
    · obtain ⟨status', hget, hstatus'⟩ := h.defined other definition' hsome
      exact ⟨status', (hothers other hne).trans hget, hold _ _ _ hne hstatus'⟩

/-- One more function is defined. What was told of the others is still so. -/
theorem define (h : state.Lists functions told) (definition : Definition)
    (htold : told' definition.name definition .idle)
    (hold : ∀ other definition' status, other ≠ definition.name →
      told other definition' status → told' other definition' status) :
    State.Lists (functions.set definition.name definition) told'
      ((state.setEntry definition.name ⟨definition, .idle⟩).report
        (.defined definition.name definition.returns.names)) where
  undefined other hnone := by
    obtain ⟨hne, hnone⟩ := Bindings.get?_set_eq_none_iff.1 hnone
    rw [functions_report, get?_setEntry_of_ne _ _ hne]
    exact h.undefined other hnone
  defined other definition' hsome := by
    rw [functions_report]
    rcases Bindings.get?_set_eq_some_iff.1 hsome with ⟨rfl, rfl⟩ | ⟨hne, hsome⟩
    · exact ⟨.idle, get?_setEntry_self .., htold⟩
    · rw [get?_setEntry_of_ne _ _ hne]
      obtain ⟨status, hget, hstatus⟩ := h.defined other definition' hsome
      exact ⟨status, hget, hold _ _ _ hne hstatus⟩

end Lists

/-! ## Events -/

@[simp]
theorem events_setStatus (state : State ν) (name : String) (status : Status ν) :
    (state.setStatus name status).events = state.events := by
  unfold setStatus
  split <;> rfl

@[simp]
theorem events_setEntry (state : State ν) (name : String) (entry : Entry ν) :
    (state.setEntry name entry).events = state.events := rfl

/-- An event stands behind those that were reported before. -/
@[simp]
theorem events_report (state : State ν) (event : Event) :
    (state.report event).events = state.events ++ [event] := by
  simp [report, perform, events, Act.event?]

@[simp]
theorem events_perform_query (state : State ν) (query : Query) :
    (state.perform (.query query)).events = state.events := by
  simp [perform, events, Act.event?]

theorem events_foldl_report (events : List Event) (state : State ν) :
    (events.foldl report state).events = state.events ++ events := by
  induction events generalizing state with
  | nil => exact (List.append_nil _).symm
  | cons event events ih =>
    rw [List.foldl_cons, ih, events_report, List.append_assoc, List.singleton_append]

/-- `conclude` reports what `conclusion` lists, and nothing else. -/
theorem events_conclude (name : String) (definition : Definition) (env : Env ν)
    (state : State ν) : (conclude name definition env state).events =
      state.events ++ conclusion definition.name definition.returns.names env := by
  rw [conclude, events_foldl_report, events_setStatus]

/-- In `state` no function has returned a name that its body did not assign. -/
def Quiet (state : State ν) : Prop := ∀ function name, .unassigned function name ∉ state.events

/-- `Quiet` depends on the events of a state alone. -/
theorem Quiet.of_events_eq {state' : State ν} (h : state.Quiet)
    (hevents : state'.events = state.events) : state'.Quiet := by
  intro function missing
  rw [hevents]
  exact h function missing

/-- A state stays quiet when an event is reported that tells of no unassigned name. -/
theorem Quiet.report (h : state.Quiet) {event : Event}
    (hevent : ∀ function missing, event ≠ .unassigned function missing) :
    (state.report event).Quiet := by
  intro function missing hmem
  rw [events_report, List.mem_append, List.mem_singleton] at hmem
  rcases hmem with hmem | hmem
  · exact h function missing hmem
  · exact hevent function missing hmem.symm

/-! ## Traces -/

theorem trace_setStatus (state : State ν) (name : String) (status : Status ν) :
    (state.setStatus name status).trace = state.trace := by
  unfold setStatus
  split <;> rfl

/-- Several events stand in order behind what was done before. -/
theorem trace_foldl_report (events : List Event) (state : State ν) :
    (events.foldl report state).trace = state.trace ++ events.map .event := by
  induction events generalizing state with
  | nil => exact (List.append_nil _).symm
  | cons event events ih =>
    rw [List.foldl_cons, ih, report, perform, List.append_assoc, List.map_cons,
      List.singleton_append]

/-- `conclude` does nothing but report what `conclusion` lists. -/
theorem trace_conclude (name : String) (definition : Definition) (env : Env ν) (state : State ν) :
    (conclude name definition env state).trace = state.trace ++
      (conclusion definition.name definition.returns.names env).map .event := by
  rw [conclude, trace_foldl_report, trace_setStatus]

/-! ## Queries -/

/-- A report is no query. -/
@[simp]
theorem queries_report (state : State ν) (event : Event) :
    (state.report event).queries = state.queries := by
  simp [report, perform, queries, Act.query?]

/-- A query stands behind those that were made before. -/
@[simp]
theorem queries_perform_query (state : State ν) (query : Query) :
    (state.perform (.query query)).queries = state.queries ++ [query] := by
  simp [perform, queries, Act.query?]

@[simp]
theorem queries_setStatus (state : State ν) (name : String) (status : Status ν) :
    (state.setStatus name status).queries = state.queries := by
  rw [queries, trace_setStatus, queries]

@[simp]
theorem queries_setEntry (state : State ν) (name : String) (entry : Entry ν) :
    (state.setEntry name entry).queries = state.queries := rfl

end State

/-! ## Selections -/

variable [Node ν] (document : Document ν ε) (selection : Selection) (state : State ν)

/-- A selection reports nothing; it asks the document. -/
theorem events_select : (select document selection state).2.events = state.events := by
  unfold select queryFirst queryAll
  split <;> split <;> rename_i h <;> simp only [Prod.mk.injEq] at h <;> simp [← h.2]

variable {document selection}

/-- Whether a selection is answered or not, it leaves the functions as they were. -/
theorem functions_eq_of_select {state state' : State ν} {answer : Except (Stop ε) (Value ν)}
    (h : select document selection state = (answer, state')) :
    state'.functions = state.functions := by
  rw [← functions_select document selection state, h]

/-- Without a negative number every list of matches has the elements that are meant. -/
theorem exists_ofMatches_eq (h : selection.range.Forward) (nodes : List ν) :
    ∃ value, Selection.ofMatches selection.range selection.attributes nodes = .ok value := by
  match hrange : selection.range with
  | .whole => exact ⟨_, rfl⟩
  | .openSlice start => exact ⟨_, rfl⟩
  -- Only one number, which is negative, can be out of range.
  | .bounded start stop =>
    rw [hrange] at h
    simp only [Selection.ofMatches, Range.element, h.1, if_true]
    split
    · split <;> exact ⟨_, rfl⟩
    · exact ⟨_, rfl⟩

/-- Without a negative number a document that refuses no query answers. -/
theorem exists_select_eq (htotal : document.Total) (h : selection.range.Forward) :
    ∃ value, (select document selection state).1 = .ok value := by
  obtain ⟨node?, hfirst⟩ := htotal.first_ok state.queries selection.selector
  obtain ⟨nodes, hall⟩ := htotal.all_ok state.queries selection.selector
  obtain ⟨value, hvalue⟩ := exists_ofMatches_eq h nodes
  unfold select
  split
  · exact ⟨_, by rw [queryFirst, hfirst]⟩
  · exact ⟨value, by simp only [queryAll, hall, hvalue]⟩

/-- A steady document answers a selection alike in all states. -/
theorem select_fst_eq (hsteady : document.Steady) (state state' : State ν) :
    (select document selection state).1 = (select document selection state').1 := by
  unfold select queryFirst queryAll
  rw [hsteady.first_eq state.queries state'.queries, hsteady.all_eq state.queries state'.queries]
  split
  · cases document.first state'.queries selection.selector <;> rfl
  · cases document.all state'.queries selection.selector <;> rfl

/-! ## Statements -/

section

variable {targets : List String} {function : String} {location : Option Location} {env : Env ν}
  {state : State ν} {definition : Definition}

/-- An invocation of a function that has results gives these to the targets. -/
theorem statement_invocation_of_done {rs : Results ν}
    (hget : state.functions.get? function = some ⟨definition, .done rs⟩)
    (hle : targets.length ≤ definition.returns.names.length) :
    statement document (.invocation targets function location) env state =
      (.ok (bindTargets targets rs env), state.report (.cached definition.name)) := by
  rw [statement_invocation document env state hget hle, evaluate_of_done _ _ hget rfl]

/-- An invocation of a function whose body is being run stops. -/
theorem statement_invocation_of_running
    (hget : state.functions.get? function = some ⟨definition, .running⟩)
    (hle : targets.length ≤ definition.returns.names.length) :
    statement document (.invocation targets function location) env state =
      (.error (.fault ⟨.recursiveInvocation definition.name,
        .ofLocation? definition.location⟩), state) := by
  rw [statement_invocation document env state hget hle, evaluate_of_running _ _ hget rfl]

/-- An invocation of a function whose body has not been run runs it. -/
theorem statement_invocation_of_idle
    (hget : state.functions.get? function = some ⟨definition, .idle⟩)
    (hle : targets.length ≤ definition.returns.names.length) :
    statement document (.invocation targets function location) env state =
      match statements document definition.body .empty (state.setStatus function .running) with
      | (.ok inner, state') =>
        (.ok (bindTargets targets (results definition.returns.names inner) env),
          conclude function definition inner state')
      | (.error stop, state') => (.error stop, state'.setStatus function .idle) := by
  rw [statement_invocation document env state hget hle, evaluate_of_idle _ _ hget rfl]
  match statements document definition.body .empty (state.setStatus function .running) with
  | (.ok inner, state') => rfl
  | (.error stop, state') => rfl

end

/-- To run a statement by itself is to run the list of it. -/
theorem statements_singleton (only : Statement) (env : Env ν) (state : State ν) :
    statements document [only] env state = statement document only env state := by
  rw [statements_cons]
  match statement document only env state with
  | (.ok env', state') => exact statements_nil ..
  | (.error stop, state') => rfl

/-- To run `before ++ after` is to run `before`, and then `after` where it has come to. -/
theorem statements_append (before after : List Statement) (env : Env ν) (state : State ν) :
    statements document (before ++ after) env state =
      match statements document before env state with
      | (.ok env', state') => statements document after env' state'
      | (.error stop, state') => (.error stop, state') := by
  induction before generalizing env state with
  | nil => rw [List.nil_append, statements_nil]
  | cons first before ih =>
    rw [List.cons_append, statements_cons, statements_cons]
    match statement document first env state with
    | (.ok env', state') => exact ih env' state'
    | (.error stop, state') => rfl

/-- A run that stops has run some statements and stops at the next one. -/
theorem exists_stop {list : List Statement} {env : Env ν} {state state' : State ν} {stop : Stop ε}
    (h : statements document list env state = (.error stop, state')) :
    ∃ before last after env' state'', list = before ++ last :: after ∧
      statements document before env state = (.ok env', state'') ∧
        (statement document last env' state'').1 = .error stop := by
  induction list generalizing env state with
  | nil =>
    rw [statements_nil] at h
    cases h
  | cons first rest ih =>
    rw [statements_cons] at h
    match hfirst : statement document first env state with
    -- The first statement is passed, so the run stops at one of the others.
    | (.ok env₁, state₁) =>
      rw [hfirst] at h
      obtain ⟨before, last, after, env', state'', rfl, hbefore, hlast⟩ := ih h
      refine ⟨first :: before, last, after, env', state'', rfl, ?_, hlast⟩
      rw [statements_cons, hfirst]
      exact hbefore
    -- The run stops at the first statement.
    | (.error reason, state₁) =>
      rw [hfirst] at h
      refine ⟨[], first, rest, env, state, rfl, statements_nil .., ?_⟩
      rw [hfirst]
      exact congrArg Prod.fst h

/-! ## Programs -/

/-- The state in which the first statement of `program` is run. -/
def start (program : Program) : State ν :=
  State.empty.report (.started program.path program.statements.length)

/-- A run of `program` has run the statements of `before`, and stops for `stop` at `last`, the one
behind them. -/
def StopsAt (document : Document ν ε) (program : Program) (before : List Statement)
    (last : Statement) (stop : Stop ε) : Prop :=
  ∃ after env state, program.statements = before ++ last :: after ∧
    statements document before .empty (start program) = (.ok env, state) ∧
      (statement document last env state).1 = .error stop

/-- A program is run by running its statements. -/
theorem run_eq (program : Program) (document : Document ν ε) :
    run program document =
      match statements document program.statements .empty (start program) with
      | (.ok env, state) =>
        (.ok env, state.report (.finished program.path env.size state.functions.size))
      | (.error stop, state) => (.error stop, state) := rfl

end Extraction.Run
