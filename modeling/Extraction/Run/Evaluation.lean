import Extraction.Run.State

/-!
# Running programs

Runs the statements of a program against a document, one after the other. A function is defined
when its definition is run, and its body is run when it is first invoked; later invocations use
the results again.

* `Run.select` is the value of a selection.
* `Run.statement` and `Run.statements` run statements in the names of a scope.
* `Run.evaluate` gives the results of a function.
* `Run.execute` runs a whole program with no functions to begin with.

Every answer comes with the state that it leaves, also when the run stops. A run ends because
`State.pending` shrinks with every body that is started: the answers of the functions within
`Run.Within` carry the bound that shows it. The equations that the answers satisfy are stated
beside the definitions.
-/

namespace Extraction.Run

/-- An answer, or the reason to stop, with the state that is left. -/
abbrev Outcome (ν ε α : Type) := Except (Stop ε) α × State ν

variable {ν ε : Type}

/-! ## Selections -/

/-- Asks `document` for the first match of `selector` (`Document.query`). -/
def queryFirst (document : Document ν ε) (selector : String) (state : State ν) :
    Outcome ν ε (Option ν) :=
  (match document.first state.queries selector with
    | .ok node? => .ok node?
    | .error refusal => .error (.refused refusal),
    state.perform (.query (.first selector)))

/-- Asks `document` for all matches of `selector` (`Document.query_all`). -/
def queryAll (document : Document ν ε) (selector : String) (state : State ν) :
    Outcome ν ε (List ν) :=
  (match document.all state.queries selector with
    | .ok nodes => .ok nodes
    | .error refusal => .error (.refused refusal),
    state.perform (.query (.all selector)))

/-- The value of `selection` on `document` (`Executor.select`). One query is made: for the first
match when only that is meant, and for all of them otherwise. -/
def select [Node ν] (document : Document ν ε) (selection : Selection) (state : State ν) :
    Outcome ν ε (Value ν) :=
  match selection.range with
  | .whole =>
    match queryFirst document selection.selector state with
    | (.ok node?, state) => (.ok (projectFirst selection.attributes node?), state)
    | (.error stop, state) => (.error stop, state)
  | range =>
    match queryAll document selection.selector state with
    | (.ok nodes, state) =>
      (match Selection.ofMatches range selection.attributes nodes with
        | .ok value => .ok value
        | .error _ => .error .outOfRange, state)
    | (.error stop, state) => (.error stop, state)

/-- A selection is one query and defines no functions. -/
theorem functions_select [Node ν] (document : Document ν ε) (selection : Selection)
    (state : State ν) :
    (select document selection state).2.functions = state.functions := by
  unfold select queryFirst queryAll
  split <;> split <;> rename_i h <;> simp only [Prod.mk.injEq] at h <;> simp [← h.2]

/-- A selection starts no body. -/
theorem pending_select [Node ν] (document : Document ν ε) (selection : Selection)
    (state : State ν) :
    (select document selection state).2.pending = state.pending := by
  rw [State.pending, functions_select, State.pending]

/-! ## Functions -/

/-- Adds `definition` to the functions, unless one of its name is defined (`Executor.define`). -/
def define (definition : Definition) (state : State ν) : Outcome ν ε Unit :=
  match state.functions.get? definition.name with
  | some _ =>
    (.error (.fault ⟨.duplicateFunction definition.name, .ofLocation? definition.location⟩), state)
  | none =>
    (.ok (), (state.setEntry definition.name ⟨definition, .idle⟩).report
      (.defined definition.name definition.returns.names))

/-- A definition adds no more than its body to what is yet to be run. -/
theorem pending_define_le (definition : Definition) (state : State ν) :
    (define (ε := ε) definition state).2.pending ≤
      state.pending + (weights definition.body + 1) := by
  unfold define
  split
  · exact Nat.le_add_right _ _
  · rename_i h
    rw [State.pending_report, State.pending_setEntry_of_none _ h]
    exact Nat.le_refl _

/-- The results of a function that returns the names `returns`, when its body has ended with the
names `env`. -/
def results (returns : List String) (env : Env ν) : Results ν :=
  returns.map fun name => (name, (env.get? name).getD (.leaf .absent))

/-- The events at the end of the body of `function`: one for each of the names `returns` that `env`
does not assign, and one for the function itself. -/
def conclusion (function : String) (returns : List String) (env : Env ν) : List Event :=
  (returns.filter fun name => (env.get? name).isNone).map (.unassigned function) ++
    [.evaluated function returns.length]

/-- `state` when the body of the function `name` has come to its end with the names `env`: the
function has its results, and the events at the end are reported. -/
def conclude (name : String) (definition : Definition) (env : Env ν) (state : State ν) : State ν :=
  let returns := definition.returns.names
  (conclusion definition.name returns env).foldl State.report
    (state.setStatus name (.done (results returns env)))

/-- To report several events leaves the bodies that are yet to be run. -/
theorem pending_foldl_report (events : List Event) (state : State ν) :
    (events.foldl State.report state).pending = state.pending := by
  induction events generalizing state with
  | nil => rfl
  | cons event events ih => rw [List.foldl_cons, ih, State.pending_report]

/-- A body that has come to its end is no longer to be run. -/
theorem pending_conclude_le (name : String) (definition : Definition) (env : Env ν)
    (state : State ν) : (conclude name definition env state).pending ≤ state.pending := by
  rw [conclude, pending_foldl_report]
  exact State.pending_setStatus_done_le ..

/-- The names `env` after `results` were given to `targets`, one by one; results beyond the targets
are left out. -/
def bindTargets (targets : List String) (results : Results ν) (env : Env ν) : Env ν :=
  env.setAll (targets.zip (results.map Prod.snd))

/-! ## Statements -/

/-- An outcome which, if it is an answer, leaves no more to be run than `bound`. -/
abbrev Within (ν ε α : Type) (bound : Nat) :=
  { outcome : Outcome ν ε α // ∀ a, outcome.1 = .ok a → outcome.2.pending ≤ bound }

/-- A run that stops for `reason` leaves no answer. -/
def Within.stop {α : Type} {bound : Nat} (reason : Stop ε) (state : State ν) :
    Within ν ε α bound :=
  ⟨(.error reason, state), fun _ h => by simp at h⟩

variable [Node ν]

mutual

/-- Runs a statement, within the bound that makes runs end. -/
def statementWithin (document : Document ν ε) (statement : Statement) (env : Env ν)
    (state : State ν) : Within ν ε (Env ν) (state.pending + weight statement) :=
  match statement with
  | .assignment target selection _ =>
    match h : select document selection state with
    | (.ok value, state') =>
      ⟨(.ok (env.set target value), state'), fun _ _ => by
        have := pending_select document selection state
        rw [h] at this
        simp only [this]
        exact Nat.le_add_right _ _⟩
    | (.error reason, state') => .stop reason state'
  | .invocation targets function location =>
    match h : state.functions.get? function with
    | none => .stop (.fault ⟨.undefinedFunction function, .ofLocation? location⟩) state
    | some entry =>
      let returned := entry.definition.returns.names.length
      -- The number of targets is looked at first: a call that cannot succeed starts no body.
      if returned < targets.length then
        .stop (.fault ⟨.arity function returned targets.length, .ofLocation? location⟩) state
      else
        match evaluateWithin document function entry state h with
        | ⟨(.ok results, state'), hle⟩ =>
          ⟨(.ok (bindTargets targets results env), state'), fun _ _ =>
            Nat.le_trans (hle results rfl) (Nat.le_add_right _ _)⟩
        | ⟨(.error reason, state'), _⟩ => .stop reason state'
  | .definition name body returns location =>
    match h : define ⟨name, body, returns, location⟩ state with
    | (.ok (), state') =>
      ⟨(.ok env, state'), fun _ _ => by
        have := pending_define_le (ε := ε) ⟨name, body, returns, location⟩ state
        rw [h] at this
        simpa [weight] using this⟩
    | (.error reason, state') => .stop reason state'
  | .returns spec =>
    .stop (.fault ⟨.unexecutable (Statement.returns spec).form, .ofLocation? spec.location⟩) state
  | .bare => .stop (.fault ⟨.unexecutable Statement.bare.form, .unknown⟩) state
termination_by state.pending + weight statement
decreasing_by simp [weight]

/-- Runs statements one after the other, within the bound that makes runs end. -/
def statementsWithin (document : Document ν ε) (list : List Statement) (env : Env ν)
    (state : State ν) : Within ν ε (Env ν) (state.pending + weights list) :=
  match list with
  | [] => ⟨(.ok env, state), fun _ _ => Nat.le_add_right _ _⟩
  | statement :: rest =>
    match statementWithin document statement env state with
    | ⟨(.ok env', state'), hle⟩ =>
      let later := statementsWithin document rest env' state'
      ⟨later.val, fun a ha => by
        have h1 := hle env' rfl
        have h2 := later.property a ha
        simp only [weights]
        dsimp only at h1
        omega⟩
    | ⟨(.error reason, state'), _⟩ => .stop reason state'
termination_by state.pending + weights list
decreasing_by
  · simp only [weights]
    omega
  · have h1 := hle env' rfl
    simp only [weights]
    dsimp only at h1
    omega

/-- Gives the results of a function, within the bound that makes runs end. -/
def evaluateWithin (document : Document ν ε) (function : String) (entry : Entry ν)
    (state : State ν) (h : state.functions.get? function = some entry) :
    Within ν ε (Results ν) state.pending :=
  match hs : entry.status with
  | .done results =>
    ⟨(.ok results, state.report (.cached entry.definition.name)), fun _ _ => Nat.le_refl _⟩
  | .running =>
    .stop (.fault ⟨.recursiveInvocation entry.definition.name,
      .ofLocation? entry.definition.location⟩) state
  | .idle =>
    -- A body sees no names but its own.
    match statementsWithin document entry.definition.body .empty
        (state.setStatus function .running) with
    | ⟨(.ok env, state'), hle⟩ =>
      ⟨(.ok (results entry.definition.returns.names env),
          conclude function entry.definition env state'), fun _ _ => by
        have h1 := hle env rfl
        have h2 := State.pending_setStatus_running h hs
        have h3 := pending_conclude_le function entry.definition env state'
        dsimp only at h1 h3 ⊢
        omega⟩
    -- A function that fails may be invoked again.
    | ⟨(.error reason, state'), _⟩ => .stop reason (state'.setStatus function .idle)
termination_by state.pending
decreasing_by
  have := State.pending_setStatus_running h hs
  omega

end

/-- Runs `statement` in the scope `env`, and gives the names of the scope after it
(`Executor.execute_statement`). -/
def statement (document : Document ν ε) (statement : Statement) (env : Env ν) (state : State ν) :
    Outcome ν ε (Env ν) :=
  (statementWithin document statement env state).val

/-- Runs the statements of `list` one after the other in the scope `env`, and gives the names of the
scope after them. -/
def statements (document : Document ν ε) (list : List Statement) (env : Env ν)
    (state : State ν) : Outcome ν ε (Env ν) :=
  (statementsWithin document list env state).val

/-- Gives the results of `function`, whose entry in `state` is `entry` (`Executor.evaluate`): those
it has, or else those that its body comes to. A function whose body is being run stops the run. -/
def evaluate (document : Document ν ε) (function : String) (entry : Entry ν) (state : State ν)
    (h : state.functions.get? function = some entry) : Outcome ν ε (Results ν) :=
  (evaluateWithin document function entry state h).val

/-! ### Equations -/

section

variable (document : Document ν ε) (env : Env ν) (state : State ν)

/-- An assignment gives `target` what the selection comes to, or stops with it. -/
@[simp]
theorem statement_assignment (target : String) (selection : Selection)
    (location : Option Location) :
    statement document (.assignment target selection location) env state =
      match select document selection state with
      | (.ok value, state') => (.ok (env.set target value), state')
      | (.error reason, state') => (.error reason, state') := by
  rw [statement, statementWithin]
  split <;> rename_i h <;> simp [h, Within.stop]

/-- An invocation of a function that is not defined stops, and leaves `state` as it is. -/
theorem statement_invocation_of_undefined {targets : List String} {function : String}
    {location : Option Location} (h : state.functions.get? function = none) :
    statement document (.invocation targets function location) env state =
      (.error (.fault ⟨.undefinedFunction function, .ofLocation? location⟩), state) := by
  rw [statement, statementWithin]
  split
  · rfl
  · rename_i entry h'
    simp [h] at h'

/-- An invocation with more targets than returned names stops before any body is run. -/
theorem statement_invocation_of_arity {targets : List String} {function : String}
    {location : Option Location} {entry : Entry ν}
    (h : state.functions.get? function = some entry)
    (hlt : entry.definition.returns.names.length < targets.length) :
    statement document (.invocation targets function location) env state =
      (.error (.fault ⟨.arity function entry.definition.returns.names.length targets.length,
        .ofLocation? location⟩), state) := by
  rw [statement, statementWithin]
  split
  · rename_i h'
    simp [h] at h'
  · rename_i entry' h'
    obtain rfl : entry = entry' := by simpa [h] using h'
    simp only [hlt, if_true]
    rfl

/-- An invocation evaluates its function, and gives the results to the targets. -/
theorem statement_invocation {targets : List String} {function : String}
    {location : Option Location} {entry : Entry ν}
    (h : state.functions.get? function = some entry)
    (hle : targets.length ≤ entry.definition.returns.names.length) :
    statement document (.invocation targets function location) env state =
      match evaluate document function entry state h with
      | (.ok results, state') => (.ok (bindTargets targets results env), state')
      | (.error reason, state') => (.error reason, state') := by
  rw [statement, statementWithin]
  split
  · rename_i h'
    simp [h] at h'
  · rename_i entry' h'
    obtain rfl : entry = entry' := by simpa [h] using h'
    simp only [Nat.not_lt.2 hle, if_false, evaluate]
    split <;> rename_i heq <;> simp [heq, Within.stop]

/-- A definition adds a function, and leaves the names of the scope. -/
@[simp]
theorem statement_definition (name : String) (body : List Statement) (returns : ReturnSpec)
    (location : Option Location) :
    statement document (.definition name body returns location) env state =
      match define ⟨name, body, returns, location⟩ state with
      | (.ok (), state') => (.ok env, state')
      | (.error reason, state') => (.error reason, state') := by
  rw [statement, statementWithin]
  split <;> rename_i h <;> simp [h, Within.stop]

@[simp]
theorem statement_returns (spec : ReturnSpec) :
    statement document (.returns spec) env state =
      (.error (.fault ⟨.unexecutable (Statement.returns spec).form,
        .ofLocation? spec.location⟩), state) := by
  rw [statement, statementWithin]
  rfl

@[simp]
theorem statement_bare :
    statement document .bare env state =
      (.error (.fault ⟨.unexecutable Statement.bare.form, .unknown⟩), state) := by
  rw [statement, statementWithin]
  rfl

@[simp]
theorem statements_nil : statements document [] env state = (.ok env, state) := by
  rw [statements, statementsWithin]

/-- Statements are run in order, up to the first one that stops. -/
theorem statements_cons (first : Statement) (rest : List Statement) :
    statements document (first :: rest) env state =
      match statement document first env state with
      | (.ok env', state') => statements document rest env' state'
      | (.error reason, state') => (.error reason, state') := by
  rw [statements, statementsWithin, statement]
  split <;> rename_i h <;> simp [h, Within.stop, statements]

/-- A function that has results gives them again, and the use is reported. -/
theorem evaluate_of_done {function : String} {entry : Entry ν} {rs : Results ν}
    (h : state.functions.get? function = some entry) (hs : entry.status = .done rs) :
    evaluate document function entry state h =
      (.ok rs, state.report (.cached entry.definition.name)) := by
  rw [evaluate, evaluateWithin]
  split <;> rename_i hs' <;> simp_all

/-- A function whose body is being run cannot be evaluated. -/
theorem evaluate_of_running {function : String} {entry : Entry ν}
    (h : state.functions.get? function = some entry) (hs : entry.status = .running) :
    evaluate document function entry state h =
      (.error (.fault ⟨.recursiveInvocation entry.definition.name,
        .ofLocation? entry.definition.location⟩), state) := by
  rw [evaluate, evaluateWithin]
  split <;> rename_i hs' <;> simp_all [Within.stop]

/-- A function that has no results runs its body in a scope of its own. It keeps the results, or is
idle again when the body stops. -/
theorem evaluate_of_idle {function : String} {entry : Entry ν}
    (h : state.functions.get? function = some entry) (hs : entry.status = .idle) :
    evaluate document function entry state h =
      match statements document entry.definition.body .empty
        (state.setStatus function .running) with
      | (.ok env', state') =>
        (.ok (results entry.definition.returns.names env'),
          conclude function entry.definition env' state')
      | (.error reason, state') => (.error reason, state'.setStatus function .idle) := by
  rw [evaluate, evaluateWithin]
  split
  · simp_all
  · simp_all
  · rw [statements]
    split <;> rename_i heq <;> simp [heq, Within.stop]

end

/-! ## Programs -/

/-- Runs `program` with no functions to begin with, and gives the names of its top level
(`Executor.execute`). What was done before stays in the trace. -/
def execute (document : Document ν ε) (program : Program) (state : State ν) :
    Outcome ν ε (Env ν) :=
  let start := { state with functions := .empty }.report
    (.started program.path program.statements.length)
  match statements document program.statements .empty start with
  | (.ok env, state') =>
    (.ok env, state'.report (.finished program.path env.size state'.functions.size))
  | (.error reason, state') => (.error reason, state')

end Extraction.Run

namespace Extraction

/-- Runs `program` against `document`, from the state in which nothing was done (`run`). -/
def run {ν ε : Type} [Node ν] (program : Program) (document : Document ν ε) :
    Run.Outcome ν ε (Run.Env ν) :=
  Run.execute document program .empty

end Extraction
