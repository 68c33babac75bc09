import Extraction.Proofs.Bindings
import Extraction.Proofs.Run.State

/-!
# The course of a run

What can happen while statements are run, case by case. A proof about every run is an induction on
these cases.

* `Run.fault?` is the fault that a statement is stopped for before anything is done, and
  `Run.Faulty` tells the faults apart.
* `Run.Runs` relates statements to the outcomes of their runs. It has one case for each way in which
  the first of them can come out.
* `Run.runs_statements` finds the case of any run, and `Run.Runs.eq_statements` says that no other
  one applies.
-/

namespace Extraction.Run

variable {ν ε : Type}

/-! ## Faults -/

/-- The fault of an invocation of `function` with `targets`, when the function is listed as given.
-/
def invocationFault? (targets : List String) (function : String) (location : Option Location) :
    Option (Entry ν) → Option (Failure ProgramFault)
  | none => some ⟨.undefinedFunction function, .ofLocation? location⟩
  | some entry =>
    let definition := entry.definition
    let returned := definition.returns.names.length
    if returned < targets.length then
      some ⟨.arity function returned targets.length, .ofLocation? location⟩
    else match entry.status with
      | .running =>
        some ⟨.recursiveInvocation definition.name, .ofLocation? definition.location⟩
      | _ => none

/-- The fault that a statement is stopped for before anything is done in `state`, if it has one. -/
def fault? (state : State ν) : Statement → Option (Failure ProgramFault)
  | .assignment .. => none
  | .invocation targets function location =>
    invocationFault? targets function location (state.functions.get? function)
  | .definition name _ _ location =>
    (state.functions.get? name).map fun _ => ⟨.duplicateFunction name, .ofLocation? location⟩
  | statement => some ⟨.unexecutable statement.form, .ofLocation? statement.location⟩

/-- An invocation without a fault is of a function that is listed, has values enough for the
targets, and is not being run. -/
theorem exists_get?_of_fault?_eq_none {state : State ν} {targets : List String} {function : String}
    {location : Option Location}
    (h : fault? state (.invocation targets function location) = none) :
    ∃ definition, targets.length ≤ definition.returns.names.length ∧
      (state.functions.get? function = some ⟨definition, .idle⟩ ∨
        ∃ rs, state.functions.get? function = some ⟨definition, .done rs⟩) := by
  rw [fault?] at h
  match hget : state.functions.get? function with
  | none => simp [hget, invocationFault?] at h
  | some ⟨definition, status⟩ =>
    simp only [hget, invocationFault?] at h
    split at h
    · cases h
    · rename_i hle
      refine ⟨definition, Nat.not_lt.1 hle, ?_⟩
      cases status with
      | running => cases h
      | idle => exact .inl rfl
      | done rs => exact .inr ⟨rs, rfl⟩

/-- The faults that statements are stopped for, each with what is so in `state`. -/
inductive Faulty (state : State ν) : Statement → Failure ProgramFault → Prop
  /-- The function is not listed. -/
  | undefined {targets function location} (hget : state.functions.get? function = none) :
      Faulty state (.invocation targets function location)
        ⟨.undefinedFunction function, .ofLocation? location⟩
  /-- The function returns too few values for the targets. -/
  | arity {targets function location entry} (hget : state.functions.get? function = some entry)
      (hlt : entry.definition.returns.names.length < targets.length) :
      Faulty state (.invocation targets function location)
        ⟨.arity function entry.definition.returns.names.length targets.length,
          .ofLocation? location⟩
  /-- The body of the function is being run. -/
  | recursive {targets function location definition}
      (hget : state.functions.get? function = some ⟨definition, .running⟩)
      (hle : targets.length ≤ definition.returns.names.length) :
      Faulty state (.invocation targets function location)
        ⟨.recursiveInvocation definition.name, .ofLocation? definition.location⟩
  /-- A function of the same name is listed. -/
  | duplicate {name body returns location entry}
      (hget : state.functions.get? name = some entry) :
      Faulty state (.definition name body returns location)
        ⟨.duplicateFunction name, .ofLocation? location⟩
  /-- A list of returned names is no statement that can be run. -/
  | returns {spec} : Faulty state (.returns spec)
      ⟨.unexecutable (Statement.returns spec).form, .ofLocation? spec.location⟩
  /-- Nor is a statement of no particular form. -/
  | bare : Faulty state .bare ⟨.unexecutable Statement.bare.form, .unknown⟩

/-- What `fault?` finds is a fault in the sense of `Faulty`. -/
theorem faulty_of_fault? {state : State ν} {first : Statement} {failure : Failure ProgramFault}
    (h : fault? state first = some failure) : Faulty state first failure := by
  cases first with
  | assignment => cases h
  | returns spec =>
    cases h
    exact .returns
  | bare =>
    cases h
    exact .bare
  | definition name body returns location =>
    obtain ⟨entry, hget, rfl⟩ := Option.map_eq_some_iff.1 h
    exact .duplicate hget
  | invocation targets function location =>
    rw [fault?] at h
    -- An unknown function comes first, then a wrong number of targets, then a running function.
    match hget : state.functions.get? function with
    | none =>
      rw [hget] at h
      cases h
      exact .undefined hget
    | some ⟨definition, status⟩ =>
      simp only [hget, invocationFault?] at h
      split at h
      · rename_i hlt
        cases h
        exact .arity hget hlt
      · rename_i hle
        cases status with
        | running =>
          cases h
          exact .recursive hget (Nat.not_lt.1 hle)
        | idle => cases h
        | done rs => cases h

/-! ## Cases -/

variable [Node ν]

/-- What a run of statements on `document` comes to, one step for each way in which it may go on or
stop. -/
inductive Runs (document : Document ν ε) :
    List Statement → Env ν → State ν → Outcome ν ε (Env ν) → Prop
  /-- There is nothing left to run. -/
  | nil {env state} : Runs document [] env state (.ok env, state)
  /-- The document answers a selection. -/
  | selected {target selection location rest env state value state' outcome}
      (hselect : select document selection state = (.ok value, state'))
      (hrest : Runs document rest (env.set target value) state' outcome) :
      Runs document (.assignment target selection location :: rest) env state outcome
  /-- The document answers a selection with none of the values that it could have. -/
  | unselected {target selection location rest env state stop state'}
      (hselect : select document selection state = (.error stop, state')) :
      Runs document (.assignment target selection location :: rest) env state
        (.error stop, state')
  /-- A statement is stopped for its fault. -/
  | stopped {first rest env state failure} (hfault : fault? state first = some failure) :
      Runs document (first :: rest) env state (.error (.fault failure), state)
  /-- The results of a function are used again. -/
  | cached {targets function location rest env state definition rs outcome}
      (hget : state.functions.get? function = some ⟨definition, .done rs⟩)
      (hle : targets.length ≤ definition.returns.names.length)
      (hrest : Runs document rest (bindTargets targets rs env)
        (state.report (.cached definition.name)) outcome) :
      Runs document (.invocation targets function location :: rest) env state outcome
  /-- The body of a function is run to its end. -/
  | evaluated {targets function location rest env state definition inner state' outcome}
      (hget : state.functions.get? function = some ⟨definition, .idle⟩)
      (hle : targets.length ≤ definition.returns.names.length)
      (hbody : Runs document definition.body .empty (state.setStatus function .running)
        (.ok inner, state'))
      (hrest : Runs document rest
        (bindTargets targets (results definition.returns.names inner) env)
        (conclude function definition inner state') outcome) :
      Runs document (.invocation targets function location :: rest) env state outcome
  /-- The body of a function is run and stops. -/
  | failed {targets function location rest env state definition stop state'}
      (hget : state.functions.get? function = some ⟨definition, .idle⟩)
      (hle : targets.length ≤ definition.returns.names.length)
      (hbody : Runs document definition.body .empty (state.setStatus function .running)
        (.error stop, state')) :
      Runs document (.invocation targets function location :: rest) env state
        (.error stop, state'.setStatus function .idle)
  /-- A function is defined. -/
  | defined {name body returns location rest env state outcome}
      (hget : state.functions.get? name = none)
      (hrest : Runs document rest env
        ((state.setEntry name ⟨⟨name, body, returns, location⟩, .idle⟩).report
          (.defined name returns.names)) outcome) :
      Runs document (.definition name body returns location :: rest) env state outcome

variable {document : Document ν ε} {list : List Statement} {env : Env ν} {state : State ν}
  {outcome : Outcome ν ε (Env ν)}

/-- A statement with a fault does nothing but stop. -/
theorem statement_of_fault {first : Statement} {failure : Failure ProgramFault}
    (h : fault? state first = some failure) :
    statement document first env state = (.error (.fault failure), state) := by
  cases faulty_of_fault? h with
  | undefined hget => exact statement_invocation_of_undefined _ _ _ hget
  | arity hget hlt => exact statement_invocation_of_arity _ _ _ hget hlt
  | recursive hget hle => exact statement_invocation_of_running hget hle
  | duplicate hget =>
    rw [statement_definition, define]
    simp only [hget]
  | returns => exact statement_returns ..
  | bare => exact statement_bare ..

/-- A case that applies tells the outcome. -/
theorem Runs.eq_statements (h : Runs document list env state outcome) :
    outcome = statements document list env state := by
  induction h with
  | nil => exact (statements_nil ..).symm
  | selected hselect _ ih => rw [statements_cons, statement_assignment, hselect, ih]
  | unselected hselect => rw [statements_cons, statement_assignment, hselect]
  | stopped hfault => rw [statements_cons, statement_of_fault hfault]
  | cached hget hle _ ih => rw [statements_cons, statement_invocation_of_done hget hle, ih]
  | evaluated hget hle _ _ ihbody ih =>
    rw [statements_cons, statement_invocation_of_idle hget hle, ← ihbody]
    exact ih
  | failed hget hle _ ihbody =>
    rw [statements_cons, statement_invocation_of_idle hget hle, ← ihbody]
  | defined hget _ ih =>
    rw [statements_cons, statement_definition, define]
    simp only [hget]
    exact ih

/-- One of the cases applies to a run. The recursion is that of runs: into the bodies of functions
that are yet to be run, and along the list. -/
theorem runs_statements (document : Document ν ε) (list : List Statement) (env : Env ν)
    (state : State ν) : Runs document list env state (statements document list env state) := by
  match list with
  | [] =>
    rw [statements_nil]
    exact .nil
  | first :: rest =>
    -- What the first statement leaves to be run is bounded, and the recursion ends by that.
    have hbound := (statementWithin document first env state).property
    change ∀ a, (statement document first env state).1 = .ok a →
      (statement document first env state).2.pending ≤ state.pending + weight first at hbound
    rw [statements_cons]
    match hfault : fault? state first with
    | some failure =>
      rw [statement_of_fault hfault]
      exact .stopped hfault
    | none =>
      match first with
      | .assignment target selection location =>
        rw [statement_assignment] at hbound ⊢
        match hselect : select document selection state with
        | (.ok value, state') =>
          rw [hselect] at hbound
          have := hbound _ rfl
          exact .selected hselect (runs_statements document rest _ state')
        | (.error stop, state') => exact .unselected hselect
      | .invocation targets function location =>
        -- Without a fault the body is yet to be run, or there are results.
        obtain ⟨definition, hle, hget | ⟨rs, hget⟩⟩ := exists_get?_of_fault?_eq_none hfault
        · have hpending := State.pending_setStatus_running hget rfl
          have hbody := runs_statements document definition.body .empty
            (state.setStatus function .running)
          rw [statement_invocation_of_idle hget hle] at hbound ⊢
          match houtcome : statements document definition.body .empty
              (state.setStatus function .running) with
          | (.ok inner, state') =>
            rw [houtcome] at hbound hbody
            have := hbound _ rfl
            exact .evaluated hget hle hbody (runs_statements document rest _ _)
          | (.error stop, state') =>
            rw [houtcome] at hbody
            exact .failed hget hle hbody
        · rw [statement_invocation_of_done hget hle] at hbound ⊢
          have := hbound _ rfl
          exact .cached hget hle (runs_statements document rest _ _)
      | .definition name body returns location =>
        have hget : state.functions.get? name = none := Option.map_eq_none_iff.1 hfault
        rw [statement_definition, define] at hbound ⊢
        simp only [hget] at hbound ⊢
        have := hbound _ rfl
        exact .defined hget (runs_statements document rest env _)
      | .returns spec => cases hfault
      | .bare => cases hfault
termination_by state.pending + weights list
decreasing_by all_goals simp_all only [weights]; omega

end Extraction.Run
