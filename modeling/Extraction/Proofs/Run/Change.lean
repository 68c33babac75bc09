import Extraction.Proofs.Run.Outline

/-!
# What becomes of functions

A function that is listed keeps its place and its definition while statements are run. If its status
changes, the function had no results, and has those of an evaluation that has come to its end.

* `Run.Finishes` are the evaluations of functions that give results while statements are run.
* `Run.Runs.names_prefix` and `Run.Runs.exists_becomes` tell what a run leaves of the functions,
  however it comes out.
-/

namespace Extraction.Run

variable {ν ε : Type}

/-! ## Names -/

theorem State.names_setStatus (state : State ν) (name : String) (status : Status ν) :
    (state.setStatus name status).functions.names = state.functions.names := by
  unfold State.setStatus
  split
  · rename_i entry hget
    exact Bindings.names_set_of_some hget _
  · rfl

theorem State.names_conclude (state : State ν) (name : String) (definition : Definition)
    (env : Env ν) :
    (conclude name definition env state).functions.names = state.functions.names := by
  rw [conclude, State.functions_foldl_report]
  exact State.names_setStatus ..

variable [Node ν] {document : Document ν ε} {list rest : List Statement} {first : Statement}
  {env env' : Env ν} {state state' : State ν} {outcome : Outcome ν ε (Env ν)} {name : String}

/-- However a run comes out, the functions that were listed keep their places. -/
theorem Runs.names_prefix (h : Runs document list env state outcome) :
    state.functions.names <+: outcome.2.functions.names := by
  induction h with
  | nil => exact List.prefix_refl _
  | stopped => exact List.prefix_refl _
  | selected hselect _ ih => rwa [functions_eq_of_select hselect] at ih
  | unselected hselect => simp only [functions_eq_of_select hselect, List.prefix_refl]
  | cached _ _ _ ih => exact ih
  | evaluated _ _ _ _ ihbody ih =>
    rw [State.names_setStatus] at ihbody
    rw [State.names_conclude] at ih
    exact ihbody.trans ih
  | failed _ _ _ ihbody =>
    rw [State.names_setStatus] at ihbody
    rwa [State.names_setStatus]
  | defined _ _ ih => exact (Bindings.names_prefix_set ..).trans ih

/-! ## Traces -/

/-- However a run comes out, what was done before it stays done. -/
theorem Runs.trace_prefix_outcome (h : Runs document list env state outcome) :
    state.trace <+: outcome.2.trace := by
  induction h with
  | nil => exact List.prefix_refl _
  | stopped => exact List.prefix_refl _
  | selected hselect _ ih =>
    rw [eq_perform_of_select hselect] at ih
    exact (List.prefix_append ..).trans ih
  | unselected hselect =>
    rw [eq_perform_of_select hselect]
    exact List.prefix_append ..
  | cached _ _ _ ih => exact (List.prefix_append ..).trans ih
  | evaluated _ _ _ _ ihbody ih =>
    rw [State.trace_setStatus] at ihbody
    rw [State.trace_conclude] at ih
    exact (ihbody.trans (List.prefix_append ..)).trans ih
  | failed _ _ _ ihbody => rwa [State.trace_setStatus] at ihbody ⊢
  | defined _ _ ih => exact (List.prefix_append ..).trans ih

/-- What was done is not taken back, however a run comes out. -/
theorem trace_prefix_statements (document : Document ν ε) (list : List Statement) (env : Env ν)
    (state : State ν) : state.trace <+: (statements document list env state).2.trace :=
  (runs_statements document list env state).trace_prefix_outcome

/-! ## Statements that are passed -/

section

variable {targets : List String} {function : String} {location : Option Location}
  {definition : Definition}

/-- An assignment whose selection has a value gives it to `target`. -/
theorem statement_eq_of_select {target : String} {selection : Selection} {value : Value ν}
    (hselect : select document selection state = (.ok value, state')) :
    statement document (.assignment target selection location) env state =
      (.ok (env.set target value), state') := by
  rw [statement_assignment, hselect]

/-- An invocation whose body comes to its end gives its targets the returned values, and concludes
the function. -/
theorem statement_eq_of_body {inner : Env ν}
    (hget : state.functions.get? function = some ⟨definition, .idle⟩)
    (hle : targets.length ≤ definition.returns.names.length)
    (hbody : Runs document definition.body .empty (state.setStatus function .running)
      (.ok inner, state')) :
    statement document (.invocation targets function location) env state =
      (.ok (bindTargets targets (results definition.returns.names inner) env),
        conclude function definition inner state') := by
  rw [statement_invocation_of_idle hget hle, ← hbody.eq_statements]

/-- A definition of a new name lists the function as idle, and reports it. -/
theorem statement_eq_of_define {body : List Statement} {returns : ReturnSpec}
    (hget : state.functions.get? name = none) :
    statement document (.definition name body returns location) env state =
      (.ok env, (state.setEntry name ⟨⟨name, body, returns, location⟩, .idle⟩).report
        (.defined name returns.names)) := by
  rw [statement_definition, define]
  simp only [hget]

end

/-! ## Evaluations -/

/-- While statements are run, a function without results is invoked, and its evaluation gives the
results. -/
inductive Finishes (document : Document ν ε) :
    List Statement → Env ν → State ν → String → Results ν → Prop
  /-- It is the first statement that invokes the function. -/
  | here {targets function location rest env state definition rs}
      (hget : state.functions.get? function = some ⟨definition, .idle⟩)
      (hle : targets.length ≤ definition.returns.names.length)
      (hends : (evaluate document function ⟨definition, .idle⟩ state hget).1 = .ok rs) :
      Finishes document (.invocation targets function location :: rest) env state function rs
  /-- The first statement was run, and it is one of the others. -/
  | later {first rest env state env' state' function rs}
      (hfirst : statement document first env state = (.ok env', state'))
      (hrest : Finishes document rest env' state' function rs) :
      Finishes document (first :: rest) env state function rs
  /-- It is a statement of a body that has to be run for the first statement. -/
  | within {targets caller location rest env state definition function rs}
      (hget : state.functions.get? caller = some ⟨definition, .idle⟩)
      (hle : targets.length ≤ definition.returns.names.length)
      (hbody : Finishes document definition.body .empty (state.setStatus caller .running)
        function rs) :
      Finishes document (.invocation targets caller location :: rest) env state function rs

/-- The status of the function `name` after `list` was run: the one that it had, or else, if it was
idle, with the results of an evaluation that has come to its end meanwhile. -/
def Becomes (document : Document ν ε) (list : List Statement) (env : Env ν) (state : State ν)
    (name : String) (status status' : Status ν) : Prop :=
  status' = status ∨
    status = .idle ∧ ∃ rs, status' = .done rs ∧ Finishes document list env state name rs

variable {status status' status'' : Status ν}

namespace Becomes

theorem refl : Becomes document list env state name status status := .inl rfl

/-- A status that becomes `status'` and then `status''` has become the latter: after the first
change it is no more idle. -/
theorem trans (h : Becomes document list env state name status status')
    (h' : Becomes document list env state name status' status'') :
    Becomes document list env state name status status'' := by
  rcases h with rfl | ⟨rfl, rs, rfl, hends⟩
  · exact h'
  · rcases h' with rfl | ⟨hidle, -⟩
    · exact .inr ⟨rfl, rs, rfl, hends⟩
    · cases hidle

/-- What becomes of a function behind the first statement becomes of it in the whole list. -/
theorem later (hfirst : statement document first env state = (.ok env', state'))
    (h : Becomes document rest env' state' name status status') :
    Becomes document (first :: rest) env state name status status' :=
  h.imp_right fun ⟨hidle, rs, hdone, hends⟩ => ⟨hidle, rs, hdone, .later hfirst hends⟩

/-- What becomes of a function in a body that an invocation runs becomes of it in the list that
starts with the invocation. -/
theorem within {targets : List String} {caller : String} {location : Option Location}
    {definition : Definition} (hget : state.functions.get? caller = some ⟨definition, .idle⟩)
    (hle : targets.length ≤ definition.returns.names.length)
    (h : Becomes document definition.body .empty (state.setStatus caller .running) name status
      status') :
    Becomes document (.invocation targets caller location :: rest) env state name status status' :=
  h.imp_right fun ⟨hidle, rs, hdone, hends⟩ => ⟨hidle, rs, hdone, .within hget hle hends⟩

/-- A function that was not idle is as it was. -/
theorem eq_of_ne_idle (h : Becomes document list env state name status status')
    (hstatus : status ≠ .idle) : status' = status := h.resolve_right fun hidle => hstatus hidle.1

end Becomes

/-- However a run comes out, a function that was listed is listed with its definition, and has
become what an evaluation has made of it. -/
theorem Runs.exists_becomes (h : Runs document list env state outcome) {definition : Definition}
    (hlisted : state.functions.get? name = some ⟨definition, status⟩) :
    ∃ status', outcome.2.functions.get? name = some ⟨definition, status'⟩ ∧
      Becomes document list env state name status status' := by
  induction h generalizing status with
  | nil => exact ⟨status, hlisted, .refl⟩
  | stopped => exact ⟨status, hlisted, .refl⟩
  | selected hselect _ ih =>
    rw [← functions_eq_of_select hselect] at hlisted
    obtain ⟨status', hget', hbecomes⟩ := ih hlisted
    exact ⟨status', hget', hbecomes.later (statement_eq_of_select hselect)⟩
  | unselected hselect =>
    rw [← functions_eq_of_select hselect] at hlisted
    exact ⟨status, hlisted, .refl⟩
  | cached hget hle _ ih =>
    obtain ⟨status', hget', hbecomes⟩ := ih hlisted
    exact ⟨status', hget', hbecomes.later (statement_invocation_of_done hget hle)⟩
  | @evaluated targets function location rest env state callee inner state₁ _ hget hle hbody _
      ihbody ih =>
    have hfirst : statement document (.invocation targets function location) env state = _ :=
      statement_eq_of_body hget hle hbody
    by_cases hname : name = function
    -- The function itself is marked up to the end of its body, and has the results from then on.
    · subst hname
      cases hget.symm.trans hlisted
      obtain ⟨status₁, hget₁, -⟩ := ihbody (State.get?_setStatus_self hget .running)
      obtain ⟨status', hget', hbecomes⟩ := ih (State.get?_conclude_self hget₁ definition inner)
      obtain rfl := hbecomes.eq_of_ne_idle nofun
      refine ⟨_, hget', .inr ⟨rfl, _, rfl, .here hget hle ?_⟩⟩
      rw [evaluate_of_idle _ _ hget rfl, ← hbody.eq_statements]
    · rw [← State.get?_setStatus_of_ne state .running hname] at hlisted
      obtain ⟨status₁, hget₁, hbecomes₁⟩ := ihbody hlisted
      rw [← State.get?_conclude_of_ne callee inner state₁ hname] at hget₁
      obtain ⟨status', hget', hbecomes⟩ := ih hget₁
      exact ⟨status', hget', (hbecomes₁.within hget hle).trans (hbecomes.later hfirst)⟩
  | @failed _ function _ _ _ state _ _ state₁ hget hle _ ihbody =>
    by_cases hname : name = function
    -- What the body has led to, the function itself is idle again.
    · subst hname
      cases hget.symm.trans hlisted
      obtain ⟨status₁, hget₁, -⟩ := ihbody (State.get?_setStatus_self hget .running)
      exact ⟨.idle, State.get?_setStatus_self hget₁ .idle, .refl⟩
    · rw [← State.get?_setStatus_of_ne state .running hname] at hlisted
      obtain ⟨status₁, hget₁, hbecomes₁⟩ := ihbody hlisted
      rw [← State.get?_setStatus_of_ne state₁ .idle hname] at hget₁
      exact ⟨status₁, hget₁, hbecomes₁.within hget hle⟩
  | @defined other body returns location _ _ state _ hget _ ih =>
    have hname : name ≠ other := by
      rintro rfl
      rw [hget] at hlisted
      cases hlisted
    rw [← State.get?_setEntry_of_ne state ⟨⟨other, body, returns, location⟩, .idle⟩ hname]
      at hlisted
    obtain ⟨status', hget', hbecomes⟩ := ih hlisted
    exact ⟨status', hget', hbecomes.later (statement_eq_of_define hget)⟩

/-- While its body is run, a function stays marked. -/
theorem Runs.get?_of_running {definition : Definition}
    (h : Runs document list env (state.setStatus name .running) outcome)
    (hget : state.functions.get? name = some ⟨definition, status⟩) :
    outcome.2.functions.get? name = some ⟨definition, .running⟩ := by
  obtain ⟨status', hget', hbecomes⟩ := h.exists_becomes (State.get?_setStatus_self hget .running)
  rwa [hbecomes.eq_of_ne_idle nofun] at hget'

/-- However a run comes out, no function is lost, moved or replaced, and no results are changed. -/
theorem Runs.extends (h : Runs document list env state outcome) : state.Extends outcome.2 where
  names_prefix := h.names_prefix
  kept name definition status hget := by
    obtain ⟨status', hget', hbecomes⟩ := h.exists_becomes hget
    refine ⟨status', hget', ?_⟩
    rintro rs rfl
    exact hbecomes.eq_of_ne_idle nofun

/-- A body that comes to its end, and the results that are kept then, extend the functions. -/
theorem extends_of_body {function : String} {definition : Definition} {inner : Env ν}
    (hget : state.functions.get? function = some ⟨definition, .idle⟩)
    (hbody : Runs document definition.body .empty (state.setStatus function .running)
      (.ok inner, state')) : state.Extends (conclude function definition inner state') := by
  have hruns := runs_statements document [.invocation [] function none] .empty state
  rw [statements_singleton, statement_eq_of_body hget (Nat.zero_le _) hbody] at hruns
  exact hruns.extends

/-! ## Faults -/

/-- A selection stops for reasons of the document or the range, and never for a fault of the
program. -/
theorem ne_fault_of_select {selection : Selection} {stop : Stop ε}
    (h : select document selection state = (.error stop, state'))
    (failure : Failure ProgramFault) : stop ≠ .fault failure := by
  rintro rfl
  unfold select queryFirst queryAll at h
  split at h
  · cases hfirst : document.first state.queries selection.selector <;> simp [hfirst] at h
  · cases hall : document.all state.queries selection.selector with
    | error refusal => simp [hall] at h
    | ok nodes =>
      cases hvalue : Selection.ofMatches selection.range selection.attributes nodes <;>
        simp [hall, hvalue] at h

/-- A run that stops for a fault has met it at a statement, in a state that lists what was listed at
first. -/
theorem Runs.exists_faulty (h : Runs document list env state outcome)
    {failure : Failure ProgramFault} (hstop : outcome.1 = .error (.fault failure)) :
    ∃ (first : Statement) (now : State ν), Faulty now first failure ∧ state.Extends now := by
  induction h with
  | nil => cases hstop
  -- The statement at fault is the one at which the run stops; the table has only grown up to it.
  | stopped hfault =>
    cases hstop
    exact ⟨_, _, faulty_of_fault? hfault, .refl _⟩
  | selected hselect _ ih =>
    obtain ⟨first, now, hfaulty, hextends⟩ := ih hstop
    exact ⟨first, now, hfaulty,
      (State.Extends.of_functions_eq (functions_eq_of_select hselect)).trans hextends⟩
  | unselected hselect => exact absurd (Except.error.inj hstop) (ne_fault_of_select hselect _)
  | cached _ _ _ ih =>
    obtain ⟨first, now, hfaulty, hextends⟩ := ih hstop
    exact ⟨first, now, hfaulty, (State.Extends.report ..).trans hextends⟩
  | evaluated hget _ hbody _ _ ih =>
    obtain ⟨first, now, hfaulty, hextends⟩ := ih hstop
    exact ⟨first, now, hfaulty, (extends_of_body hget hbody).trans hextends⟩
  | failed hget _ _ ihbody =>
    obtain ⟨first, now, hfaulty, hextends⟩ := ihbody hstop
    exact ⟨first, now, hfaulty, (State.Extends.setStatus hget nofun _).trans hextends⟩
  | defined hget _ ih =>
    obtain ⟨first, now, hfaulty, hextends⟩ := ih hstop
    refine ⟨first, now, hfaulty, ?_⟩
    exact ((State.Extends.setEntry hget _).trans (State.Extends.report ..)).trans hextends

end Extraction.Run
