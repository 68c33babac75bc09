import Extraction.Document.Listing
import Extraction.Proofs.Run.Table

/-!
# Sessions

An executor that is used again and again: programs, single statements, evaluations and selections
follow each other in any order, and each of them may stop. The document may be another one each
time.

* `Run.Step` is one use of an executor, and `Run.after` the state that some of them leave.
* `Run.Moment` are the moments at which statements are run, with the bodies that are being run then.
* `Run.functions_of_session` is what is true of the functions at all times.
-/

namespace Extraction.Run

variable {ν ε : Type}

/-! ## Calls -/

/-- What an executor is asked for. -/
inductive Call (ν : Type) where
  /-- To run a program, with no functions to begin with. -/
  | execute (program : Program)
  /-- To run a statement in the names of a scope. -/
  | statement (statement : Statement) (env : Env ν)
  /-- To give the results of a function. -/
  | evaluate (function : String)
  /-- To give the value of a selection. -/
  | select (selection : Selection)

namespace Call

/-- Whether a call forgets the functions that were defined. -/
def Resets : Call ν → Prop
  | .execute _ => True
  | _ => False

/-- The statements that a call runs. To evaluate a function is to invoke it without targets, and to
select is to assign to a name that nobody sees. -/
def list : Call ν → List Statement
  | .execute program => program.statements
  | .statement only _ => [only]
  | .evaluate function => [.invocation [] function none]
  | .select selection => [.assignment "" selection none]

/-- The names of the scope that a call runs statements in. -/
def env : Call ν → Env ν
  | .statement _ env => env
  | _ => .empty

/-- The state in which a call runs its first statement, if `state` is the one before. -/
def start (state : State ν) : Call ν → State ν
  | .execute program =>
    { state with functions := .empty }.report (.started program.path program.statements.length)
  | _ => state

/-- A call that keeps the functions runs its first statement in the state as it is. -/
theorem start_of_not_resets {call : Call ν} (h : ¬call.Resets) (state : State ν) :
    call.start state = state := by
  cases call with
  | execute => exact absurd trivial h
  | statement => rfl
  | evaluate => rfl
  | select => rfl

/-- The functions are in order where a call runs its first statement: they are those from before, or
there are none. -/
theorem orderly_start {state : State ν} (call : Call ν) (h : state.Orderly []) :
    (call.start state).Orderly [] := by
  cases call with
  | execute => exact State.Orderly.empty.of_functions_eq rfl
  | statement => exact h
  | evaluate => exact h
  | select => exact h

end Call

/-- A call, and the document as it is at that time. -/
structure Step (ν ε : Type) where
  /-- The document. -/
  document : Document ν ε
  /-- The call. -/
  call : Call ν

variable [Node ν]

/-- The state after `step`. A function that is not listed has no entry to be evaluated. -/
def Step.next (step : Step ν ε) (state : State ν) : State ν :=
  match step.call with
  | .execute program => (execute step.document program state).2
  | .statement only env => (statement step.document only env state).2
  | .evaluate function =>
    match h : state.functions.get? function with
    | some entry => (evaluate step.document function entry state h).2
    | none => state
  | .select selection => (select step.document selection state).2

/-- The state after `steps`, one call after the other. -/
def after (steps : List (Step ν ε)) (state : State ν) : State ν :=
  steps.foldl (fun state step => step.next state) state

/-- Calls are made one after the other. -/
theorem after_append (before later : List (Step ν ε)) (state : State ν) :
    after (before ++ later) state = after later (after before state) := List.foldl_append

/-- An invocation without targets evaluates a function, and gives nothing to anyone. -/
theorem statement_invocation_nil {document : Document ν ε} {function : String}
    {location : Option Location} {entry : Entry ν} {env : Env ν} {state : State ν}
    (h : state.functions.get? function = some entry) :
    statement document (.invocation [] function location) env state =
      ((evaluate document function entry state h).1.map fun _ => env,
        (evaluate document function entry state h).2) := by
  rw [statement_invocation document env state h (Nat.zero_le _)]
  match evaluate document function entry state h with
  | (.ok rs, state') => rfl
  | (.error stop, state') => rfl

/-- What a call leaves of the functions is what its statements leave. -/
theorem Step.functions_next (step : Step ν ε) (state : State ν) :
    (step.next state).functions = (statements step.document step.call.list step.call.env
      (step.call.start state)).2.functions := by
  obtain ⟨document, call⟩ := step
  cases call with
  | execute program =>
    simp only [next, execute, Call.list, Call.env, Call.start]
    rcases statements document program.statements .empty _ with ⟨stop | env, state'⟩ <;> rfl
  | statement only env =>
    rw [Call.list, statements_singleton]
    rfl
  | evaluate function =>
    simp only [next, Call.list, Call.start, statements_singleton]
    split
    · rename_i entry hget
      rw [statement_invocation_nil hget]
    · rename_i hget
      rw [statement_invocation_of_undefined _ _ _ hget]
  | select selection =>
    simp only [next, Call.list, Call.start, statements_singleton, statement_assignment]
    rcases select document selection state with ⟨stop | value, state'⟩ <;> rfl

/-! ## Moments -/

/-- While statements are run, the functions whose bodies are being run at some moment, the
innermost one first, and the state at that moment. -/
inductive Moment (document : Document ν ε) :
    List Statement → Env ν → State ν → List String → State ν → Prop
  /-- The first statement is about to be run, or there are no more of them. -/
  | here {list env state} : Moment document list env state [] state
  /-- The first statement has stopped. -/
  | stopped {first rest env state stop state'}
      (hfirst : statement document first env state = (.error stop, state')) :
      Moment document (first :: rest) env state [] state'
  /-- The first statement was run, and the others follow. -/
  | later {first rest env state env' state' bodies now}
      (hfirst : statement document first env state = (.ok env', state'))
      (hrest : Moment document rest env' state' bodies now) :
      Moment document (first :: rest) env state bodies now
  /-- The first statement invokes a function whose body has to be run. -/
  | within {targets function location rest env state definition bodies now}
      (hget : state.functions.get? function = some ⟨definition, .idle⟩)
      (hle : targets.length ≤ definition.returns.names.length)
      (hbody : Moment document definition.body .empty (state.setStatus function .running)
        bodies now) :
      Moment document (.invocation targets function location :: rest) env state
        (bodies ++ [function]) now

/-- The moments of `step`, which starts in `state`. -/
def Step.Moment (step : Step ν ε) (state : State ν) (bodies : List String) (now : State ν) : Prop :=
  Run.Moment step.document step.call.list step.call.env (step.call.start state) bodies now

/-! ## Functions -/

variable {document : Document ν ε} {list : List Statement} {env : Env ν} {state now : State ν}
  {bodies running : List String}

/-- However a run comes out, its functions are in order, and extend those it began with. -/
theorem orderly_statements (document : Document ν ε) (list : List Statement) (env : Env ν)
    (h : state.Orderly running) :
    (statements document list env state).2.Orderly running ∧
      state.Extends (statements document list env state).2 :=
  (runs_statements document list env state).orderly h

/-- At all moments the functions that are marked as being run are those whose bodies are being run,
each of them once. -/
theorem Moment.orderly (h : Moment document list env state bodies now)
    (horderly : state.Orderly running) (hnodup : running.Nodup) :
    (bodies ++ running).Nodup ∧ now.Orderly (bodies ++ running) ∧ state.Extends now := by
  induction h generalizing running with
  | here => exact ⟨hnodup, horderly, .refl _⟩
  | @stopped first _ env state _ state' hfirst =>
    have hsingle := orderly_statements document [first] env horderly
    rw [statements_singleton, hfirst] at hsingle
    exact ⟨hnodup, hsingle⟩
  | @later first _ env state _ state' _ _ hfirst _ ih =>
    have hsingle := orderly_statements document [first] env horderly
    rw [statements_singleton, hfirst] at hsingle
    obtain ⟨hdistinct, hnow, hextends⟩ := ih hsingle.1 hnodup
    exact ⟨hdistinct, hnow, hsingle.2.trans hextends⟩
  -- An idle function is not among those that are being run, so its body is run only once.
  | @within _ function _ _ _ state _ bodies now hget _ _ ih =>
    obtain ⟨hdistinct, hnow, hextends⟩ :=
      ih (horderly.start hget) (List.nodup_cons.2 ⟨horderly.not_mem hget, hnodup⟩)
    rw [List.append_assoc, List.singleton_append]
    exact ⟨hdistinct, hnow, (State.Extends.setStatus hget nofun _).trans hextends⟩

/-- What is listed at some moment is still listed when the statements have been run. -/
theorem Moment.extends_statements (h : Moment document list env state bodies now)
    (horderly : state.Orderly running) : now.Extends (statements document list env state).2 := by
  induction h generalizing running with
  | here => exact (orderly_statements document _ _ horderly).2
  | stopped hfirst =>
    rw [statements_cons, hfirst]
    exact .refl _
  | @later first _ env state _ _ _ _ hfirst _ ih =>
    have hsingle := orderly_statements document [first] env horderly
    rw [statements_singleton, hfirst] at hsingle
    rw [statements_cons, hfirst]
    exact ih hsingle.1
  | @within _ function _ rest env state definition _ now hget hle _ ih =>
    have hstart := horderly.start hget
    obtain ⟨hbody, hextends⟩ := orderly_statements document definition.body .empty hstart
    -- The moment is within the body, and what comes after the body extends the table further.
    have hnow := ih hstart
    rw [statements_cons, statement_invocation_of_idle hget hle]
    match houtcome : statements document definition.body .empty
        (state.setStatus function .running) with
    | (.ok inner, state') =>
      rw [houtcome] at hbody hextends hnow
      obtain ⟨hdone, hdoneExtends⟩ := horderly.conclude hget hbody hextends inner
      exact (hnow.trans hdoneExtends).trans (orderly_statements document rest _ hdone).2
    | (.error stop, state') =>
      rw [houtcome] at hbody hextends hnow
      exact hnow.trans (horderly.finish hget hbody hextends .idle nofun nofun).2

/-- After a call the functions are in order, and extend those that the call began with. -/
theorem Step.orderly_next (step : Step ν ε) (h : state.Orderly []) :
    (step.next state).Orderly [] ∧ (step.call.start state).Extends (step.next state) := by
  have hstatements := orderly_statements step.document step.call.list step.call.env
    (step.call.orderly_start h)
  have hfunctions := step.functions_next state
  exact ⟨hstatements.1.of_functions_eq hfunctions,
    hstatements.2.trans (.of_functions_eq hfunctions)⟩

/-- After any number of calls the functions are in order. -/
theorem orderly_after (steps : List (Step ν ε)) (h : state.Orderly []) :
    (after steps state).Orderly [] := by
  induction steps generalizing state with
  | nil => exact h
  | cons step steps ih => exact ih (step.orderly_next h).1

/-- Calls that keep the functions extend them. -/
theorem extends_after {steps : List (Step ν ε)} (hsteps : ∀ step ∈ steps, ¬step.call.Resets)
    (h : state.Orderly []) : state.Extends (after steps state) := by
  induction steps generalizing state with
  | nil => exact .refl _
  | cons step steps ih =>
    obtain ⟨hstep, hlater⟩ := List.forall_mem_cons.1 hsteps
    obtain ⟨hnext, hextends⟩ := step.orderly_next h
    rw [step.call.start_of_not_resets hstep] at hextends
    exact hextends.trans (ih hlater hnext)

/-- Whatever an executor was asked for, and whatever has stopped: between two calls no function is
marked as being run, no name is listed twice, and results are values of the returned names. Up to
the next program that is executed, no function is lost, moved or replaced, and no results are
changed, not even between the moments of a call. During a call the functions that are marked as
being run are those whose bodies are being run, each of them once, and none of these has results. -/
theorem functions_of_session (history : List (Step ν ε)) :
    let state := after history .empty
    state.Orderly [] ∧
      (∀ later : List (Step ν ε), (∀ step ∈ later, ¬step.call.Resets) →
        state.Extends (after later state)) ∧
      ∀ (step : Step ν ε) (bodies : List String) (now : State ν), step.Moment state bodies now →
        bodies.Nodup ∧ now.Orderly bodies ∧ (∀ name ∈ bodies, ¬now.IsDone name) ∧
          (step.call.start state).Extends now ∧ now.Extends (step.next state) := by
  intro state
  have horderly : state.Orderly [] := orderly_after history .empty
  refine ⟨horderly, fun later hlater => extends_after hlater horderly, ?_⟩
  intro step bodies now hmoment
  obtain ⟨hnodup, hnow, hextends⟩ :=
    Moment.orderly hmoment (step.call.orderly_start horderly) List.nodup_nil
  rw [List.append_nil] at hnodup hnow
  have hlater := hmoment.extends_statements (step.call.orderly_start horderly)
  refine ⟨hnodup, hnow, fun name hmem => ?_, hextends,
    hlater.trans (.of_functions_eq (step.functions_next state))⟩
  obtain ⟨definition, hrunning⟩ := (hnow.isRunning_iff name).2 hmem
  exact State.not_isDone hrunning nofun

/-- The document refuses the selector in the body of a function that another one invokes. Both can
be evaluated again afterwards, and then both bodies are being run at the same time. -/
theorem functions_of_session_of_refused_body :
    let document : Document Listing.Item Listing.Refusal := Listing.document ⟨.empty, ["b"]⟩
    let evaluation : Step Listing.Item Listing.Refusal := ⟨document, .evaluate "g"⟩
    let history : List (Step Listing.Item Listing.Refusal) :=
      [⟨document, .statement (.definition "f" [.assignment "a" ⟨"b", .whole, none⟩ none]
          ⟨["a"], none⟩ none) .empty⟩,
        ⟨document, .statement (.definition "g" [.invocation ["c"] "f" none] ⟨["c"], none⟩ none)
          .empty⟩,
        evaluation]
    (after history .empty).Orderly [] ∧ ∃ now,
      evaluation.Moment (after history .empty) ["f", "g"] now ∧ now.Orderly ["f", "g"] := by
  intro document evaluation history
  obtain ⟨horderly, -, hmoments⟩ := functions_of_session history
  have hf : (after (history.take 2) .empty).functions.get? "f" =
      some ⟨⟨"f", [.assignment "a" ⟨"b", .whole, none⟩ none], ⟨["a"], none⟩, none⟩, .idle⟩ := by
    simp [history, after, Step.next, define, State.empty, State.setEntry, Bindings.get?_set_of_ne]
  have hg : (after (history.take 2) .empty).functions.get? "g" =
      some ⟨⟨"g", [.invocation ["c"] "f" none], ⟨["c"], none⟩, none⟩, .idle⟩ := by
    simp [history, after, Step.next, define, State.empty, State.setEntry, Bindings.get?_set_of_ne]
  have hfg := (State.get?_setStatus_of_ne _ .running (show "f" ≠ "g" by simp)).trans hf
  -- The selection is refused, and so both functions are idle again after the evaluation.
  have hlast : (after history .empty).functions = (statement document (.invocation [] "g" none)
      .empty (after (history.take 2) .empty)).2.functions := by
    rw [← statements_singleton]
    exact evaluation.functions_next _
  rw [statement_invocation_of_idle hg (Nat.zero_le _), statements_singleton,
    statement_invocation_of_idle hfg (Nat.le_refl ["c"].length), statements_singleton,
    statement_assignment,
    show select document ⟨"b", .whole, none⟩ _ = (.error (.refused ⟨"b"⟩), _) from rfl] at hlast
  have hg' : (after history .empty).functions.get? "g" =
      some ⟨⟨"g", [.invocation ["c"] "f" none], ⟨["c"], none⟩, none⟩, .idle⟩ := by
    simp [hlast, State.setStatus, hf, hg, State.get?_setEntry_of_ne, State.get?_setEntry_self]
  have hf' : ((after history .empty).setStatus "g" .running).functions.get? "f" =
      some ⟨⟨"f", [.assignment "a" ⟨"b", .whole, none⟩ none], ⟨["a"], none⟩, none⟩, .idle⟩ := by
    rw [State.get?_setStatus_of_ne _ _ (by simp)]
    simp [hlast, State.setStatus, hf, hg, State.get?_setEntry_of_ne, State.get?_setEntry_self]
  have hmoment : evaluation.Moment (after history .empty) ["f", "g"] _ :=
    .within hg' (Nat.zero_le _) (.within hf' (Nat.le_refl _) .here)
  exact ⟨horderly, _, hmoment, (hmoments evaluation _ _ hmoment).2.1⟩

end Extraction.Run
