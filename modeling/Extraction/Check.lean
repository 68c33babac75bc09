import Extraction.Bindings
import Extraction.ProgramFault

/-!
# Checking programs

Finds the faults of a program without a document, in the order in which a run would meet them.

* `check` goes through the statements. A definition is looked at when it is reached, and the
  body of a function when the first invocation reaches it, with the functions that are defined
  by then.
* `Check.resolve` follows the invocations of a body. `Check.unstarted` bounds how deep it goes.
-/

namespace Extraction

namespace Check

/-- The names that a statement gives values to. -/
def targets : Statement → List String
  | .assignment target _ _ => [target]
  | .invocation targets _ _ => targets
  | _ => []

/-- The place of a failure at a statement of the program at `path` (`where`). The path of the
statement counts before that of the program. -/
def place (path : Option String) : Option Location → Place
  | none => ⟨none, none, path⟩
  | some location =>
    let own := location.path.filter fun path => !path.isEmpty
    { location.place with path := own <|> path }

/-- The number of `functions` whose bodies are not being followed: those that are not `running`. -/
def unstarted (functions : Bindings Definition) (running : List String) : Nat :=
  (functions.names.filter fun name => !running.contains name).length

/-- To follow the body of one more function leaves fewer to be started. -/
theorem unstarted_cons_lt {functions : Bindings Definition} {running : List String}
    {function : String} {definition : Definition} (h : functions.get? function = some definition)
    (hr : ¬running.contains function) :
    unstarted functions (function :: running) < unstarted functions running := by
  have heq : functions.names.filter (fun name => !(function :: running).contains name) =
      (functions.names.filter fun name => !running.contains name).filter fun name =>
        name != function := by
    rw [List.filter_filter]
    congr 1
    funext name
    rw [List.contains_cons, Bool.not_or, bne]
  rw [unstarted, heq]
  exact List.length_filter_lt_length_iff_exists.2
    ⟨function, List.mem_filter.2 ⟨Bindings.mem_names_of_get? h, by simpa using hr⟩, by simp⟩

/-- Follows the invocations among some statements, and those in the bodies they reach (`resolve` and
`check_invocation`). The names in `running` are the functions whose bodies are being followed, and
those in `resolved` the ones whose bodies were followed to their ends; the answer is the latter
after these statements. -/
def resolve (functions : Bindings Definition) (path : Option String) (running : List String) :
    List Statement → List String → Except (Failure ProgramFault) (List String)
  | [], resolved => .ok resolved
  | .invocation targets function location :: rest, resolved =>
    match _h : functions.get? function with
    | none => .error ⟨.undefinedFunction function, place path location⟩
    | some definition =>
      let returned := definition.returns.names.length
      if returned < targets.length then
        .error ⟨.arity function returned targets.length, place path location⟩
      -- A body that was followed to its end has no fault that a second look would find.
      else if resolved.contains function then resolve functions path running rest resolved
      -- The body that is being followed has come back to itself.
      else if _hr : running.contains function then
        .error ⟨.recursiveInvocation function, place path definition.location⟩
      else
        match resolve functions path (function :: running) definition.body resolved with
        | .ok resolved => resolve functions path running rest (function :: resolved)
        | .error failure => .error failure
  | _ :: rest, resolved => resolve functions path running rest resolved
termination_by statements => (unstarted functions running, statements.length)
decreasing_by
  · exact Prod.Lex.right _ (Nat.lt_succ_self _)
  · exact Prod.Lex.left _ _ (unstarted_cons_lt _h _hr)
  · exact Prod.Lex.right _ (Nat.lt_succ_self _)
  · exact Prod.Lex.right _ (Nat.lt_succ_self _)

section

variable {functions : Bindings Definition} {path : Option String} {running targets : List String}
  {function : String} {location : Option Location} {rest : List Statement} {resolved : List String}
  {definition : Definition}

/-- An invocation of a function that is not among `functions` is the fault. -/
theorem resolve_of_undefined (hget : functions.get? function = none) :
    resolve functions path running (.invocation targets function location :: rest) resolved =
      .error ⟨.undefinedFunction function, place path location⟩ := by
  rw [resolve]
  split
  · rfl
  · rename_i hsome
    rw [hget] at hsome
    cases hsome

/-- An invocation that asks for more values than the function returns is the fault, whether its body
was followed or not. -/
theorem resolve_of_arity (hget : functions.get? function = some definition)
    (hlt : definition.returns.names.length < targets.length) :
    resolve functions path running (.invocation targets function location :: rest) resolved =
      .error ⟨.arity function definition.returns.names.length targets.length,
        place path location⟩ := by
  rw [resolve]
  split
  · rename_i hnone
    rw [hget] at hnone
    cases hnone
  · rename_i hsome
    obtain rfl : definition = _ := Option.some.inj (hget.symm.trans hsome)
    exact if_pos hlt

/-- A function that returns enough values is followed, unless it was or is being followed. -/
theorem resolve_of_defined (hget : functions.get? function = some definition)
    (hle : targets.length ≤ definition.returns.names.length) :
    resolve functions path running (.invocation targets function location :: rest) resolved =
      if function ∈ resolved then resolve functions path running rest resolved
      else if function ∈ running then
        .error ⟨.recursiveInvocation function, place path definition.location⟩
      else
        match resolve functions path (function :: running) definition.body resolved with
        | .ok resolved => resolve functions path running rest (function :: resolved)
        | .error failure => .error failure := by
  rw [resolve]
  split
  · rename_i hnone
    rw [hget] at hnone
    cases hnone
  · rename_i hsome
    obtain rfl : definition = _ := Option.some.inj (hget.symm.trans hsome)
    simp only [Nat.not_lt.2 hle, if_false, List.contains_iff_mem, dite_eq_ite]

end

/-- The first of the returned names that the body of `definition` never assigns. -/
def unassigned? (definition : Definition) : Option String :=
  let assigned := definition.body.flatMap targets
  definition.returns.names.find? fun name => !assigned.contains name

/-- What is known of a program up to some statement: the tables that `check` keeps. -/
structure State where
  /-- The functions that are defined. -/
  functions : Bindings Definition
  /-- The functions whose bodies were followed to their ends. -/
  resolved : List String

/-- Looks at `definition`, and adds it to the functions of `state` (`check_function`). -/
def define (path : Option String) (state : State) (definition : Definition) :
    Except (Failure ProgramFault) State :=
  match state.functions.get? definition.name with
  | some _ => .error ⟨.duplicateFunction definition.name, place path definition.location⟩
  | none =>
    match unassigned? definition with
    | some name =>
      .error ⟨.undefinedName definition.name name, place path definition.returns.location⟩
    | none => .ok { state with functions := state.functions.set definition.name definition }

/-- Looks at a statement of the top level, and gives what is known after it. An assignment tells
nothing. -/
def step (path : Option String) (state : State) : Statement →
    Except (Failure ProgramFault) State
  | .definition name body returns location => define path state ⟨name, body, returns, location⟩
  | .invocation targets function location =>
    (resolve state.functions path [] [.invocation targets function location] state.resolved).map
      fun resolved => { state with resolved := resolved }
  | .assignment .. => .ok state
  | statement => .error ⟨.unexecutable statement.form, place path statement.location⟩

/-- Looks at the statements of the top level, one after the other, with what is known before them.
-/
def steps (path : Option String) : State → List Statement → Except (Failure ProgramFault) State
  | state, [] => .ok state
  | state, statement :: rest =>
    match step path state statement with
    | .ok state => steps path state rest
    | .error failure => .error failure

end Check

/-- Finds the first fault of `program` that needs no document to be found (`check`). -/
def check (program : Program) : Except (Failure ProgramFault) Unit :=
  (Check.steps program.path ⟨.empty, []⟩ program.statements).map fun _ => ()

end Extraction
