import Extraction.Check
import Extraction.Proofs.Run.State

/-!
# Running without remembering

The executor that keeps no results: it runs the body of a function, in names of its own, at every
invocation. Of a function it knows the definition, and whether its body is being run.

* `Run.Direct.bindings` runs the statements that bodies hold.
* `Run.Direct.statements` runs the statements of the top level.
* `Run.Direct.run` runs a program.
* `Run.Direct.evaluate` gives the results of one function.

The state that it hands on is there for the queries that the document was asked; it lists no
functions.
-/

namespace Extraction.Run.Direct

variable {ν ε : Type} [Node ν]

/-- Runs assignments and invocations, one after the other, in a scope, and gives the names of the
scope after them. The names in `running` are those of `functions` whose bodies are being run. -/
def bindings (document : Document ν ε) (functions : Bindings Definition) (running : List String) :
    List Statement → Env ν → State ν → Outcome ν ε (Env ν)
  | [], env, state => (.ok env, state)
  | .assignment target selection _ :: rest, env, state =>
    match select document selection state with
    | (.ok value, state') => bindings document functions running rest (env.set target value) state'
    | (.error stop, state') => (.error stop, state')
  | .invocation targets function location :: rest, env, state =>
    match _h : functions.get? function with
    | none => (.error (.fault ⟨.undefinedFunction function, .ofLocation? location⟩), state)
    | some definition =>
      let returned := definition.returns.names
      if returned.length < targets.length then
        (.error (.fault ⟨.arity function returned.length targets.length,
          .ofLocation? location⟩), state)
      else if _hr : running.contains function then
        (.error (.fault ⟨.recursiveInvocation definition.name,
          .ofLocation? definition.location⟩), state)
      else
        match bindings document functions (function :: running) definition.body .empty state with
        | (.ok inner, state') =>
          bindings document functions running rest
            (bindTargets targets (results returned inner) env) state'
        | (.error stop, state') => (.error stop, state')
  | statement :: _, _, state =>
    (.error (.fault ⟨.unexecutable statement.form, .ofLocation? statement.location⟩), state)
termination_by list => (Check.unstarted functions running, list.length)
decreasing_by
  · exact Prod.Lex.right _ (Nat.lt_succ_self _)
  · exact Prod.Lex.left _ _ (Check.unstarted_cons_lt _h _hr)
  · exact Prod.Lex.right _ (Nat.lt_succ_self _)

/-- Runs the statements of the top level on `document`, with the functions that are defined so far.
-/
def statements (document : Document ν ε) :
    List Statement → Bindings Definition → Env ν → State ν → Except (Stop ε) (Env ν)
  | [], _, env, _ => .ok env
  | .definition name body returns location :: rest, functions, env, state =>
    match functions.get? name with
    | some _ => .error (.fault ⟨.duplicateFunction name, .ofLocation? location⟩)
    | none =>
      statements document rest (functions.set name ⟨name, body, returns, location⟩) env state
  | statement :: rest, functions, env, state =>
    match bindings document functions [] [statement] env state with
    | (.ok env', state') => statements document rest functions env' state'
    | (.error stop, _) => .error stop

/-- Runs `program` on `document` with no functions to begin with. -/
def run (program : Program) (document : Document ν ε) : Except (Stop ε) (Env ν) :=
  statements document program.statements .empty .empty .empty

/-- Gives the results of `function` by running the body of its `definition`. -/
def evaluate (document : Document ν ε) (functions : Bindings Definition) (function : String)
    (definition : Definition) : Except (Stop ε) (Results ν) :=
  (bindings document functions [function] definition.body .empty .empty).1.map
    (results definition.returns.names)

/-! ## Answers

What statements come to is stated for every state at once: the answers of a steady document do not
depend on it. -/

/-- The statements of `list` come to `answer`, whatever was done before. -/
def Gives (document : Document ν ε) (functions : Bindings Definition) (running : List String)
    (list : List Statement) (env : Env ν) (answer : Except (Stop ε) (Env ν)) : Prop :=
  ∀ state, (bindings document functions running list env state).1 = answer

variable {document : Document ν ε} {functions : Bindings Definition} {running : List String}
  {rest : List Statement} {env : Env ν} {answer : Except (Stop ε) (Env ν)}

/-- The results of a function whose body comes to its end. -/
theorem evaluate_of_gives {function : String} {definition : Definition}
    (h : Gives document functions [function] definition.body .empty (.ok env)) :
    evaluate document functions function definition =
      .ok (results definition.returns.names env) := by
  rw [evaluate, h .empty]
  rfl

theorem gives_nil : Gives document functions running [] env (.ok env) := by
  intro state
  rw [bindings]

/-- On a steady document an assignment has the value that it has in any state. -/
theorem gives_assignment (hsteady : document.Steady) {target : String} {selection : Selection}
    {location : Option Location} {state : State ν} {value : Value ν}
    (hvalue : (select document selection state).1 = .ok value)
    (hrest : Gives document functions running rest (env.set target value) answer) :
    Gives document functions running (.assignment target selection location :: rest) env
      answer := by
  intro now
  -- The answer in the one state is the answer in the other.
  rw [select_fst_eq hsteady state now] at hvalue
  rw [bindings, show select document selection now = (.ok value, _) from Prod.ext hvalue rfl]
  exact hrest _

/-- On a steady document an assignment stops in every state if it stops in one. -/
theorem gives_assignment_error (hsteady : document.Steady) {target : String}
    {selection : Selection} {location : Option Location} (state : State ν) {stop : Stop ε}
    (hstop : (select document selection state).1 = .error stop) :
    Gives document functions running (.assignment target selection location :: rest) env
      (.error stop) := by
  intro now
  rw [select_fst_eq hsteady state now] at hstop
  rw [bindings, show select document selection now = (.error stop, _) from Prod.ext hstop rfl]

/-- What is neither an assignment nor an invocation stops wherever it is met. -/
theorem gives_unexecutable {first : Statement} (h : ¬first.isBinding) :
    Gives document functions running (first :: rest) env
      (.error (.fault ⟨.unexecutable first.form, .ofLocation? first.location⟩)) := by
  intro state
  cases first with
  | assignment => exact absurd rfl h
  | invocation => exact absurd rfl h
  | returns => rw [bindings] <;> simp
  | definition => rw [bindings] <;> simp
  | bare => rw [bindings] <;> simp

section

variable {targets : List String} {function : String} {location : Option Location}

theorem gives_undefined (h : functions.get? function = none) :
    Gives document functions running (.invocation targets function location :: rest) env
      (.error (.fault ⟨.undefinedFunction function, .ofLocation? location⟩)) := by
  intro state
  rw [bindings]
  split
  · rfl
  · rename_i h'
    simp [h] at h'

variable {definition : Definition} (h : functions.get? function = some definition)

include h

/-- An invocation that asks for more values than the function returns stops. -/
theorem gives_arity (hlt : definition.returns.names.length < targets.length) :
    Gives document functions running (.invocation targets function location :: rest) env
      (.error (.fault ⟨.arity function definition.returns.names.length targets.length,
        .ofLocation? location⟩)) := by
  intro state
  rw [bindings]
  split
  · rename_i h'
    simp [h] at h'
  · rename_i definition' h'
    obtain rfl : definition = definition' := by simpa [h] using h'
    simp only [hlt, if_true]

/-- An invocation of a function whose body is being run stops. -/
theorem gives_recursive (hle : targets.length ≤ definition.returns.names.length)
    (hmem : function ∈ running) :
    Gives document functions running (.invocation targets function location :: rest) env
      (.error (.fault ⟨.recursiveInvocation definition.name,
        .ofLocation? definition.location⟩)) := by
  intro state
  rw [bindings]
  split
  · rename_i h'
    simp [h] at h'
  · rename_i definition' h'
    obtain rfl : definition = definition' := by simpa [h] using h'
    simp [Nat.not_lt.2 hle, hmem]

/-- What an invocation comes to that runs a body. -/
theorem bindings_invocation (hle : targets.length ≤ definition.returns.names.length)
    (hnot : function ∉ running) (env : Env ν) (state : State ν) :
    bindings document functions running (.invocation targets function location :: rest) env state =
      match bindings document functions (function :: running) definition.body .empty state with
      | (.ok inner, state') =>
        bindings document functions running rest
          (bindTargets targets (results definition.returns.names inner) env) state'
      | (.error stop, state') => (.error stop, state') := by
  rw [bindings]
  split
  · rename_i h'
    simp [h] at h'
  · rename_i definition' h'
    obtain rfl : definition = definition' := by simpa [h] using h'
    simp only [Nat.not_lt.2 hle, if_false, List.contains_iff_mem, hnot, dite_false]

/-- An invocation runs the body in a scope of its own, and goes on with the returned values. -/
theorem gives_invocation (hle : targets.length ≤ definition.returns.names.length)
    (hnot : function ∉ running) {inner : Env ν}
    (hbody : Gives document functions (function :: running) definition.body .empty (.ok inner))
    (hrest : Gives document functions running rest
      (bindTargets targets (results definition.returns.names inner) env) answer) :
    Gives document functions running (.invocation targets function location :: rest) env
      answer := by
  intro state
  rw [bindings_invocation h hle hnot,
    show bindings document functions _ definition.body .empty state = (.ok inner, _) from
      Prod.ext (hbody state) rfl]
  exact hrest _

/-- An invocation stops where the body stops. -/
theorem gives_invocation_error (hle : targets.length ≤ definition.returns.names.length)
    (hnot : function ∉ running) {stop : Stop ε}
    (hbody : Gives document functions (function :: running) definition.body .empty
      (.error stop)) :
    Gives document functions running (.invocation targets function location :: rest) env
      (.error stop) := by
  intro state
  rw [bindings_invocation h hle hnot,
    show bindings document functions _ definition.body .empty state = (.error stop, _) from
      Prod.ext (hbody state) rfl]

end

/-- A statement of the top level that defines no function is followed by the others, unless it
stops. -/
theorem statements_cons_of_ne {first : Statement}
    (hfirst : ∀ name body returns location, first ≠ .definition name body returns location)
    (state : State ν) :
    statements document (first :: rest) functions env state =
      match bindings document functions [] [first] env state with
      | (.ok env', state') => statements document rest functions env' state'
      | (.error stop, _) => .error stop := by
  cases first with
  | definition name body returns location => exact absurd rfl (hfirst name body returns location)
  | assignment => rfl
  | invocation => rfl
  | returns => rfl
  | bare => rfl

/-- A statement of the top level that comes to its end, whatever was done before, is followed by
the others. -/
theorem statements_cons_of_gives {first : Statement} {env' : Env ν}
    (hfirst : ∀ name body returns location, first ≠ .definition name body returns location)
    (hgives : Gives document functions [] [first] env (.ok env')) (state : State ν) :
    ∃ state', statements document (first :: rest) functions env state =
      statements document rest functions env' state' := by
  have hbindings : bindings document functions [] [first] env state = (.ok env', _) :=
    Prod.ext (hgives state) rfl
  exact ⟨_, by rw [statements_cons_of_ne hfirst, hbindings]⟩

/-! ## More functions -/

variable {functions' : Bindings Definition}
  (hsub : ∀ name definition, functions.get? name = some definition →
    functions'.get? name = some definition)

include hsub

/-- Statements that come to their end do so with more functions, too. -/
theorem bindings_mono {list : List Statement} {env' : Env ν} {state state' : State ν}
    (h : bindings document functions running list env state = (.ok env', state')) :
    bindings document functions' running list env state = (.ok env', state') := by
  fun_induction bindings document functions running list env state generalizing env' state'
  case case1 running env state =>
    rw [bindings]
    exact h
  case case2 running target selection location rest env state value state₁ hselect ih =>
    rw [bindings, hselect]
    exact ih h
  case case7 running targets function location rest env state definition hget returned hle hnot
      inner state₁ hbody ihbody ihrest =>
    rw [bindings_invocation (hsub _ _ hget) (Nat.not_lt.1 hle) (by simpa using hnot),
      ihbody hbody]
    exact ihrest h
  -- In all other cases the statements stop.
  all_goals cases h

/-- What comes to its end does so with more functions. -/
theorem Gives.mono {list : List Statement} {env' : Env ν}
    (h : Gives document functions running list env (.ok env')) :
    Gives document functions' running list env (.ok env') := fun state =>
  congrArg Prod.fst (bindings_mono hsub (Prod.ext (h state) rfl))

/-- A function has the same results when there are more functions. -/
theorem evaluate_mono {function : String} {definition : Definition} {rs : Results ν}
    (h : evaluate document functions function definition = .ok rs) :
    evaluate document functions' function definition = .ok rs := by
  unfold evaluate at h ⊢
  match hbody : bindings document functions [function] definition.body .empty .empty with
  | (.ok inner, state) => rwa [bindings_mono hsub hbody, ← hbody]
  | (.error stop, state) =>
    rw [hbody] at h
    cases h

end Extraction.Run.Direct
