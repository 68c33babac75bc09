import Extraction.Document.Listing
import Extraction.Proofs.Run.Direct

/-!
# Results that are used again

To use the results of a function again is not to be told from running its body again, on a
document that answers alike in all states.

* `Run.Mirrors` is the invariant: the body of a function that has results comes to them again, as
  long as no function is being run that has results.
* `Run.answers_statements` is what a run of assignments and invocations comes to beside the
  executor that keeps no results.
* `run_eq_direct_run` is the result for programs.
-/

namespace Extraction.Run

open Direct (Gives)

variable {ν ε : Type}

/-! ## What a run remembers -/

/-- In `state` there are results of none of the functions `names`. -/
def State.Apart (state : State ν) (names : List String) : Prop :=
  ∀ name ∈ names, ¬state.IsDone name

/-- What had results in `state` has them in `state'`. -/
def State.Keeps (state state' : State ν) : Prop := ∀ name, state.IsDone name → state'.IsDone name

variable {state state' state'' : State ν} {name : String} {definition : Definition}
  {names : List String}

theorem State.Keeps.refl (state : State ν) : state.Keeps state := fun _ hold => hold

theorem State.Keeps.trans (h : state.Keeps state') (h' : state'.Keeps state'') :
    state.Keeps state'' := fun name hold => h' name (h name hold)

/-- States with the same functions keep the same results. -/
theorem State.Keeps.of_functions_eq (hfunctions : state'.functions = state.functions) :
    state.Keeps state' := by
  intro name hdone
  rwa [State.IsDone, hfunctions]

/-- To change a function that has no results keeps those of the others. -/
theorem State.keeps_of_ne (hnot : ¬state.IsDone name)
    (hothers : ∀ other, other ≠ name →
      state'.functions.get? other = state.functions.get? other) : state.Keeps state' := by
  rintro other ⟨old, rs, hget⟩
  have hne : other ≠ name := by
    rintro rfl
    exact hnot ⟨old, rs, hget⟩
  exact ⟨old, rs, (hothers other hne).trans hget⟩

/-- Functions that have no results later had none before. -/
theorem State.Apart.of_keeps (h : state'.Apart names) (hkeeps : state.Keeps state') :
    state.Apart names := fun name hmem hold => h name hmem (hkeeps name hold)

variable [Node ν]

/-- How far a run has come with the function `name`, and what that means for one that keeps no
results: a body that has come to its end does so again, whichever functions without results are
being run. -/
def Settled (document : Document ν ε) (functions : Bindings Definition) (running : List String)
    (state : State ν) (name : String) (definition : Definition) : Status ν → Prop
  | .idle => name ∉ running
  | .running => name ∈ running
  | .done rs => name ∉ running ∧ ∃ env, rs = results definition.returns.names env ∧
      ∀ others, state.Apart others →
        Gives document functions (name :: others) definition.body .empty (.ok env)

/-- What is known of a function stays so while others come further and more are defined. -/
theorem Settled.mono {document : Document ν ε} {functions functions' : Bindings Definition}
    {running running' : List String} {status : Status ν}
    (h : Settled document functions running state name definition status)
    (hrunning : name ∈ running' ↔ name ∈ running)
    (hkeeps : state.Keeps state')
    (hsub : ∀ other old, functions.get? other = some old → functions'.get? other = some old) :
    Settled document functions' running' state' name definition status := by
  cases status with
  | idle => exact mt hrunning.1 h
  | running => exact hrunning.2 h
  | done rs =>
    obtain ⟨hnotin, env, hrs, hgives⟩ := h
    refine ⟨mt hrunning.1 hnotin, env, hrs, fun others hapart => ?_⟩
    exact (hgives others (hapart.of_keeps hkeeps)).mono hsub

/-- What a run that keeps results has to do with one that keeps none: `functions` are defined in
both, and of each it is known how far its body has come in `state`. -/
def Mirrors (document : Document ν ε) (functions : Bindings Definition) (running : List String)
    (state : State ν) : Prop :=
  state.Lists functions (Settled document functions running state)

/-- What a run of `list`, which holds assignments and invocations, comes to: it ends with names that
the executor without results comes to as well, whichever functions without results are being run; or
else it stops, and so does that executor. -/
def Answers (document : Document ν ε) (functions : Bindings Definition) (running : List String)
    (list : List Statement) (env : Env ν) (state : State ν) : Prop :=
  (∃ env' state', statements document list env state = (.ok env', state') ∧
    Mirrors document functions running state' ∧ state.Keeps state' ∧
    ∀ others, state'.Apart others → Gives document functions others list env (.ok env')) ∨
  ∃ stop state', statements document list env state = (.error stop, state') ∧
    Gives document functions running list env (.error stop)

variable {document : Document ν ε} {functions : Bindings Definition} {running : List String}
  {env env' : Env ν}

/-! ## Steps of the invariant -/

namespace Mirrors

/-- No function that is being run has results. -/
theorem apart (h : Mirrors document functions running state) : state.Apart running := by
  -- A function with results that were being run would be settled as done, and so not running.
  rintro name hmem ⟨definition, rs, hget⟩
  obtain ⟨-, hnotin, -⟩ := State.Lists.of_get? h hget
  exact hnotin hmem

/-- `Mirrors` depends on the functions of a state alone. -/
theorem of_functions_eq (h : Mirrors document functions running state)
    (hfunctions : state'.functions = state.functions) :
    Mirrors document functions running state' := by
  obtain ⟨functions', trace⟩ := state'
  obtain rfl : functions' = state.functions := hfunctions
  exact ⟨h.undefined, h.defined⟩

/-- A function that has no results comes further. -/
theorem of_status {running' : List String} {status : Status ν}
    (h : Mirrors document functions running state)
    (hname : functions.get? name = some definition) (hnot : ¬state.IsDone name)
    (hself : state'.functions.get? name = some ⟨definition, status⟩)
    (hothers : ∀ other, other ≠ name →
      state'.functions.get? other = state.functions.get? other)
    (hsettled : Settled document functions running' state' name definition status)
    (hrunning : ∀ other, other ≠ name → (other ∈ running' ↔ other ∈ running)) :
    Mirrors document functions running' state' ∧ state.Keeps state' := by
  have hkeeps := State.keeps_of_ne hnot hothers
  refine ⟨State.Lists.of_status h hname hself hothers hsettled fun other _ _ hne hold => ?_, hkeeps⟩
  exact hold.mono (hrunning other hne) hkeeps fun _ _ hget => hget

/-- The body of a function is started. -/
theorem start (h : Mirrors document functions running state)
    (hname : functions.get? name = some definition)
    (hget : state.functions.get? name = some ⟨definition, .idle⟩) :
    Mirrors document functions (name :: running) (state.setStatus name .running) ∧
      state.Keeps (state.setStatus name .running) :=
  h.of_status hname (State.not_isDone hget nofun) (State.get?_setStatus_self hget .running)
    (fun _ hne => State.get?_setStatus_of_ne _ _ hne) List.mem_cons_self
    (fun other hne => by simp [hne])

/-- The body of a function has come to its end. That no function with results was being run then
is what lets the body come to its end again. -/
theorem conclude (h : Mirrors document functions (name :: running) state)
    (hname : functions.get? name = some definition) (hnotin : name ∉ running)
    (hgives : ∀ others, state.Apart others →
      Gives document functions others definition.body .empty (.ok env)) :
    Mirrors document functions running (Run.conclude name definition env state) ∧
      state.Keeps (Run.conclude name definition env state) := by
  have hnot : ¬state.IsDone name := h.apart name List.mem_cons_self
  obtain ⟨status, hget, -⟩ := h.defined name definition hname
  have hself := State.get?_conclude_self hget definition env
  have hothers : ∀ other, other ≠ name →
      (Run.conclude name definition env state).functions.get? other =
        state.functions.get? other := fun other hne => State.get?_conclude_of_ne _ _ _ hne
  refine h.of_status hname hnot hself hothers ⟨hnotin, env, rfl, fun others hapart => ?_⟩
    (fun other hne => by simp [hne])
  -- Before the end this function had no results either, so it may stand among the running ones.
  exact hgives _ (List.forall_mem_cons.2 ⟨hnot, hapart.of_keeps (State.keeps_of_ne hnot hothers)⟩)

/-- The body of a function fails, and the function is idle again. What the body has led to is
kept. -/
theorem fail (h : Mirrors document functions (name :: running) state)
    (hname : functions.get? name = some definition) (hnotin : name ∉ running) :
    Mirrors document functions running (state.setStatus name .idle) ∧
      state.Keeps (state.setStatus name .idle) := by
  obtain ⟨status, hget, -⟩ := h.defined name definition hname
  exact h.of_status hname (h.apart name List.mem_cons_self) (State.get?_setStatus_self hget .idle)
    (fun _ hne => State.get?_setStatus_of_ne _ _ hne) hnotin fun other hne => by simp [hne]

/-- To invoke a function that has results is to give these to the targets. -/
theorem gives_invocation (h : Mirrors document functions running state)
    (hname : functions.get? name = some definition) {rs : Results ν}
    (hget : state.functions.get? name = some ⟨definition, .done rs⟩) {targets : List String}
    (hle : targets.length ≤ definition.returns.names.length) {location : Option Location}
    {rest : List Statement} {others : List String} {answer : Except (Stop ε) (Env ν)}
    (hapart : state.Apart others)
    (hrest : Gives document functions others rest (bindTargets targets rs env) answer) :
    Gives document functions others (.invocation targets name location :: rest) env answer := by
  -- The body comes to the names that the results were taken from.
  obtain ⟨-, -, inner, rfl, hgives⟩ := State.Lists.of_get? h hget
  exact Direct.gives_invocation hname hle (fun hmem => hapart name hmem ⟨definition, _, hget⟩)
    (hgives others hapart) hrest

end Mirrors

/-! ## Bodies -/

/-- Where a run goes on from the first statement to the others, and the executor without results
does so too, the answer is that of the others. -/
theorem Answers.cons {first : Statement} {rest : List Statement}
    (hrun : statement document first env state = (.ok env', state'))
    (hmirrors : Mirrors document functions running state')
    (hkeeps : state.Keeps state')
    (hgives : ∀ others answer, state'.Apart others →
      Gives document functions others rest env' answer →
      Gives document functions others (first :: rest) env answer)
    (hrest : Answers document functions running rest env' state') :
    Answers document functions running (first :: rest) env state := by
  rcases hrest with
    ⟨env₂, state₂, hrun₂, hmirrors₂, hkeeps₂, hgives₂⟩ | ⟨stop, state₂, hrun₂, hstop⟩
  · refine .inl ⟨env₂, state₂, ?_, hmirrors₂, hkeeps.trans hkeeps₂, fun others hapart => ?_⟩
    · rw [statements_cons, hrun]
      exact hrun₂
    · exact hgives others _ (hapart.of_keeps hkeeps₂) (hgives₂ others hapart)
  · refine .inr ⟨stop, state₂, ?_, hgives running _ hmirrors.apart hstop⟩
    rw [statements_cons, hrun]
    exact hrun₂

/-- Where a run stops at the first statement, and so does the executor without results, the answer
is that stop. -/
theorem Answers.of_error {first : Statement} {rest : List Statement} {stop : Stop ε}
    (hrun : statement document first env state = (.error stop, state'))
    (hgives : Gives document functions running (first :: rest) env (.error stop)) :
    Answers document functions running (first :: rest) env state := by
  refine .inr ⟨stop, state', ?_, hgives⟩
  rw [statements_cons, hrun]

/-- The bodies of `functions` hold assignments and invocations. -/
def PlainBodies (functions : Bindings Definition) : Prop :=
  ∀ name definition, functions.get? name = some definition →
    ∀ statement ∈ definition.body, statement.isBinding

/-- On a steady document an assignment answers as the statements behind it do, or both executors
stop at it. -/
theorem answers_assignment (hsteady : document.Steady)
    (h : Mirrors document functions running state) (target : String) (selection : Selection)
    (location : Option Location) {rest : List Statement}
    (hrest : ∀ env state, Mirrors document functions running state →
      Answers document functions running rest env state) :
    Answers document functions running (.assignment target selection location :: rest) env
      state := by
  have hrun := statement_assignment document env state target selection location
  match hselect : select document selection state with
  | (.ok value, state') =>
    rw [hselect] at hrun
    have hvalue : (select document selection state).1 = .ok value := by rw [hselect]
    have hfunctions := functions_eq_of_select hselect
    have hmirrors := h.of_functions_eq hfunctions
    exact Answers.cons hrun hmirrors (.of_functions_eq hfunctions)
      (fun others answer _ => Direct.gives_assignment hsteady hvalue) (hrest _ _ hmirrors)
  | (.error stop, state') =>
    rw [hselect] at hrun
    exact Answers.of_error hrun
      (Direct.gives_assignment_error hsteady state (by rw [hselect]))

/-- An invocation of a function whose body has not been run runs the body first. -/
theorem answers_invocation_of_idle (h : Mirrors document functions running state)
    {targets : List String} {function : String} {location : Option Location}
    (hname : functions.get? function = some definition)
    (hget : state.functions.get? function = some ⟨definition, .idle⟩)
    (hle : targets.length ≤ definition.returns.names.length) (hnotin : function ∉ running)
    {rest : List Statement}
    (hbody : Answers document functions (function :: running) definition.body .empty
      (state.setStatus function .running))
    (hrest : ∀ env state, Mirrors document functions running state →
      Answers document functions running rest env state) :
    Answers document functions running (.invocation targets function location :: rest) env
      state := by
  have hrun : statement document (.invocation targets function location) env state = _ :=
    statement_invocation_of_idle hget hle
  obtain ⟨-, hkeeps⟩ := h.start hname hget
  rcases hbody with
    ⟨inner, state₁, hbody, hmirrors₁, hkeeps₁, hgives⟩ | ⟨stop, state₁, hbody, hstop⟩
  -- The results that are kept now are those that any later run of the body comes to.
  · rw [hbody] at hrun
    obtain ⟨hmirrors₂, hkeeps₂⟩ := hmirrors₁.conclude hname hnotin hgives
    obtain ⟨status, hget₁, -⟩ := hmirrors₁.defined function definition hname
    have hget₂ := State.get?_conclude_self hget₁ definition inner
    exact Answers.cons hrun hmirrors₂ ((hkeeps.trans hkeeps₁).trans hkeeps₂)
      (fun _ _ => hmirrors₂.gives_invocation hname hget₂ hle) (hrest _ _ hmirrors₂)
  · rw [hbody] at hrun
    exact Answers.of_error hrun (Direct.gives_invocation_error hname hle hnotin hstop)

/-- An invocation of a function that is defined answers as its body does, if that is to be run. -/
theorem answers_invocation (h : Mirrors document functions running state) {targets : List String}
    {function : String} {location : Option Location}
    (hname : functions.get? function = some definition) {rest : List Statement}
    (hbody : function ∉ running → ∀ state, Mirrors document functions (function :: running) state →
      Answers document functions (function :: running) definition.body .empty state)
    (hrest : ∀ env state, Mirrors document functions running state →
      Answers document functions running rest env state) :
    Answers document functions running (.invocation targets function location :: rest) env
      state := by
  obtain ⟨status, hget, hsettled⟩ := h.defined function definition hname
  by_cases hlt : definition.returns.names.length < targets.length
  · exact Answers.of_error (statement_invocation_of_arity _ _ _ hget hlt)
      (Direct.gives_arity hname hlt)
  have hle := Nat.not_lt.1 hlt
  cases status with
  -- The run takes the results. Without them, the body comes to them again.
  | done rs =>
    have hmirrors : Mirrors document functions running
        (state.report (.cached definition.name)) := h.of_functions_eq rfl
    exact Answers.cons (statement_invocation_of_done hget hle) hmirrors (State.Keeps.refl state)
      (fun _ _ => hmirrors.gives_invocation hname hget hle) (hrest _ _ hmirrors)
  -- The invocation comes from within the body, and both stop.
  | running =>
    exact Answers.of_error (statement_invocation_of_running hget hle)
      (Direct.gives_recursive hname hle hsettled)
  | idle =>
    obtain ⟨hstart, -⟩ := h.start hname hget
    exact answers_invocation_of_idle h hname hget hle hsettled (hbody hsettled _ hstart) hrest

/-- What a run of assignments and invocations comes to. The recursion is that of the executor
without results: into the bodies of functions that are not being run, and along the list. -/
theorem answers_statements (hsteady : document.Steady) (hbodies : PlainBodies functions)
    (running : List String) (list : List Statement)
    (hlist : ∀ statement ∈ list, statement.isBinding) (env : Env ν) (state : State ν)
    (h : Mirrors document functions running state) :
    Answers document functions running list env state :=
  match list, hlist with
  | [], _ =>
    .inl ⟨env, state, statements_nil .., h, State.Keeps.refl state, fun _ _ => Direct.gives_nil⟩
  | .assignment target selection location :: rest, hlist =>
    answers_assignment hsteady h target selection location fun env state =>
      answers_statements hsteady hbodies running rest
        (fun statement hmem => hlist statement (List.mem_cons_of_mem _ hmem)) env state
  | .invocation targets function location :: rest, hlist => by
    match hname : functions.get? function with
    | none =>
      exact Answers.of_error (statement_invocation_of_undefined _ _ _ (h.undefined _ hname))
        (Direct.gives_undefined hname)
    | some definition =>
      refine answers_invocation h hname (fun hnotin => ?_) ?_
      · have hnew : ¬running.contains function := by simpa using hnotin
        exact answers_statements hsteady hbodies (function :: running) definition.body
          (hbodies function definition hname) .empty
      · exact answers_statements hsteady hbodies running rest
          (fun statement hmem => hlist statement (List.mem_cons_of_mem _ hmem))
  | .returns spec :: _, hlist => nomatch hlist _ List.mem_cons_self
  | .definition .. :: _, hlist => nomatch hlist _ List.mem_cons_self
  | .bare :: _, hlist => nomatch hlist _ List.mem_cons_self
termination_by (Check.unstarted functions running, list.length)
decreasing_by
  · exact Prod.Lex.right _ (Nat.lt_succ_self _)
  -- A body is run with one function less that is not being run.
  · exact Prod.Lex.left _ _ (Check.unstarted_cons_lt hname hnew)
  · exact Prod.Lex.right _ (Nat.lt_succ_self _)

/-! ## The top level -/

/-- A function is defined for the first time. Bodies that come to their ends still do. -/
theorem Mirrors.define (h : Mirrors document functions [] state) (definition : Definition)
    (hnone : functions.get? definition.name = none) :
    Mirrors document (functions.set definition.name definition) []
      ((state.setEntry definition.name ⟨definition, .idle⟩).report
        (.defined definition.name definition.returns.names)) := by
  have hsub : ∀ name old, functions.get? name = some old →
      (functions.set definition.name definition).get? name = some old := by
    intro name old hget
    refine Bindings.get?_set_eq_some_iff.2 (.inr ⟨?_, hget⟩)
    rintro rfl
    rw [hnone] at hget
    cases hget
  have hnot : ¬state.IsDone definition.name := by
    rintro ⟨old, rs, hget⟩
    rw [h.undefined _ hnone] at hget
    cases hget
  have hkeeps : state.Keeps (state.setEntry definition.name ⟨definition, .idle⟩) :=
    State.keeps_of_ne hnot fun _ hne => State.get?_setEntry_of_ne _ _ hne
  exact State.Lists.define h definition List.not_mem_nil fun _ _ _ _ hold =>
    hold.mono Iff.rfl hkeeps hsub

theorem PlainBodies.set (hbodies : PlainBodies functions) (definition : Definition)
    (hplain : ∀ statement ∈ definition.body, statement.isBinding) :
    PlainBodies (functions.set definition.name definition) := by
  intro name other hname
  rcases Bindings.get?_set_eq_some_iff.1 hname with ⟨-, rfl⟩ | ⟨-, hname⟩
  · exact hplain
  · exact hbodies name other hname

/-- A statement of the top level that defines no function answers as it does without results. -/
theorem answers_singleton (hsteady : document.Steady) (hbodies : PlainBodies functions)
    (h : Mirrors document functions [] state) (first : Statement)
    (hfirst : ∀ name body returns location, first ≠ .definition name body returns location)
    (env : Env ν) :
    Answers document functions [] [first] env state := by
  by_cases hbinding : first.isBinding
  · exact answers_statements hsteady hbodies [] [first] (by simpa using hbinding) env state h
  · have hgives : Gives document functions [] [first] env _ :=
      Direct.gives_unexecutable hbinding
    cases first with
    | assignment => exact absurd rfl hbinding
    | invocation => exact absurd rfl hbinding
    | returns spec => exact Answers.of_error (statement_returns ..) hgives
    | definition name body returns location =>
      exact absurd rfl (hfirst name body returns location)
    | bare => exact Answers.of_error (statement_bare ..) hgives

/-- The statements of the top level come to what they come to without results. -/
theorem statements_fst_eq (hsteady : document.Steady) {list : List Statement}
    (hplain : ∀ statement ∈ list, ∀ inner ∈ statement.body, inner.isBinding)
    (hbodies : PlainBodies functions) (h : Mirrors document functions [] state) (env : Env ν)
    (now : State ν) :
    (statements document list env state).1 =
      Direct.statements document list functions env now := by
  induction list generalizing functions state env now with
  | nil =>
    rw [statements_nil]
    rfl
  | cons first rest ih =>
    have hrest := fun statement hmem => hplain statement (List.mem_cons_of_mem _ hmem)
    -- What a statement gives without results, it gives in every state, and so in `now`.
    have hother : (∀ name body returns location,
        first ≠ .definition name body returns location) →
        (statements document (first :: rest) env state).1 =
          Direct.statements document (first :: rest) functions env now := by
      intro hfirst
      rw [statements_cons]
      rcases answers_singleton hsteady hbodies h first hfirst env with
        ⟨env', state', hrun, hmirrors, -, hgives⟩ | ⟨stop, state', hrun, hgives⟩
      · rw [statements_singleton] at hrun
        obtain ⟨later, hlater⟩ := Direct.statements_cons_of_gives hfirst (hgives [] nofun) now
        rw [hrun, hlater]
        exact ih hrest hbodies hmirrors env' later
      · rw [statements_singleton] at hrun
        rw [hrun, Direct.statements_cons_of_ne hfirst,
          show Direct.bindings document functions [] [first] env now = (.error stop, _) from
            Prod.ext (hgives now) rfl]
    cases first with
    | definition name body returns location =>
      rw [statements_cons, statement_definition, define, Direct.statements]
      match hget : functions.get? name with
      | some old =>
        obtain ⟨status, hold, -⟩ := h.defined name old hget
        simp only [hold]
      | none =>
        simp only [h.undefined name hget]
        exact ih hrest
          (hbodies.set ⟨name, body, returns, location⟩ (hplain _ List.mem_cons_self))
          (h.define ⟨name, body, returns, location⟩ hget) env now
    | assignment => exact hother nofun
    | invocation => exact hother nofun
    | returns => exact hother nofun
    | bare => exact hother nofun

end Extraction.Run

namespace Extraction

variable {ν ε : Type} [Node ν]

/-- On a document that answers alike in all states, a run of a program whose bodies hold only
assignments and invocations comes to what it comes to when no results are kept: to the same names
with the same values, in the same order, or to the same reason to stop. -/
theorem run_eq_direct_run {program : Program} {document : Document ν ε} (hplain : program.Plain)
    (hsteady : document.Steady) : (run program document).1 = Run.Direct.run program document := by
  have hstart : Run.Mirrors document .empty [] (Run.start program) :=
    ⟨fun _ _ => rfl, fun _ _ hget => by cases hget⟩
  have heq := Run.statements_fst_eq hsteady hplain (fun _ _ hget => by cases hget) hstart .empty
    .empty
  rw [Run.run_eq, Run.Direct.run, ← heq]
  match Run.statements document program.statements .empty (Run.start program) with
  | (.ok env, state) => rfl
  | (.error stop, state) => rfl

/-- A listing answers alike in all states. -/
theorem Listing.steady_document (listing : Listing) : listing.document.Steady where
  first_eq _ _ _ := rfl
  all_eq _ _ _ := rfl

/-- A function that is invoked twice, the second time by another one, has the same results both
times, kept or not. -/
theorem run_eq_direct_run_of_nested_invocation :
    let program : Program :=
      ⟨[.definition "f" [.assignment "a" ⟨"b", .whole, none⟩ none] ⟨["a"], none⟩ none,
        .definition "g" [.invocation ["c"] "f" none] ⟨["c"], none⟩ none,
        .invocation ["x"] "f" none, .invocation ["y"] "g" none], none⟩
    let listing : Listing := ⟨.empty, []⟩
    program.Plain ∧ listing.document.Steady ∧
      (run program listing.document).1 =
        .ok ⟨[("x", .leaf .absent), ("y", .leaf .absent)]⟩ := by
  intro program listing
  have hplain : program.Plain := by
    simp [program, Program.Plain, Statement.body, Statement.isBinding]
  refine ⟨hplain, listing.steady_document, ?_⟩
  rw [run_eq_direct_run hplain listing.steady_document]
  let functions : Bindings Definition :=
    ⟨[("f", ⟨"f", [.assignment "a" ⟨"b", .whole, none⟩ none], ⟨["a"], none⟩, none⟩),
      ("g", ⟨"g", [.invocation ["c"] "f" none], ⟨["c"], none⟩, none⟩)]⟩
  have hf {running : List String} {target : String} {env : Run.Env Listing.Item}
      (hnot : "f" ∉ running) :
      Run.Direct.Gives listing.document functions running [.invocation [target] "f" none] env
        (.ok (env.set target (.leaf .absent))) := by
    have hvalue : (Run.select listing.document ⟨"b", .whole, none⟩ .empty).1 =
        .ok (.leaf .absent) := rfl
    exact Run.Direct.gives_invocation rfl (Nat.le_refl _) hnot
      (Run.Direct.gives_assignment listing.steady_document hvalue Run.Direct.gives_nil)
      Run.Direct.gives_nil
  have hg : Run.Direct.Gives listing.document functions [] [.invocation ["y"] "g" none]
      ⟨[("x", .leaf .absent)]⟩ (.ok ⟨[("x", .leaf .absent), ("y", .leaf .absent)]⟩) :=
    Run.Direct.gives_invocation rfl (Nat.le_refl _) List.not_mem_nil (hf (by simp))
      Run.Direct.gives_nil
  have hstart : Run.Direct.run program listing.document =
      Run.Direct.statements listing.document
        [.invocation ["x"] "f" none, .invocation ["y"] "g" none] functions .empty .empty := rfl
  obtain ⟨state, hx⟩ :=
    Run.Direct.statements_cons_of_gives (by simp) (hf List.not_mem_nil) .empty
  obtain ⟨state', hy⟩ := Run.Direct.statements_cons_of_gives (by simp) hg state
  rw [hstart, hx]
  exact hy

end Extraction
