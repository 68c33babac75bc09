import Extraction.Document.Listing
import Extraction.Proofs.Check.Tracking
import Extraction.Proofs.Run.Behind
import Extraction.Proofs.Run.Chronicle
import Extraction.Proofs.Run.Scopes
import Mathlib.Algebra.Ring.Nat
import Mathlib.Data.List.Dedup

/-!
# What a run costs

Each body is run once, and only if it is needed. What a run asks of the document and what it reports
can therefore be counted in the program: in the statements of its top level, and in the bodies of
the functions that these lead to.

* `Run.Counts` relates a kind of acts to the kind of statements that they are done for.
* `Run.Completes.countP_trace` counts the acts of a kind.
* `Run.Accounts` is what the acts of a run tell, and `Run.execute_accounts` finds it so.
-/

namespace Extraction.Run

variable {ν ε : Type}

/-! ## Kinds of acts -/

/-- Whether an event tells of results that were given to an invocation. -/
def Event.givesResults : Event → Bool
  | .evaluated .. => true
  | .cached _ => true
  | _ => false

/-- The `acts` of a kind are done for the `statements` of a kind, one for each. -/
structure Counts (acts : Act → Bool) (statements : Statement → Bool) : Prop where
  /-- That a program is started is told for no statement. -/
  started : ∀ path statements, acts (.event (.started path statements)) = false
  /-- A query is made for an assignment. -/
  query : ∀ query target selection location,
    acts (.query query) = statements (.assignment target selection location)
  /-- A body is run for an invocation. -/
  evaluated : ∀ name returns targets function location,
    acts (.event (.evaluated name returns)) = statements (.invocation targets function location)
  /-- Results are used again for an invocation. -/
  cached : ∀ name targets function location,
    acts (.event (.cached name)) = statements (.invocation targets function location)
  /-- A function is defined for its definition. -/
  defined : ∀ function returns name body spec location,
    acts (.event (.defined function returns)) = statements (.definition name body spec location)
  /-- That a name was not assigned is told for no statement. -/
  unassigned : ∀ function name, acts (.event (.unassigned function name)) = false

/-- Queries are made for assignments, one for each. -/
theorem counts_queries : Counts (fun act => act.query?.isSome) Statement.isAssignment where
  started _ _ := rfl
  query _ _ _ _ := rfl
  evaluated _ _ _ _ _ := rfl
  cached _ _ _ _ := rfl
  defined _ _ _ _ _ _ := rfl
  unassigned _ _ := rfl

/-- Results are given to invocations, once for each: a body was run, or the results are used again.
-/
theorem counts_results :
    Counts (fun act => (act.event?.map Event.givesResults).getD false) Statement.isInvocation where
  started _ _ := rfl
  query _ _ _ _ := rfl
  evaluated _ _ _ _ _ := rfl
  cached _ _ _ _ := rfl
  defined _ _ _ _ _ _ := rfl
  unassigned _ _ := rfl

/-- The statements of a `kind` in the bodies of `functions`. -/
def load (defined : String → Option Definition) (kind : Statement → Bool)
    (functions : List String) : Nat :=
  (functions.map fun function =>
    ((defined function).elim [] Definition.body).countP kind).sum

/-- The load of `functions ++ more` is that of the two parts together. -/
theorem load_append (defined : String → Option Definition) (kind : Statement → Bool)
    (functions more : List String) :
    load defined kind (functions ++ more) =
      load defined kind functions + load defined kind more := by
  simp [load]

/-- The load of one function is what its body holds of the kind. -/
theorem load_singleton {defined : String → Option Definition} {function : String}
    {definition : Definition} (h : defined function = some definition) (kind : Statement → Bool) :
    load defined kind [function] = definition.body.countP kind := by
  simp [load, h]

/-- At the end of a body there is one act of the kind of its invocation. -/
theorem Counts.countP_conclusion {acts : Act → Bool} {kind : Statement → Bool}
    (h : Counts acts kind) (name : String) (returns : List String) (env : Env ν)
    (targets : List String) (function : String) (location : Option Location) :
    ((conclusion name returns env).map .event).countP acts =
      [Statement.invocation targets function location].countP kind := by
  simp [conclusion, List.countP_cons, h.evaluated name returns.length targets function location,
    List.countP_map, Function.comp_def, h.unassigned]

/-! ## Counting -/

variable [Node ν] {document : Document ν ε} {list : List Statement} {env last : Env ν}
  {state final : State ν} {defined : String → Option Definition}

/-- The acts of a kind that a run adds are done for the statements of a kind among those that are
run, and in the bodies that are run for them. -/
theorem Completes.countP_trace {acts : Act → Bool} {kind : Statement → Bool}
    (h : Completes document list env state last final) (hcounts : Counts acts kind)
    (hregular : Regular defined) (hexpects : Expects defined list state) :
    final.trace.countP acts + load defined kind (evaluations state.events) =
      state.trace.countP acts + list.countP kind +
        load defined kind (evaluations final.events) := by
  induction h with
  | nil => rfl
  | @selected target selection location rest _ state _ _ _ _ hselect _ ih =>
    have hrest := ih (hexpects.of_functions_eq rfl (functions_eq_of_select hselect))
    rw [eq_perform_of_select hselect, State.events_perform_query, State.perform,
      List.countP_append, List.countP_singleton, hcounts.query _ target selection location] at hrest
    rw [List.countP_cons]
    omega
  | @cached targets function location rest _ state definition _ _ _ _ _ _ ih =>
    have hrest := ih (hexpects.of_functions_eq rfl rfl)
    have hevaluations : evaluations [.cached definition.name] = [] := rfl
    rw [State.events_report, evaluations_append, hevaluations, List.append_nil, State.report,
      State.perform, List.countP_append, List.countP_singleton,
      hcounts.cached _ targets function location] at hrest
    rw [List.countP_cons]
    omega
  | @evaluated targets function location rest _ state definition _ _ _ _ hget _ hbody _ ihbody ih =>
    have hdefined : defined _ = some definition := hexpects.agrees _ _ hget
    -- The body is counted when it ends, with all that was run for it.
    have hinner := ihbody (hexpects.body hregular hget)
    rw [State.events_setStatus, State.trace_setStatus] at hinner
    have hrest := ih (hexpects.evaluated hregular rfl hget hbody)
    rw [State.events_conclude, evaluations_append, evaluations_conclusion, load_append,
      hregular.name_eq _ _ hdefined, load_singleton hdefined, State.trace_conclude,
      List.countP_append, hcounts.countP_conclusion _ _ _ targets function location,
      List.countP_singleton] at hrest
    rw [List.countP_cons]
    omega
  | @defined name body returns location rest _ state _ _ hget _ ih =>
    have hrest := ih (hexpects.define hget _)
    have hevaluations : evaluations [.defined name returns.names] = [] := rfl
    rw [State.events_report, State.events_setEntry, evaluations_append, hevaluations,
      List.append_nil, State.report, State.perform, List.countP_append, List.countP_singleton,
      hcounts.defined _ _ name body returns location] at hrest
    rw [List.countP_cons]
    simp only [State.setEntry] at hrest
    omega

/-- A run adds the functions that the statements define, and bodies define none. -/
theorem Completes.size_functions (h : Completes document list env state last final)
    (hregular : Regular defined) (hexpects : Expects defined list state) :
    final.functions.size = state.functions.size + list.countP Statement.isDefinition := by
  induction h with
  | nil => rfl
  | selected hselect _ ih =>
    have hfunctions := functions_eq_of_select hselect
    have hrest := ih (hexpects.of_functions_eq rfl hfunctions)
    rwa [hfunctions] at hrest
  | cached _ _ _ ih => exact ih (hexpects.of_functions_eq rfl rfl)
  | @evaluated _ function _ _ _ state definition _ _ _ _ hget _ hbody _ ihbody ih =>
    have hinner := ihbody (hexpects.body hregular hget)
    -- The body adds no functions, and to mark one and to give it results does not, either.
    have hnone : definition.body.countP Statement.isDefinition = 0 :=
      List.countP_eq_zero.2 fun inner hmem => by
        have hbinding := hregular.isBinding _ _ (hexpects.agrees _ _ hget) inner hmem
        simp [Statement.isDefinition_eq_false_of_isBinding hbinding]
    rw [hnone, Bindings.size_eq_of_names_eq (State.names_setStatus ..)] at hinner
    have hrest := ih (hexpects.evaluated hregular rfl hget hbody)
    rw [Bindings.size_eq_of_names_eq (State.names_conclude ..), hinner] at hrest
    exact hrest
  | defined hget _ ih =>
    have hrest := ih (hexpects.define hget _)
    rw [State.functions_report, State.setEntry, Bindings.size_set_of_none hget] at hrest
    rw [hrest, List.countP_cons_of_pos rfl]
    omega

/-- The names that have values at the end of a run are those that had one, and the targets. -/
theorem Completes.isSome_get? (h : Completes document list env state last final)
    {running : List String} (horderly : state.Orderly running) (name : String) :
    (last.get? name).isSome ↔ (env.get? name).isSome ∨ name ∈ list.flatMap Check.targets := by
  obtain ⟨pairs, hnames, rfl⟩ := h.exists_eq_setAll horderly
  rw [Check.isSome_get?_setAll, hnames]

/-- Statements that are run in a scope without names give values to their targets, each of which is
counted once. -/
theorem Completes.size_env (h : Completes document list .empty state last final)
    {running : List String} (horderly : state.Orderly running) :
    last.size = (list.flatMap Check.targets).dedup.length := by
  -- Neither list has a name twice, so they are as long as each other if they have the same names.
  have hnodup : last.names.Nodup := by
    obtain ⟨pairs, -, rfl⟩ := h.exists_eq_setAll horderly
    have hempty : (Bindings.empty : Env ν).names.Nodup := List.nodup_nil
    exact Bindings.nodup_names_setAll hempty pairs
  have hperm : last.names.Perm (list.flatMap Check.targets).dedup := by
    refine (List.perm_ext_iff_of_nodup hnodup (List.nodup_dedup _)).2 fun name => ?_
    rw [List.mem_dedup, ← Bindings.isSome_get?_iff, h.isSome_get? horderly]
    simp
  rw [← hperm.length_eq, Bindings.names, List.length_map, Bindings.size]

/-! ## Programs -/

/-- What is told by `acts`, those between the start and the end of `program`: a body was run if and
only if the top level leads to it, and it was run once. -/
structure Accounts (program : Program) (acts : List Act) : Prop where
  /-- The bodies that were run are those of the functions that the top level leads to. -/
  mem_evaluations : ∀ function,
    function ∈ evaluations (acts.filterMap Act.event?) ↔ program.LeadsTo function
  /-- Each of them was run once. -/
  nodup : (evaluations (acts.filterMap Act.event?)).Nodup
  /-- That was after the function was defined, and before its results were used again. -/
  history_eq : ∀ function, program.LeadsTo function → ∃ definition count,
    program.definition? function = some definition ∧
      history function (acts.filterMap Act.event?) =
        .defined function definition.returns.names ::
          .evaluated function definition.returns.names.length ::
            List.replicate count (.cached function)
  /-- Results were given to the invocations of the top level, and to those in the bodies. -/
  results : (acts.filterMap Act.event?).countP Event.givesResults =
    program.statements.countP Statement.isInvocation +
      ((evaluations (acts.filterMap Act.event?)).map fun function =>
        (program.body function).countP Statement.isInvocation).sum
  /-- The document was asked for the assignments of the top level, and for those in the bodies. -/
  queries : (acts.filterMap Act.query?).length =
    program.statements.countP Statement.isAssignment +
      ((evaluations (acts.filterMap Act.event?)).map fun function =>
        (program.body function).countP Statement.isAssignment).sum

variable {program : Program}

/-- The state at the end of the statements of a program accounts for them. -/
theorem Completes.accounts (hplain : program.Plain)
    (h : Completes document program.statements .empty (start program) last final) {inner : List Act}
    (htrace : final.trace = (start program : State ν).trace ++ inner) : Accounts program inner := by
  have hexpects : Expects program.definition? program.statements (start program : State ν) :=
    .start program
  have hchronicled := h.chronicled hplain.regular hexpects (.start program)
  obtain ⟨hclosed, -, hinvoked⟩ := h.closed hplain.regular hexpects (.start _ program)
  -- What has results is what the top level leads to.
  have hdone : ∀ function, final.IsDone function ↔ program.LeadsTo function := fun function =>
    ⟨fun hdone => (h.isDone_or_leadsTo hplain.regular hexpects hdone).resolve_left
      (not_isDone_start program function), hclosed.isDone_of_leadsTo hinvoked⟩
  have hevents : final.events = .started program.path program.statements.length ::
      inner.filterMap Act.event? := by
    rw [State.events, htrace]
    rfl
  have hevaluations : evaluations final.events = evaluations (inner.filterMap Act.event?) := by
    rw [hevents]
    rfl
  -- Before the program nothing was counted, so that the balance is about what was added.
  have hcount : ∀ {acts : Act → Bool} {kind : Statement → Bool}, Counts acts kind →
      inner.countP acts = program.statements.countP kind +
        load program.definition? kind (evaluations (inner.filterMap Act.event?)) := by
    intro acts kind hcounts
    have hbalance := h.countP_trace hcounts hplain.regular hexpects
    have hstart : (start program : State ν).trace.countP acts = 0 := by
      simp [start, State.report, State.perform, State.empty, hcounts.started]
    have hnone : evaluations (start program : State ν).events = [] := rfl
    rw [htrace, List.countP_append, hstart, hnone, hevaluations] at hbalance
    simpa [load] using hbalance
  refine ⟨fun function => ?_, ?_, fun function hleads => ?_, ?_, ?_⟩
  · rw [← hevaluations, hchronicled.mem_evaluations, hdone]
  · rw [← hevaluations]
    exact hchronicled.nodup_evaluations
  · obtain ⟨definition, rs, hget⟩ := (hdone function).2 hleads
    obtain ⟨count, hhistory⟩ := hchronicled.exists_history_eq hget
    rw [hevents] at hhistory
    exact ⟨definition, count, h.agrees hplain.regular hexpects _ _ hget, hhistory⟩
  · rw [List.countP_filterMap]
    exact hcount counts_results
  · rw [List.length_filterMap_eq_countP]
    exact hcount counts_queries

/-- A program that is executed to its end, on an executor in any state, is started first and comes
to its end last, with a result for each target of its top level and with all its functions. Between,
each body was run if and only if it was needed, and then once. -/
theorem execute_accounts (hplain : program.Plain) {before after : State ν}
    (h : execute document program before = (.ok env, after)) :
    ∃ inner, Accounts program inner ∧
      after.trace = before.trace ++
        .event (.started program.path program.statements.length) :: inner ++
          [.event (.finished program.path (program.statements.flatMap Check.targets).dedup.length
            (program.statements.countP Statement.isDefinition))] := by
  rw [execute_eq_later, run_eq] at h
  match houtcome : statements (document.later before.queries) program.statements .empty
      (start program) with
  | (.error stop, state) =>
    rw [houtcome] at h
    cases h
  | (.ok last, state) =>
    rw [houtcome] at h
    cases h
    -- What is reported at the end are the sizes of the environment and of the table.
    have hcompletes := completes_iff.2 houtcome
    obtain ⟨inner, hinner⟩ := hcompletes.runs.trace_prefix_outcome
    refine ⟨inner, hcompletes.accounts hplain hinner.symm, ?_⟩
    have hsize : state.functions.size = program.statements.countP Statement.isDefinition := by
      rw [hcompletes.size_functions hplain.regular (.start program)]
      exact Nat.zero_add _
    rw [← hsize, ← hcompletes.size_env (orderly_start program)]
    have htrace : state.trace =
        .event (.started program.path program.statements.length) :: inner := hinner.symm
    simp [State.behind, State.report, State.perform, htrace]

/-- Two functions invoke a third one, which is defined behind them, and one function is not
needed. -/
theorem execute_accounts_of_shared_callee :
    let program : Program :=
      ⟨[.definition "f" [.invocation ["x"] "h" none] ⟨["x"], none⟩ none,
        .definition "g" [.assignment "y" ⟨"p", .whole, none⟩ none, .invocation ["x"] "h" none]
          ⟨["x", "y"], none⟩ none,
        .definition "h" [.assignment "x" ⟨"q", .openSlice 0, none⟩ none] ⟨["x"], none⟩ none,
        .definition "u" [.invocation [] "u" none] ⟨[], none⟩ none,
        .invocation ["a"] "f" none, .invocation ["a", "b"] "g" none], none⟩
    let listing : Listing := ⟨.empty, []⟩
    program.Plain ∧ ∃ env after inner,
      execute listing.document program .empty = (.ok env, after) ∧ Accounts program inner ∧
        after.trace = .event (.started none 6) :: inner ++ [.event (.finished none 2 4)] := by
  intro program listing
  have hplain : program.Plain := by
    simp [program, Program.Plain, Statement.body, Statement.isBinding]
  have hok : (execute listing.document program .empty).1.toBool = true := by decide +kernel
  rcases houtcome : execute listing.document program .empty with ⟨stop | env, after⟩
  · rw [houtcome] at hok
    cases hok
  · obtain ⟨inner, haccounts, htrace⟩ := execute_accounts hplain houtcome
    exact ⟨hplain, env, after, inner, rfl, haccounts, htrace⟩

end Extraction.Run
