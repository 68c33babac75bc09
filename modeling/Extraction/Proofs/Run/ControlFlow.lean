import Extraction.Document.Listing
import Extraction.Proofs.Grammar.Image
import Extraction.Proofs.Run.Change

/-!
# The flow of a run

What a run does depends on the document only where the document refuses a query. A run on any
document goes along with the run on the one that matches nothing, up to the first query that is
refused.

* `Run.Follows` relates the outcomes of two runs that go along with each other.
  `Run.Runs.follows` finds it so.
* `run_follows_blank` is the result for programs.
-/

namespace Extraction.Run

variable {ν ε : Type}

/-! ## Two runs -/

/-- The first outcome goes along with the second one, up to the first query that `document` refuses.
-/
inductive Follows (document : Document ν ε) :
    Outcome ν ε (Env ν) → Outcome ν ε (Env ν) → Prop
  /-- Both have come to their ends, with the same names. -/
  | finished {env env' : Env ν} {state state' : State ν} (hnames : env.names = env'.names)
      (h : Abreast document state state') : Follows document (.ok env, state) (.ok env', state')
  /-- Both have stopped for the same reason. -/
  | stopped {stop : Stop ε} {state state' : State ν} (h : Abreast document state state') :
      Follows document (.error stop, state) (.error stop, state')
  /-- The first one has stopped at a query that the document refuses. The second one went on. -/
  | cut {acts : List Act} {query : Query} {refusal : ε} {state : State ν}
      {outcome' : Outcome ν ε (Env ν)} (hanswered : Answered document acts)
      (hrefusal : document.refusal? (acts.filterMap Act.query?) query = some refusal)
      (htrace : state.trace = acts ++ [.query query])
      (hbefore : state.trace <+: outcome'.2.trace) :
      Follows document (.error (.refused refusal), state) outcome'

/-- If the first run has come to its end, so has the second one. -/
theorem Follows.exists_eq_ok {document : Document ν ε} {env : Env ν} {state : State ν}
    {outcome' : Outcome ν ε (Env ν)} (h : Follows document (.ok env, state) outcome') :
    ∃ env' state', outcome' = (.ok env', state') ∧ env.names = env'.names ∧
      Abreast document state state' := by
  cases h with
  | @finished _ env' _ state' hnames habreast => exact ⟨env', state', rfl, hnames, habreast⟩

section

variable {document : Document ν ε} {selectors : String → Prop}
  {outcome outcome' : Outcome ν ε (Env ν)}

/-- If none of the queries of the second run is refused, both runs come to the same. -/
theorem Follows.eq_of_not_refused (h : Follows document outcome outcome')
    (hrefuses : document.Refuses selectors)
    (hnone : ∀ query ∈ outcome'.2.queries, ¬selectors query.selector) :
    outcome.2.trace = outcome'.2.trace ∧
      outcome.1.map Bindings.names = outcome'.1.map Bindings.names := by
  cases h with
  | finished hnames habreast => exact ⟨habreast.trace_eq, congrArg Except.ok hnames⟩
  | stopped habreast => exact ⟨habreast.trace_eq, rfl⟩
  | @cut acts query refusal _ _ _ hrefusal htrace hbefore =>
    have hselectors := (hrefuses (acts.filterMap Act.query?) query).1 (by simp [hrefusal])
    refine absurd hselectors (hnone query ?_)
    have hmem : Act.query query ∈ outcome'.2.trace := hbefore.subset (by simp [htrace])
    exact List.mem_filterMap.2 ⟨.query query, hmem, rfl⟩

/-- If a query of the second run is refused, the first one has stopped at the first such query. -/
theorem Follows.exists_cut (h : Follows document outcome outcome')
    (hrefuses : document.Refuses selectors)
    (hsome : ∃ query ∈ outcome'.2.queries, selectors query.selector) :
    ∃ before query after refusal,
      outcome'.2.trace = before ++ .query query :: after ∧
      (∀ earlier ∈ before.filterMap Act.query?, ¬selectors earlier.selector) ∧
      selectors query.selector ∧
      outcome.2.trace = before ++ [.query query] ∧
      document.refusal? (before.filterMap Act.query?) query = some refusal ∧
      outcome.1 = .error (.refused refusal) := by
  obtain ⟨query, hmem, hselectors⟩ := hsome
  cases h with
  -- A run that comes as far as the other one has made all of its queries, so none is refused.
  | finished _ habreast =>
    rw [State.queries, ← habreast.trace_eq] at hmem
    exact absurd hselectors (habreast.answered.not_refused hrefuses query hmem)
  | stopped habreast =>
    rw [State.queries, ← habreast.trace_eq] at hmem
    exact absurd hselectors (habreast.answered.not_refused hrefuses query hmem)
  | @cut acts last refusal _ _ hanswered hrefusal htrace hbefore =>
    rw [htrace] at hbefore
    obtain ⟨after, hafter⟩ := hbefore
    refine ⟨acts, last, after, refusal, ?_, hanswered.not_refused hrefuses, ?_, htrace, hrefusal,
      rfl⟩
    · rw [← hafter, List.append_assoc, List.singleton_append]
    · exact (hrefuses (acts.filterMap Act.query?) last).1 (by simp [hrefusal])

end

/-! ## Traces -/

variable [Node ν] {document : Document ν ε} {list : List Statement} {env env' : Env ν}
  {state state' : State ν} {outcome outcome' : Outcome ν ε (Env ν)}

/-- What is done by the first statement is done by all of them. -/
theorem trace_prefix_cons (document : Document ν ε) (first : Statement) (rest : List Statement)
    (env : Env ν) (state : State ν) :
    (statement document first env state).2.trace <+:
      (statements document (first :: rest) env state).2.trace := by
  rw [statements_cons]
  match statement document first env state with
  | (.ok env', state') => exact trace_prefix_statements document rest env' state'
  | (.error stop, state') => exact List.prefix_refl _

/-- What is done by the body of a function is done by its invocation. -/
theorem trace_prefix_invocation {targets : List String} {function : String}
    {definition : Definition}
    (hget : state.functions.get? function = some ⟨definition, .idle⟩)
    (hle : targets.length ≤ definition.returns.names.length) (location : Option Location)
    (env : Env ν) :
    (statements document definition.body .empty (state.setStatus function .running)).2.trace <+:
      (statement document (.invocation targets function location) env state).2.trace := by
  rw [statement_invocation_of_idle hget hle]
  match statements document definition.body .empty (state.setStatus function .running) with
  | (.ok inner, state') =>
    rw [State.trace_conclude]
    exact List.prefix_append ..
  | (.error stop, state') =>
    simp only [State.trace_setStatus]
    exact List.prefix_refl _

/-! ## Runs -/

/-- If the body of a function stops, so does its invocation. If it is cut, everything behind it
is. -/
theorem Follows.of_body {targets : List String} {function : String} {location : Option Location}
    {rest : List Statement} {definition : Definition} {stop : Stop ε}
    (hbody : statements .blank definition.body .empty (state'.setStatus function .running) =
      outcome')
    (h : Follows document (.error stop, state) outcome')
    (hget : state'.functions.get? function = some ⟨definition, .idle⟩)
    (hle : targets.length ≤ definition.returns.names.length) :
    Follows document (.error stop, state.setStatus function .idle)
      (statements .blank (.invocation targets function location :: rest) env' state') := by
  cases h with
  | stopped habreast =>
    rw [statements_cons, statement_invocation_of_idle hget hle, hbody]
    exact .stopped (habreast.setStatus rfl)
  | cut hanswered hrefusal htrace hbefore =>
    rw [← hbody] at hbefore
    rw [← State.trace_setStatus state function .idle] at htrace hbefore
    refine .cut hanswered hrefusal htrace (hbefore.trans ?_)
    exact (trace_prefix_invocation hget hle location env').trans (trace_prefix_cons ..)

/-- A run goes along with the run on the document that matches nothing, from states in which the
same was done before. -/
theorem Runs.follows (h : Runs document list env state outcome) (htidy : Tidy list)
    (hnames : env.names = env'.names) (habreast : Abreast document state state') :
    Follows document outcome (statements .blank list env' state') := by
  induction h generalizing env' state' with
  | nil =>
    rw [statements_nil]
    exact .finished hnames habreast
  | @selected target selection _ rest env state value _ _ hselect _ ih =>
    obtain ⟨⟨hforward, -⟩, hrest⟩ := List.forall_mem_cons.1 htidy
    obtain ⟨value', hblank⟩ := exists_select_blank_eq hforward ε state'
    -- The query was answered, or else there would be no value.
    have hanswer : document.refusal? state.queries (query selection) = none := by
      match hrefusal : document.refusal? state.queries (query selection) with
      | none => rfl
      | some refusal =>
        rw [select_of_refusal hrefusal] at hselect
        cases hselect
    rw [statements_cons, statement_assignment, hblank]
    refine ih hrest (Bindings.names_set_eq hnames ..) ?_
    rw [eq_perform_of_select hselect]
    exact habreast.perform hanswer
  | @unselected target selection location rest env state stop _ hselect =>
    obtain ⟨⟨hforward, -⟩, -⟩ := List.forall_mem_cons.1 htidy
    -- Without a negative number, nothing but a refusal stops a selection.
    match hrefusal : document.refusal? state.queries (query selection) with
    | none =>
      obtain ⟨value, hvalue⟩ := exists_select_eq_of_refusal? hforward hrefusal
      rw [hvalue] at hselect
      cases hselect
    | some refusal =>
      rw [select_of_refusal hrefusal] at hselect
      cases hselect
      obtain ⟨value', hblank⟩ := exists_select_blank_eq hforward ε state'
      have hbefore := trace_prefix_cons (.blank : Document ν ε)
        (.assignment target selection location) rest env' state'
      rw [statement_assignment, hblank] at hbefore
      refine .cut habreast.answered hrefusal rfl ?_
      rw [State.perform, habreast.trace_eq]
      exact hbefore
  | stopped hfault =>
    rw [← habreast.fault?_eq] at hfault
    rw [statements_cons, statement_of_fault hfault]
    exact .stopped habreast
  | cached hget hle _ ih =>
    obtain ⟨rs', hget', hlength⟩ := habreast.exists_get?_of_done hget
    rw [statements_cons, statement_invocation_of_done hget' hle]
    exact ih (List.forall_mem_cons.1 htidy).2 (names_bindTargets hnames hlength _)
      (habreast.report _)
  | @evaluated _ function _ _ _ _ definition inner _ _ hget hle _ _ ihbody ih =>
    have hbody : Follows document _ (statements .blank definition.body .empty _) :=
      ihbody (habreast.tidy _ _ hget) rfl (habreast.setStatus rfl)
    -- The body has come to its end, so it was not cut, and the other run is still abreast.
    obtain ⟨inner', state₁, houtcome, hinner, hend⟩ := hbody.exists_eq_ok
    rw [statements_cons, statement_invocation_of_idle (habreast.get?_of_idle hget) hle, houtcome]
    refine ih (List.forall_mem_cons.1 htidy).2 (names_bindTargets hnames ?_ _)
      (hend.conclude hinner)
    rw [results, results, List.length_map, List.length_map]
  | @failed _ _ _ _ _ _ definition _ _ hget hle _ ihbody =>
    have hbody : Follows document _ (statements .blank definition.body .empty _) :=
      ihbody (habreast.tidy _ _ hget) rfl (habreast.setStatus rfl)
    exact hbody.of_body rfl (habreast.get?_of_idle hget) hle
  | @defined name body returns location rest env state _ hget _ ih =>
    obtain ⟨-, hrest⟩ := List.forall_mem_cons.1 htidy
    rw [statements_cons, statement_definition, define]
    simp only [habreast.get?_eq_none hget]
    exact ih hrest hnames (habreast.define ⟨name, body, returns, location⟩ htidy.body)

/-! ## Programs -/

/-- A run of a program goes along with its run on the document that matches nothing. -/
theorem follows_run {program : Program} (htidy : Tidy program.statements)
    (document : Document ν ε) :
    Follows document (run program document) (run program .blank) := by
  have hfollows : Follows document (statements document program.statements .empty (start program))
      (statements .blank program.statements .empty (start program)) :=
    (runs_statements document program.statements .empty (start program)).follows htidy rfl
      (abreast_start document program)
  rw [run_eq, run_eq]
  generalize statements document program.statements .empty (start program) = outcome at hfollows ⊢
  generalize statements (.blank : Document ν ε) program.statements .empty (start program) = outcome'
    at hfollows ⊢
  -- Both runs report the same sizes at the end, if they come to it.
  cases hfollows with
  | @finished env env' state state' hnames h =>
    have hsize : env.size = env'.size := by
      simpa [Bindings.names, Bindings.size] using congrArg List.length hnames
    simp only [hsize, h.size_eq]
    exact .finished hnames (h.report _)
  | stopped h => exact .stopped h
  | cut hanswered hrefusal htrace hbefore =>
    refine .cut hanswered hrefusal htrace (hbefore.trans ?_)
    obtain ⟨stop | env', state'⟩ := outcome'
    · exact List.prefix_refl _
    · exact List.prefix_append ..

theorem tidy_of_parse {source : String} {path : Option String} {program : Program}
    (h : parse source path = .ok program) : Tidy program.statements := by
  intro statement hmem
  have hforward := forward_of_parse h
  refine ⟨hforward statement (Program.mem_everything hmem), fun inner hinner => ?_⟩
  exact ⟨hforward inner (Program.mem_everything_of_mem_body hmem hinner),
    plain_of_parse h statement hmem inner hinner⟩

end Extraction.Run

namespace Extraction

open Run (Act)

/-- What a program that was read from a source does on the document that matches nothing, it does on
every document, unless a query is refused: it makes the same queries, reports the same events, and
binds the same names or stops for the same reason. Otherwise it does the same up to the first query
that is refused, and stops with the refusal of the document. -/
theorem run_follows_blank {ν ε : Type} [Node ν] {source : String} {path : Option String}
    {program : Program} (hparse : parse source path = .ok program) {document : Document ν ε}
    {selectors : String → Prop} (hrefuses : document.Refuses selectors) :
    let blank := run program (.blank : Document ν ε)
    let outcome := run program document
    ((∀ query ∈ blank.2.queries, ¬selectors query.selector) →
      outcome.2.trace = blank.2.trace ∧
        outcome.1.map Bindings.names = blank.1.map Bindings.names) ∧
    ((∃ query ∈ blank.2.queries, selectors query.selector) →
      ∃ before query after refusal,
        blank.2.trace = before ++ .query query :: after ∧
        (∀ earlier ∈ before.filterMap Act.query?, ¬selectors earlier.selector) ∧
        selectors query.selector ∧
        outcome.2.trace = before ++ [.query query] ∧
        document.refusal? (before.filterMap Act.query?) query = some refusal ∧
        outcome.1 = .error (.refused refusal)) := by
  intro blank outcome
  have hfollows : Run.Follows document outcome blank :=
    Run.follows_run (Run.tidy_of_parse hparse) document
  exact ⟨hfollows.eq_of_not_refused hrefuses, hfollows.exists_cut hrefuses⟩

/-- A listing refuses the selectors that it says it refuses. -/
theorem Listing.refuses_document (listing : Listing) :
    listing.document.Refuses (· ∈ listing.refused) := by
  intro earlier query
  by_cases hmem : query.selector ∈ listing.refused
  all_goals
    cases query
    all_goals
      simp only [Query.selector] at hmem
      simp [Document.refusal?, Listing.document, Listing.answer, Query.selector, hmem, Except.map]

/-- The body of a function is cut at its second query. The queries behind it are not made. -/
theorem run_follows_blank_of_refused_selector :
    let source := "def f\n  a = b\n  c = d\nreturn \x7ba, c\x7d\n\nx, y = do f\nz = e"
    let listing : Listing := ⟨.empty, ["d"]⟩
    ∃ program before query after refusal, parse source none = .ok program ∧ query.selector = "d" ∧
      (run program (.blank : Document Listing.Item Listing.Refusal)).2.trace =
        before ++ .query query :: after ∧
      (run program listing.document).2.trace = before ++ [.query query] ∧
      (run program listing.document).1 = .error (.refused refusal) := by
  intro source listing
  have hqueries : (parse source none).toOption.map
      (fun program => (run program (.blank : Document Listing.Item Listing.Refusal)).2.queries) =
        some [.first "b", .first "d", .first "e"] := by decide +kernel
  match hparse : parse source none with
  | .ok program =>
    rw [hparse] at hqueries
    have hblank : (run program (.blank : Document Listing.Item Listing.Refusal)).2.queries =
        [.first "b", .first "d", .first "e"] := Option.some.inj hqueries
    obtain ⟨before, query, after, refusal, htrace, -, hselector, hcut, -, hstop⟩ :=
      (run_follows_blank hparse listing.refuses_document).2
        ⟨.first "d", by simp [hblank], by simp [Query.selector, listing]⟩
    exact ⟨program, before, query, after, refusal, rfl, List.mem_singleton.1 hselector, htrace,
      hcut,
      hstop⟩
  | .error failure =>
    rw [hparse] at hqueries
    cases hqueries

end Extraction
