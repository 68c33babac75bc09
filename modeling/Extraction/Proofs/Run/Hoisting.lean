import Extraction.Document.Listing
import Extraction.Proofs.Program.Hoisting
import Extraction.Proofs.Run.Completion

/-!
# Runs with hoisted definitions

A run that comes to its end looks up no function that is not there. With more functions listed, and
with functions listed earlier, it does what it did.

* `Run.Wider` relates a state to one with more functions. Its lemmas preserve it.
* `Run.Completes.widen` runs statements that define nothing in the wider state.
* `Run.Completes.hoist` runs a list of statements with its definitions further up.
* `run_hoisted` is the result for programs.
-/

namespace Extraction.Run

variable {ν ε : Type}

/-! ## Wider states -/

/-- `wider` lists what `state` lists, and maybe more functions, whose bodies were not run. The
document was asked the same. -/
structure Wider (state wider : State ν) : Prop where
  /-- What is listed by the first state is listed by the other one. -/
  listed : ∀ name entry, state.functions.get? name = some entry →
    wider.functions.get? name = some entry
  /-- The bodies of the other functions were not run. -/
  idle : ∀ name entry, state.functions.get? name = none →
    wider.functions.get? name = some entry → entry.status = .idle
  /-- The document was asked the same. -/
  queries_eq : wider.queries = state.queries
  /-- The bodies of the functions define none. -/
  plain : ∀ name entry, state.functions.get? name = some entry →
    ∀ inner ∈ entry.definition.body, inner.isBinding

namespace Wider

variable {state wider state' wider' : State ν} {name : String} {definition : Definition}
  {status : Status ν}

/-- Before any statement is run, no function is listed by either run. -/
theorem start (program hoisted : Program) :
    Wider (Run.start program : State ν) (Run.start hoisted) where
  listed _ _ hget := by cases hget
  idle _ _ _ hget := by cases hget
  queries_eq := rfl
  plain _ _ hget := by cases hget

/-- `Wider` depends on the functions and the queries alone. -/
theorem of_functions_eq (h : Wider state wider) (hstate : state'.functions = state.functions)
    (hwider : wider'.functions = wider.functions) (hqueries : wider'.queries = state'.queries) :
    Wider state' wider' := by
  refine ⟨?_, ?_, hqueries, ?_⟩
  · rw [hstate, hwider]
    exact h.listed
  · rw [hstate, hwider]
    exact h.idle
  · rw [hstate]
    exact h.plain

/-- Two runs that report the same event stay as `Wider` says. -/
theorem report (h : Wider state wider) (event : Event) :
    Wider (state.report event) (wider.report event) :=
  h.of_functions_eq rfl rfl (by simpa using h.queries_eq)

theorem foldl_report (h : Wider state wider) (events : List Event) :
    Wider (events.foldl State.report state) (events.foldl State.report wider) := by
  induction events generalizing state wider with
  | nil => exact h
  | cons event events ih => exact ih (h.report event)

/-- A function that both states list comes further in both. -/
theorem setStatus (h : Wider state wider)
    (hget : state.functions.get? name = some ⟨definition, status⟩) (status' : Status ν) :
    Wider (state.setStatus name status') (wider.setStatus name status') where
  listed other entry hother := by
    rw [State.functions_setStatus hget, Bindings.get?_set_eq_some_iff] at hother
    rw [State.functions_setStatus (h.listed name _ hget), Bindings.get?_set_eq_some_iff]
    exact hother.imp_right (And.imp_right (h.listed other entry))
  idle other entry hnone hother := by
    rw [State.functions_setStatus hget] at hnone
    obtain ⟨hname, hnone⟩ := Bindings.get?_set_eq_none_iff.1 hnone
    rw [State.get?_setStatus_of_ne _ _ hname] at hother
    exact h.idle other entry hnone hother
  queries_eq := by simpa using h.queries_eq
  plain other entry hother := by
    rw [State.functions_setStatus hget] at hother
    rcases Bindings.get?_set_eq_some_iff.1 hother with ⟨rfl, rfl⟩ | ⟨-, hother⟩
    · exact h.plain other ⟨definition, status⟩ hget
    · exact h.plain other entry hother

/-- The body of a function has come to its end for both. -/
theorem conclude (h : Wider state wider)
    (hget : state.functions.get? name = some ⟨definition, status⟩) (env : Env ν) :
    Wider (Run.conclude name definition env state) (Run.conclude name definition env wider) :=
  (h.setStatus hget _).foldl_report _

/-- A function is defined that the wider state alone is to list. -/
theorem ahead (h : Wider state wider) (definition : Definition)
    (hnone : wider.functions.get? definition.name = none) (event : Event) :
    Wider state ((wider.setEntry definition.name ⟨definition, .idle⟩).report event) where
  listed other entry hother := by
    have hlisted := h.listed other entry hother
    rw [State.functions_report, State.get?_setEntry_of_ne _ _ fun hname => ?_]
    · exact hlisted
    · rw [hname, hnone] at hlisted
      cases hlisted
  idle other entry hother hget := by
    rw [State.functions_report] at hget
    rcases Bindings.get?_set_eq_some_iff.1 hget with ⟨-, rfl⟩ | ⟨-, hget⟩
    · rfl
    · exact h.idle other entry hother hget
  queries_eq := by simpa using h.queries_eq
  plain := h.plain

/-- A function is defined that the wider state lists already. -/
theorem behind (h : Wider state wider) (definition : Definition)
    (hget : wider.functions.get? definition.name = some ⟨definition, .idle⟩)
    (hplain : ∀ inner ∈ definition.body, inner.isBinding) (event : Event) :
    Wider ((state.setEntry definition.name ⟨definition, .idle⟩).report event) wider where
  listed other entry hother := by
    rw [State.functions_report] at hother
    rcases Bindings.get?_set_eq_some_iff.1 hother with ⟨rfl, rfl⟩ | ⟨-, hother⟩
    · exact hget
    · exact h.listed other entry hother
  idle other entry hother := by
    rw [State.functions_report] at hother
    exact h.idle other entry (Bindings.get?_set_eq_none_iff.1 hother).2
  queries_eq := by simpa using h.queries_eq
  plain other entry hother := by
    rw [State.functions_report] at hother
    rcases Bindings.get?_set_eq_some_iff.1 hother with ⟨-, rfl⟩ | ⟨-, hother⟩
    · exact hplain
    · exact h.plain other entry hother

end Wider

/-! ## Statements that define nothing -/

/-- Statements by which no function is added leave the definitions as they are. -/
theorem State.Lists.of_extends {state state' : State ν} {functions : Bindings Definition}
    (h : state.Lists functions fun _ _ _ => True) (hextends : state.Extends state')
    (hnames : state'.functions.names = state.functions.names) :
    state'.Lists functions fun _ _ _ => True where
  undefined name hnone := by
    rw [Bindings.get?_eq_none_iff, hnames, ← Bindings.get?_eq_none_iff]
    exact h.undefined name hnone
  defined name definition hsome := by
    obtain ⟨status, hget, -⟩ := h.defined name definition hsome
    obtain ⟨status', hget', -⟩ := hextends.kept _ _ _ hget
    exact ⟨status', hget', trivial⟩

variable [Node ν] {document : Document ν ε} {list hoisted : List Statement}
  {env last : Env ν} {state wider final : State ν}

/-- What a document is asked behind the same queries, it answers alike. -/
theorem select_of_queries_eq {selection : Selection} {value : Value ν} {state' : State ν}
    (hqueries : wider.queries = state.queries)
    (h : select document selection state = (.ok value, state')) :
    select document selection wider = (.ok value, wider.perform (.query (query selection))) := by
  have hfst : (select document selection wider).1 = (select document selection state).1 := by
    by_cases hrange : selection.range = .whole
    · rw [select_of_whole hrange, select_of_whole hrange, hqueries]
    · rw [select_of_ne_whole hrange, select_of_ne_whole hrange, hqueries]
  rw [h] at hfst
  match hwider : select document selection wider with
  | (answer, state'') =>
    rw [hwider] at hfst
    obtain rfl : answer = .ok value := hfst
    rw [eq_perform_of_select hwider]

/-- Statements that define nothing, and that were run to their end, are run to the same end in a
wider state. No more functions are listed then. -/
theorem Completes.widen (h : Completes document list env state last final)
    (hlist : ∀ statement ∈ list, statement.isDefinition = false) (hwider : Wider state wider) :
    ∃ final', Completes document list env wider last final' ∧ Wider final final' ∧
      final'.functions.names = wider.functions.names := by
  induction h generalizing wider with
  | nil => exact ⟨wider, .nil, hwider, rfl⟩
  | @selected _ selection _ _ _ state _ _ _ _ hselect _ ih =>
    rw [eq_perform_of_select hselect] at ih
    have hnext : Wider (state.perform (.query (query selection)))
        (wider.perform (.query (query selection))) :=
      hwider.of_functions_eq rfl rfl (by simpa using hwider.queries_eq)
    obtain ⟨final', hrest, hend, hnames⟩ := ih (List.forall_mem_cons.1 hlist).2 hnext
    exact ⟨final', .selected (select_of_queries_eq hwider.queries_eq hselect) hrest, hend, hnames⟩
  | cached hget hle _ ih =>
    obtain ⟨final', hrest, hend, hnames⟩ := ih (List.forall_mem_cons.1 hlist).2 (hwider.report _)
    exact ⟨final', .cached (hwider.listed _ _ hget) hle hrest, hend, hnames⟩
  | @evaluated _ function _ _ _ state definition inner _ _ _ hget hle hbody _ ihbody ih =>
    -- Bodies define nothing, and this one is run in a wider state, in which it is marked as well.
    obtain ⟨wider₁, hinner, hwider₁, hnames₁⟩ :=
      ihbody (fun statement hmem => Statement.isDefinition_eq_false_of_isBinding
        (hwider.plain _ _ hget statement hmem)) (hwider.setStatus hget .running)
    have hget₁ := hbody.runs.get?_of_running hget
    obtain ⟨final', hrest, hend, hnames⟩ :=
      ih (List.forall_mem_cons.1 hlist).2 (hwider₁.conclude hget₁ inner)
    rw [State.names_conclude, hnames₁, State.names_setStatus] at hnames
    exact ⟨final', .evaluated (hwider.listed _ _ hget) hle hinner hrest, hend, hnames⟩
  | defined => cases (List.forall_mem_cons.1 hlist).1

/-! ## Hoisted definitions -/

/-- Statements that were run to their end are run to the same end with their definitions hoisted.
The definitions that are known are those that the wider state lists. -/
theorem Completes.hoist {known : Bindings Definition} (hwalk : Hoisted known list hoisted)
    (h : Completes document list env state last final)
    (hplain : ∀ statement ∈ list, ∀ inner ∈ statement.body, inner.isBinding)
    (hwider : Wider state wider) (hlists : wider.Lists known fun _ _ _ => True) :
    ∃ final', Completes document hoisted env wider last final' ∧ Wider final final' := by
  induction hwalk generalizing env state wider with
  | nil =>
    cases h
    exact ⟨wider, .nil, hwider⟩
  -- The wider state lists one function more.
  | @ahead known name body spec location list hoisted hnew _ ih =>
    have hnone := hlists.undefined name hnew
    obtain ⟨final', hrest, hend⟩ := ih h hplain
      (hwider.ahead ⟨name, body, spec, location⟩ hnone (.defined name spec.names))
      (hlists.define ⟨name, body, spec, location⟩ trivial fun _ _ _ _ => id)
    exact ⟨final', .defined hnone hrest, hend⟩
  -- The wider state has listed the function before, and has left it idle.
  | @behind known name body spec location list hoisted hknown _ ih =>
    obtain ⟨hbody, hplain⟩ := List.forall_mem_cons.1 hplain
    obtain ⟨status, hget, -⟩ := hlists.defined name _ hknown
    cases h with
    | defined hnone hrest =>
      obtain rfl : status = .idle := hwider.idle name _ hnone hget
      exact ih hrest hplain (hwider.behind ⟨name, body, spec, location⟩ hget hbody _) hlists
  -- The statement is no definition, so that it leaves the wider state with the same functions.
  | @both known first list hoisted hfirst _ ih =>
    obtain ⟨env', mid, hone, hrest⟩ := (completes_append [first] list).1 h
    obtain ⟨wider₁, hone', hwider₁, hnames⟩ := hone.widen (by simpa using hfirst) hwider
    obtain ⟨final', hrest', hend⟩ := ih hrest (List.forall_mem_cons.1 hplain).2 hwider₁
      (hlists.of_extends hone'.extends hnames)
    exact ⟨final', (completes_append [first] hoisted).2 ⟨env', wider₁, hone', hrest'⟩, hend⟩

end Extraction.Run

namespace Extraction

open Run (Completes State completes_iff)

/-- A program that comes to its end comes to the same end with its definitions hoisted, and with
more definitions: it binds the same names to the same values, in the same order, and makes the same
queries. -/
theorem run_hoisted {ν ε : Type} [Node ν] {program hoisted : Program} (hplain : program.Plain)
    (hhoists : program.Hoists hoisted) (document : Document ν ε) {env : Run.Env ν}
    (h : (run program document).1 = .ok env) :
    (run hoisted document).1 = .ok env ∧
      (run hoisted document).2.queries = (run program document).2.queries := by
  rw [Run.run_eq program] at h ⊢
  rw [Run.run_eq hoisted]
  match houtcome : Run.statements document program.statements .empty (Run.start program) with
  | (.error stop, state) =>
    rw [houtcome] at h
    cases h
  | (.ok last, state) =>
    rw [houtcome] at h
    cases h
    obtain ⟨final', hcompletes, hwider⟩ := Completes.hoist hhoists.walk (completes_iff.2 houtcome)
      hplain (.start program hoisted) ⟨fun _ _ => rfl, nofun⟩
    rw [completes_iff.1 hcompletes]
    exact ⟨rfl, by simpa using hwider.queries_eq⟩

/-- A definition is hoisted above an assignment, and a function is added that invokes itself. -/
theorem run_hoisted_with_unused_function :
    let select : Statement := .assignment "a" ⟨"p", .whole, none⟩ none
    let f : Statement := .definition "f" [.assignment "x" ⟨"q", .openSlice 0, none⟩ none]
      ⟨["x"], none⟩ none
    let u : Statement := .definition "u" [.invocation [] "u" none] ⟨[], none⟩ none
    let invoke : Statement := .invocation ["b"] "f" none
    let program : Program := ⟨[select, f, invoke], none⟩
    let hoisted : Program := ⟨[f, select, u, invoke], none⟩
    let listing : Listing := ⟨.empty, []⟩
    program.Plain ∧ program.Hoists hoisted ∧ ∃ env,
      (run program listing.document).1 = .ok env ∧ (run hoisted listing.document).1 = .ok env ∧
        (run hoisted listing.document).2.queries = [.first "p", .all "q"] := by
  intro select f u invoke program hoisted listing
  have hplain : program.Plain := by
    simp [program, select, f, invoke, Program.Plain, Statement.body, Statement.isBinding]
  have hhoists : program.Hoists hoisted := by
    refine ⟨rfl, fun before definition after hlist hdefinition => ?_, by decide⟩
    -- The definition is the second of three statements.
    rcases before with _ | ⟨first, _ | ⟨second, _ | ⟨third, before⟩⟩⟩
    · obtain ⟨rfl, -⟩ := List.cons.inj hlist
      cases hdefinition
    · obtain ⟨-, hlist⟩ := List.cons.inj hlist
      obtain ⟨rfl, -⟩ := List.cons.inj hlist
      exact ⟨[], _, rfl, Nat.zero_le _⟩
    · obtain ⟨-, hlist⟩ := List.cons.inj hlist
      obtain ⟨-, hlist⟩ := List.cons.inj hlist
      obtain ⟨rfl, -⟩ := List.cons.inj hlist
      cases hdefinition
    · simp [program] at hlist
  have hok : (run program listing.document).1.toBool = true := by decide +kernel
  have hqueries : (run program listing.document).2.queries = [.first "p", .all "q"] := by
    decide +kernel
  cases houtcome : (run program listing.document).1 with
  | ok env =>
    obtain ⟨henv, hsame⟩ := run_hoisted hplain hhoists listing.document houtcome
    exact ⟨hplain, hhoists, env, rfl, henv, hsame.trans hqueries⟩
  | error stop =>
    rw [houtcome] at hok
    cases hok

end Extraction
