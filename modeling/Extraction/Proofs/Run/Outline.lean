import Extraction.Proofs.Document
import Extraction.Proofs.Run.Table

/-!
# States without values

Two runs on different documents can have done the same and have the same functions, with other
values. What they do next is then the same again, as long as no query is refused.

* `Run.query` is the query that a selection makes.
* `Run.Answered` traces hold no query that the document refused.
* `Run.Abreast` relates the states of two such runs. Its lemmas preserve it.
-/

namespace Extraction.Run

variable {ν ε : Type}

/-! ## Selections -/

/-- The query that `selection` makes. -/
def query (selection : Selection) : Query :=
  if selection.range = .whole then .first selection.selector else .all selection.selector

section

variable [Node ν] {document : Document ν ε} {selection : Selection} {state : State ν}

/-- Without a range `select` asks for the first match. -/
theorem select_of_whole (hrange : selection.range = .whole) :
    select document selection state =
      (match document.first state.queries selection.selector with
        | .ok node? => .ok (projectFirst selection.attributes node?)
        | .error refusal => .error (.refused refusal),
        state.perform (.query (.first selection.selector))) := by
  unfold select queryFirst
  rw [hrange]
  cases document.first state.queries selection.selector <;> rfl

/-- With a range `select` asks for all matches, and takes those that the range means. -/
theorem select_of_ne_whole (hrange : selection.range ≠ .whole) :
    select document selection state =
      (match document.all state.queries selection.selector with
        | .ok nodes =>
          match Selection.ofMatches selection.range selection.attributes nodes with
          | .ok value => .ok value
          | .error _ => .error .outOfRange
        | .error refusal => .error (.refused refusal),
        state.perform (.query (.all selection.selector))) := by
  unfold select queryAll
  split
  · exact absurd ‹_› hrange
  · cases document.all state.queries selection.selector <;> rfl

/-- A selection makes its query, and nothing else. -/
theorem eq_perform_of_select {answer : Except (Stop ε) (Value ν)} {state' : State ν}
    (h : select document selection state = (answer, state')) :
    state' = state.perform (.query (query selection)) := by
  unfold query
  by_cases hrange : selection.range = .whole
  · rw [select_of_whole hrange] at h
    rw [if_pos hrange, ← (Prod.mk.inj h).2]
  · rw [select_of_ne_whole hrange] at h
    rw [if_neg hrange, ← (Prod.mk.inj h).2]

/-- If its query is refused, a selection stops with the refusal. -/
theorem select_of_refusal {refusal : ε}
    (h : document.refusal? state.queries (query selection) = some refusal) :
    select document selection state =
      (.error (.refused refusal), state.perform (.query (query selection))) := by
  unfold query at h ⊢
  by_cases hrange : selection.range = .whole
  · rw [if_pos hrange, Document.refusal?] at h
    rw [if_pos hrange, select_of_whole hrange]
    match document.first state.queries selection.selector, h with
    | .error other, h => rw [Option.some.inj h]
  · rw [if_neg hrange, Document.refusal?] at h
    rw [if_neg hrange, select_of_ne_whole hrange]
    match document.all state.queries selection.selector, h with
    | .error other, h => rw [Option.some.inj h]

/-- If its query is answered, a selection without a negative number has a value. -/
theorem exists_select_eq_of_refusal? (hforward : selection.range.Forward)
    (h : document.refusal? state.queries (query selection) = none) :
    ∃ value, select document selection state =
      (.ok value, state.perform (.query (query selection))) := by
  unfold query at h ⊢
  by_cases hrange : selection.range = .whole
  · rw [if_pos hrange, Document.refusal?] at h
    rw [if_pos hrange, select_of_whole hrange]
    match document.first state.queries selection.selector, h with
    | .ok node?, _ => exact ⟨_, rfl⟩
  · rw [if_neg hrange, Document.refusal?] at h
    rw [if_neg hrange, select_of_ne_whole hrange]
    match document.all state.queries selection.selector, h with
    | .ok nodes, _ =>
      obtain ⟨value, hvalue⟩ := exists_ofMatches_eq hforward nodes
      exact ⟨value, by simp only [hvalue]⟩

/-- On the document that matches nothing, a selection without a negative number has a value. -/
theorem exists_select_blank_eq (hforward : selection.range.Forward) (ε : Type)
    (state : State ν) : ∃ value, select (.blank : Document ν ε) selection state =
      (.ok value, state.perform (.query (query selection))) :=
  exists_select_eq_of_refusal? hforward (Document.refusal?_blank ..)

end

/-! ## Traces -/

/-- Acts whose queries `document` has answered, each behind the queries before it. -/
inductive Answered (document : Document ν ε) : List Act → Prop
  /-- Nothing was done. -/
  | nil : Answered document []
  /-- An event was reported. -/
  | event {acts : List Act} (event : Event) (h : Answered document acts) :
      Answered document (acts ++ [.event event])
  /-- A query was answered. -/
  | query {acts : List Act} {query : Query} (h : Answered document acts)
      (hanswer : document.refusal? (acts.filterMap Act.query?) query = none) :
      Answered document (acts ++ [.query query])

/-- None of the queries that were answered has a selector that is refused. -/
theorem Answered.not_refused {document : Document ν ε} {selectors : String → Prop} {acts : List Act}
    (h : Answered document acts) (hrefuses : document.Refuses selectors) :
    ∀ query ∈ acts.filterMap Act.query?, ¬selectors query.selector := by
  induction h with
  | nil => nofun
  | event event _ ih =>
    rw [List.filterMap_append]
    simpa [Act.query?] using ih
  | @query acts query _ hanswer ih =>
    intro other hmem hselectors
    rw [List.filterMap_append, List.mem_append] at hmem
    rcases hmem with hmem | hmem
    · exact ih other hmem hselectors
    · obtain rfl : other = query := by simpa [Act.query?] using hmem
      have hsome := (hrefuses (acts.filterMap Act.query?) other).2 hselectors
      rw [hanswer] at hsome
      cases hsome

/-! ## States -/

/-- How far a function has come, its results left out but for their names. -/
def Status.outline : Status ν → Status Unit
  | .idle => .idle
  | .running => .running
  | .done rs => .done (rs.map fun result => (result.1, .leaf .absent))

/-- `entry` with its results left out. -/
def Entry.outline (entry : Entry ν) : Entry Unit := ⟨entry.definition, entry.status.outline⟩

/-- The statements of `list` are such as a source can hold: no number is negative, and bodies hold
assignments and invocations. -/
def Tidy (list : List Statement) : Prop :=
  ∀ statement ∈ list, statement.Forward ∧
    ∀ inner ∈ statement.body, inner.Forward ∧ inner.isBinding

/-- Two runs have done the same, the one on `document`, which has answered all queries, and the
other one elsewhere. They have the same functions, with results of the same names. -/
structure Abreast (document : Document ν ε) (state state' : State ν) : Prop where
  /-- The functions are the same, but for the values of their results. -/
  outline_eq : state.functions.map Entry.outline = state'.functions.map Entry.outline
  /-- The same was done in the same order. -/
  trace_eq : state.trace = state'.trace
  /-- The document has answered all queries. -/
  answered : Answered document state.trace
  /-- The bodies are such as a source can hold. -/
  tidy : ∀ name entry, state.functions.get? name = some entry → Tidy entry.definition.body

theorem Tidy.body {name : String} {body rest : List Statement} {returns : ReturnSpec}
    {location : Option Location} (h : Tidy (.definition name body returns location :: rest)) :
    Tidy body := by
  intro inner hmem
  obtain ⟨hforward, hbinding⟩ := (h _ List.mem_cons_self).2 inner hmem
  refine ⟨hforward, ?_⟩
  cases inner with
  | assignment => nofun
  | invocation => nofun
  | returns => cases hbinding
  | definition => cases hbinding
  | bare => cases hbinding

namespace Abreast

variable {document : Document ν ε} {state state' : State ν} {name : String}
  {definition : Definition} {status status' : Status ν} {entry entry' : Entry ν}

/-- A function that is listed by one run is listed by the other one. -/
theorem exists_get? (h : Abreast document state state')
    (hget : state.functions.get? name = some ⟨definition, status⟩) :
    ∃ status', state'.functions.get? name = some ⟨definition, status'⟩ ∧
      status.outline = status'.outline := by
  have houtline := congrArg (Bindings.get? · name) h.outline_eq
  simp only [Bindings.get?_map, hget, Option.map_some] at houtline
  obtain ⟨⟨definition', status'⟩, hget', heq⟩ := Option.map_eq_some_iff.1 houtline.symm
  simp only [Entry.outline, Entry.mk.injEq] at heq
  obtain ⟨rfl, hstatus⟩ := heq
  exact ⟨status', hget', hstatus.symm⟩

/-- A function that is not listed in the one run is not listed in the other. -/
theorem get?_eq_none (h : Abreast document state state')
    (hget : state.functions.get? name = none) : state'.functions.get? name = none := by
  have houtline := congrArg (Bindings.get? · name) h.outline_eq
  simp only [Bindings.get?_map, hget, Option.map_none] at houtline
  exact Option.map_eq_none_iff.1 houtline.symm

/-- A function that is idle in the one run is idle in the other, with the same definition. -/
theorem get?_of_idle (h : Abreast document state state')
    (hget : state.functions.get? name = some ⟨definition, .idle⟩) :
    state'.functions.get? name = some ⟨definition, .idle⟩ := by
  obtain ⟨status, hget', hstatus⟩ := h.exists_get? hget
  cases status with
  | idle => exact hget'
  | running => cases hstatus
  | done rs => cases hstatus

/-- Where one run has results to use again, the other one has as many. -/
theorem exists_get?_of_done (h : Abreast document state state') {rs : Results ν}
    (hget : state.functions.get? name = some ⟨definition, .done rs⟩) :
    ∃ rs', state'.functions.get? name = some ⟨definition, .done rs'⟩ ∧ rs.length = rs'.length := by
  obtain ⟨status, hget', hstatus⟩ := h.exists_get? hget
  cases status with
  | idle => cases hstatus
  | running => cases hstatus
  | done rs' => exact ⟨rs', hget', by simpa using congrArg List.length (Status.done.inj hstatus)⟩

/-- A statement has the same fault in both runs. -/
theorem fault?_eq (h : Abreast document state state') (first : Statement) :
    fault? state' first = fault? state first := by
  cases first with
  | assignment => rfl
  | returns => rfl
  | bare => rfl
  | definition name body returns location =>
    simp only [fault?]
    cases hget : state.functions.get? name with
    | none => rw [h.get?_eq_none hget]
    | some entry =>
      obtain ⟨status', hget', -⟩ := h.exists_get? hget
      rw [hget']
      rfl
  | invocation targets function location =>
    simp only [fault?]
    cases hget : state.functions.get? function with
    | none => rw [h.get?_eq_none hget]
    | some entry =>
      obtain ⟨definition, status⟩ := entry
      -- The fault depends on the status only as far as its outline tells.
      obtain ⟨status', hget', hstatus⟩ := h.exists_get? hget
      rw [hget']
      cases status <;> cases status' <;> first | rfl | cases hstatus

theorem report (h : Abreast document state state') (event : Event) :
    Abreast document (state.report event) (state'.report event) where
  outline_eq := h.outline_eq
  trace_eq := congrArg (· ++ [Act.event event]) h.trace_eq
  answered := h.answered.event event
  tidy := h.tidy

theorem foldl_report (h : Abreast document state state') (events : List Event) :
    Abreast document (events.foldl State.report state) (events.foldl State.report state') := by
  induction events generalizing state state' with
  | nil => exact h
  | cons event events ih => exact ih (h.report event)

/-- Two runs that make the same query stay abreast, if the document does not refuse it. -/
theorem perform (h : Abreast document state state') {query : Query}
    (hanswer : document.refusal? state.queries query = none) :
    Abreast document (state.perform (.query query)) (state'.perform (.query query)) where
  outline_eq := h.outline_eq
  trace_eq := congrArg (· ++ [Act.query query]) h.trace_eq
  answered := h.answered.query hanswer
  tidy := h.tidy

/-- The same function is added, or comes further, in both runs. -/
theorem setEntry (h : Abreast document state state') (houtline : entry.outline = entry'.outline)
    (htidy : Tidy entry.definition.body) :
    Abreast document (state.setEntry name entry) (state'.setEntry name entry') where
  outline_eq := by
    simp only [State.setEntry, Bindings.map_set, h.outline_eq, houtline]
  trace_eq := h.trace_eq
  answered := h.answered
  tidy other old hget := by
    rcases Bindings.get?_set_eq_some_iff.1 hget with ⟨-, rfl⟩ | ⟨-, hget⟩
    · exact htidy
    · exact h.tidy other old hget

/-- Two runs in which a function comes equally far stay abreast. -/
theorem setStatus (h : Abreast document state state')
    (houtline : status.outline = status'.outline) :
    Abreast document (state.setStatus name status) (state'.setStatus name status') := by
  unfold State.setStatus
  match hget : state.functions.get? name with
  | none =>
    rw [h.get?_eq_none hget]
    exact h
  | some ⟨definition, old⟩ =>
    obtain ⟨old', hget', -⟩ := h.exists_get? hget
    rw [hget']
    exact h.setEntry (congrArg (Entry.mk definition) houtline)
      (h.tidy name ⟨definition, old⟩ hget)

/-- The body of a function has come to its end in both runs, with the same names. -/
theorem conclude (h : Abreast document state state') {env env' : Env ν}
    (hnames : env.names = env'.names) :
    Abreast document (Run.conclude name definition env state)
      (Run.conclude name definition env' state') := by
  have hevents : conclusion definition.name definition.returns.names env =
      conclusion definition.name definition.returns.names env' := by
    have hnone : ∀ returned, (env.get? returned).isNone = (env'.get? returned).isNone := by
      intro returned
      rw [Bool.eq_iff_iff, Option.isNone_iff_eq_none, Option.isNone_iff_eq_none,
        Bindings.get?_eq_none_iff, Bindings.get?_eq_none_iff, hnames]
    simp only [conclusion, hnone]
  rw [Run.conclude, Run.conclude, hevents]
  refine (h.setStatus ?_).foldl_report _
  simp only [Status.outline, results, List.map_map, Function.comp_def]

/-- The same function is defined in both runs. -/
theorem define (h : Abreast document state state') (definition : Definition)
    (htidy : Tidy definition.body) :
    Abreast document
      ((state.setEntry definition.name ⟨definition, .idle⟩).report
        (.defined definition.name definition.returns.names))
      ((state'.setEntry definition.name ⟨definition, .idle⟩).report
        (.defined definition.name definition.returns.names)) :=
  (h.setEntry rfl htidy).report _

/-- Two runs abreast list equally many functions. -/
theorem size_eq (h : Abreast document state state') :
    state.functions.size = state'.functions.size := by
  have hentries := congrArg Bindings.entries h.outline_eq
  simpa [Bindings.map, Bindings.size] using congrArg List.length hentries

end Abreast

/-- Two runs of one program start abreast, on whichever documents. -/
theorem abreast_start (document : Document ν ε) (program : Program) :
    Abreast document (start program) (start program) where
  outline_eq := rfl
  trace_eq := rfl
  answered := Answered.nil.event _
  tidy := nofun

/-! ## Scopes -/

/-- To give values to the same targets binds the same names. -/
theorem names_bindTargets {env env' : Env ν} {rs rs' : Results ν} (hnames : env.names = env'.names)
    (hlength : rs.length = rs'.length) (targets : List String) :
    (bindTargets targets rs env).names = (bindTargets targets rs' env').names := by
  -- The targets that get a value are counted by the values.
  have hzip : ∀ values : List (Value ν), (targets.zip values).map Prod.fst =
      (targets.zip (List.replicate values.length ())).map Prod.fst := by
    intro values
    rw [← List.map_const', List.zip_map_right, List.map_map]
    rfl
  unfold bindTargets
  refine Bindings.names_setAll_eq hnames ?_
  rw [hzip, hzip, List.length_map, List.length_map, hlength]

end Extraction.Run
