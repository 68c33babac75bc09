import Extraction.Proofs.Run.Visits

/-!
# Statements that are run once

A run comes to no statement of a program twice, also where bodies hold definitions, and where
functions invoke themselves.

* `Run.keys` are the statements that are visited, told by the functions in whose bodies they stand.
  `Run.Visits.owned` says that these functions are started meanwhile, and `Run.Visits.nodup_keys`
  that no statement is visited twice.
* `Run.Housed` is the invariant of the numbers of definitions, and `Run.Visits.placed` finds the
  statements that are visited in the program.
-/

namespace Extraction.Run

variable {ν ε : Type}

/-! ## Bodies that were not started -/

namespace State

variable {state state' : State ν} {name other : String} {definition : Definition}
  {status : Status ν}

/-- The body of the function `name` has not been started, if there is one. -/
def Unstarted (state : State ν) (name : String) : Prop :=
  ∀ definition status, state.functions.get? name = some ⟨definition, status⟩ → status = .idle

/-- The body of an idle function has not been started. -/
theorem unstarted_of_idle (hget : state.functions.get? name = some ⟨definition, .idle⟩) :
    state.Unstarted name := by
  intro definition' status' hget'
  rw [hget] at hget'
  cases hget'
  rfl

/-- What has not been started while the body of `name` is being run is another function, and was not
started before. -/
theorem Unstarted.of_running (h : (state.setStatus name .running).Unstarted other)
    (hget : state.functions.get? name = some ⟨definition, status⟩) :
    other ≠ name ∧ state.Unstarted other := by
  have hne : other ≠ name := by
    rintro rfl
    cases h _ _ (get?_setStatus_self hget .running)
  refine ⟨hne, fun definition' status' hget' => h definition' status' ?_⟩
  rwa [get?_setStatus_of_ne _ _ hne]

/-- A function has no results before its body was started. -/
theorem Unstarted.not_isDone (h : state.Unstarted name) : ¬state.IsDone name := by
  rintro ⟨definition, rs, hget⟩
  cases h _ _ hget

/-- A function is not marked as being run before its body was started. -/
theorem Unstarted.not_isRunning (h : state.Unstarted name) : ¬state.IsRunning name := by
  rintro ⟨definition, hget⟩
  cases h _ _ hget

/-- A function that has results is not marked as being run. -/
theorem IsDone.not_isRunning (h : state.IsDone name) : ¬state.IsRunning name := by
  rintro ⟨definition, hget⟩
  exact not_isDone hget nofun h

end State

variable [Node ν] {document : Document ν ε} {env last : Env ν} {state state' : State ν}
  {outcome : Outcome ν ε (Env ν)} {name : String}

/-- What was not started while statements were run had not been started before. -/
theorem Runs.unstarted {statements : List Statement}
    (h : Runs document statements env state outcome) (hlast : outcome.2.Unstarted name) :
    state.Unstarted name := by
  intro definition status hget
  obtain ⟨status', hget', hbecomes⟩ := h.exists_becomes hget
  rcases hbecomes with rfl | ⟨hidle, -⟩
  · exact hlast _ _ hget'
  · exact hidle

/-! ## Visits by functions -/

section

omit [Node ν]

/-- The function in whose body the statement of `visit` stands, and the numbers of the statement. -/
def Visit.key? (visit : Visit ν) : Option (Option String × List Nat) :=
  visit.occurrence?.map fun occurrence => (visit.active.head?, occurrence.numbers)

/-- The statements of `visits`, each with the function in whose body it stands. -/
def keys (visits : List (Visit ν)) : List (Option String × List Nat) :=
  visits.filterMap Visit.key?

theorem keys_cons (active : List String) (state : State ν) (first : Occurrence)
    (visits : List (Visit ν)) :
    keys (⟨active, state, some first⟩ :: visits) = (active.head?, first.numbers) :: keys visits :=
  rfl

theorem keys_cons_none (active : List String) (state : State ν) (visits : List (Visit ν)) :
    keys (⟨active, state, none⟩ :: visits) = keys visits := rfl

/-- The keys of two parts of a run stand one behind the other. -/
theorem keys_append (visits more : List (Visit ν)) :
    keys (visits ++ more) = keys visits ++ keys more := List.filterMap_append

end

/-- A statement that is visited under `key` is one of `list`, or it stands in the body of a function
that is started meanwhile. If the run comes to its end, the function has results in `outcome`. -/
inductive Owned (active : List String) (list : List Occurrence) (state : State ν)
    (outcome : Outcome ν ε (Env ν)) (key : Option String × List Nat) : Prop
  /-- It is one of the statements. -/
  | here (howner : key.1 = active.head?) (hnumbers : key.2 ∈ list.map Occurrence.numbers)
  /-- It stands in a body. -/
  | within {function} (howner : key.1 = some function) (hunstarted : state.Unstarted function)
      (hdone : ∀ last, outcome.1 = .ok last → outcome.2.IsDone function)

variable {active : List String} {list rest : List Occurrence} {first : Occurrence}
  {homes homes' : String → List Nat} {visits : List (Visit ν)} {key : Option String × List Nat}

namespace Owned

theorem cons {statements : List Statement}
    (hbefore : Runs document statements env state (.ok last, state'))
    (h : Owned active rest state' outcome key) :
    Owned active (first :: rest) state outcome key := by
  cases h with
  | here howner hnumbers => exact .here howner (List.mem_cons_of_mem _ hnumbers)
  | within howner hunstarted hdone => exact .within howner (hbefore.unstarted hunstarted) hdone

omit [Node ν] in
/-- It is visited for a body that is run for the first statement. -/
theorem body {function : String} {definition : Definition} {owner : List Nat}
    {answer : Outcome ν ε (Env ν)}
    (hget : state.functions.get? function = some ⟨definition, .idle⟩)
    (hself : ∀ last, outcome.1 = .ok last → outcome.2.IsDone function)
    (hothers : ∀ name, (∀ last, answer.1 = .ok last → answer.2.IsDone name) →
      ∀ last, outcome.1 = .ok last → outcome.2.IsDone name)
    (h : Owned (function :: active) (Statement.numbered owner 0 definition.body)
      (state.setStatus function .running) answer key) :
    Owned active list state outcome key := by
  cases h with
  | here howner => exact .within howner (State.unstarted_of_idle hget) hself
  | within howner hunstarted hdone =>
    obtain ⟨-, hbefore⟩ := hunstarted.of_running hget
    exact .within howner hbefore (hothers _ hdone)

omit [Node ν] in
/-- It is visited for a body that comes to its end. -/
theorem conclude {function : String} {definition : Definition} {owner : List Nat} {inner : Env ν}
    (hget : state.functions.get? function = some ⟨definition, .idle⟩)
    (hmarked : state'.functions.get? function = some ⟨definition, .running⟩)
    (h : Owned (function :: active) (Statement.numbered owner 0 definition.body)
      (state.setStatus function .running) ((.ok inner, state') : Outcome ν ε (Env ν)) key) :
    Owned active list state
      ((.ok inner, Run.conclude function definition inner state') : Outcome ν ε (Env ν)) key := by
  refine .body hget (fun _ _ => ?_) (fun name hdone _ _ => ?_) h
  · exact (isDone_conclude hmarked definition inner).2 (.inl rfl)
  · exact (isDone_conclude hmarked definition inner).2 (.inr (hdone _ rfl))

/-- Further statements are run behind those that it is visited for. -/
theorem later {statements : List Statement} {middle : Env ν}
    (hbehind : Runs document statements env state' outcome)
    (h : Owned active list state ((.ok middle, state') : Outcome ν ε (Env ν)) key) :
    Owned active list state outcome key := by
  cases h with
  | here howner hnumbers => exact .here howner hnumbers
  | within howner hunstarted hdone =>
    exact .within howner hunstarted fun _ _ => hbehind.extends.isDone (hdone _ rfl)

omit [Node ν]

/-- It stands where no body is being run, or in the body that is being run, or in one that has not
been started. -/
theorem ne_of_not_mem {numbers : List Nat} (h : Owned active list state outcome key)
    (horderly : state.Orderly active) (hnumbers : numbers ∉ list.map Occurrence.numbers) :
    (active.head?, numbers) ≠ key := by
  rintro rfl
  cases h with
  | here howner hmem => exact hnumbers hmem
  | within howner hunstarted hdone =>
    exact hunstarted.not_isRunning ((horderly.isRunning_iff _).2 (List.mem_of_head? howner))

/-- It does not stand in a body that has come to its end before. -/
theorem not_owned_behind (h : Owned active rest state' outcome key)
    (horderly : state'.Orderly active)
    {middle : Env ν} : ¬Owned active [] state ((.ok middle, state') : Outcome ν ε (Env ν)) key := by
  intro hbefore
  cases hbefore with
  | here howner hnumbers => cases hnumbers
  | @within name howner hunstarted hdone =>
    have hdone := hdone _ rfl
    cases h with
    | here howner' hnumbers =>
      have hmem := List.mem_of_head? (howner'.symm.trans howner)
      exact hdone.not_isRunning ((horderly.isRunning_iff name).2 hmem)
    | within howner' hunstarted' =>
      obtain rfl := Option.some.inj (howner.symm.trans howner')
      exact hunstarted'.not_isDone hdone

end Owned

theorem Visits.owned (h : Visits document active list homes env state visits homes' outcome) :
    ∀ key ∈ keys visits, Owned active list state outcome key := by
  induction h with
  | nil => exact nofun
  | unselected => exact List.forall_mem_singleton.2 (.here rfl List.mem_cons_self)
  | stopped => exact List.forall_mem_singleton.2 (.here rfl List.mem_cons_self)
  | @selected _ _ _ _ env state target selection location value state' _ _ _ _ hselect _ ih =>
    have hfirst : Runs document [.assignment target selection location] env state
        (.ok (env.set target value), state') := .selected hselect .nil
    exact List.forall_mem_cons.2
      ⟨.here rfl List.mem_cons_self, fun key hmem => .cons hfirst (ih key hmem)⟩
  | @cached _ _ _ _ env state targets function location definition rs _ _ _ _ hget hle _ ih =>
    have hfirst : Runs document [.invocation targets function location] env state
        (.ok (bindTargets targets rs env), state.report (.cached definition.name)) :=
      .cached hget hle .nil
    exact List.forall_mem_cons.2
      ⟨.here rfl List.mem_cons_self, fun key hmem => .cons hfirst (ih key hmem)⟩
  | @evaluated _ _ _ _ env state targets function location definition inner state' _ _ _ _ _ _ hget
      hle hbody hrest ihbody ih =>
    have hruns := hbody.runs
    have hmarked := hruns.get?_of_running hget
    rw [Statement.map_statement_numbered] at hruns
    have hfirst : Runs document [.invocation targets function location] env state
        (.ok (bindTargets targets (results definition.returns.names inner) env),
          conclude function definition inner state') := .evaluated hget hle hruns .nil
    rw [keys_cons, keys_cons_none, keys_append]
    -- The function has results when its body has come to its end, and keeps them behind it.
    exact List.forall_mem_cons.2 ⟨.here rfl List.mem_cons_self, List.forall_mem_append.2
      ⟨fun key hmem => .later hrest.runs (.conclude hget hmarked (ihbody key hmem)),
        fun key hmem => .cons hfirst (ih key hmem)⟩⟩
  | failed _ hget _ _ ihbody =>
    rw [keys_cons, keys_cons_none]
    exact List.forall_mem_cons.2 ⟨.here rfl List.mem_cons_self, fun key hmem =>
      .body hget nofun (fun _ _ => nofun) (ihbody key hmem)⟩
  | @defined _ _ _ _ env state name body returns location _ _ _ _ hget _ ih =>
    have hfirst : Runs document [.definition name body returns location] env state
        (.ok env, (state.setEntry name ⟨⟨name, body, returns, location⟩, .idle⟩).report
          (.defined name returns.names)) := .defined hget .nil
    exact List.forall_mem_cons.2
      ⟨.here rfl List.mem_cons_self, fun key hmem => .cons hfirst (ih key hmem)⟩

/-! ## No statement twice -/

/-- What is visited for the statements behind the first one is not the first one. -/
theorem Visits.not_mem_keys (h : Visits document active rest homes env state visits homes' outcome)
    (horderly : state.Orderly active) (hnodup : ((first :: rest).map Occurrence.numbers).Nodup) :
    (active.head?, first.numbers) ∉ keys visits := by
  intro hmem
  exact (h.owned _ hmem).ne_of_not_mem horderly (List.nodup_cons.1 hnodup).1 rfl

/-- No statement is visited twice, if none is there twice. -/
theorem Visits.nodup_keys (h : Visits document active list homes env state visits homes' outcome)
    (horderly : state.Orderly active) (hnodup : (list.map Occurrence.numbers).Nodup) :
    (keys visits).Nodup := by
  induction h with
  | nil => exact List.nodup_nil
  | unselected => exact List.nodup_singleton _
  | stopped => exact List.nodup_singleton _
  | @selected active _ _ _ _ _ _ _ _ _ state' _ _ _ _ hselect hrest ih =>
    have hnow : state'.Orderly active := horderly.of_functions_eq (functions_eq_of_select hselect)
    exact List.nodup_cons.2 ⟨hrest.not_mem_keys hnow hnodup, ih hnow (List.nodup_cons.1 hnodup).2⟩
  | @cached active _ _ _ _ state _ _ _ definition _ _ _ _ _ _ _ hrest ih =>
    have hnow : (state.report (.cached definition.name)).Orderly active :=
      horderly.of_functions_eq rfl
    exact List.nodup_cons.2 ⟨hrest.not_mem_keys hnow hnodup, ih hnow (List.nodup_cons.1 hnodup).2⟩
  | @evaluated active _ _ _ _ state _ function _ definition inner state' inside _ _ _ _ _ hget _
      hbody
      hrest ihbody ih =>
    have hstart := horderly.start hget
    have hmarked := hbody.runs.get?_of_running hget
    obtain ⟨hinner, hextends⟩ := hbody.runs.orderly hstart
    obtain ⟨hnow, -⟩ := horderly.conclude hget hinner hextends inner
    -- What is visited for the body stands in bodies that have come to their ends then.
    have hbefore : ∀ key ∈ keys inside, Owned active [] state
        ((.ok inner, conclude function definition inner state') : Outcome ν ε (Env ν)) key :=
      fun key hmem => .conclude hget hmarked (hbody.owned key hmem)
    rw [keys_cons, keys_cons_none, keys_append]
    refine List.nodup_cons.2 ⟨?_, ?_⟩
    · intro hmem
      rcases List.mem_append.1 hmem with hmem | hmem
      · exact (hbefore _ hmem).ne_of_not_mem horderly List.not_mem_nil rfl
      · exact hrest.not_mem_keys hnow hnodup hmem
    · refine (ihbody hstart (Statement.nodup_numbered ..)).append
        (ih hnow (List.nodup_cons.1 hnodup).2) fun key hmem hmem' => ?_
      exact (hrest.owned key hmem').not_owned_behind hnow (hbefore key hmem)
  -- Nothing is visited behind a body that has failed.
  | @failed active _ _ _ _ state _ _ _ _ stop state' inside _ _ hget _ hbody ihbody =>
    have hbefore : ∀ key ∈ keys inside, Owned active [] state
        ((.error stop, state') : Outcome ν ε (Env ν)) key :=
      fun key hmem => .body hget nofun (fun _ _ => nofun) (hbody.owned key hmem)
    rw [keys_cons, keys_cons_none]
    refine List.nodup_cons.2 ⟨fun hmem => ?_, ?_⟩
    · exact (hbefore _ hmem).ne_of_not_mem horderly List.not_mem_nil rfl
    · exact ihbody (horderly.start hget) (Statement.nodup_numbered ..)
  | @defined active _ _ _ _ state name body returns location _ _ _ _ hget hrest ih =>
    have hnow : ((state.setEntry name ⟨⟨name, body, returns, location⟩, .idle⟩).report
        (.defined name returns.names)).Orderly active :=
      (horderly.define ⟨name, body, returns, location⟩ hget).of_functions_eq rfl
    exact List.nodup_cons.2 ⟨hrest.not_mem_keys hnow hnodup, ih hnow (List.nodup_cons.1 hnodup).2⟩

/-! ## Visits of a program -/

/-- The definitions of the functions that are listed in `state` occur in `program`, at the numbers
that `homes` tells. -/
def Housed (program : Program) (homes : String → List Nat) (state : State ν) : Prop :=
  ∀ name definition status, state.functions.get? name = some ⟨definition, status⟩ →
    ⟨homes name, .definition name definition.body definition.returns definition.location⟩ ∈
      program.occurrences

/-- The numbers behind which the statements in the body of `owner` stand; those of the top level
stand behind none. -/
def place (homes : String → List Nat) (owner : Option String) : List Nat := owner.elim [] homes

/-- The statements of `visits`, in order. -/
def passed (visits : List (Visit ν)) : List Occurrence := visits.filterMap Visit.occurrence?

namespace Housed

omit [Node ν]

variable {program : Program} {function : String} {definition : Definition}
  {status status' : Status ν}

/-- `Housed` depends on the functions of a state alone. -/
theorem of_functions_eq (h : Housed program homes state)
    (hfunctions : state'.functions = state.functions) : Housed program homes state' := by
  rw [Housed, hfunctions]
  exact h

theorem setStatus (h : Housed program homes state)
    (hget : state.functions.get? function = some ⟨definition, status⟩) (status' : Status ν) :
    Housed program homes (state.setStatus function status') := by
  intro name definition' now hget'
  by_cases hname : name = function
  · subst hname
    rw [State.get?_setStatus_self hget] at hget'
    cases hget'
    exact h _ _ _ hget
  · rw [State.get?_setStatus_of_ne _ _ hname] at hget'
    exact h _ _ _ hget'

/-- Results are no part of a definition, and so its home stays. -/
theorem conclude (h : Housed program homes state)
    (hget : state.functions.get? function = some ⟨definition, status⟩) (env : Env ν) :
    Housed program homes (Run.conclude function definition env state) := by
  have hfunctions : (Run.conclude function definition env state).functions = _ :=
    State.functions_foldl_report ..
  exact (h.setStatus hget _).of_functions_eq hfunctions

/-- A definition that occurs in `program` has its own numbers as its home. -/
theorem define (h : Housed program homes state) {name : String} {body : List Statement}
    {returns : ReturnSpec} {location : Option Location}
    (hoccurs : first ∈ program.occurrences)
    (hfirst : first.statement = .definition name body returns location) :
    Housed program (Function.update homes name first.numbers)
      (state.setEntry name ⟨⟨name, body, returns, location⟩, .idle⟩) := by
  intro other definition' now hget'
  by_cases hname : other = name
  · subst hname
    rw [State.get?_setEntry_self] at hget'
    cases hget'
    rw [Function.update_self, ← hfirst]
    exact hoccurs
  · rw [State.get?_setEntry_of_ne _ _ hname] at hget'
    rw [Function.update_of_ne hname]
    exact h _ _ _ hget'

/-- The body of a function that is listed occurs. -/
theorem body_subset (h : Housed program homes state)
    (hget : state.functions.get? function = some ⟨definition, status⟩) :
    Statement.numbered (homes function) 0 definition.body ⊆ program.occurrences :=
  Program.numbered_body_subset (h _ _ _ hget)

/-- A function that is listed has its definition among the occurrences of `program`. -/
theorem exists_mem_occurrences (h : Housed program homes state)
    (hmem : function ∈ state.functions.names) : ∃ body returns location,
      ⟨homes function, .definition function body returns location⟩ ∈ program.occurrences := by
  obtain ⟨⟨definition, status⟩, hget⟩ :=
    Option.isSome_iff_exists.1 (Bindings.isSome_get?_iff.2 hmem)
  exact ⟨_, _, _, h _ _ _ hget⟩

/-- What stands behind the same numbers stands in the body of the same function. -/
theorem owner_eq (h : Housed program homes state) {owner owner' : Option String}
    (howner : ∀ function ∈ owner, function ∈ state.functions.names)
    (howner' : ∀ function ∈ owner', function ∈ state.functions.names)
    (hplace : place homes owner = place homes owner') : owner = owner' := by
  cases owner with
  | none =>
    cases owner' with
    | none => rfl
    | some function =>
      obtain ⟨_, _, _, hoccurs⟩ := h.exists_mem_occurrences (howner' function rfl)
      exact absurd hplace.symm (Program.numbers_ne_nil hoccurs)
  | some function =>
    obtain ⟨_, _, _, hoccurs⟩ := h.exists_mem_occurrences (howner function rfl)
    cases owner' with
    | none => exact absurd hplace (Program.numbers_ne_nil hoccurs)
    | some function' =>
      -- The statement that stands there defines one of them only.
      obtain ⟨_, _, _, hoccurs'⟩ := h.exists_mem_occurrences (howner' function' rfl)
      have heq := Program.eq_of_numbers_eq hoccurs hoccurs' hplace
      cases congrArg Occurrence.statement heq
      rfl

end Housed

variable {program : Program}

/-- While statements are run, the definitions of the functions that are listed occur in the program,
at numbers that do not change. -/
theorem Visits.housed (h : Visits document active list homes env state visits homes' outcome)
    (hhoused : Housed program homes state) (hlist : list ⊆ program.occurrences) :
    Housed program homes' outcome.2 ∧
      ∀ function ∈ state.functions.names, homes' function = homes function := by
  induction h with
  | nil => exact ⟨hhoused, fun _ _ => rfl⟩
  | selected _ hselect _ ih =>
    have hfunctions := functions_eq_of_select hselect
    rw [← hfunctions]
    exact ih (hhoused.of_functions_eq hfunctions) (List.cons_subset.1 hlist).2
  | unselected _ hselect =>
    exact ⟨hhoused.of_functions_eq (functions_eq_of_select hselect), fun _ _ => rfl⟩
  | stopped => exact ⟨hhoused, fun _ _ => rfl⟩
  | cached _ _ _ _ ih => exact ih (hhoused.of_functions_eq rfl) (List.cons_subset.1 hlist).2
  | evaluated _ hget _ hbody _ ihbody ih =>
    obtain ⟨hinner, hinside⟩ := ihbody (hhoused.setStatus hget .running) (hhoused.body_subset hget)
    have hmarked := hbody.runs.get?_of_running hget
    obtain ⟨hrest, hkept⟩ := ih (hinner.conclude hmarked _) (List.cons_subset.1 hlist).2
    have hnames := hbody.runs.names_prefix
    rw [State.names_conclude] at hkept
    rw [State.names_setStatus] at hinside hnames
    -- Neither the body nor what is run behind it moves a definition.
    refine ⟨hrest, fun function hmem => ?_⟩
    exact (hkept function (hnames.subset hmem)).trans (hinside function hmem)
  | failed _ hget _ hbody ihbody =>
    obtain ⟨hinner, hinside⟩ := ihbody (hhoused.setStatus hget .running) (hhoused.body_subset hget)
    rw [State.names_setStatus] at hinside
    exact ⟨hinner.setStatus (hbody.runs.get?_of_running hget) .idle, hinside⟩
  | defined hfirst hget _ ih =>
    obtain ⟨hoccurs, hlist⟩ := List.cons_subset.1 hlist
    obtain ⟨hrest, hkept⟩ := ih ((hhoused.define hoccurs hfirst).of_functions_eq rfl) hlist
    refine ⟨hrest, fun function hmem => ?_⟩
    -- The new name was not listed before, so the numbers of the others stay.
    rw [hkept function ((Bindings.names_prefix_set ..).subset hmem), Function.update_of_ne]
    rintro rfl
    exact Bindings.get?_eq_none_iff.1 hget hmem

/-- `occurrence` stands on the top level of `program`, or in the body of its `owner`, a function
that is listed. -/
structure Stands (program : Program) (homes : String → List Nat) (listed : List String)
    (owner : Option String) (occurrence : Occurrence) : Prop where
  /-- It occurs in the program. -/
  occurs : occurrence ∈ program.occurrences
  /-- The function is listed. -/
  listed : ∀ function ∈ owner, function ∈ listed
  /-- Its last number is the one in the body. -/
  numbers_eq : ∃ number, occurrence.numbers = place homes owner ++ [number]

/-- Where a statement stands does not change. -/
theorem Stands.mono {listed listed' : List String} {owner : Option String} {occurrence : Occurrence}
    (h : Stands program homes listed owner occurrence) (hlisted : listed ⊆ listed')
    (hkept : ∀ function ∈ listed, homes' function = homes function) :
    Stands program homes' listed' owner occurrence := by
  refine ⟨h.occurs, fun function hmem => hlisted (h.listed function hmem), ?_⟩
  have hplace : place homes' owner = place homes owner := by
    cases owner with
    | none => rfl
    | some function => exact hkept function (h.listed function rfl)
  rw [hplace]
  exact h.numbers_eq

/-- The statements of a body that was run stand in it. -/
theorem Visits.stands_body {function : String} {definition : Definition} {status : Status ν}
    (h : Visits document active (Statement.numbered (homes function) 0 definition.body) homes env
      state visits homes' outcome) (hhoused : Housed program homes state)
    (hget : state.functions.get? function = some ⟨definition, status⟩) :
    ∀ occurrence ∈ Statement.numbered (homes function) 0 definition.body,
      Stands program homes' outcome.2.functions.names (some function) occurrence := by
  intro occurrence hmem
  have hsubset := hhoused.body_subset hget
  obtain ⟨number, -, hnumbers⟩ := Statement.exists_numbers_eq_of_mem_numbered hmem
  have hstands : Stands program homes state.functions.names (some function) occurrence := by
    refine ⟨hsubset hmem, ?_, number, hnumbers⟩
    rintro function ⟨⟩
    exact Bindings.mem_names_of_get? hget
  exact hstands.mono h.runs.names_prefix.subset (h.housed hhoused hsubset).2

/-- The statement of `visit`, if it has one, is one of `list`, or it stands in the body of a
function that is being run meanwhile. -/
def Found (program : Program) (homes : String → List Nat) (listed active : List String)
    (list : List Occurrence) (visit : Visit ν) : Prop :=
  ∀ occurrence ∈ visit.occurrence?, (visit.active = active ∧ occurrence ∈ list) ∨
    Stands program homes listed visit.active.head? occurrence

namespace Found

omit [Node ν]

variable {listed listed' : List String} {visit : Visit ν}

theorem head (state : State ν) (rest : List Occurrence) :
    Found program homes listed active (first :: rest) ⟨active, state, some first⟩ := by
  rintro occurrence ⟨⟩
  exact .inl ⟨rfl, List.mem_cons_self⟩

/-- What is found among `rest` is found in the list with one more statement in front. -/
theorem cons (h : Found program homes listed active rest visit) :
    Found program homes listed active (first :: rest) visit := fun occurrence hmem =>
  (h occurrence hmem).imp_left fun ⟨hactive, hmem⟩ => ⟨hactive, List.mem_cons_of_mem _ hmem⟩

/-- The statements of a body stand in it, also at the end of a run. -/
theorem body {function : String} {inside : List Occurrence}
    (h : Found program homes listed (function :: active) inside visit)
    (hinside : ∀ occurrence ∈ inside, Stands program homes listed (some function) occurrence)
    (hlisted : listed ⊆ listed') (hkept : ∀ function ∈ listed, homes' function = homes function) :
    Found program homes' listed' active list visit := by
  intro occurrence hmem
  rcases h occurrence hmem with ⟨hactive, hmem⟩ | hstands
  · rw [hactive]
    exact .inr ((hinside occurrence hmem).mono hlisted hkept)
  · exact .inr (hstands.mono hlisted hkept)

end Found

/-- Whatever a run visits is found among the statements that are run, or in the body of a function
that is listed in the end. -/
theorem Visits.found (h : Visits document active list homes env state visits homes' outcome)
    (hhoused : Housed program homes state) (hlist : list ⊆ program.occurrences) :
    ∀ visit ∈ visits, Found program homes' outcome.2.functions.names active list visit := by
  induction h with
  | nil => exact nofun
  | unselected => exact List.forall_mem_singleton.2 (.head _ _)
  | stopped => exact List.forall_mem_singleton.2 (.head _ _)
  | selected _ hselect _ ih =>
    have hrest := ih (hhoused.of_functions_eq (functions_eq_of_select hselect))
      (List.cons_subset.1 hlist).2
    exact List.forall_mem_cons.2 ⟨.head _ _, fun visit hmem => (hrest visit hmem).cons⟩
  | cached _ _ _ _ ih =>
    have hrest := ih (hhoused.of_functions_eq rfl) (List.cons_subset.1 hlist).2
    exact List.forall_mem_cons.2 ⟨.head _ _, fun visit hmem => (hrest visit hmem).cons⟩
  | @evaluated _ _ _ _ _ _ _ _ _ _ inner _ _ _ _ _ _ _ hget _ hbody hrest ihbody ih =>
    have hmarked := State.get?_setStatus_self hget .running
    have hstart := hhoused.setStatus hget .running
    have hsubset := hhoused.body_subset hget
    have hnow := (hbody.housed hstart hsubset).1.conclude (hbody.runs.get?_of_running hget)
      inner
    obtain ⟨-, hlist⟩ := List.cons_subset.1 hlist
    have hkept := (hrest.housed hnow hlist).2
    have hnames := hrest.runs.names_prefix.subset
    rw [State.names_conclude] at hkept hnames
    refine List.forall_mem_cons.2 ⟨.head _ _, List.forall_mem_cons.2
      ⟨nofun, List.forall_mem_append.2 ⟨fun visit hmem => ?_, fun visit hmem => ?_⟩⟩⟩
    -- The body is over when the other statements are run, so its statements stand in it by then.
    · exact (ihbody hstart hsubset visit hmem).body (hbody.stands_body hstart hmarked) hnames hkept
    · exact (ih hnow hlist visit hmem).cons
  | failed _ hget _ hbody ihbody =>
    have hmarked := State.get?_setStatus_self hget .running
    have hstart := hhoused.setStatus hget .running
    refine List.forall_mem_cons.2 ⟨.head _ _, List.forall_mem_cons.2
      ⟨nofun, fun visit hmem => ?_⟩⟩
    rw [State.names_setStatus]
    exact (ihbody hstart (hhoused.body_subset hget) visit hmem).body
      (hbody.stands_body hstart hmarked) (List.Subset.refl _) fun _ _ => rfl
  | defined hfirst hget _ ih =>
    obtain ⟨hoccurs, hlist⟩ := List.cons_subset.1 hlist
    have hrest := ih ((hhoused.define hoccurs hfirst).of_functions_eq rfl) hlist
    exact List.forall_mem_cons.2 ⟨.head _ _, fun visit hmem => (hrest visit hmem).cons⟩

/-- No statement of the program is visited twice. -/
theorem Visits.nodup_passed (h : Visits document active list homes env state visits homes' outcome)
    (horderly : state.Orderly active) (hhoused : Housed program homes state)
    (hnodup : (list.map Occurrence.numbers).Nodup)
    (hlist : ∀ occurrence ∈ list,
      Stands program homes state.functions.names active.head? occurrence) :
    passed visits ⊆ program.occurrences ∧ ((passed visits).map Occurrence.numbers).Nodup := by
  have hsubset : list ⊆ program.occurrences := fun occurrence hmem => (hlist occurrence hmem).occurs
  have hstands : ∀ visit ∈ visits, ∀ occurrence ∈ visit.occurrence?,
      Stands program homes' outcome.2.functions.names visit.active.head? occurrence := by
    intro visit hmem occurrence hvisit
    rcases h.found hhoused hsubset visit hmem occurrence hvisit with ⟨hactive, hmem⟩ | hstands
    · rw [hactive]
      exact (hlist occurrence hmem).mono h.runs.names_prefix.subset (h.housed hhoused hsubset).2
    · exact hstands
  constructor
  · intro occurrence hmem
    obtain ⟨visit, hmem, hvisit⟩ := List.mem_filterMap.1 hmem
    exact (hstands visit hmem occurrence hvisit).occurs
  · have hnumbers : (passed visits).map Occurrence.numbers = (keys visits).map Prod.snd := by
      rw [passed, keys, List.map_filterMap, List.map_filterMap]
      refine congrArg (List.filterMap · visits) (funext fun visit => ?_)
      rw [Visit.key?, Option.map_map]
      rfl
    rw [hnumbers]
    -- The numbers tell the function in whose body a statement stands.
    refine (h.nodup_keys horderly hnodup).map_on fun key hkey key' hkey' heq => ?_
    obtain ⟨visit, hmem, hvisit⟩ := List.mem_filterMap.1 hkey
    obtain ⟨visit', hmem', hvisit'⟩ := List.mem_filterMap.1 hkey'
    obtain ⟨occurrence, hoccurrence, rfl⟩ := Option.map_eq_some_iff.1 hvisit
    obtain ⟨occurrence', hoccurrence', rfl⟩ := Option.map_eq_some_iff.1 hvisit'
    have hhere := hstands visit hmem occurrence hoccurrence
    have hthere := hstands visit' hmem' occurrence' hoccurrence'
    obtain ⟨number, hnumber⟩ := hhere.numbers_eq
    obtain ⟨number', hnumber'⟩ := hthere.numbers_eq
    have hplace := (hnumber.symm.trans heq).trans hnumber'
    have howner := (h.housed hhoused hsubset).1.owner_eq hhere.listed hthere.listed
      (List.append_inj_left' hplace rfl)
    exact Prod.ext howner heq

/-! ## Executions -/

/-- The state in which the first statement of `program` is executed, if `state` is the one before.
-/
def State.outset (program : Program) (state : State ν) : State ν :=
  { state with functions := .empty }.report (.started program.path program.statements.length)

omit [Node ν] in
/-- Where an execution starts, no function is listed, so that all is in order. -/
theorem State.orderly_outset (program : Program) (state : State ν) :
    (state.outset program).Orderly [] := State.Orderly.empty.of_functions_eq rfl

/-- What an execution of `program` visits from `state` on, and what it answers. -/
def Executes (document : Document ν ε) (program : Program) (state : State ν)
    (visits : List (Visit ν)) (answer : Except (Stop ε) (Env ν)) : Prop :=
  ∃ homes final,
    Visits document [] (Statement.numbered [] 0 program.statements) (fun _ => []) .empty
    (state.outset program) visits homes (answer, final)

variable {answer : Except (Stop ε) (Env ν)}

/-- The answer of an execution is that of the statements of the program. -/
theorem execute_fst (document : Document ν ε) (program : Program) (state : State ν) :
    (execute document program state).1 =
      (statements document program.statements .empty (state.outset program)).1 := by
  rw [execute, State.outset]
  rcases statements document program.statements .empty _ with ⟨stop | env, final⟩ <;> rfl

/-- An execution comes to an end, whatever the program and the document. -/
theorem exists_executes (document : Document ν ε) (program : Program) (state : State ν) :
    ∃ visits, Executes document program state visits (execute document program state).1 := by
  have hruns := runs_statements document program.statements .empty (state.outset program)
  obtain ⟨visits, homes, hvisits⟩ :=
    exists_visits hruns [] (fun _ => []) (Statement.map_statement_numbered [] 0 _)
  rw [execute_fst]
  exact ⟨visits, homes, _, hvisits⟩

namespace Executes

/-- The visits are those of the execution that `execute` computes. -/
theorem answer_eq (h : Executes document program state visits answer) :
    answer = (execute document program state).1 := by
  obtain ⟨homes, final, hvisits⟩ := h
  have hruns := hvisits.runs
  rw [Statement.map_statement_numbered] at hruns
  rw [execute_fst, ← hruns.eq_statements]

/-- The functions whose bodies are being run are those that are marked, each of them once. -/
theorem nodup_active (h : Executes document program state visits answer) :
    ∀ visit ∈ visits,
      visit.active.Nodup ∧ ∀ name, visit.state.IsRunning name ↔ name ∈ visit.active := by
  obtain ⟨homes, final, hvisits⟩ := h
  intro visit hmem
  obtain ⟨hnodup, hnow⟩ :=
    hvisits.orderly (state.orderly_outset program) List.nodup_nil visit hmem
  exact ⟨hnodup, hnow.isRunning_iff⟩

/-- Each statement is visited at most once. -/
theorem once (h : Executes document program state visits answer) :
    passed visits ⊆ program.occurrences ∧ ((passed visits).map Occurrence.numbers).Nodup := by
  obtain ⟨homes, final, hvisits⟩ := h
  refine hvisits.nodup_passed (state.orderly_outset program) nofun (Statement.nodup_numbered ..) ?_
  intro occurrence hmem
  obtain ⟨number, -, hnumbers⟩ := Statement.exists_numbers_eq_of_mem_numbered hmem
  exact ⟨program.numbered_statements_subset hmem, nofun, number, hnumbers⟩

/-- An execution passes no more statements than occur in the program. -/
theorem length_passed_le (h : Executes document program state visits answer) :
    (passed visits).length ≤ program.occurrences.length := by
  obtain ⟨hsubset, hnodup⟩ := h.once
  exact (List.Nodup.of_map _ hnodup).length_le_of_subset hsubset

end Executes

end Extraction.Run
