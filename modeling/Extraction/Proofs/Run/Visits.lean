import Extraction.Proofs.Program.Occurrences
import Extraction.Proofs.Run.Completion

/-!
# What a run visits

A run is followed statement by statement, also into the bodies that it runs.

* `Run.Visit` is a moment at which a statement is about to be executed, or a body is started.
* `Run.Visits` relates statements to the visits of their run. It has one case for each of those of
  `Run.Runs`; `Run.exists_visits` finds the visits of any run, and `Run.Visits.runs` the run of any
  visits.
* `Run.Visits.orderly` tells which bodies are being run at a visit.
-/

namespace Extraction.Run

variable {ν ε : Type}

/-- A moment of a run at which a statement is about to be executed, or a body is started. -/
structure Visit (ν : Type) where
  /-- The functions whose bodies are being run, the innermost one first. -/
  active : List String
  /-- What the run remembers by then. -/
  state : State ν
  /-- The statement; there is none where a body is started. -/
  occurrence? : Option Occurrence

/-! ## Visits of runs -/

variable [Node ν]

/-- What a run of statements visits, and what it comes to. The functions in `active` are those whose
bodies are being run, and `homes` tells the numbers of the definitions of functions, before and
after. -/
inductive Visits (document : Document ν ε) :
    List String → List Occurrence → (String → List Nat) → Env ν → State ν →
      List (Visit ν) → (String → List Nat) → Outcome ν ε (Env ν) → Prop
  /-- There is nothing left to run. -/
  | nil {active homes env state} :
      Visits document active [] homes env state [] homes (.ok env, state)
  /-- The document answers a selection. -/
  | selected {active first rest homes env state target selection location value state' visits
      homes' outcome} (hfirst : first.statement = .assignment target selection location)
      (hselect : select document selection state = (.ok value, state'))
      (hrest : Visits document active rest homes (env.set target value) state' visits homes'
        outcome) :
      Visits document active (first :: rest) homes env state
        (⟨active, state, some first⟩ :: visits) homes' outcome
  /-- The document answers a selection with none of the values that it could have. -/
  | unselected {active first rest homes env state target selection location stop state'}
      (hfirst : first.statement = .assignment target selection location)
      (hselect : select document selection state = (.error stop, state')) :
      Visits document active (first :: rest) homes env state [⟨active, state, some first⟩] homes
        (.error stop, state')
  /-- A statement is stopped for its fault. -/
  | stopped {active first rest homes env state failure}
      (hfault : fault? state first.statement = some failure) :
      Visits document active (first :: rest) homes env state [⟨active, state, some first⟩] homes
        (.error (.fault failure), state)
  /-- The results of a function are used again. -/
  | cached {active first rest homes env state targets function location definition rs visits
      homes' outcome} (hfirst : first.statement = .invocation targets function location)
      (hget : state.functions.get? function = some ⟨definition, .done rs⟩)
      (hle : targets.length ≤ definition.returns.names.length)
      (hrest : Visits document active rest homes (bindTargets targets rs env)
        (state.report (.cached definition.name)) visits homes' outcome) :
      Visits document active (first :: rest) homes env state
        (⟨active, state, some first⟩ :: visits) homes' outcome
  /-- The body of a function is run to its end. -/
  | evaluated {active first rest homes env state targets function location definition inner state'
      inside homes₁ visits homes' outcome}
      (hfirst : first.statement = .invocation targets function location)
      (hget : state.functions.get? function = some ⟨definition, .idle⟩)
      (hle : targets.length ≤ definition.returns.names.length)
      (hbody : Visits document (function :: active)
        (Statement.numbered (homes function) 0 definition.body) homes .empty
        (state.setStatus function .running) inside homes₁ (.ok inner, state'))
      (hrest : Visits document active rest homes₁
        (bindTargets targets (results definition.returns.names inner) env)
        (conclude function definition inner state') visits homes' outcome) :
      Visits document active (first :: rest) homes env state
        (⟨active, state, some first⟩ ::
          ⟨function :: active, state.setStatus function .running, none⟩ :: (inside ++ visits))
        homes' outcome
  /-- The body of a function is run and stops. -/
  | failed {active first rest homes env state targets function location definition stop state'
      inside homes₁} (hfirst : first.statement = .invocation targets function location)
      (hget : state.functions.get? function = some ⟨definition, .idle⟩)
      (hle : targets.length ≤ definition.returns.names.length)
      (hbody : Visits document (function :: active)
        (Statement.numbered (homes function) 0 definition.body) homes .empty
        (state.setStatus function .running) inside homes₁ (.error stop, state')) :
      Visits document active (first :: rest) homes env state
        (⟨active, state, some first⟩ ::
          ⟨function :: active, state.setStatus function .running, none⟩ :: inside)
        homes₁ (.error stop, state'.setStatus function .idle)
  /-- A function is defined, and its definition is here. -/
  | defined {active first rest homes env state name body returns location visits homes' outcome}
      (hfirst : first.statement = .definition name body returns location)
      (hget : state.functions.get? name = none)
      (hrest : Visits document active rest (Function.update homes name first.numbers) env
        ((state.setEntry name ⟨⟨name, body, returns, location⟩, .idle⟩).report
          (.defined name returns.names)) visits homes' outcome) :
      Visits document active (first :: rest) homes env state
        (⟨active, state, some first⟩ :: visits) homes' outcome

variable {document : Document ν ε} {active : List String} {list : List Occurrence}
  {homes homes' : String → List Nat} {env : Env ν} {state state' : State ν}
  {visits : List (Visit ν)} {outcome : Outcome ν ε (Env ν)} {name : String}

/-- What is visited is visited by a run. -/
theorem Visits.runs (h : Visits document active list homes env state visits homes' outcome) :
    Runs document (list.map Occurrence.statement) env state outcome := by
  induction h with
  -- Each visit is a step of the run; the numbers of the statements are forgotten.
  | nil => exact .nil
  | selected hfirst hselect _ ih =>
    rw [List.map_cons, hfirst]
    exact .selected hselect ih
  | unselected hfirst hselect =>
    rw [List.map_cons, hfirst]
    exact .unselected hselect
  | stopped hfault => exact .stopped hfault
  | cached hfirst hget hle _ ih =>
    rw [List.map_cons, hfirst]
    exact .cached hget hle ih
  | evaluated hfirst hget hle _ _ ihbody ih =>
    rw [Statement.map_statement_numbered] at ihbody
    rw [List.map_cons, hfirst]
    exact .evaluated hget hle ihbody ih
  | failed hfirst hget hle _ ihbody =>
    rw [Statement.map_statement_numbered] at ihbody
    rw [List.map_cons, hfirst]
    exact .failed hget hle ihbody
  | defined hfirst hget _ ih =>
    rw [List.map_cons, hfirst]
    exact .defined hget ih

/-- A run visits something, whatever the numbers of its statements. -/
theorem exists_visits {statements : List Statement} (h : Runs document statements env state outcome)
    (active : List String) (homes : String → List Nat)
    (hlist : list.map Occurrence.statement = statements) :
    ∃ visits homes', Visits document active list homes env state visits homes' outcome := by
  -- The numbers change from list to list: those of a body stand behind its definition.
  induction h generalizing active homes list with
  | nil =>
    obtain rfl := List.map_eq_nil_iff.1 hlist
    exact ⟨_, _, .nil⟩
  | selected hselect _ ih =>
    obtain ⟨first, rest, rfl, hfirst, hrest⟩ := List.map_eq_cons_iff.1 hlist
    obtain ⟨visits, homes', hvisits⟩ := ih active homes hrest
    exact ⟨_, _, .selected hfirst hselect hvisits⟩
  | unselected hselect =>
    obtain ⟨first, rest, rfl, hfirst, -⟩ := List.map_eq_cons_iff.1 hlist
    exact ⟨_, homes, .unselected hfirst hselect⟩
  | stopped hfault =>
    obtain ⟨first, rest, rfl, rfl, -⟩ := List.map_eq_cons_iff.1 hlist
    exact ⟨_, homes, .stopped hfault⟩
  | cached hget hle _ ih =>
    obtain ⟨first, rest, rfl, hfirst, hrest⟩ := List.map_eq_cons_iff.1 hlist
    obtain ⟨visits, homes', hvisits⟩ := ih active homes hrest
    exact ⟨_, _, .cached hfirst hget hle hvisits⟩
  | @evaluated _ function _ _ _ _ _ _ _ _ hget hle _ _ ihbody ih =>
    obtain ⟨first, rest, rfl, hfirst, hrest⟩ := List.map_eq_cons_iff.1 hlist
    obtain ⟨inside, homes₁, hinside⟩ :=
      ihbody (function :: active) homes (Statement.map_statement_numbered (homes function) 0 _)
    obtain ⟨visits, homes', hvisits⟩ := ih active homes₁ hrest
    exact ⟨_, _, .evaluated hfirst hget hle hinside hvisits⟩
  | @failed _ function _ _ _ _ _ _ _ hget hle _ ihbody =>
    obtain ⟨first, rest, rfl, hfirst, -⟩ := List.map_eq_cons_iff.1 hlist
    obtain ⟨inside, homes₁, hinside⟩ :=
      ihbody (function :: active) homes (Statement.map_statement_numbered (homes function) 0 _)
    exact ⟨_, _, .failed hfirst hget hle hinside⟩
  | @defined name _ _ _ _ _ _ _ hget _ ih =>
    obtain ⟨first, rest, rfl, hfirst, hrest⟩ := List.map_eq_cons_iff.1 hlist
    obtain ⟨visits, homes', hvisits⟩ := ih active (Function.update homes name first.numbers) hrest
    exact ⟨_, _, .defined hfirst hget hvisits⟩

/-! ## Bodies that are being run -/

/-- At each visit the functions that are marked as being run are those whose bodies are being run,
each of them once. -/
theorem Visits.orderly (h : Visits document active list homes env state visits homes' outcome)
    (horderly : state.Orderly active) (hnodup : active.Nodup) :
    ∀ visit ∈ visits, visit.active.Nodup ∧ visit.state.Orderly visit.active := by
  induction h with
  | nil => exact nofun
  | selected _ hselect _ ih =>
    have hrest := horderly.of_functions_eq (functions_eq_of_select hselect)
    exact List.forall_mem_cons.2 ⟨⟨hnodup, horderly⟩, ih hrest hnodup⟩
  | unselected => exact List.forall_mem_singleton.2 ⟨hnodup, horderly⟩
  | stopped => exact List.forall_mem_singleton.2 ⟨hnodup, horderly⟩
  | cached _ _ _ _ ih =>
    exact List.forall_mem_cons.2 ⟨⟨hnodup, horderly⟩, ih (horderly.of_functions_eq rfl) hnodup⟩
  | evaluated _ hget _ hbody _ ihbody ih =>
    -- An idle function is not among those that are being run.
    have hstart := horderly.start hget
    have hdistinct := List.nodup_cons.2 ⟨horderly.not_mem hget, hnodup⟩
    obtain ⟨hinner, hextends⟩ := hbody.runs.orderly hstart
    obtain ⟨hrest, -⟩ := horderly.conclude hget hinner hextends _
    refine List.forall_mem_cons.2 ⟨⟨hnodup, horderly⟩, List.forall_mem_cons.2 ⟨?_, ?_⟩⟩
    · exact ⟨hdistinct, hstart⟩
    · exact List.forall_mem_append.2 ⟨ihbody hstart hdistinct, ih hrest hnodup⟩
  | failed _ hget _ _ ihbody =>
    have hstart := horderly.start hget
    have hdistinct := List.nodup_cons.2 ⟨horderly.not_mem hget, hnodup⟩
    refine List.forall_mem_cons.2 ⟨⟨hnodup, horderly⟩, List.forall_mem_cons.2 ⟨?_, ?_⟩⟩
    · exact ⟨hdistinct, hstart⟩
    · exact ihbody hstart hdistinct
  | @defined _ _ _ _ _ _ name body returns location _ _ _ _ hget _ ih =>
    have hdefined := horderly.define ⟨name, body, returns, location⟩ hget
    exact List.forall_mem_cons.2 ⟨⟨hnodup, horderly⟩, ih (hdefined.of_functions_eq rfl) hnodup⟩

end Extraction.Run
