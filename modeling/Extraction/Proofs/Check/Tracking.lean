import Extraction.Check
import Extraction.Proofs.Run.State

/-!
# A check beside a run

A check follows the invocations of a body the way a run does, with sets of names in the place of
the results and of the marks that a run keeps with every function.

* `Check.Tracks` relates what a check knows to the state of a run.
* `Check.Meets` relates the failure of a check to the reason why a run stops.
* `Check.follows_resolve` is the simulation: where a check has followed some statements to their
  ends, a run has run them, and where a check finds a fault, a run stops for it.
-/

namespace Extraction.Check

open Run (Status Env Results Outcome Stop Event)

variable {ν ε : Type}

/-! ## What a check and a run have in common -/

/-- `statement` may stand in a body, has no negative number, and has a place among `locations`. -/
structure Fits (locations : List (Option Location)) (statement : Statement) : Prop where
  /-- It is an assignment or an invocation. -/
  isBinding : statement.isBinding
  /-- No number is negative. -/
  forward : statement.Forward
  /-- Its place is among the given ones. -/
  location_mem : statement.location ∈ locations

/-- What a check has seen of the function `name` before it adds `definition` to the ones that are
defined. -/
structure Sound (locations : List (Option Location)) (name : String) (definition : Definition) :
    Prop where
  /-- It is listed by its name. -/
  name_eq : definition.name = name
  /-- Its body holds what bodies may hold. -/
  fits : ∀ statement ∈ definition.body, Fits locations statement
  /-- Its place is among the given ones. -/
  location_mem : definition.location ∈ locations
  /-- Its body assigns every name that it returns. -/
  unassigned?_eq : unassigned? definition = none

/-- How far a run has come with the function `name`, told by the names that a check keeps: those
whose bodies are `running`, and those that are `finished`. -/
def Stands (running finished : List String) (name : String) (definition : Definition) :
    Status ν → Prop
  | .done results => name ∈ finished ∧ results.length = definition.returns.names.length
  | .running => name ∉ finished ∧ name ∈ running
  | .idle => name ∉ finished ∧ name ∉ running

/-- How far the check and the run have come with `name` depends on whether `name` is among the
running and the finished functions, and on no other name. -/
theorem Stands.congr {running running' finished finished' : List String} {name : String}
    {definition : Definition} {status : Status ν}
    (h : Stands running finished name definition status)
    (hrunning : name ∈ running' ↔ name ∈ running)
    (hfinished : name ∈ finished' ↔ name ∈ finished) :
    Stands running' finished' name definition status := by
  cases status <;> simpa only [Stands, hrunning, hfinished] using h

/-- What a check has seen of the function `name`, and how far a run has come with it. -/
def Told (locations : List (Option Location)) (running finished : List String) (name : String)
    (definition : Definition) (status : Status ν) : Prop :=
  Sound locations name definition ∧ Stands running finished name definition status

/-- What a check knows, when `functions` are defined, is so in `state`. -/
structure Tracks (locations : List (Option Location)) (functions : Bindings Definition)
    (running finished : List String) (state : Run.State ν) : Prop
    extends state.Lists functions (Told locations running finished) where
  /-- Only functions that are defined have been followed to their ends. -/
  finished_defined : ∀ name ∈ finished, functions.get? name ≠ none
  /-- No function has returned a name that its body did not assign. -/
  quiet : state.Quiet

/-- The `failure` of a check and the `stop` of a run name the same fault of the same place. -/
def Meets (path : Option String) (locations : List (Option Location))
    (failure : Failure ProgramFault) (stop : Stop ε) : Prop :=
  ∃ fault, ∃ location ∈ locations,
    failure = ⟨fault, place path location⟩ ∧ stop = .fault ⟨fault, .ofLocation? location⟩

/-- The names of `env`, and those of `names`, have values in `env'`. -/
def Covers (env : Env ν) (names : List String) (env' : Env ν) : Prop :=
  ∀ name, (env.get? name).isSome ∨ name ∈ names → (env'.get? name).isSome

/-- A run of some statements comes to what a check comes to that follows them. If both come to their
ends, `names` have got values. -/
def Follows (path : Option String) (locations : List (Option Location))
    (functions : Bindings Definition) (running names : List String) (env : Env ν) :
    Except (Failure ProgramFault) (List String) → Outcome ν ε (Env ν) → Prop
  | .ok finished, outcome => ∃ env' state', outcome = (.ok env', state') ∧
      Tracks locations functions running finished state' ∧ Covers env names env'
  | .error failure, outcome => ∃ stop state', outcome = (.error stop, state') ∧
      Meets path locations failure stop

variable {path : Option String} {locations : List (Option Location)}
  {functions : Bindings Definition} {running finished names : List String} {state : Run.State ν}
  {env env' : Env ν}

/-! ## Names that have values -/

/-- After an assignment the names with a value are those before it and `target`. -/
theorem isSome_get?_set (env : Env ν) (target : String) (value : Value ν) (name : String) :
    ((env.set target value).get? name).isSome ↔ (env.get? name).isSome ∨ name = target := by
  by_cases h : name = target
  · simp [h]
  · simp [Bindings.get?_set_of_ne env value h, h]

/-- After several assignments the names with a value are those before them and those that were
assigned. -/
theorem isSome_get?_setAll (pairs : List (String × Value ν)) (env : Env ν) (name : String) :
    ((env.setAll pairs).get? name).isSome ↔
      (env.get? name).isSome ∨ name ∈ pairs.map Prod.fst := by
  induction pairs generalizing env with
  | nil => simp [Bindings.setAll]
  | cons pair pairs ih =>
    change ((Bindings.setAll _ pairs).get? name).isSome ↔ _
    rw [ih, isSome_get?_set, List.map_cons, List.mem_cons, or_assoc]

theorem Covers.refl (env : Env ν) : Covers env [] env := fun _ h => h.resolve_right (by simp)

theorem Covers.trans {more : List String} {env'' : Env ν} (h : Covers env names env')
    (h' : Covers env' more env'') : Covers env (names ++ more) env'' := by
  intro name hname
  rw [List.mem_append, ← or_assoc] at hname
  exact h' name (hname.imp_left (h name))

/-- An assignment covers its target. -/
theorem covers_set (env : Env ν) (target : String) (value : Value ν) :
    Covers env [target] (env.set target value) := fun _ h =>
  (isSome_get?_set ..).2 (h.imp_right List.mem_singleton.1)

/-- An invocation covers its targets when there are as many results. -/
theorem covers_bindTargets {targets : List String} {results : Results ν} (env : Env ν)
    (h : targets.length ≤ results.length) :
    Covers env targets (Run.bindTargets targets results env) := by
  intro name hname
  refine (isSome_get?_setAll ..).2 ?_
  -- There are results enough to be paired with all targets.
  rwa [List.map_fst_zip (by simpa using h)]

/-- In names that cover its targets, the body of a sound function has assigned what it returns. -/
theorem conclusion_eq {name : String} {definition : Definition}
    (h : Sound locations name definition)
    (hcovers : Covers .empty (definition.body.flatMap targets) env) (function : String) :
    Run.conclusion function definition.returns.names env =
      [.evaluated function definition.returns.names.length] := by
  -- What is returned is a target of the body, and all targets have values.
  have hnone : (definition.returns.names.filter fun other => (env.get? other).isNone) = [] := by
    refine List.filter_eq_nil_iff.2 fun returned hreturned => ?_
    have hassigned := List.find?_eq_none.1 h.unassigned?_eq returned hreturned
    have hmem : returned ∈ definition.body.flatMap targets := by simpa using hassigned
    have hsome := hcovers returned (.inr hmem)
    rw [← Option.not_isSome, hsome]
    decide
  rw [Run.conclusion, hnone]
  rfl

/-! ## Steps of both -/

namespace Tracks

/-- A run that reports no missing name, and leaves its functions, is tracked on. -/
theorem of_functions_eq {state' : Run.State ν}
    (h : Tracks locations functions running finished state)
    (hfunctions : state'.functions = state.functions)
    (hquiet : state'.Quiet) :
    Tracks locations functions running finished state' where
  toLists := h.toLists.of_functions_eq hfunctions
  finished_defined := h.finished_defined
  quiet := hquiet

variable {name : String} {definition : Definition}

/-- What is tracked of a function that is defined includes that its body is sound. -/
theorem sound (h : Tracks locations functions running finished state)
    (hname : functions.get? name = some definition) : Sound locations name definition := by
  obtain ⟨-, -, hsound, -⟩ := h.defined name definition hname
  exact hsound

/-- A function that a check has followed to its end has results in a run. -/
theorem exists_done (h : Tracks locations functions running finished state)
    (hname : functions.get? name = some definition) (hmem : name ∈ finished) :
    ∃ rs : Results ν, state.functions.get? name = some ⟨definition, .done rs⟩ ∧
      rs.length = definition.returns.names.length := by
  obtain ⟨status, hget, -, hstands⟩ := h.defined name definition hname
  cases status with
  | done rs => exact ⟨rs, hget, hstands.2⟩
  | running => exact absurd hmem hstands.1
  | idle => exact absurd hmem hstands.1

/-- A function that a check is following is being run. -/
theorem get?_of_mem_running (h : Tracks locations functions running finished state)
    (hname : functions.get? name = some definition) (hfinished : name ∉ finished)
    (hmem : name ∈ running) : state.functions.get? name = some ⟨definition, .running⟩ := by
  obtain ⟨status, hget, -, hstands⟩ := h.defined name definition hname
  cases status with
  | done rs => exact absurd hstands.1 hfinished
  | running => exact hget
  | idle => exact absurd hmem hstands.2

/-- A function that a check has not come to has not been run. -/
theorem get?_of_not_mem (h : Tracks locations functions running finished state)
    (hname : functions.get? name = some definition) (hfinished : name ∉ finished)
    (hrunning : name ∉ running) : state.functions.get? name = some ⟨definition, .idle⟩ := by
  obtain ⟨status, hget, -, hstands⟩ := h.defined name definition hname
  cases status with
  | done rs => exact absurd hstands.1 hfinished
  | running => exact absurd hstands.2 hrunning
  | idle => exact hget

/-- The body of a function is started. -/
theorem start {status : Status ν}
    (h : Tracks locations functions running finished state)
    (hname : functions.get? name = some definition)
    (hget : state.functions.get? name = some ⟨definition, status⟩) (hfinished : name ∉ finished) :
    Tracks locations functions (name :: running) finished (state.setStatus name .running) where
  toLists := by
    refine h.toLists.of_status hname (Run.State.get?_setStatus_self hget .running)
      (fun _ hne => Run.State.get?_setStatus_of_ne _ _ hne)
      ⟨h.sound hname, hfinished, List.mem_cons_self⟩ ?_
    rintro other definition' status' hne ⟨hsound, hstands⟩
    exact ⟨hsound, hstands.congr (by simp [hne]) Iff.rfl⟩
  finished_defined := h.finished_defined
  quiet := h.quiet.of_events_eq (Run.State.events_setStatus ..)

/-- The body of a function has come to its end. -/
theorem conclude (h : Tracks locations functions (name :: running) finished state)
    (hname : functions.get? name = some definition)
    (hcovers : Covers .empty (definition.body.flatMap targets) env) :
    Tracks locations functions running (name :: finished)
      (Run.conclude name definition env state) where
  toLists := by
    obtain ⟨status, hget, hsound, -⟩ := h.defined name definition hname
    refine h.toLists.of_status hname (Run.State.get?_conclude_self hget definition env)
      (fun _ hne => Run.State.get?_conclude_of_ne _ _ _ hne)
      ⟨hsound, List.mem_cons_self, List.length_map _⟩ ?_
    rintro other definition' status' hne ⟨hsound', hstands⟩
    exact ⟨hsound', hstands.congr (by simp [hne]) (by simp [hne])⟩
  finished_defined other hmem := by
    -- The function itself is defined, too.
    rcases List.mem_cons.1 hmem with rfl | hmem
    · rw [hname]
      exact nofun
    · exact h.finished_defined other hmem
  quiet := by
    -- A sound function assigns what it returns, so its end is all that is reported.
    rw [Run.conclude, conclusion_eq (h.sound hname) hcovers]
    exact (h.quiet.of_events_eq (Run.State.events_setStatus ..)).report fun _ _ heq => by cases heq

end Tracks

variable [Node ν] {document : Document ν ε}

/-- An assignment is run where a check passes it by. -/
theorem exists_statement_assignment (htotal : document.Total) {target : String}
    {selection : Selection} {location : Option Location} (hforward : selection.range.Forward)
    (h : Tracks locations functions running finished state) (env : Env ν) :
    ∃ env' state',
      Run.statement document (.assignment target selection location) env state =
        (.ok env', state') ∧
      Tracks locations functions running finished state' ∧ Covers env [target] env' := by
  obtain ⟨value, hvalue⟩ := Run.exists_select_eq state htotal hforward
  refine ⟨env.set target value, (Run.select document selection state).2, ?_, ?_,
    covers_set env target value⟩
  · rw [Run.statement_assignment, show Run.select document selection state = (.ok value, _) from
      Prod.ext hvalue rfl]
  · exact h.of_functions_eq (Run.functions_select ..) (h.quiet.of_events_eq (Run.events_select ..))

/-- Statements are followed when the first one is run and the others are followed from there. -/
theorem Follows.cons {statement : Statement} {rest : List Statement} {more : List String}
    {answer : Except (Failure ProgramFault) (List String)} {state' : Run.State ν}
    (hfirst : Run.statement document statement env state = (.ok env', state'))
    (hcovers : Covers env names env')
    (hrest : Follows path locations functions running more env' answer
      (Run.statements document rest env' state')) :
    Follows path locations functions running (names ++ more) env answer
      (Run.statements document (statement :: rest) env state) := by
  rw [Run.statements_cons, hfirst]
  cases answer with
  | ok finished =>
    obtain ⟨env'', state'', houtcome, htracks, hmore⟩ := hrest
    exact ⟨env'', state'', houtcome, htracks, hcovers.trans hmore⟩
  | error failure => exact hrest

/-- Where the first statement stops a run for the fault that a check finds, it is followed. -/
theorem follows_of_error {statement : Statement} {rest : List Statement} {fault : ProgramFault}
    {location : Option Location} {state' : Run.State ν}
    (hfirst : Run.statement document statement env state =
      (.error (.fault ⟨fault, .ofLocation? location⟩), state'))
    (hlocation : location ∈ locations) :
    Follows path locations functions running names env (.error ⟨fault, place path location⟩)
      (Run.statements document (statement :: rest) env state) := by
  rw [Run.statements_cons, hfirst]
  exact ⟨_, state', rfl, fault, location, hlocation, rfl, rfl⟩

/-! ## The simulation -/

/-- What a check comes to that follows some statements, a run of them comes to. -/
theorem follows_resolve (path : Option String) (htotal : document.Total) (list : List Statement)
    (hfits : ∀ statement ∈ list, Fits locations statement)
    (h : Tracks locations functions running finished state) (env : Env ν) :
    Follows path locations functions running (list.flatMap targets) env
      (resolve functions path running list finished) (Run.statements document list env state) := by
  fun_induction resolve functions path running list finished generalizing state env
  case case1 running finished =>
    rw [Run.statements_nil]
    exact ⟨env, state, rfl, h, Covers.refl env⟩
  -- The function is not defined.
  case case2 running targets function location rest finished hnone =>
    exact follows_of_error
      (Run.statement_invocation_of_undefined _ _ _ (h.undefined function hnone))
      (hfits _ List.mem_cons_self).location_mem
  -- There are more targets than results.
  case case3 running targets function location rest finished definition hsome returned hlt =>
    obtain ⟨status, hget, -⟩ := h.defined function definition hsome
    exact follows_of_error (Run.statement_invocation_of_arity _ _ _ hget hlt)
      (hfits _ List.mem_cons_self).location_mem
  -- The function was followed to its end, and the run has its results.
  case case4 running targets function location rest finished definition hsome returned hle hmem
      ih =>
    obtain ⟨rs, hget, hlength⟩ := h.exists_done hsome (by simpa using hmem)
    have htracks : Tracks locations functions running finished
        (state.report (.cached definition.name)) := h.of_functions_eq rfl (h.quiet.report nofun)
    exact Follows.cons (Run.statement_invocation_of_done hget (Nat.not_lt.1 hle))
      (covers_bindTargets env (hlength ▸ Nat.not_lt.1 hle))
      (ih (fun statement hmem => hfits _ (List.mem_cons_of_mem _ hmem)) htracks _)
  -- The function is being followed, and the run is in its body.
  case case5 running targets function location rest finished definition hsome returned hle hnot
      hmem =>
    have hsound := h.sound hsome
    have hget := h.get?_of_mem_running hsome (by simpa using hnot) (by simpa using hmem)
    have hrun : Run.statement document (.invocation targets function location) env state = _ :=
      Run.statement_invocation_of_running hget (Nat.not_lt.1 hle)
    rw [hsound.name_eq] at hrun
    exact follows_of_error hrun hsound.location_mem
  -- The function is new, and so is its body to the run. In the names of the body nothing is
  -- assigned at first, so the targets of the body are all that its end can rely on.
  case case6 running targets function location rest finished definition hsome returned hle hnot hnew
      finished' hbody ihbody ihrest =>
    have hfinished : function ∉ finished := by simpa using hnot
    have hget := h.get?_of_not_mem hsome hfinished (by simpa using hnew)
    have hrun : Run.statement document (.invocation targets function location) env state = _ :=
      Run.statement_invocation_of_idle hget (Nat.not_lt.1 hle)
    have hfollows := ihbody (h.sound hsome).fits (h.start hsome hget hfinished) .empty
    rw [hbody] at hfollows
    obtain ⟨env', state', houtcome, htracks, hcovers⟩ := hfollows
    rw [houtcome] at hrun
    refine Follows.cons hrun (covers_bindTargets env ?_) ?_
    · rw [Run.results, List.length_map]
      exact Nat.not_lt.1 hle
    · exact ihrest (fun statement hmem => hfits _ (List.mem_cons_of_mem _ hmem))
        (htracks.conclude hsome hcovers) _
  -- The body of a new function has a fault.
  case case7 running targets function location rest finished definition hsome returned hle hnot hnew
      failure hbody ihbody =>
    have hfinished : function ∉ finished := by simpa using hnot
    have hget := h.get?_of_not_mem hsome hfinished (by simpa using hnew)
    have hrun : Run.statement document (.invocation targets function location) env state = _ :=
      Run.statement_invocation_of_idle hget (Nat.not_lt.1 hle)
    have hfollows := ihbody (h.sound hsome).fits (h.start hsome hget hfinished) .empty
    rw [hbody] at hfollows
    obtain ⟨stop, state', houtcome, hmeets⟩ := hfollows
    rw [houtcome] at hrun
    rw [Run.statements_cons, hrun]
    exact ⟨stop, _, rfl, hmeets⟩
  -- Nothing is invoked.
  case case8 running first rest finished hfirst ih =>
    have hfit := hfits _ List.mem_cons_self
    have hrest := fun statement hmem => hfits statement (List.mem_cons_of_mem _ hmem)
    cases first with
    | assignment target selection location =>
      obtain ⟨env', state', hrun, htracks, hcovers⟩ :=
        exists_statement_assignment htotal hfit.forward h env
      exact Follows.cons hrun hcovers (ih hrest htracks env')
    | invocation targets function location => exact absurd rfl (hfirst targets function location)
    | returns spec => cases hfit.isBinding
    | definition name body returns location => cases hfit.isBinding
    | bare => cases hfit.isBinding

end Extraction.Check
