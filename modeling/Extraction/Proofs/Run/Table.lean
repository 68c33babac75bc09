import Extraction.Proofs.Run.Course

/-!
# The functions of a state

What is true of the functions that a state lists, and what becomes of them while statements are
run, however the run comes out.

* `Run.State.Orderly` is the invariant of the functions, while the bodies of given ones are being
  run.
* `Run.State.Extends` relates a state to later ones: no function is lost, moved or replaced, and no
  results are changed.
* `Run.Runs.orderly` is what a run preserves.
-/

namespace Extraction.Run

variable {ν ε : Type}

namespace State

/-- The functions of `state` are as they have to be while the bodies of those in `running` are being
run. -/
structure Orderly (running : List String) (state : State ν) : Prop where
  /-- No name is listed twice. -/
  nodup : state.functions.names.Nodup
  /-- A function is listed by its own name. -/
  name_eq : ∀ name entry, state.functions.get? name = some entry → entry.definition.name = name
  /-- The functions that are marked as being run are those whose bodies are being run. -/
  isRunning_iff : ∀ name, state.IsRunning name ↔ name ∈ running
  /-- Results are values of the returned names, in their order. -/
  returned : ∀ name definition rs,
    state.functions.get? name = some ⟨definition, .done rs⟩ →
      rs.map Prod.fst = definition.returns.names

/-- `state'` comes after `state`, with all functions that were listed in their places, with their
definitions, and with the results that they had. -/
structure Extends (state state' : State ν) : Prop where
  /-- The functions keep their places; those that were added stand behind them. -/
  names_prefix : state.functions.names <+: state'.functions.names
  /-- A definition is not replaced, and results are not changed. -/
  kept : ∀ name definition status, state.functions.get? name = some ⟨definition, status⟩ →
    ∃ status', state'.functions.get? name = some ⟨definition, status'⟩ ∧
      ∀ rs, status = .done rs → status' = .done rs

variable {state state' state'' : State ν} {name : String} {definition : Definition}
  {entry : Entry ν} {running running' : List String}

/-- Of a function that is listed, `setStatus` replaces the status in its place. -/
theorem functions_setStatus (hget : state.functions.get? name = some entry) (status : Status ν) :
    (state.setStatus name status).functions =
      state.functions.set name { entry with status := status } := by
  rw [setStatus, hget]
  rfl

/-! ## The invariant -/

namespace Orderly

/-- Without functions everything is in order, and no body is being run. -/
theorem empty : (State.empty : State ν).Orderly [] where
  nodup := List.nodup_nil
  name_eq := nofun
  isRunning_iff _ := ⟨nofun, nofun⟩
  returned := nofun

/-- `Orderly` depends on the functions of a state alone. -/
theorem of_functions_eq (h : state.Orderly running)
    (hfunctions : state'.functions = state.functions) : state'.Orderly running := by
  obtain ⟨functions', trace⟩ := state'
  obtain rfl : functions' = state.functions := hfunctions
  exact ⟨h.nodup, h.name_eq, h.isRunning_iff, h.returned⟩

/-- A function that is idle is not being run. -/
theorem not_mem (h : state.Orderly running)
    (hget : state.functions.get? name = some ⟨definition, .idle⟩) : name ∉ running := by
  intro hmem
  obtain ⟨other, hrunning⟩ := (h.isRunning_iff name).2 hmem
  rw [hget] at hrunning
  cases hrunning

/-- One function is added, or comes further. -/
theorem set (h : state.Orderly running)
    (hfunctions : state'.functions = state.functions.set name entry)
    (hname : entry.definition.name = name)
    (hreturned : ∀ rs, entry.status = .done rs →
      rs.map Prod.fst = entry.definition.returns.names)
    (hself : name ∈ running' ↔ entry.status = .running)
    (hothers : ∀ other, other ≠ name → (other ∈ running' ↔ other ∈ running)) :
    state'.Orderly running' where
  nodup := by
    rw [hfunctions]
    exact Bindings.nodup_names_set h.nodup ..
  name_eq other entry' hget := by
    rw [hfunctions, Bindings.get?_set_eq_some_iff] at hget
    rcases hget with ⟨rfl, rfl⟩ | ⟨-, hget⟩
    · exact hname
    · exact h.name_eq other entry' hget
  isRunning_iff other := by
    simp only [IsRunning, hfunctions, Bindings.get?_set_eq_some_iff, exists_or]
    by_cases hne : other = name
    · subst hne
      rw [hself]
      cases entry
      simp [eq_comm]
    · rw [hothers other hne, ← h.isRunning_iff]
      simp [hne, IsRunning]
  returned other definition rs hget := by
    rw [hfunctions, Bindings.get?_set_eq_some_iff] at hget
    rcases hget with ⟨-, rfl⟩ | ⟨-, hget⟩
    · exact hreturned rs rfl
    · exact h.returned other definition rs hget

/-- The body of a function is started. -/
theorem start (h : state.Orderly running)
    (hget : state.functions.get? name = some ⟨definition, .idle⟩) :
    (state.setStatus name .running).Orderly (name :: running) := by
  have hname : definition.name = name := h.name_eq name _ hget
  exact h.set (functions_setStatus hget .running) hname nofun (by simp) fun other hne => by
    simp [hne]

/-- A function is defined. -/
theorem define (h : state.Orderly running) (definition : Definition)
    (hnone : state.functions.get? definition.name = none) :
    (state.setEntry definition.name ⟨definition, .idle⟩).Orderly running := by
  have hnot : definition.name ∉ running := by
    intro hmem
    obtain ⟨other, hrunning⟩ := (h.isRunning_iff _).2 hmem
    rw [hnone] at hrunning
    cases hrunning
  exact h.set rfl rfl nofun (by simp [hnot]) fun _ _ => Iff.rfl

end Orderly

/-! ## Later states -/

namespace Extends

theorem refl (state : State ν) : state.Extends state :=
  ⟨List.prefix_refl _, fun _ _ status hget => ⟨status, hget, fun _ => id⟩⟩

/-- What was kept from `state` to `state'` and from there to `state''` was kept throughout. -/
theorem trans (h : state.Extends state') (h' : state'.Extends state'') :
    state.Extends state'' := by
  refine ⟨h.names_prefix.trans h'.names_prefix, fun name definition status hget => ?_⟩
  obtain ⟨status', hget', hdone⟩ := h.kept name definition status hget
  obtain ⟨status'', hget'', hdone'⟩ := h'.kept name definition status' hget'
  exact ⟨status'', hget'', fun rs hrs => hdone' rs (hdone rs hrs)⟩

/-- States with the same functions extend each other. -/
theorem of_functions_eq (hfunctions : state'.functions = state.functions) :
    state.Extends state' := by
  obtain ⟨functions', trace⟩ := state'
  obtain rfl : functions' = state.functions := hfunctions
  exact ⟨List.prefix_refl _, (refl state).kept⟩

theorem report (state : State ν) (event : Event) : state.Extends (state.report event) :=
  of_functions_eq (functions_report ..)

/-- One function is added, or comes further without having had results. -/
theorem set (hfunctions : state'.functions = state.functions.set name entry)
    (hold : ∀ old, state.functions.get? name = some old →
      old.definition = entry.definition ∧ ∀ rs, old.status ≠ .done rs) :
    state.Extends state' := by
  refine ⟨?_, fun other definition status hget => ?_⟩
  · rw [hfunctions]
    exact Bindings.names_prefix_set ..
  · rw [hfunctions]
    by_cases hne : other = name
    · subst hne
      obtain ⟨rfl, hstatus⟩ := hold _ hget
      exact ⟨entry.status, Bindings.get?_set_self .., fun rs hrs => absurd hrs (hstatus rs)⟩
    · exact ⟨status, (Bindings.get?_set_of_ne _ _ hne).trans hget, fun _ => id⟩

/-- A function that has no results yet may change its status. -/
theorem setStatus {status : Status ν}
    (hget : state.functions.get? name = some ⟨definition, status⟩)
    (hstatus : ∀ rs, status ≠ .done rs) (status' : Status ν) :
    state.Extends (state.setStatus name status') := by
  refine set (functions_setStatus hget status') fun old hold => ?_
  obtain rfl : _ = old := Option.some.inj (hget.symm.trans hold)
  exact ⟨rfl, hstatus⟩

theorem setEntry (hnone : state.functions.get? name = none) (entry : Entry ν) :
    state.Extends (state.setEntry name entry) := by
  refine set rfl fun old hold => ?_
  rw [hnone] at hold
  cases hold

end Extends

/-! ## Ends of bodies -/

/-- Results are listed under the returned names, in their order. -/
theorem map_fst_results (returns : List String) (env : Env ν) :
    (results returns env).map Prod.fst = returns :=
  List.map_map.trans (List.map_id _)

namespace Orderly

/-- The body of a function ends. Its definition is still listed then, and marked as being run. -/
theorem finish (h : state.Orderly running)
    (hget : state.functions.get? name = some ⟨definition, .idle⟩)
    (hbody : state'.Orderly (name :: running))
    (hextends : (state.setStatus name .running).Extends state') (status : Status ν)
    (hstatus : status ≠ .running)
    (hreturned : ∀ rs, status = .done rs → rs.map Prod.fst = definition.returns.names) :
    (state'.setStatus name status).Orderly running ∧
      state'.Extends (state'.setStatus name status) := by
  -- The body has kept the function listed, and only its own end takes the mark away.
  obtain ⟨now, hget', -⟩ := hextends.kept _ _ _ (get?_setStatus_self hget .running)
  obtain ⟨other, hrunning⟩ := (hbody.isRunning_iff name).2 List.mem_cons_self
  obtain rfl : now = .running := by
    rw [hget'] at hrunning
    cases hrunning
    rfl
  have hnot := h.not_mem hget
  have hname : definition.name = name := h.name_eq name _ hget
  refine ⟨hbody.set (functions_setStatus hget' status) hname hreturned ?_ fun other hne => ?_,
    Extends.setStatus hget' nofun status⟩
  · simp [hnot, hstatus]
  · simp [hne]

/-- The body of a function has come to its end. -/
theorem conclude (h : state.Orderly running)
    (hget : state.functions.get? name = some ⟨definition, .idle⟩)
    (hbody : state'.Orderly (name :: running))
    (hextends : (state.setStatus name .running).Extends state') (env : Env ν) :
    (Run.conclude name definition env state').Orderly running ∧
      state'.Extends (Run.conclude name definition env state') := by
  have hfunctions : (Run.conclude name definition env state').functions = _ :=
    functions_foldl_report ..
  obtain ⟨hdone, hdoneExtends⟩ := h.finish hget hbody hextends
    (.done (results definition.returns.names env)) nofun fun rs hrs => by
      cases hrs
      exact map_fst_results ..
  exact ⟨hdone.of_functions_eq hfunctions, hdoneExtends.trans (.of_functions_eq hfunctions)⟩

end Orderly

end State

/-! ## Runs -/

variable [Node ν] {document : Document ν ε} {list : List Statement} {env : Env ν}
  {state : State ν} {outcome : Outcome ν ε (Env ν)} {running : List String}

/-- However a run comes out, its functions are in order, and extend those it began with. -/
theorem Runs.orderly (h : Runs document list env state outcome) (horderly : state.Orderly running) :
    outcome.2.Orderly running ∧ state.Extends outcome.2 := by
  -- The bodies that are being run differ from one case to the next, so they are generalised.
  induction h generalizing running with
  | nil => exact ⟨horderly, .refl _⟩
  | stopped => exact ⟨horderly, .refl _⟩
  | selected hselect _ ih =>
    have hfunctions := functions_eq_of_select hselect
    obtain ⟨hrest, hextends⟩ := ih (horderly.of_functions_eq hfunctions)
    exact ⟨hrest, (State.Extends.of_functions_eq hfunctions).trans hextends⟩
  | unselected hselect =>
    have hfunctions := functions_eq_of_select hselect
    exact ⟨horderly.of_functions_eq hfunctions, .of_functions_eq hfunctions⟩
  | cached _ _ _ ih =>
    obtain ⟨hrest, hextends⟩ := ih (horderly.of_functions_eq rfl)
    exact ⟨hrest, (State.Extends.report _ _).trans hextends⟩
  | evaluated hget _ _ _ ihbody ih =>
    obtain ⟨hbody, hextends⟩ := ihbody (horderly.start hget)
    obtain ⟨hdone, hdoneExtends⟩ := horderly.conclude hget hbody hextends _
    obtain ⟨hrest, hrestExtends⟩ := ih hdone
    refine ⟨hrest, ((State.Extends.setStatus hget nofun _).trans hextends).trans ?_⟩
    exact hdoneExtends.trans hrestExtends
  | failed hget _ _ ihbody =>
    obtain ⟨hbody, hextends⟩ := ihbody (horderly.start hget)
    obtain ⟨hidle, hidleExtends⟩ := horderly.finish hget hbody hextends .idle nofun nofun
    exact ⟨hidle, ((State.Extends.setStatus hget nofun _).trans hextends).trans hidleExtends⟩
  | @defined name body returns location _ _ state _ hget _ ih =>
    have hdefined := horderly.define ⟨name, body, returns, location⟩ hget
    obtain ⟨hrest, hextends⟩ := ih (hdefined.of_functions_eq rfl)
    refine ⟨hrest, ?_⟩
    exact ((State.Extends.setEntry hget _).trans (State.Extends.report _ _)).trans hextends

end Extraction.Run
