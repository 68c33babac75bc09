import Extraction.Proofs.Program.Graph
import Extraction.Proofs.Run.Change

/-!
# Runs that come to their ends

What can happen while statements are run that none of them stops, and what is so at the end.

* `Run.Completes` has one case for each way in which the first statement can be passed, and
  `Run.completes_iff` says that it tells the runs that come to their ends.
* `Run.Expects` relates a state, and the statements that are still to be run, to the functions of a
  program. `Run.Completes.expects` preserves it.
* `Run.expects_of_passed` is how a program stands that has passed some of its statements.
* `Run.Closed` is the invariant of the functions that have results, and `Run.Completes.closed`
  preserves it: what has results leads to functions with results only.
* `Run.Completes.isDone_or_leadsTo` says that no other functions get results than those that the
  statements lead to.
-/

namespace Extraction.Run

open Relation (ReflTransGen TransGen)

variable {ν ε : Type} {state state' : State ν}

/-! ## Functions that have results -/

section

variable {name other : String} {definition : Definition}

/-- `IsDone` depends on the functions of a state alone. -/
theorem isDone_of_functions_eq (hfunctions : state'.functions = state.functions) :
    state'.IsDone name ↔ state.IsDone name := by
  rw [State.IsDone, State.IsDone, hfunctions]

/-- What has results keeps them. -/
theorem State.Extends.isDone (h : state.Extends state') (hdone : state.IsDone name) :
    state'.IsDone name := by
  obtain ⟨definition, rs, hget⟩ := hdone
  obtain ⟨status', hget', hkept⟩ := h.kept name definition (.done rs) hget
  exact ⟨definition, rs, by rw [hget', hkept rs rfl]⟩

/-- What is not listed later was not listed before. -/
theorem State.Extends.get?_eq_none (h : state.Extends state')
    (hget : state'.functions.get? name = none) : state.functions.get? name = none := by
  rw [Bindings.get?_eq_none_iff] at hget ⊢
  exact fun hmem => hget (h.names_prefix.subset hmem)

/-- To start the body of an idle function gives or takes no results. -/
theorem isDone_setStatus_running (hget : state.functions.get? name = some ⟨definition, .idle⟩) :
    (state.setStatus name .running).IsDone other ↔ state.IsDone other := by
  by_cases hname : other = name
  · subst hname
    have hstarted := State.get?_setStatus_self hget .running
    exact iff_of_false (State.not_isDone hstarted nofun) (State.not_isDone hget nofun)
  · rw [State.IsDone, State.get?_setStatus_of_ne _ _ hname, State.IsDone]

/-- At the end of its body a function has results. -/
theorem isDone_conclude {entry : Entry ν} (hget : state.functions.get? name = some entry)
    (definition : Definition) (env : Env ν) :
    (conclude name definition env state).IsDone other ↔ other = name ∨ state.IsDone other := by
  by_cases hname : other = name
  · subst hname
    exact iff_of_true ⟨_, _, State.get?_conclude_self hget definition env⟩ (.inl rfl)
  · rw [State.IsDone, State.get?_conclude_of_ne _ _ _ hname, State.IsDone]
    simp [hname]

/-- A function that is defined has no results yet. -/
theorem isDone_define (hget : state.functions.get? name = none) (definition : Definition)
    (event : Event) :
    ((state.setEntry name ⟨definition, .idle⟩).report event).IsDone other ↔ state.IsDone other := by
  rw [isDone_of_functions_eq (State.functions_report ..)]
  by_cases hname : other = name
  · subst hname
    refine iff_of_false (State.not_isDone (State.get?_setEntry_self ..) nofun) ?_
    rintro ⟨old, rs, hold⟩
    rw [hget] at hold
    cases hold
  · rw [State.IsDone, State.get?_setEntry_of_ne _ _ hname, State.IsDone]

end

/-! ## The functions of a program -/

/-- A function that is listed in `state` has the definition that it has in `defined`. -/
def State.Agrees (defined : String → Option Definition) (state : State ν) : Prop :=
  ∀ name entry, state.functions.get? name = some entry → defined name = some entry.definition

namespace State.Agrees

variable {defined : String → Option Definition}

/-- A status is no part of a definition. -/
theorem setStatus (h : state.Agrees defined) (name : String) (status : Status ν) :
    (state.setStatus name status).Agrees defined := by
  intro other entry hother
  unfold State.setStatus at hother
  split at hother
  · rename_i old hget
    rcases Bindings.get?_set_eq_some_iff.1 hother with ⟨rfl, rfl⟩ | ⟨-, hother⟩
    · exact h other old hget
    · exact h other entry hother
  · exact h other entry hother

theorem conclude (h : state.Agrees defined) (name : String) (definition : Definition)
    (env : Env ν) : (Run.conclude name definition env state).Agrees defined := by
  intro other entry hother
  rw [Run.conclude, functions_foldl_report] at hother
  exact h.setStatus _ _ other entry hother

end State.Agrees

/-- The functions of `state` are those of `defined`, and so will be those that the statements of
`list` define. -/
structure Expects (defined : String → Option Definition) (list : List Statement)
    (state : State ν) : Prop where
  /-- What is listed is so in the program. -/
  agrees : state.Agrees defined
  /-- One that is not listed, and that the statements define, has its first definition there. -/
  declares : ∀ name definition, state.functions.get? name = none →
    Statement.definition? list name = some definition → defined name = some definition

variable {defined : String → Option Definition} {list rest : List Statement} {first : Statement}
  {name : String} {definition : Definition}

namespace Expects

/-- Before a program is run, its first definitions are to come. -/
theorem start (program : Program) :
    Expects program.definition? program.statements (start program : State ν) where
  agrees _ _ hget := by cases hget
  declares _ _ _ hsome := hsome

/-- What some statements define, all of them define. -/
theorem of_append (h : Expects defined (list ++ rest) state) : Expects defined list state where
  agrees := h.agrees
  declares name definition hnone hsome :=
    h.declares name definition hnone (by rw [Statement.definition?_append, hsome, Option.some_or])

/-- A statement that defines nothing leaves what the statements behind it define, as long as the
functions are extended. -/
theorem tail (h : Expects defined (first :: rest) state) (hfirst : first.isDefinition = false)
    (hagrees : state'.Agrees defined) (hextends : state.Extends state') :
    Expects defined rest state' where
  agrees := hagrees
  declares name definition hnone hsome := by
    rw [← Statement.definition?_cons_of_not_isDefinition hfirst] at hsome
    exact h.declares name definition (hextends.get?_eq_none hnone) hsome

/-- `Expects` depends on the functions of a state alone. -/
theorem of_functions_eq (h : Expects defined (first :: rest) state)
    (hfirst : first.isDefinition = false) (hfunctions : state'.functions = state.functions) :
    Expects defined rest state' :=
  h.tail hfirst (by rw [State.Agrees, hfunctions]; exact h.agrees) (.of_functions_eq hfunctions)

/-- The body of a function is started. It defines nothing. -/
theorem body (h : Expects defined list state) (hregular : Regular defined)
    (hget : state.functions.get? name = some ⟨definition, .idle⟩) :
    Expects defined definition.body (state.setStatus name .running) where
  agrees := h.agrees.setStatus name .running
  declares other definition' _ hsome := by
    rw [Statement.definition?_eq_none (hregular.isBinding _ _ (h.agrees name _ hget))] at hsome
    cases hsome

/-- A function is defined. -/
theorem define {body : List Statement} {returns : ReturnSpec} {location : Option Location}
    (h : Expects defined (.definition name body returns location :: rest) state)
    (hget : state.functions.get? name = none) (event : Event) :
    Expects defined rest
      ((state.setEntry name ⟨⟨name, body, returns, location⟩, .idle⟩).report event) where
  agrees other entry hother := by
    rw [State.functions_report] at hother
    rcases Bindings.get?_set_eq_some_iff.1 hother with ⟨rfl, rfl⟩ | ⟨-, hother⟩
    · exact h.declares other _ hget (by simp [Statement.definition?])
    · exact h.agrees other entry hother
  declares other definition hnone hsome := by
    rw [State.functions_report] at hnone
    obtain ⟨hname, hnone⟩ := Bindings.get?_set_eq_none_iff.1 hnone
    refine h.declares other definition hnone ?_
    rw [Statement.definition?, if_neg (Ne.symm hname)]
    exact hsome

end Expects

/-! ## What has results -/

/-- The functions that have results in `state` lead to functions with results, and to no cycle. -/
structure Closed (defined : String → Option Definition) (state : State ν) : Prop where
  /-- All that they lead to is defined, and nothing of it leads back. -/
  grounded : ∀ name, state.IsDone name → Grounded defined name
  /-- What their bodies invoke has results. -/
  invoked : ∀ name other, state.IsDone name → Invokes defined name other → state.IsDone other

/-- At the start of a program no function has results. -/
theorem not_isDone_start (program : Program) (name : String) :
    ¬(start program : State ν).IsDone name := by
  rintro ⟨definition, rs, hget⟩
  cases hget

/-- Before a program is run, no functions are listed, and no bodies are being run. -/
theorem orderly_start (program : Program) : (start program : State ν).Orderly [] :=
  State.Orderly.empty.of_functions_eq rfl

namespace Closed

/-- Before a program is run, nothing has results. -/
theorem start (defined : String → Option Definition) (program : Program) :
    Closed defined (Run.start program : State ν) where
  grounded name hdone := absurd hdone (not_isDone_start program name)
  invoked name _ hdone := absurd hdone (not_isDone_start program name)

/-- `Closed` depends on which functions have results, and on nothing else. -/
theorem congr (h : Closed defined state)
    (hdone : ∀ name, state'.IsDone name ↔ state.IsDone name) : Closed defined state' where
  grounded name hname := h.grounded name ((hdone name).1 hname)
  invoked name other hname hinvokes :=
    (hdone other).2 (h.invoked name other ((hdone name).1 hname) hinvokes)

/-- A function gets results when those that its body invokes have them. -/
theorem conclude {entry : Entry ν} (h : Closed defined state)
    (hget : state.functions.get? name = some entry) (hdefined : defined name = some definition)
    (hserved : ∀ statement ∈ definition.body, Served defined statement)
    (hinvoked : ∀ other ∈ Statement.invoked definition.body, state.IsDone other) :
    Closed defined (Run.conclude name definition env state) where
  grounded other hother := by
    rcases (isDone_conclude hget definition env).1 hother with rfl | hother
    · exact .intro hdefined hserved fun callee hmem => h.grounded callee (hinvoked callee hmem)
    · exact h.grounded other hother
  invoked caller callee hcaller hinvokes := by
    refine (isDone_conclude hget definition env).2 (.inr ?_)
    rcases (isDone_conclude hget definition env).1 hcaller with rfl | hcaller
    · obtain ⟨definition', hdefined', hmem⟩ := hinvokes
      cases hdefined.symm.trans hdefined'
      exact hinvoked callee hmem
    · exact h.invoked caller callee hcaller hinvokes

/-- If the functions that `list` invokes have results, so has every function that it leads to. -/
theorem isDone_of_leadsTo (h : Closed defined state) {list : List Statement}
    (hlist : ∀ other ∈ Statement.invoked list, state.IsDone other)
    (hleads : LeadsTo defined list name) : state.IsDone name := by
  obtain ⟨first, hmem, hreach⟩ := hleads
  induction hreach with
  | refl => exact hlist first hmem
  | tail _ hinvokes ih => exact h.invoked _ _ ih hinvokes

end Closed

/-! ## Runs -/

variable [Node ν]

/-- Statements are run to their end, from the names and the state that are given first to those that
are given last. -/
inductive Completes (document : Document ν ε) :
    List Statement → Env ν → State ν → Env ν → State ν → Prop
  /-- There is nothing left to run. -/
  | nil {env state} : Completes document [] env state env state
  /-- The document answers a selection. -/
  | selected {target selection location rest env state value state' last final}
      (hselect : select document selection state = (.ok value, state'))
      (hrest : Completes document rest (env.set target value) state' last final) :
      Completes document (.assignment target selection location :: rest) env state last final
  /-- The results of a function are used again. -/
  | cached {targets function location rest env state definition rs last final}
      (hget : state.functions.get? function = some ⟨definition, .done rs⟩)
      (hle : targets.length ≤ definition.returns.names.length)
      (hrest : Completes document rest (bindTargets targets rs env)
        (state.report (.cached definition.name)) last final) :
      Completes document (.invocation targets function location :: rest) env state last final
  /-- The body of a function is run to its end. -/
  | evaluated {targets function location rest env state definition inner state' last final}
      (hget : state.functions.get? function = some ⟨definition, .idle⟩)
      (hle : targets.length ≤ definition.returns.names.length)
      (hbody : Completes document definition.body .empty (state.setStatus function .running)
        inner state')
      (hrest : Completes document rest
        (bindTargets targets (results definition.returns.names inner) env)
        (conclude function definition inner state') last final) :
      Completes document (.invocation targets function location :: rest) env state last final
  /-- A function is defined. -/
  | defined {name body returns location rest env state last final}
      (hget : state.functions.get? name = none)
      (hrest : Completes document rest env
        ((state.setEntry name ⟨⟨name, body, returns, location⟩, .idle⟩).report
          (.defined name returns.names)) last final) :
      Completes document (.definition name body returns location :: rest) env state last final

variable {document : Document ν ε} {env last : Env ν} {final : State ν}
  {outcome : Outcome ν ε (Env ν)}

theorem Completes.runs (h : Completes document list env state last final) :
    Runs document list env state (.ok last, final) := by
  induction h with
  | nil => exact .nil
  | selected hselect _ ih => exact .selected hselect ih
  | cached hget hle _ ih => exact .cached hget hle ih
  | evaluated hget hle _ _ ihbody ih => exact .evaluated hget hle ihbody ih
  | defined hget _ ih => exact .defined hget ih

/-- A run that comes to an end is a run to the end. -/
theorem Runs.completes (h : Runs document list env state outcome)
    (houtcome : outcome = (.ok last, final)) : Completes document list env state last final := by
  induction h generalizing last final with
  | nil =>
    cases houtcome
    exact .nil
  | selected hselect _ ih => exact .selected hselect (ih houtcome)
  | cached hget hle _ ih => exact .cached hget hle (ih houtcome)
  | evaluated hget hle _ _ ihbody ih => exact .evaluated hget hle (ihbody rfl) (ih houtcome)
  | defined hget _ ih => exact .defined hget (ih houtcome)
  | unselected => cases houtcome
  | stopped => cases houtcome
  | failed => cases houtcome

/-- `Completes` is the relation that `statements` computes, where it comes to an end. -/
theorem completes_iff : Completes document list env state last final ↔
    statements document list env state = (.ok last, final) :=
  ⟨fun h => h.runs.eq_statements.symm,
    fun h => (runs_statements document list env state).completes h⟩

theorem Completes.extends (h : Completes document list env state last final) :
    state.Extends final := h.runs.extends

/-- To run two lists is to run one behind the other. -/
theorem completes_append (before after : List Statement) :
    Completes document (before ++ after) env state last final ↔
      ∃ env' mid, Completes document before env state env' mid ∧
        Completes document after env' mid last final := by
  simp only [completes_iff, statements_append]
  constructor
  · intro h
    rcases hbefore : statements document before env state with ⟨stop | env', mid⟩
    · rw [hbefore] at h
      cases h
    · rw [hbefore] at h
      exact ⟨env', mid, rfl, h⟩
  · rintro ⟨env', mid, hbefore, hafter⟩
    rw [hbefore]
    exact hafter

/-- The body of a function has come to its end. -/
theorem Expects.conclude (h : Expects defined (first :: rest) state)
    (hfirst : first.isDefinition = false)
    (hget : state.functions.get? name = some ⟨definition, .idle⟩)
    (hbody : Runs document definition.body .empty (state.setStatus name .running)
      (.ok env, state'))
    (hagrees : state'.Agrees defined) :
    Expects defined rest (Run.conclude name definition env state') :=
  h.tail hfirst (hagrees.conclude name definition env) (extends_of_body hget hbody)

/-- At the end of a run, what was to come is listed. -/
theorem Completes.expects (h : Completes document list env state last final)
    (hregular : Regular defined) (hexpects : Expects defined (list ++ rest) state) :
    Expects defined rest final := by
  induction h generalizing rest with
  | nil => exact hexpects
  | selected hselect _ ih =>
    exact ih (hexpects.of_functions_eq rfl (functions_eq_of_select hselect))
  | cached _ _ _ ih => exact ih (hexpects.of_functions_eq rfl rfl)
  -- A body defines nothing, so that nothing is to come behind it.
  | evaluated hget _ hbody _ ihbody ih =>
    have hinner := hexpects.body hregular hget
    rw [← List.append_nil (Definition.body _)] at hinner
    exact ih (hexpects.conclude rfl hget hbody.runs (ihbody hinner).agrees)
  | defined hget _ ih => exact ih (hexpects.define hget _)

/-- At the end of a run the functions are those of the program. -/
theorem Completes.agrees (h : Completes document list env state last final)
    (hregular : Regular defined) (hexpects : Expects defined list state) :
    final.Agrees defined := by
  rw [← List.append_nil list] at hexpects
  exact (h.expects hregular hexpects).agrees

/-- Where a program has passed some statements, the functions are in order, and what is to come is
defined by the statements behind them. -/
theorem expects_of_passed {program : Program} {before after : List Statement}
    (hregular : Regular program.definition?) (hlist : program.statements = before ++ after)
    (hbefore : statements document before .empty (start program) = (.ok env, state)) :
    Expects program.definition? after state ∧ state.Orderly [] := by
  have hpassed := completes_iff.2 hbefore
  have hstart : Expects program.definition? program.statements (start program : State ν) :=
    .start program
  rw [hlist] at hstart
  exact ⟨hpassed.expects hregular hstart, (hpassed.runs.orderly (orderly_start program)).1⟩

/-- The body of a function has been run to its end. -/
theorem Expects.evaluated (h : Expects defined (first :: rest) state) (hregular : Regular defined)
    (hfirst : first.isDefinition = false)
    (hget : state.functions.get? name = some ⟨definition, .idle⟩)
    (hbody : Completes document definition.body .empty (state.setStatus name .running) env state') :
    Expects defined rest (Run.conclude name definition env state') :=
  h.conclude hfirst hget hbody.runs (hbody.agrees hregular (h.body hregular hget))

/-- At the end of a run everything that was invoked has results, and was asked for no more values
than it returns. -/
theorem Completes.closed (h : Completes document list env state last final)
    (hregular : Regular defined) (hexpects : Expects defined list state)
    (hclosed : Closed defined state) :
    Closed defined final ∧ (∀ statement ∈ list, Served defined statement) ∧
      ∀ other ∈ Statement.invoked list, final.IsDone other := by
  induction h with
  | nil => exact ⟨hclosed, nofun, nofun⟩
  | selected hselect _ ih =>
    have hfunctions := functions_eq_of_select hselect
    obtain ⟨hend, hserved, hdone⟩ := ih (hexpects.of_functions_eq rfl hfunctions)
      (hclosed.congr fun _ => isDone_of_functions_eq hfunctions)
    exact ⟨hend, List.forall_mem_cons.2 ⟨trivial, hserved⟩, hdone⟩
  | cached hget hle hrest ih =>
    obtain ⟨hend, hserved, hdone⟩ := ih (hexpects.of_functions_eq rfl rfl)
      (hclosed.congr fun _ => Iff.rfl)
    refine ⟨hend, List.forall_mem_cons.2 ⟨⟨_, hexpects.agrees _ _ hget, hle⟩, hserved⟩, ?_⟩
    exact List.forall_mem_cons.2 ⟨hrest.extends.isDone ⟨_, _, hget⟩, hdone⟩
  | @evaluated _ function _ _ _ _ definition inner _ _ _ hget hle hbody hrest ihbody ih =>
    have hdefined := hexpects.agrees _ _ hget
    -- What the body invokes has results at its end, and then the function may have them as well.
    obtain ⟨hclosed', hserved', hdone'⟩ := ihbody (hexpects.body hregular hget)
      (hclosed.congr fun _ => isDone_setStatus_running hget)
    have hget' := hbody.runs.get?_of_running hget
    obtain ⟨hlast, hserved, hdone⟩ := ih (hexpects.evaluated hregular rfl hget hbody)
      (hclosed'.conclude hget' hdefined hserved' hdone')
    refine ⟨hlast, List.forall_mem_cons.2 ⟨⟨_, hdefined, hle⟩, hserved⟩, ?_⟩
    refine List.forall_mem_cons.2 ⟨hrest.extends.isDone ?_, hdone⟩
    exact (isDone_conclude hget' definition inner).2 (.inl rfl)
  | defined hget _ ih =>
    obtain ⟨hend, hserved, hdone⟩ := ih (hexpects.define hget _)
      (hclosed.congr fun _ => isDone_define hget ..)
    exact ⟨hend, List.forall_mem_cons.2 ⟨trivial, hserved⟩, hdone⟩

/-- No functions get results but those that the statements lead to. -/
theorem Completes.isDone_or_leadsTo (h : Completes document list env state last final)
    (hregular : Regular defined) (hexpects : Expects defined list state)
    (hdone : final.IsDone name) : state.IsDone name ∨ LeadsTo defined list name := by
  induction h with
  | nil => exact .inl hdone
  | selected hselect _ ih =>
    have hfunctions := functions_eq_of_select hselect
    rw [leadsTo_cons_of_none rfl, ← isDone_of_functions_eq hfunctions]
    exact ih (hexpects.of_functions_eq rfl hfunctions) hdone
  | cached _ _ _ ih =>
    rw [leadsTo_cons_invocation]
    exact (ih (hexpects.of_functions_eq rfl rfl) hdone).imp_right .inr
  | @evaluated _ function _ _ _ _ definition inner _ _ _ hget _ hbody _ ihbody ih =>
    rw [leadsTo_cons_invocation]
    have hget' := hbody.runs.get?_of_running hget
    -- What has results at last has got them behind the body, at its end, within it or before it.
    rcases ih (hexpects.evaluated hregular rfl hget hbody) hdone with hconcluded | hleads
    · rcases (isDone_conclude hget' definition inner).1 hconcluded with rfl | hinner
      · exact .inr (.inl .refl)
      · rcases ihbody (hexpects.body hregular hget) hinner with hbefore | hleads
        · exact .inl ((isDone_setStatus_running hget).1 hbefore)
        · exact .inr (.inl (hleads.of_body (hexpects.agrees _ _ hget)).to_reflTransGen)
    · exact .inr (.inr hleads)
  | defined hget _ ih =>
    rw [leadsTo_cons_of_none rfl, ← isDone_define hget]
    exact ih (hexpects.define hget _) hdone

end Extraction.Run
