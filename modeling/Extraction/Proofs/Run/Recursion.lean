import Extraction.Proofs.Run.Completion

/-!
# Recursion

A function that is invoked while its own body is run leads back to itself. The functions whose
bodies are being run are what a run knows of that: each of them leads to all that is invoked next.

* `Run.Ancestors` is this invariant, and `Run.Runs.exists_cycle` carries it through a run.
* `Run.StopsAt.recurs` finds the cycle from the statement of the top level at which a run stops.
* `Run.resolved_of_run` says that a run which comes to its end has met no cycle.
-/

namespace Extraction.Run

open Relation (ReflTransGen TransGen)

/-! ## Outcomes -/

/-- The fault for which a run stops, if it stops for one. -/
def Outcome.failure? {ν ε α : Type} : Outcome ν ε α → Option (Failure ProgramFault)
  | (.error (.fault failure), _) => some failure
  | _ => none

/-- An outcome with a failure stops with it. -/
theorem Outcome.fst_eq_of_failure? {ν ε α : Type} {outcome : Outcome ν ε α}
    {failure : Failure ProgramFault} (h : outcome.failure? = some failure) :
    outcome.1 = .error (.fault failure) := by
  obtain ⟨(failure' | _ | _) | a, state⟩ := outcome <;> cases h
  rfl

/-! ## Bodies that are being run -/

/-- The functions in `running` lead to all that the statements of `list` invoke. -/
def Ancestors (defined : String → Option Definition) (running : List String)
    (list : List Statement) : Prop :=
  ∀ caller ∈ running, ∀ function ∈ Statement.invoked list,
    TransGen (Invokes defined) caller function

variable {defined : String → Option Definition} {running : List String} {first : Statement}
  {list rest : List Statement} {function : String} {definition : Definition}

namespace Ancestors

/-- Without the innermost one, the functions that are being run still are ancestors of each other.
-/
theorem tail (h : Ancestors defined running (first :: rest)) : Ancestors defined running rest :=
  fun caller hcaller other hmem => h caller hcaller other <|
    (List.Sublist.filterMap _ (List.sublist_cons_self first rest)).subset hmem

/-- The body of a function is run, which what is being run leads to. -/
theorem body {targets : List String} {location : Option Location}
    (h : Ancestors defined running (.invocation targets function location :: rest))
    (hdefined : defined function = some definition) :
    Ancestors defined (function :: running) definition.body := by
  intro caller hcaller other hmem
  have hinvokes : Invokes defined function other := ⟨definition, hdefined, hmem⟩
  rcases List.mem_cons.1 hcaller with rfl | hcaller
  · exact .single hinvokes
  · exact (h caller hcaller function List.mem_cons_self).tail hinvokes

end Ancestors

/-! ## Runs -/

variable {ν ε : Type} [Node ν] {document : Document ν ε} {env : Env ν} {state : State ν}
  {outcome : Outcome ν ε (Env ν)} {place : Place}

/-- A run that stops for a function whose body is being run has been led to the function, which
leads back to itself. The failure is placed at its definition. -/
theorem Runs.exists_cycle (h : Runs document list env state outcome) (hregular : Regular defined)
    (hexpects : Expects defined list state) (horderly : state.Orderly running)
    (hancestors : Ancestors defined running list)
    (hstop : outcome.1 = .error (.fault ⟨.recursiveInvocation function, place⟩)) :
    LeadsTo defined list function ∧ TransGen (Invokes defined) function function ∧
      ∃ definition, defined function = some definition ∧
        place = .ofLocation? definition.location := by
  induction h generalizing running with
  | nil => cases hstop
  | stopped hfault =>
    cases hstop
    cases faulty_of_fault? hfault with
    | @recursive _ callee _ definition hget _ =>
      -- The mark says that the body is being run, so that the function leads to its invocation.
      obtain rfl : definition.name = callee := horderly.name_eq callee _ hget
      have hrunning := (horderly.isRunning_iff _).1 ⟨definition, hget⟩
      exact ⟨.of_mem List.mem_cons_self, hancestors _ hrunning _ List.mem_cons_self, definition,
        hexpects.agrees _ _ hget, rfl⟩
  | selected hselect _ ih =>
    have hfunctions := functions_eq_of_select hselect
    rw [leadsTo_cons_of_none rfl]
    exact ih (hexpects.of_functions_eq rfl hfunctions) (horderly.of_functions_eq hfunctions)
      hancestors.tail hstop
  | unselected hselect => exact absurd (Except.error.inj hstop) (ne_fault_of_select hselect _)
  | cached _ _ _ ih =>
    obtain ⟨hleads, hcycle⟩ := ih (hexpects.of_functions_eq rfl rfl) (horderly.of_functions_eq rfl)
      hancestors.tail hstop
    exact ⟨leadsTo_cons_invocation.2 (.inr hleads), hcycle⟩
  -- The body has come to its end, and nothing of it is being run any more.
  | evaluated hget _ hbody _ _ ih =>
    obtain ⟨hinner, hextends⟩ := hbody.orderly (horderly.start hget)
    obtain ⟨hleads, hcycle⟩ := ih (hexpects.evaluated hregular rfl hget (hbody.completes rfl))
      (horderly.conclude hget hinner hextends _).1 hancestors.tail hstop
    exact ⟨leadsTo_cons_invocation.2 (.inr hleads), hcycle⟩
  -- The body is where the run stops, with one function more that is being run.
  | failed hget _ _ ihbody =>
    have hdefined := hexpects.agrees _ _ hget
    obtain ⟨hleads, hcycle⟩ := ihbody (hexpects.body hregular hget) (horderly.start hget)
      (hancestors.body hdefined) hstop
    exact ⟨leadsTo_cons_invocation.2 (.inl (hleads.of_body hdefined).to_reflTransGen), hcycle⟩
  | @defined name body returns location _ _ _ _ hget _ ih =>
    rw [leadsTo_cons_of_none rfl]
    have hdefine := horderly.define ⟨name, body, returns, location⟩ hget
    exact ih (hexpects.define hget _) (hdefine.of_functions_eq rfl) hancestors.tail hstop

/-! ## Programs -/

variable {program : Program} {before : List Statement} {last : Statement}

/-- The statement of the top level at which a run stops for recursion leads to a function that leads
back to itself. -/
theorem StopsAt.recursAt (hplain : program.Plain)
    (hlocated : ∀ location ∈ program.locations, ∃ l, location = some l)
    (h : StopsAt document program before last
      (.fault ⟨.recursiveInvocation function, place⟩)) :
    program.RecursAt last function place := by
  obtain ⟨after, env, state, hlist, hbefore, hlast⟩ := h
  rw [← List.singleton_append] at hlist
  obtain ⟨hexpects, horderly⟩ := expects_of_passed hplain.regular hlist hbefore
  have hruns := runs_statements document [last] env state
  rw [statements_singleton] at hruns
  obtain ⟨⟨first, hmem, hreach⟩, hcycle, definition, hdefined, rfl⟩ :=
    hruns.exists_cycle hplain.regular hexpects.of_append horderly nofun hlast
  obtain ⟨targets, location, hinvocation⟩ := Statement.mem_invoked.1 hmem
  obtain ⟨l, hl⟩ := hlocated definition.location <| Program.mem_locations
    (Program.mem_everything (Statement.of_definition?_eq_some hdefined).2) List.mem_cons_self
  refine ⟨⟨targets, first, location, (List.mem_singleton.1 hinvocation).symm, hreach⟩, hcycle,
    definition, l, hdefined, hl, ?_⟩
  rw [hl, Place.ofLocation?]

/-- A program that was run to its end leads to no cycle, to nothing that is undefined, and to no
invocation that asks for too many values. -/
theorem resolved_of_run (hplain : program.Plain) (h : (run program document).1 = .ok env) :
    program.Resolved := by
  rw [run_eq] at h
  match houtcome : statements document program.statements .empty (start program) with
  | (.ok last, final) =>
    obtain ⟨hclosed, hserved, hdone⟩ := (completes_iff.2 houtcome).closed hplain.regular
      (Expects.start program) (Closed.start _ program)
    exact Program.resolved_of_grounded hserved fun function hmem =>
      hclosed.grounded function (hdone function hmem)
  | (.error stop, final) =>
    rw [houtcome] at h
    cases h

end Extraction.Run
