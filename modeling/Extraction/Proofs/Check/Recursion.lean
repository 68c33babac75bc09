import Extraction.Proofs.Check.Agreement
import Extraction.Proofs.Document
import Extraction.Proofs.Run.Recursion

/-!
# Recursion, found by checks and by runs

A check follows invocations as a run does on a document that matches nothing, so it finds the cycles
that such a run meets.

* `Check.StopsAt` tells the statement of the top level at which a check stops.
* `Check.StopsAt.recursAt` finds the cycle from it.
* `recursion_detected` says for checks and for runs that what they pass is without cycles, and that
  what they stop for is one.
-/

namespace Extraction

variable {ν ε : Type} {program : Program} {before : List Statement} {last : Statement}

namespace Check

/-! ## Statements at which a check stops -/

/-- A check of `program` has passed the statements of `before`, and stops with `failure` at `last`,
the one behind them. -/
def StopsAt (program : Program) (before : List Statement) (last : Statement)
    (failure : Failure ProgramFault) : Prop :=
  ∃ after known, program.statements = before ++ last :: after ∧
    steps program.path ⟨.empty, []⟩ before = .ok known ∧
      step program.path known last = .error failure

/-- A check that stops has passed some statements and stops at the next one. -/
theorem exists_stop {path : Option String} {known : State} {list : List Statement}
    {failure : Failure ProgramFault} (h : steps path known list = .error failure) :
    ∃ before last after known', list = before ++ last :: after ∧
      steps path known before = .ok known' ∧ step path known' last = .error failure := by
  induction list generalizing known with
  | nil => cases h
  | cons first rest ih =>
    rw [steps] at h
    cases hfirst : step path known first with
    | ok known₁ =>
      rw [hfirst] at h
      obtain ⟨before, last, after, known', rfl, hbefore, hlast⟩ := ih h
      exact ⟨first :: before, last, after, known', rfl, by rw [steps, hfirst]; exact hbefore, hlast⟩
    | error failure' =>
      rw [hfirst] at h
      cases h
      exact ⟨[], first, rest, known, rfl, rfl, hfirst⟩

theorem exists_stopsAt {failure : Failure ProgramFault} (h : check program = .error failure) :
    ∃ before last, StopsAt program before last failure := by
  rw [check] at h
  cases hsteps : steps program.path ⟨.empty, []⟩ program.statements with
  | ok known =>
    rw [hsteps] at h
    cases h
  | error failure' =>
    rw [hsteps] at h
    cases h
    obtain ⟨before, last, after, known, hlist, hbefore, hlast⟩ := exists_stop hsteps
    exact ⟨before, last, after, known, hlist, hbefore, hlast⟩

/-! ## Cycles -/

variable [Node ν] {document : Document ν ε} {failure : Failure ProgramFault}

/-- Where a check stops for anything but a name that is never assigned, a run stops for the same. -/
theorem StopsAt.exists_stop (htotal : document.Total) (hplain : program.Plain)
    (hforward : program.Forward) (h : StopsAt program before last failure)
    (hkind : failure.fault.kind ≠ .undefinedName) :
    ∃ stop : Run.Stop ε, Run.StopsAt document program before last stop ∧
      Meets program.path program.locations failure stop := by
  obtain ⟨after, known, hlist, hbefore, hlast⟩ := h
  have hfits : ∀ statement ∈ before ++ last :: after, FitsTop program.locations statement :=
    fun statement hmem => fitsTop_of_mem hplain hforward (hlist ▸ hmem)
  -- The run passes what the check has passed, and what is known of it is so in its state.
  have hstart : Tracks program.locations (⟨.empty, []⟩ : State).functions [] []
      (Run.start program : Run.State ν) := tracks_start program
  rcases steps_cases program.path htotal
      (fun statement hmem => hfits statement (List.mem_append_left _ hmem)) hstart .empty with
    ⟨known', env, state, hsteps, hpassed, htracks⟩ | ⟨_, _, _, hsteps, -⟩ |
    ⟨_, _, _, _, _, _, _, _, _, -, hsteps, -⟩
  · cases hbefore.symm.trans hsteps
    rcases step_cases program.path htotal (hfits last (by simp)) htracks env with
      ⟨_, _, _, hstep, -⟩ | ⟨_, stop, _, hstep, hrun, hmeets⟩ |
      ⟨name, _, _, _, missing, _, _, -, hstep, -⟩
    · cases hlast.symm.trans hstep
    · cases hlast.symm.trans hstep
      exact ⟨stop, ⟨after, env, state, hlist, hpassed, by rw [hrun]⟩, hmeets⟩
    · cases hlast.symm.trans hstep
      exact absurd rfl hkind
  · cases hbefore.symm.trans hsteps
  · cases hbefore.symm.trans hsteps

end Check

/-- A check that stops for recursion has found a function that leads back to itself. -/
theorem Check.StopsAt.recursAt {source : String} {path : Option String} {function : String}
    {place : Place} (hparse : parse source path = .ok program)
    (h : StopsAt program before last ⟨.recursiveInvocation function, place⟩) :
    program.RecursAt last function place := by
  have hlocations : ∀ location ∈ program.locations,
      ∃ l, location = some l ∧ l.path = program.path :=
    fun _ hmem => exists_location_of_parse hparse hmem
  -- The run on the document that matches nothing stops at the same statement.
  have hblank : (Document.blank : Document Listing.Item Unit).Total := Document.total_blank
  obtain ⟨stop, hstops, hmeets⟩ :=
    h.exists_stop hblank (plain_of_parse hparse) (forward_of_parse hparse) nofun
  obtain ⟨failure, rfl, -⟩ := hmeets.agrees
  obtain rfl := hmeets.eq hlocations
  exact hstops.recursAt (plain_of_parse hparse) fun location hmem =>
    (hlocations location hmem).imp fun _ hlocation => hlocation.1

/-- Recursion is found where there is some. A program that was run to its end, and one that was
checked without a fault, leads to no cycle, to nothing that is undefined, and to no invocation that
asks for too many values. Where a run or a check stops for recursion, the statement of the top level
at which it stops leads to a function that leads back to itself, and the failure has the place of
its definition. -/
theorem recursion_detected [Node ν] {source : String} {path : Option String}
    (hparse : parse source path = .ok program) (document : Document ν ε) :
    ((∀ env, (run program document).1 = .ok env → program.Resolved) ∧
      ∀ function place,
        (run program document).1 = .error (.fault ⟨.recursiveInvocation function, place⟩) →
        ∃ before last,
          Run.StopsAt document program before last (.fault ⟨.recursiveInvocation function, place⟩) ∧
            program.RecursAt last function place) ∧
    (check program = .ok () → program.Resolved) ∧
      ∀ function place, check program = .error ⟨.recursiveInvocation function, place⟩ →
        ∃ before last, Check.StopsAt program before last ⟨.recursiveInvocation function, place⟩ ∧
          program.RecursAt last function place := by
  have hplain := plain_of_parse hparse
  refine ⟨⟨fun env hrun => Run.resolved_of_run hplain hrun, fun function place hrun => ?_⟩,
    fun hcheck => ?_, fun function place hcheck => ?_⟩
  · obtain ⟨passed, last, hstops⟩ :=
      Run.exists_stopsAt (List.nil_append _).symm (Run.statements_nil ..) hrun
    exact ⟨_, last, hstops, hstops.recursAt hplain fun location hmem =>
      (exists_location_of_parse hparse hmem).imp fun _ hlocation => hlocation.1⟩
  · -- The run on the document that matches nothing comes to its end, too.
    have hblank : (Document.blank : Document ν ε).Total := Document.total_blank
    rcases check_cases hblank hplain (forward_of_parse hparse) with
      ⟨env, state, -, hrun, -⟩ | ⟨_, _, herror, -⟩ | ⟨_, _, _, _, _, _, _, _, _, -, herror, -⟩
    · exact Run.resolved_of_run hplain (congrArg Prod.fst hrun)
    · cases hcheck.symm.trans herror
    · cases hcheck.symm.trans herror
  · obtain ⟨before, last, hstops⟩ := Check.exists_stopsAt hcheck
    exact ⟨before, last, hstops, hstops.recursAt hparse⟩

/-- The function that is invoked first is on no cycle, and leads to one. -/
theorem recursion_detected_behind_entry :
    let source := "def f\n  x = do g\nreturn \x7bx\x7d\n\n" ++
      "def g\n  y = do h\nreturn \x7by\x7d\n\n" ++
        "def h\n  x = do g\nreturn \x7bx\x7d\n\na = do f"
    let blank : Document Listing.Item Listing.Refusal := .blank
    let failure : Failure ProgramFault := ⟨.recursiveInvocation "g", ⟨some 5, some 0, none⟩⟩
    ∃ program before last, parse source none = .ok program ∧
      (run program blank).1 = .error (.fault failure) ∧
        Run.StopsAt blank program before last (.fault failure) ∧
          program.RecursAt last "g" failure.place := by
  intro source blank failure
  have hfound : (parse source none).toOption.map (fun program => (run program blank).failure?) =
      some (some failure) := by decide +kernel
  cases hparse : parse source none with
  | ok program =>
    rw [hparse] at hfound
    have hrun := Run.Outcome.fst_eq_of_failure? (Option.some.inj hfound)
    obtain ⟨before, last, hstops, hrecurs⟩ := (recursion_detected hparse blank).1.2 _ _ hrun
    exact ⟨program, before, last, rfl, hrun, hstops, hrecurs⟩
  | error failure =>
    rw [hparse] at hfound
    cases hfound

end Extraction
