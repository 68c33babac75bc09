import Extraction.Document.Listing
import Extraction.Proofs.Check.Tracking
import Extraction.Proofs.Grammar.Image

/-!
# Checks and runs agree

A check of a program foretells a run of it, on every document that refuses no query. The one fault
that a check finds and a run passes over is a function that returns a name which it never assigns.

* `Check.step_cases` and `Check.steps_cases` compare one statement of the top level, and all.
* `check_agrees_with_run` is the result for programs.
-/

namespace Extraction

/-- The failures `a` and `b` have the same fault, and name the same line and column. -/
structure Failure.Agrees (a b : Failure ProgramFault) : Prop where
  /-- The fault is the same. -/
  fault_eq : a.fault = b.fault
  /-- The line is the same. -/
  line_eq : a.place.line = b.place.line
  /-- The column is the same. -/
  column_eq : a.place.column = b.place.column

namespace Check

variable {ν ε : Type} {path : Option String} {locations : List (Option Location)}

/-! ## Places -/

/-- A check and a run give the same line and the same column of a place. -/
theorem Meets.agrees {failure : Failure ProgramFault} {stop : Run.Stop ε}
    (h : Meets path locations failure stop) :
    ∃ failure', stop = .fault failure' ∧ failure.Agrees failure' := by
  obtain ⟨fault, location, -, rfl, rfl⟩ := h
  exact ⟨_, rfl, rfl, by cases location <;> rfl, by cases location <;> rfl⟩

/-- Where a location has the path of the program, a check tells it as a run does. -/
theorem place_of_path_eq {location : Location} (h : location.path = path) :
    place path (some location) = location.place := by
  subst h
  match hpath : location.path with
  | none => simp [place, Location.place, hpath]
  | some text =>
    by_cases hempty : text.isEmpty <;> simp [place, Location.place, hpath, Option.filter, hempty]

/-- Where all locations have the path of the program, a check and a run name the same place. -/
theorem Meets.eq {failure failure' : Failure ProgramFault}
    (h : Meets path locations failure (.fault failure' : Run.Stop ε))
    (hlocations : ∀ location ∈ locations, ∃ l, location = some l ∧ l.path = path) :
    failure = failure' := by
  obtain ⟨fault, location, hmem, rfl, hstop⟩ := h
  obtain ⟨l, rfl, hpath⟩ := hlocations location hmem
  rw [place_of_path_eq hpath]
  exact (Run.Stop.fault.inj hstop).symm

/-! ## Statements of the top level -/

/-- `statement` is one of the top level that a source may hold, with its places among `locations`,
but for its form: it may be one that can be run nowhere. -/
structure FitsTop (locations : List (Option Location)) (statement : Statement) : Prop where
  /-- No number is negative. -/
  forward : statement.Forward
  /-- Its places are among the given ones. -/
  places_subset : ∀ location ∈ statement.places, location ∈ locations
  /-- Its body holds what bodies may hold. -/
  fits_body : ∀ inner ∈ statement.body, Fits locations inner

theorem FitsTop.location_mem {statement : Statement} (h : FitsTop locations statement) :
    statement.location ∈ locations := h.places_subset _ statement.location_mem_places

/-- The statements of a program, among its own locations. -/
theorem fitsTop_of_mem {program : Program} (hplain : program.Plain) (hforward : program.Forward)
    {statement : Statement} (h : statement ∈ program.statements) :
    FitsTop program.locations statement where
  forward := hforward statement (Program.mem_everything h)
  places_subset _ hmem := Program.mem_locations (Program.mem_everything h) hmem
  fits_body inner hinner :=
    have hmem := Program.mem_everything_of_mem_body h hinner
    ⟨hplain statement h inner hinner, hforward inner hmem,
      Program.mem_locations hmem inner.location_mem_places⟩

/-- A function that is defined for the first time is defined for a check and for a run. -/
theorem Tracks.define {functions : Bindings Definition} {finished : List String}
    {state : Run.State ν} (h : Tracks locations functions [] finished state)
    {definition : Definition} (hnone : functions.get? definition.name = none)
    (hsound : Sound locations definition.name definition) :
    Tracks locations (functions.set definition.name definition) [] finished
      ((state.setEntry definition.name ⟨definition, .idle⟩).report
        (.defined definition.name definition.returns.names)) where
  toLists := by
    refine h.toLists.define definition ⟨hsound, ?_, List.not_mem_nil⟩ fun _ _ _ _ htold => htold
    exact fun hmem => h.finished_defined _ hmem hnone
  finished_defined name hmem hget :=
    h.finished_defined name hmem (Bindings.get?_set_eq_none_iff.1 hget).2
  quiet := (h.quiet.of_events_eq (Run.State.events_setEntry ..)).report nofun

variable [Node ν] {document : Document ν ε} {known : State} {state : Run.State ν}

/-- What a check of a statement comes to beside a run of it: both go on, both stop for the same
fault, or the check alone stops at a definition. -/
theorem step_cases (path : Option String) (htotal : document.Total) {statement : Statement}
    (hfits : FitsTop locations statement)
    (h : Tracks locations known.functions [] known.resolved state) (env : Run.Env ν) :
    (∃ known' env' state', step path known statement = .ok known' ∧
      Run.statement document statement env state = (.ok env', state') ∧
        Tracks locations known'.functions [] known'.resolved state') ∨
    (∃ failure stop state', step path known statement = .error failure ∧
      Run.statement document statement env state = (.error stop, state') ∧
        Meets path locations failure stop) ∨
    ∃ name body returns location missing env' state',
      statement = .definition name body returns location ∧
      step path known statement =
        .error ⟨.undefinedName name missing, place path returns.location⟩ ∧
      Run.statement document statement env state = (.ok env', state') := by
  cases statement with
  | assignment target selection location =>
    obtain ⟨env', state', hrun, htracks, -⟩ :=
      exists_statement_assignment htotal hfits.forward h env
    exact .inl ⟨known, env', state', rfl, hrun, htracks⟩
  | invocation targets function location =>
    have hfollows := follows_resolve path htotal [.invocation targets function location]
      (by simpa using ⟨rfl, trivial, hfits.location_mem⟩) h env
    rw [Run.statements_singleton] at hfollows
    rw [step]
    match hanswer : resolve known.functions path []
        [.invocation targets function location] known.resolved with
    | .ok finished =>
      rw [hanswer] at hfollows
      obtain ⟨env', state', hrun, htracks, -⟩ := hfollows
      exact .inl ⟨⟨known.functions, finished⟩, env', state', rfl, hrun, htracks⟩
    | .error failure =>
      rw [hanswer] at hfollows
      obtain ⟨stop, state', hrun, hmeets⟩ := hfollows
      exact .inr (.inl ⟨failure, stop, state', rfl, hrun, hmeets⟩)
  | returns spec =>
    exact .inr (.inl ⟨_, _, state, rfl, Run.statement_returns .., _, _, hfits.location_mem, rfl,
      rfl⟩)
  | bare =>
    exact .inr (.inl ⟨_, _, state, rfl, Run.statement_bare .., _, _, hfits.location_mem, rfl, rfl⟩)
  | definition name body returns location =>
    have hrun := Run.statement_definition document env state name body returns location
    rw [Run.define] at hrun
    simp only [step, define]
    -- The same names are defined for both, so both find a name that is defined twice. Only the
    -- check asks whether the body assigns what is returned.
    match hget : known.functions.get? name with
    | some old =>
      obtain ⟨status, hold, -⟩ := h.defined name old hget
      rw [hold] at hrun
      exact .inr (.inl ⟨_, _, state, rfl, hrun, _, location, hfits.location_mem, rfl, rfl⟩)
    | none =>
      rw [h.undefined name hget] at hrun
      match hmissing : unassigned? ⟨name, body, returns, location⟩ with
      | some missing =>
        exact .inr (.inr ⟨name, body, returns, location, missing, env, _, rfl, rfl, hrun⟩)
      | none =>
        exact .inl ⟨_, env, _, rfl, hrun,
          h.define hget ⟨rfl, hfits.fits_body, hfits.location_mem, hmissing⟩⟩

/-- What a check of some statements comes to beside a run of them: both come to the end, both stop
for the same fault, or the check alone stops at a definition that the run passes. -/
theorem steps_cases (path : Option String) (htotal : document.Total) {list : List Statement}
    (hfits : ∀ statement ∈ list, FitsTop locations statement)
    (h : Tracks locations known.functions [] known.resolved state) (env : Run.Env ν) :
    (∃ known' env' state', steps path known list = .ok known' ∧
      Run.statements document list env state = (.ok env', state') ∧
        Tracks locations known'.functions [] known'.resolved state') ∨
    (∃ failure stop state', steps path known list = .error failure ∧
      Run.statements document list env state = (.error stop, state') ∧
        Meets path locations failure stop) ∨
    ∃ before name body returns location after missing env' state',
      list = before ++ .definition name body returns location :: after ∧
      steps path known list =
        .error ⟨.undefinedName name missing, place path returns.location⟩ ∧
      Run.statements document (before ++ [.definition name body returns location]) env state =
        (.ok env', state') := by
  induction list generalizing known state env with
  | nil => exact .inl ⟨known, env, state, rfl, Run.statements_nil .., h⟩
  | cons first rest ih =>
    have hrest := fun statement hmem => hfits statement (List.mem_cons_of_mem _ hmem)
    rcases step_cases path htotal (hfits first List.mem_cons_self) h env with
      ⟨known₁, env₁, state₁, hstep, hrun, htracks⟩ | ⟨failure, stop, state₁, hstep, hrun, hmeets⟩ |
      ⟨name, body, returns, location, missing, env₁, state₁, rfl, hstep, hrun⟩
    -- Both pass the first statement.
    · simp only [steps, hstep, Run.statements_cons, hrun]
      rcases ih hrest htracks env₁ with hend | hstop |
        ⟨before, name, body, returns, location, after, missing, env₂, state₂, rfl, hsteps, hpassed⟩
      · exact .inl hend
      · exact .inr (.inl hstop)
      · refine .inr (.inr ⟨first :: before, name, body, returns, location, after, missing, env₂,
          state₂, rfl, hsteps, ?_⟩)
        rw [List.cons_append, Run.statements_cons, hrun]
        exact hpassed
    -- Both stop at the first statement.
    · simp only [steps, hstep, Run.statements_cons, hrun]
      exact .inr (.inl ⟨failure, stop, state₁, rfl, rfl, hmeets⟩)
    -- The check alone stops at the first statement.
    · simp only [steps, hstep]
      refine .inr (.inr ⟨[], name, body, returns, location, rest, missing, env₁, state₁, rfl, rfl,
        ?_⟩)
      rw [List.nil_append, Run.statements_singleton, hrun]

/-! ## Programs -/

omit [Node ν] in
/-- Before the first statement nothing is known, and nothing has been run. -/
theorem tracks_start (program : Program) :
    Tracks locations .empty [] [] (Run.start program : Run.State ν) where
  undefined _ _ := rfl
  defined _ _ hget := by cases hget
  finished_defined _ hmem := by cases hmem
  quiet := Run.State.Quiet.report (fun _ _ => List.not_mem_nil) nofun

end Check

variable {ν ε : Type} [Node ν] {document : Document ν ε} {program : Program}

/-- What a check of a program comes to beside a run of it. -/
theorem check_cases (htotal : document.Total) (hplain : program.Plain)
    (hforward : program.Forward) :
    (∃ env state, check program = .ok () ∧ run program document = (.ok env, state) ∧
      state.Quiet) ∨
    (∃ failure stop, check program = .error failure ∧
      (run program document).1 = .error stop ∧
        Check.Meets program.path program.locations failure stop) ∨
    ∃ before name body returns location after missing env state,
      program.statements = before ++ .definition name body returns location :: after ∧
      check program =
        .error ⟨.undefinedName name missing, Check.place program.path returns.location⟩ ∧
      Run.statements document (before ++ [.definition name body returns location]) .empty
        (Run.start program) = (.ok env, state) := by
  rw [Run.run_eq, check]
  have hstart : Check.Tracks program.locations (⟨.empty, []⟩ : Check.State).functions [] []
      (Run.start program : Run.State ν) := Check.tracks_start program
  -- What was found at each step is found for the whole program.
  rcases Check.steps_cases program.path htotal
    (fun statement hmem => Check.fitsTop_of_mem hplain hforward hmem) hstart .empty with
    ⟨known, env, state, hsteps, hrun, htracks⟩ | ⟨failure, stop, state, hsteps, hrun, hmeets⟩ |
    ⟨before, name, body, returns, location, after, missing, env, state, hlist, hsteps, hrun⟩
  · have hquiet : (state.report (.finished program.path env.size state.functions.size)).Quiet :=
      htracks.quiet.report nofun
    exact .inl ⟨env, _, by rw [hsteps]; rfl, by rw [hrun], hquiet⟩
  · exact .inr (.inl ⟨failure, stop, by rw [hsteps]; rfl, by rw [hrun], hmeets⟩)
  · exact .inr (.inr ⟨before, name, body, returns, location, after, missing, env, state, hlist,
      by rw [hsteps]; rfl, hrun⟩)

/-- A run that passes the statements in front of some others, and stops, stops at one of the
others. -/
theorem Run.exists_stopsAt {before after : List Statement} {env : Env ν} {state : State ν}
    {stop : Stop ε} (hlist : program.statements = before ++ after)
    (hpassed : statements document before .empty (start program) = (.ok env, state))
    (hstop : (run program document).1 = .error stop) :
    ∃ passed last, StopsAt document program (before ++ passed) last stop := by
  rw [run_eq, hlist, statements_append, hpassed] at hstop
  match hafter : statements document after env state with
  | (.ok env', state') =>
    simp only [hafter] at hstop
    cases hstop
  | (.error reason, state') =>
    simp only [hafter] at hstop
    obtain rfl := Except.error.inj hstop
    obtain ⟨passed, last, later, env'', state'', rfl, hrun, hlast⟩ := exists_stop hafter
    refine ⟨passed, last, later, env'', state'', ?_, ?_, hlast⟩
    · rw [hlist, List.append_assoc]
    · rw [statements_append, hpassed]
      exact hrun

/-- A check of a program agrees with every run of it on a document that refuses no query. Where
the check succeeds, so does the run, and no function returns a name that it did not assign. Where
the run stops, the check has found the same fault, or a function whose definition the run had
passed by then, and which returns a name that its body never assigns. Where the check finds a
fault of any other kind, the run stops for it. -/
theorem check_agrees_with_run (program : Program) (document : Document ν ε)
    (htotal : document.Total) :
    (∀ source path, parse source path = .ok program → program.Plain ∧ program.Forward) ∧
    (program.Plain → program.Forward →
      (check program = .ok () → ∃ env state, run program document = (.ok env, state) ∧
        ∀ function name, .unassigned function name ∉ state.events) ∧
      (∀ stop, (run program document).1 = .error stop →
        ∃ failure, check program = .error failure ∧
          ((∃ failure', stop = .fault failure' ∧ failure.Agrees failure' ∧
              ((∃ source path, parse source path = .ok program) → failure = failure')) ∨
            ∃ before last name body returns location missing,
              Run.StopsAt document program before last stop ∧
              .definition name body returns location ∈ before ∧
              failure =
                ⟨.undefinedName name missing, Check.place program.path returns.location⟩)) ∧
      (∀ failure, check program = .error failure → failure.fault.kind ≠ .undefinedName →
        ∃ failure', (run program document).1 = .error (.fault failure') ∧
          failure.Agrees failure')) := by
  refine ⟨fun source path h => ⟨plain_of_parse h, forward_of_parse h⟩, fun hplain hforward => ?_⟩
  rcases check_cases htotal hplain hforward with
    ⟨env, state, hcheck, hrun, hquiet⟩ | ⟨failure, stop, hcheck, hrun, hmeets⟩ |
    ⟨before, name, body, returns, location, after, missing, env, state, hlist, hcheck, hpassed⟩
  -- Both come to the end, so neither of them stops.
  · refine ⟨fun _ => ⟨env, state, hrun, hquiet⟩, fun stop hstop => ?_, fun failure herror => ?_⟩
    · rw [hrun] at hstop
      cases hstop
    · rw [hcheck] at herror
      cases herror
  -- Both stop for the same fault.
  · obtain ⟨failure', rfl, hagrees⟩ := hmeets.agrees
    refine ⟨fun hok => ?_, fun stop hstop => ?_, fun other herror _ => ?_⟩
    · rw [hcheck] at hok
      cases hok
    · obtain rfl := Except.error.inj (hrun.symm.trans hstop)
      refine ⟨failure, hcheck, .inl ⟨failure', rfl, hagrees, ?_⟩⟩
      rintro ⟨source, path, hparse⟩
      exact hmeets.eq fun location hmem => exists_location_of_parse hparse hmem
    · obtain rfl := Except.error.inj (hcheck.symm.trans herror)
      exact ⟨failure', hrun, hagrees⟩
  -- The check alone stops. The run has passed the definition, so it stops behind it, if it does.
  · refine ⟨fun hok => ?_, fun stop hstop => ?_, fun other herror hkind => ?_⟩
    · rw [hcheck] at hok
      cases hok
    · have hsplit : program.statements =
          (before ++ [.definition name body returns location]) ++ after := by simp [hlist]
      obtain ⟨passed, last, hstops⟩ := Run.exists_stopsAt hsplit hpassed hstop
      exact ⟨_, hcheck, .inr ⟨_, last, name, body, returns, location, missing, hstops, by simp,
        rfl⟩⟩
    · obtain rfl := Except.error.inj (hcheck.symm.trans herror)
      exact absurd rfl hkind

/-- A listing that refuses no selector refuses no query. -/
theorem Listing.total_document (found : Bindings (List Listing.Item)) :
    (Listing.document ⟨found, []⟩).Total where
  first_ok _ _ := ⟨_, rfl⟩
  all_ok _ _ := ⟨_, rfl⟩

/-- A program with a function that is invoked is checked, and is run on the empty listing. -/
theorem check_agrees_with_run_of_empty_listing :
    let program : Program :=
      ⟨[.definition "f" [.assignment "a" ⟨"b", .openSlice 1, none⟩ none] ⟨["a"], none⟩ none,
        .invocation ["x"] "f" none], none⟩
    let listing : Listing := ⟨.empty, []⟩
    listing.document.Total ∧ program.Plain ∧ program.Forward ∧ check program = .ok () ∧
      ∃ env state, run program listing.document = (.ok env, state) ∧
        ∀ function name, .unassigned function name ∉ state.events := by
  intro program listing
  have htotal : listing.document.Total := Listing.total_document .empty
  have hplain : program.Plain := by
    simp [program, Program.Plain, Statement.body, Statement.isBinding]
  have hforward : program.Forward := by
    simp [program, Program.Forward, Program.everything, Statement.body, Statement.Forward,
      Range.Forward]
  have hcheck : check program = .ok () := by
    simp [program, check, Check.steps, Check.step, Check.define, Check.unassigned?, Check.targets,
      Check.resolve_of_defined (Bindings.get?_set_self ..), Check.resolve, Except.map]
  exact ⟨htotal, hplain, hforward, hcheck,
    ((check_agrees_with_run program listing.document htotal).2 hplain hforward).1 hcheck⟩

end Extraction
