import Extraction.Document.Listing
import Extraction.Proofs.Document
import Extraction.Proofs.Grammar.Image
import Extraction.Proofs.Run.Behind
import Extraction.Proofs.Run.Completion
import Extraction.Proofs.Run.Recursion
import Extraction.Proofs.Run.Table

/-!
# What can go wrong with a source

A program that a source denotes has definitions only at the top level, lists of returned names only
at the ends of definitions, and no number that counts from the last match backwards. What is left to
go wrong, on a document that refuses no query, are the functions: one may be defined twice, may be
undefined, may return too little, or may come back to itself.

* `Program.Blames` are the failures that are placed at the statement of a program that is to blame.
* `Run.Runs.exists_blames` finds the statement when a body stops, and
  `Run.statements_exists_blames` does when the top level stops.
* `execute_faults` is the result for sources.
-/

namespace Extraction

/-- A failure of `program` that is placed at the statement that is to blame for it. -/
inductive Program.Blames (program : Program) : Failure ProgramFault → Prop
  /-- An invocation of a function that is not defined. -/
  | undefined {targets function location}
      (hinvocation : .invocation targets function (some location) ∈ program.everything) :
      Blames program ⟨.undefinedFunction function, location.place⟩
  /-- An invocation of a function that returns too few values for the targets. -/
  | arity {targets function location definition}
      (hinvocation : .invocation targets function (some location) ∈ program.everything)
      (hdefinition : program.definition? function = some definition)
      (hlt : definition.returns.names.length < targets.length) :
      Blames program
        ⟨.arity function definition.returns.names.length targets.length, location.place⟩
  /-- A definition of a function that an earlier one defines, too. -/
  | duplicate {before name body returns location after body' returns' location'}
      (hstatements : program.statements =
        before ++ .definition name body returns (some location) :: after)
      (hearlier : .definition name body' returns' location' ∈ before) :
      Blames program ⟨.duplicateFunction name, location.place⟩
  /-- The definition of a function that comes back to itself. -/
  | recursive {name body returns location}
      (hdefinition : program.definition? name = some ⟨name, body, returns, some location⟩) :
      Blames program ⟨.recursiveInvocation name, location.place⟩

/-- The bounds of a range are those of a range: with an end there is a start. -/
theorem Range.ofBounds?_start?_stop? (range : Range) :
    Range.ofBounds? range.start? range.stop? = some range := by
  cases range <;> rfl

theorem Document.Total.later {ν ε : Type} {document : Document ν ε} (h : document.Total)
    (earlier : List Query) : (document.later earlier).Total where
  first_ok more selector := h.first_ok (earlier ++ more) selector
  all_ok more selector := h.all_ok (earlier ++ more) selector

/-- A part of a program is plain if the program is. -/
theorem Program.Plain.of_append {before after : List Statement} {path : Option String}
    (h : Program.Plain ⟨before ++ after, path⟩) : Program.Plain ⟨before, path⟩ :=
  fun statement hmem => h statement (List.mem_append_left _ hmem)

namespace Run

variable {ν ε : Type} [Node ν] {document : Document ν ε} {program : Program}
  {list : List Statement} {env : Env ν} {state : State ν} {outcome : Outcome ν ε (Env ν)}
  {running : List String}

/-- The body of a function holds assignments and invocations, which are among the statements of the
program. -/
theorem mem_everything_of_definition? (hplain : program.Plain) {function : String}
    {definition : Definition} (h : program.definition? function = some definition) :
    ∀ statement ∈ definition.body, statement.isBinding ∧ statement ∈ program.everything := by
  intro statement hmem
  have hdefinition := (Statement.of_definition?_eq_some h).2
  exact ⟨hplain _ hdefinition statement hmem,
    Program.mem_everything_of_mem_body hdefinition hmem⟩

/-- Assignments and invocations of a program that are run, and stop, do so for a failure of which a
statement of the program is to blame. -/
theorem Runs.exists_blames (h : Runs document list env state outcome) (htotal : document.Total)
    (hplain : program.Plain) (hforward : program.Forward)
    (hlocated : ∀ location ∈ program.locations, ∃ l, location = some l)
    (hexpects : Expects program.definition? list state) (horderly : state.Orderly running)
    (hlist : ∀ statement ∈ list, statement.isBinding ∧ statement ∈ program.everything)
    {stop : Stop ε} (hstop : outcome.1 = .error stop) :
    ∃ failure, stop = .fault failure ∧ program.Blames failure := by
  have hregular := hplain.regular
  induction h generalizing running with
  | nil => cases hstop
  | @stopped first _ _ state failure hfault =>
    obtain rfl := Except.error.inj hstop
    refine ⟨failure, rfl, ?_⟩
    obtain ⟨hfirst, hmem⟩ := hlist first List.mem_cons_self
    obtain ⟨location, hlocation⟩ :=
      hlocated _ (Program.mem_locations hmem first.location_mem_places)
    cases faulty_of_fault? hfault with
    | undefined hget =>
      obtain rfl := hlocation
      exact .undefined hmem
    | arity hget hlt =>
      obtain rfl := hlocation
      exact .arity hmem (hexpects.agrees _ _ hget) hlt
    -- The definition that is listed is the one that the program has, by its own name.
    | @recursive _ callee _ definition hget _ =>
      obtain rfl : definition.name = callee := horderly.name_eq callee _ hget
      have hdefined := hexpects.agrees _ _ hget
      obtain ⟨name, body, returns, place⟩ := definition
      obtain ⟨location', rfl⟩ := hlocated place <| Program.mem_locations
        (Program.mem_everything (Statement.of_definition?_eq_some hdefined).2) List.mem_cons_self
      exact .recursive hdefined
    | duplicate => cases hfirst
    | returns => cases hfirst
    | bare => cases hfirst
  | selected hselect _ ih =>
    have hfunctions := functions_eq_of_select hselect
    obtain ⟨-, hrest⟩ := List.forall_mem_cons.1 hlist
    exact ih (hexpects.of_functions_eq rfl hfunctions) (horderly.of_functions_eq hfunctions) hrest
      hstop
  -- Numbers are not negative, and no query is refused, so that each selection has a value.
  | @unselected _ _ _ _ _ state _ _ hselect =>
    obtain ⟨value, hvalue⟩ :=
      exists_select_eq state htotal (hforward _ (hlist _ List.mem_cons_self).2)
    rw [hselect] at hvalue
    cases hvalue
  | cached _ _ _ ih =>
    obtain ⟨-, hrest⟩ := List.forall_mem_cons.1 hlist
    exact ih (hexpects.of_functions_eq rfl rfl) (horderly.of_functions_eq rfl) hrest hstop
  | evaluated hget _ hbody _ _ ih =>
    obtain ⟨hinner, hextends⟩ := hbody.orderly (horderly.start hget)
    obtain ⟨-, hrest⟩ := List.forall_mem_cons.1 hlist
    exact ih (hexpects.evaluated hregular rfl hget (hbody.completes rfl))
      (horderly.conclude hget hinner hextends _).1 hrest hstop
  -- The body is where the run stops, and it holds statements of the program, too.
  | failed hget _ _ ihbody =>
    exact ihbody (hexpects.body hregular hget) (horderly.start hget)
      (mem_everything_of_definition? hplain (hexpects.agrees _ _ hget)) hstop
  | defined => cases (hlist _ List.mem_cons_self).1

/-- A function that is listed behind some statements is defined by one of them. -/
theorem exists_definition_of_get? {before : List Statement} {name : String} {entry : Entry ν}
    (hplain : Program.Plain ⟨before, program.path⟩)
    (hbefore : statements document before .empty (start program) = (.ok env, state))
    (hget : state.functions.get? name = some entry) :
    ∃ body returns location, .definition name body returns location ∈ before := by
  have hstart : Expects (Statement.definition? before) before (start program : State ν) :=
    { agrees := fun _ _ hnone => by cases hnone
      declares := fun _ _ _ hsome => hsome }
  have hagrees := (completes_iff.2 hbefore).agrees hplain.regular hstart
  obtain ⟨hname, hmem⟩ := Statement.of_definition?_eq_some (hagrees name entry hget)
  exact ⟨_, _, _, hname ▸ hmem⟩

/-- The statements of a program that stop do so for a failure of which one of them, or one in a
body, is to blame. -/
theorem statements_exists_blames (htotal : document.Total) (hplain : program.Plain)
    (hforward : program.Forward)
    (hlocated : ∀ location ∈ program.locations, ∃ l, location = some l)
    (hform : ∀ statement ∈ program.statements, statement.isBinding ∨ statement.isDefinition)
    {stop : Stop ε}
    (h : statements document program.statements .empty (start program) = (.error stop, state)) :
    ∃ failure, stop = .fault failure ∧ program.Blames failure := by
  obtain ⟨before, last, after, inner, now, hsplit, hbefore, hlast⟩ := exists_stop h
  have hmem : last ∈ program.statements := by
    rw [hsplit]
    exact List.mem_append_right _ List.mem_cons_self
  rcases hform last hmem with hbinding | hdefinition
  -- An assignment or an invocation is run behind what was passed.
  · rw [← List.singleton_append] at hsplit
    obtain ⟨hexpects, horderly⟩ := expects_of_passed hplain.regular hsplit hbefore
    have hruns := runs_statements document [last] inner now
    rw [statements_singleton] at hruns
    refine hruns.exists_blames htotal hplain hforward hlocated hexpects.of_append horderly ?_ hlast
    exact List.forall_mem_singleton.2 ⟨hbinding, Program.mem_everything hmem⟩
  -- A definition stops only where its function is listed, and then an earlier one has done that.
  · obtain ⟨name, body, returns, location, rfl⟩ := Statement.exists_eq_definition hdefinition
    obtain ⟨l, rfl⟩ := hlocated location <|
      Program.mem_locations (Program.mem_everything hmem) List.mem_cons_self
    rw [statement_definition, define] at hlast
    rcases hget : now.functions.get? name with _ | entry
    · simp only [hget] at hlast
      cases hlast
    · simp only [hget] at hlast
      cases hlast
      have hprefix : Program.Plain ⟨before, program.path⟩ :=
        Program.Plain.of_append (fun statement hmem => hplain statement (hsplit ▸ hmem))
      obtain ⟨body', returns', location', hearlier⟩ :=
        exists_definition_of_get? hprefix hbefore hget
      exact ⟨_, rfl, .duplicate hsplit hearlier⟩

end Run

/-- At the top level of a source there are only assignments, invocations and definitions. -/
theorem isBinding_or_isDefinition_of_parse {source : String} {path : Option String}
    {program : Program} (h : parse source path = .ok program) :
    ∀ statement ∈ program.statements, statement.isBinding ∨ statement.isDefinition := by
  obtain ⟨-, form, -, rfl⟩ := exists_derivation_of_parse h
  intro statement hmem
  obtain ⟨part, rfl⟩ := Derivation.Program.exists_statement hmem
  cases part with
  | binding form => exact .inl form.statement_isBinding
  | definition form => exact .inr rfl

/-- A program that a source denotes has ranges only, and no negative numbers in them. On a document
that refuses no query it comes to its end, on an executor in any state, or it stops for a function
that is defined twice, that is undefined, that returns too few values or that comes back to itself.
The failure has the place of the statement that is to blame. -/
theorem execute_faults {ν ε : Type} [Node ν] {document : Document ν ε} {source : String}
    {path : Option String} {program : Program} (hparse : parse source path = .ok program)
    (htotal : document.Total) :
    (∀ target selection location,
      .assignment target selection location ∈ program.everything →
        Range.ofBounds? selection.range.start? selection.range.stop? = some selection.range ∧
          selection.range.Forward) ∧
      ∀ state : Run.State ν,
        (∃ env after, Run.execute document program state = (.ok env, after)) ∨
          ∃ failure after,
            Run.execute document program state = (.error (.fault failure), after) ∧
              program.Blames failure := by
  have hforward := forward_of_parse hparse
  have hlocated : ∀ location ∈ program.locations, ∃ l, location = some l :=
    fun location hmem => (exists_location_of_parse hparse hmem).imp fun _ hlocation => hlocation.1
  refine ⟨fun target selection location hmem => ⟨selection.range.ofBounds?_start?_stop?,
    hforward _ hmem⟩, fun state => ?_⟩
  -- What the executor did before is a document that has answered some queries already.
  rw [Run.execute_eq_later, Run.run_eq]
  match houtcome : Run.statements (document.later state.queries) program.statements .empty
      (Run.start program) with
  | (.ok env, after) => exact .inl ⟨env, _, rfl⟩
  | (.error stop, after) =>
    obtain ⟨failure, rfl, hblames⟩ := Run.statements_exists_blames (htotal.later state.queries)
      (plain_of_parse hparse) hforward hlocated (isBinding_or_isDefinition_of_parse hparse) houtcome
    exact .inr ⟨failure, _, rfl, hblames⟩

/-- A body asks a function for more values than it returns. -/
theorem execute_faults_of_arity_in_body :
    let source := "def f\n  x = p\nreturn \x7bx\x7d\n\n" ++
      "def g\n  y, z = do f\nreturn \x7by\x7d\n\na = do g"
    let blank : Document Listing.Item Listing.Refusal := .blank
    let failure : Failure ProgramFault := ⟨.arity "f" 1 2, ⟨some 6, some 2, none⟩⟩
    ∃ program after, parse source none = .ok program ∧ blank.Total ∧
      Run.execute blank program .empty = (.error (.fault failure), after) ∧
        program.Blames failure := by
  intro source blank failure
  have htotal : blank.Total := Document.total_blank
  have hfound : (parse source none).toOption.map (fun program => (run program blank).failure?) =
      some (some failure) := by decide +kernel
  match hparse : parse source none with
  | .error _ =>
    rw [hparse] at hfound
    cases hfound
  | .ok program =>
    rw [hparse] at hfound
    have hrun := Run.Outcome.fst_eq_of_failure? (Option.some.inj hfound)
    rcases (execute_faults hparse htotal).2 .empty with
      ⟨env, after, hok⟩ | ⟨failure', after, hfault, hblames⟩
    · rw [run, hok] at hrun
      cases hrun
    · rw [run, hfault] at hrun
      obtain rfl : failure' = failure := Run.Stop.fault.inj (Except.error.inj hrun)
      exact ⟨program, after, rfl, htotal, hfault, hblames⟩

end Extraction
