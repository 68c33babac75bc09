import Extraction.Check
import Extraction.Document.Listing
import Extraction.Proofs.Check.Tracking
import Extraction.Proofs.Run.Scopes
import Extraction.Proofs.Run.Outline
import Mathlib.Tactic.Simproc.ExistsAndEq
import Mathlib.Tactic.Tauto

/-!
# The names that a body assigns

A check collects the targets of a body without running it. A run of the body that comes to its end
has given values to these names, and to no others: nothing in a body is passed by, and each
invocation has a value for each of its targets. What is returned without a value is therefore known
before.

* `Run.missing` are the names that a function is reported to return without having assigned them.
* `Run.Foreseen` is what the end of a body comes to, told by the names that a check collects.
* `Check.check_eq_undefinedName_iff` is what the check comes to.
* `Run.evaluate_foreseen` is the result for both.
-/

namespace Extraction

/-! ## Reports -/

namespace Run

variable {ν ε : Type}

/-- The name that `function` is reported to return without having assigned it. -/
def Event.missing? (function : String) : Event → Option String
  | .unassigned other name => if other = function then some name else none
  | _ => none

/-- The names that `function` is reported in `events` to return without having assigned them, in
order. -/
def missing (function : String) (events : List Event) : List String :=
  events.filterMap (Event.missing? function)

variable {function other : String}

theorem missing_append (function : String) (events more : List Event) :
    missing function (events ++ more) = missing function events ++ missing function more :=
  List.filterMap_append

/-- The conclusion of `function` tells the returned names that `env` has no value for. -/
theorem missing_conclusion_self (function : String) (returns : List String) (env : Env ν) :
    missing function (conclusion function returns env) =
      returns.filter fun name => (env.get? name).isNone := by
  simp [conclusion, missing, Event.missing?, List.filterMap_map, Function.comp_def]

/-- The conclusion of another function tells nothing about `function`. -/
theorem missing_conclusion_of_ne (h : other ≠ function) (returns : List String) (env : Env ν) :
    missing function (conclusion other returns env) = [] := by
  simp [conclusion, missing, Event.missing?, h]

variable [Node ν] {document : Document ν ε} {list : List Statement} {env last : Env ν}
  {state final : State ν} {running : List String}

/-- While the body of a function is run, nothing is reported of the names that it returns, whatever
else it leads to. -/
theorem Completes.missing_eq (h : Completes document list env state last final)
    (horderly : state.Orderly running) (hrunning : function ∈ running) :
    missing function final.events = missing function state.events := by
  induction h generalizing running with
  | nil => rfl
  | selected hselect _ ih =>
    rw [ih (horderly.of_functions_eq (functions_eq_of_select hselect)) hrunning,
      eq_perform_of_select hselect, State.events_perform_query]
  | cached _ _ _ ih =>
    rw [ih (horderly.of_functions_eq rfl) hrunning, State.events_report, missing_append]
    exact List.append_nil _
  -- A body that is started is that of another function.
  | @evaluated _ callee _ _ _ _ definition inner _ _ _ hget _ hbody _ ihbody ih =>
    have hname : definition.name = callee := horderly.name_eq callee _ hget
    have hne : definition.name ≠ function := by
      rintro rfl
      exact horderly.not_mem hget (hname ▸ hrunning)
    have hinner := ihbody (horderly.start hget) (List.mem_cons_of_mem _ hrunning)
    rw [State.events_setStatus] at hinner
    obtain ⟨horderly', hextends⟩ := hbody.runs.orderly (horderly.start hget)
    rw [ih (horderly.conclude hget horderly' hextends _).1 hrunning, State.events_conclude,
      missing_append, missing_conclusion_of_ne hne, List.append_nil, hinner]
  | @defined name body returns location _ _ _ _ _ hget _ ih =>
    have hdefine := horderly.define ⟨name, body, returns, location⟩ hget
    rw [ih (hdefine.of_functions_eq rfl) hrunning, State.events_report, missing_append,
      State.events_setEntry]
    exact List.append_nil _

/-! ## The end of a body -/

/-- The body of the function `name` has come to its end with the names `inner`, and the function to
its results `rs`. All that is told of the names that it returns is so because of the targets of its
body. -/
structure Foreseen (name : String) (definition : Definition) (inner : Env ν) (rs : Results ν)
    (before ended after : State ν) : Prop where
  /-- The names with values are the targets of the body. -/
  mem_names_iff : ∀ other, other ∈ inner.names ↔ other ∈ definition.body.flatMap Check.targets
  /-- A result is the value of a target, or else it is absent. -/
  result_iff : ∀ (i : ℕ) returned value, rs[i]? = some (returned, value) ↔
    definition.returns.names[i]? = some returned ∧
      (returned ∈ definition.body.flatMap Check.targets ∧ inner.get? returned = some value ∨
        returned ∉ definition.body.flatMap Check.targets ∧ value = .leaf .absent)
  /-- At the end of the body each returned name that is no target is reported, as often as it is
  returned. -/
  events_eq : after.events = ended.events ++
    (definition.returns.names.filter (· ∉ definition.body.flatMap Check.targets)).map
      (.unassigned name) ++ [.evaluated name definition.returns.names.length]
  /-- No other such report of the function is made while it is evaluated. -/
  missing_eq : missing name after.events = missing name before.events ++
    definition.returns.names.filter (· ∉ definition.body.flatMap Check.targets)

/-- A function that is evaluated to its end comes to what the targets of its body tell. -/
theorem exists_foreseen {name : String} {definition : Definition} {rs : Results ν} {after : State ν}
    (horderly : state.Orderly running)
    (hget : state.functions.get? name = some ⟨definition, .idle⟩)
    (hevaluate : evaluate document name ⟨definition, .idle⟩ state hget = (.ok rs, after)) :
    ∃ inner ended, statements document definition.body .empty (state.setStatus name .running) =
        (.ok inner, ended) ∧ Foreseen name definition inner rs state ended after := by
  rw [evaluate_of_idle _ _ hget rfl] at hevaluate
  match houtcome : statements document definition.body .empty (state.setStatus name .running) with
  | (.error stop, ended) =>
    rw [houtcome] at hevaluate
    cases hevaluate
  | (.ok inner, ended) =>
    rw [houtcome] at hevaluate
    cases hevaluate
    have hstart := horderly.start hget
    have hcompletes := completes_iff.2 houtcome
    have hname : definition.name = name := horderly.name_eq name _ hget
    have hnames : ∀ other, other ∈ inner.names ↔
        other ∈ definition.body.flatMap Check.targets := fun other => by
      rw [hcompletes.names_eq hstart, List.mem_eraseDups]
    -- The names without a value are those that a check finds, with the same repetitions.
    have hfilter : (definition.returns.names.filter fun other => (inner.get? other).isNone) =
        definition.returns.names.filter (· ∉ definition.body.flatMap Check.targets) := by
      refine List.filter_congr fun other _ => ?_
      rw [Bool.eq_iff_iff, Option.isNone_iff_eq_none, decide_eq_true_iff, Bindings.get?_eq_none_iff,
        hnames]
    refine ⟨inner, ended, rfl, hnames, fun i returned value => ?_, ?_, ?_⟩
    · rw [results, List.getElem?_map, Option.map_eq_some_iff]
      simp only [Prod.mk.injEq, ← hnames]
      rcases hvalue : inner.get? returned with _ | value'
      · have hnot : returned ∉ inner.names := Bindings.get?_eq_none_iff.1 hvalue
        simp [hnot, hvalue, eq_comm]
      · have hmem : returned ∈ inner.names := Bindings.mem_names_of_get? hvalue
        simp [hmem, hvalue]
    · rw [State.events_conclude, conclusion, hname, hfilter, List.append_assoc]
    -- The function is marked as being run, and nothing is reported of it before its end.
    · have hbody := hcompletes.missing_eq hstart List.mem_cons_self
      rw [State.events_setStatus] at hbody
      rw [State.events_conclude, missing_append, hname, missing_conclusion_self, hbody, hfilter]

end Run

/-! ## Checks -/

namespace Check

variable {path : Option String} {known known' : State} {before later : List Statement}
  {function name : String} {place : Place}

/-- `map` changes no failure, and makes none. -/
theorem map_eq_error_iff {α β ε : Type} {f : α → β} {answer : Except ε α} {failure : ε} :
    answer.map f = .error failure ↔ answer = .error failure := by
  cases answer <;> simp [Except.map]

/-- To follow invocations finds no name that is not assigned. -/
theorem resolve_ne_undefinedName (functions : Bindings Definition) (path : Option String)
    (running : List String) (list : List Statement) (resolved : List String) :
    resolve functions path running list resolved ≠
      .error ⟨.undefinedName function name, place⟩ := by
  -- The faults that are found are of other kinds.
  fun_induction resolve functions path running list resolved
  case case1 => simp
  case case2 => simp
  case case3 => simp
  case case4 ih => exact ih
  case case5 => simp
  case case6 ih => exact ih
  case case7 hbody ih => rwa [hbody] at ih
  case case8 ih => exact ih

/-- A function that is known stays so. -/
theorem get?_of_step {statement : Statement} {definition : Definition}
    (h : step path known statement = .ok known')
    (hget : known.functions.get? function = some definition) :
    known'.functions.get? function = some definition := by
  cases statement with
  | assignment =>
    cases h
    exact hget
  | invocation targets callee location =>
    rw [step] at h
    match hresolve : resolve known.functions path [] [.invocation targets callee location]
        known.resolved with
    | .ok resolved =>
      rw [hresolve] at h
      cases h
      exact hget
    | .error failure =>
      rw [hresolve] at h
      cases h
  | returns => cases h
  | bare => cases h
  | definition other body returns location =>
    rw [step, define] at h
    match hother : known.functions.get? other with
    | some old =>
      simp only [hother] at h
      cases h
    | none =>
      simp only [hother] at h
      split at h
      · cases h
      -- Another function is defined, since this one was known before.
      · cases h
        refine (Bindings.get?_set_of_ne _ _ ?_).trans hget
        rintro rfl
        rw [hother] at hget
        cases hget

/-- Of a function that is known, no further definition is looked at for its names. -/
theorem step_ne_undefinedName {statement : Statement} {definition : Definition}
    (hget : known.functions.get? function = some definition) :
    step path known statement ≠ .error ⟨.undefinedName function name, place⟩ := by
  intro h
  cases statement with
  | assignment => cases h
  | invocation targets callee location =>
    exact resolve_ne_undefinedName _ _ _ _ _ (map_eq_error_iff.1 h)
  | returns => cases h
  | bare => cases h
  | definition other body returns location =>
    rw [step, define] at h
    split at h
    · cases h
    · rename_i hother
      split at h
      · cases h
        rw [hother] at hget
        cases hget
      · cases h

/-- Once `function` is defined, no later statement is found to leave its returned names unassigned.
-/
theorem steps_ne_undefinedName (path : Option String) (list : List Statement)
    {definition : Definition} (hget : known.functions.get? function = some definition) :
    steps path known list ≠ .error ⟨.undefinedName function name, place⟩ := by
  induction list generalizing known with
  | nil => exact nofun
  | cons first rest ih =>
    rw [steps]
    match hfirst : step path known first with
    | .ok known' => exact ih (get?_of_step hfirst hget)
    | .error failure =>
      rintro ⟨⟩
      exact step_ne_undefinedName hget hfirst

/-- Statements are checked one after the other: what is `known` after the first of them is known
before the others. -/
theorem steps_append (h : steps path known before = .ok known') (later : List Statement) :
    steps path known (before ++ later) = steps path known' later := by
  induction before generalizing known with
  | nil =>
    cases h
    rfl
  | cons first before ih =>
    rw [steps] at h
    rw [List.cons_append, steps]
    match hfirst : step path known first with
    | .ok next =>
      rw [hfirst] at h
      exact ih h
    | .error failure =>
      rw [hfirst] at h
      cases h

/-- The name that a check finds is the first of the returned ones that is no target of the body. -/
theorem unassigned?_eq_some_iff {definition : Definition} :
    unassigned? definition = some name ↔ ∃ front back,
      definition.returns.names = front ++ name :: back ∧
        name ∉ definition.body.flatMap targets ∧
          ∀ returned ∈ front, returned ∈ definition.body.flatMap targets := by
  rw [unassigned?, List.find?_eq_some_iff_append]
  simp only [Bool.not_eq_true', ← Bool.not_eq_true, List.contains_iff_mem, Bool.not_not]
  tauto

/-- A check that comes to the first definition of a function fails there for a name if and only if
it is the first one that the function returns and never assigns. -/
theorem check_eq_undefinedName_iff {program : Program} {definition : Definition}
    (hstatements : program.statements = before ++
      .definition definition.name definition.body definition.returns definition.location :: later)
    (hbefore : steps program.path ⟨.empty, []⟩ before = .ok known)
    (hnew : known.functions.get? definition.name = none) :
    check program = .error ⟨.undefinedName definition.name name, place⟩ ↔
      place = Check.place program.path definition.returns.location ∧
        unassigned? definition = some name := by
  have hdefine : step program.path known (.definition definition.name definition.body
      definition.returns definition.location) = define program.path known definition := rfl
  rw [check, hstatements, steps_append hbefore, steps, hdefine, define, hnew]
  match hfound : unassigned? definition with
  | some found =>
    simp [Except.map, eq_comm, and_comm]
  | none =>
    -- The definition is passed, and no other one of its name will be.
    have hknown : (State.mk (known.functions.set definition.name definition)
        known.resolved).functions.get? definition.name = some definition :=
      Bindings.get?_set_self ..
    refine iff_of_false (fun h => ?_) nofun
    exact steps_ne_undefinedName program.path later hknown (map_eq_error_iff.1 h)

end Check

/-! ## Both -/

namespace Run

variable {ν ε : Type} [Node ν] {document : Document ν ε} {state after : State ν}
  {running : List String} {name : String} {definition : Definition} {rs : Results ν}

/-- A function is evaluated whose body has not been run, in any state that an executor can come to,
and its body comes to its end. The names that have values then are the targets of the body. So the
returned names that are no targets are reported, each as often as it is returned, and they alone
have no result. A check that comes to the first definition of the function fails there if and only
if there is one of them, and names the first. -/
theorem evaluate_foreseen (horderly : state.Orderly running)
    (hget : state.functions.get? name = some ⟨definition, .idle⟩)
    (hevaluate : evaluate document name ⟨definition, .idle⟩ state hget = (.ok rs, after)) :
    (∃ inner ended, statements document definition.body .empty (state.setStatus name .running) =
        (.ok inner, ended) ∧ Foreseen name definition inner rs state ended after) ∧
      ∀ (program : Program) (before later : List Statement) (known : Check.State),
        program.statements = before ++ .definition definition.name definition.body
          definition.returns definition.location :: later →
        Check.steps program.path ⟨.empty, []⟩ before = .ok known →
        known.functions.get? definition.name = none →
          ∀ returned place,
            check program = .error ⟨.undefinedName definition.name returned, place⟩ ↔
              place = Check.place program.path definition.returns.location ∧ ∃ front back,
                definition.returns.names = front ++ returned :: back ∧
                  returned ∉ definition.body.flatMap Check.targets ∧
                    ∀ earlier ∈ front, earlier ∈ definition.body.flatMap Check.targets := by
  refine ⟨exists_foreseen horderly hget hevaluate, ?_⟩
  intro program before later known hstatements hbefore hnew returned place
  rw [Check.check_eq_undefinedName_iff hstatements hbefore hnew, Check.unassigned?_eq_some_iff]

/-- A function returns a name twice that it never assigns, and invokes one that does so, too. -/
theorem evaluate_foreseen_of_nested_evaluation :
    let f : Definition := ⟨"f", [.assignment "x" ⟨"p", .openSlice 0, none⟩ none,
      .invocation ["y"] "g" none], ⟨["x", "z", "y", "z"], none⟩, none⟩
    let g : Definition := ⟨"g", [.assignment "x" ⟨"q", .whole, none⟩ none], ⟨["z"], none⟩, none⟩
    let state : State Listing.Item :=
      (State.empty.setEntry "f" ⟨f, .idle⟩).setEntry "g" ⟨g, .idle⟩
    let listing : Listing := ⟨.empty, []⟩
    ∃ (hget : state.functions.get? "f" = some ⟨f, .idle⟩) (rs : Results Listing.Item)
      (after : State Listing.Item),
      evaluate listing.document "f" ⟨f, .idle⟩ state hget = (.ok rs, after) ∧
        missing "f" after.events = ["z", "z"] ∧
        rs[1]? = some ("z", .leaf .absent) ∧
        check ⟨[.definition f.name f.body f.returns f.location], none⟩ =
          .error ⟨.undefinedName "f" "z", .unknown⟩ := by
  intro f g state listing
  have horderly : state.Orderly [] :=
    (State.Orderly.empty.define f rfl).define g rfl
  have hget : state.functions.get? "f" = some ⟨f, .idle⟩ := rfl
  have hok : (evaluate listing.document "f" ⟨f, .idle⟩ state rfl).1.toBool = true := by
    decide +kernel
  match hevaluate : evaluate listing.document "f" ⟨f, .idle⟩ state hget with
  | (.error stop, after) =>
    rw [hevaluate] at hok
    cases hok
  | (.ok rs, after) =>
    obtain ⟨⟨inner, ended, -, hforeseen⟩, hcheck⟩ := evaluate_foreseen horderly hget hevaluate
    refine ⟨hget, rs, after, hevaluate, hforeseen.missing_eq, ?_, ?_⟩
    · exact (hforeseen.result_iff 1 "z" _).2 ⟨rfl, .inr ⟨by decide, rfl⟩⟩
    · refine (hcheck _ [] [] ⟨.empty, []⟩ rfl rfl rfl "z" .unknown).2 ⟨rfl, ?_⟩
      exact ⟨["x"], ["y", "z"], rfl, by decide, by decide⟩

end Run

end Extraction
