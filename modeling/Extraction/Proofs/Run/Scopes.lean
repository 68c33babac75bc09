import Extraction.Check
import Extraction.Document.Listing
import Extraction.Proofs.Bindings
import Extraction.Proofs.Run.Completion
import Extraction.Proofs.Run.Table
import Mathlib.Order.Basic

/-!
# Scopes

The body of a function is run in a scope of its own. What is left of it for the others are the
values of the returned names, which go to the targets of an invocation in their order. At the end of
a program the top level therefore has values for its own targets, and the last value of each.

* `Run.Completes.exists_eq_setAll` says what a run does to its scope.
* `Run.Supplies` relates a statement to the value that it gives to a name.
* `Run.scope_of_run` is the scope of the top level at the end of a program.
-/

namespace Extraction.Run

variable {ν ε : Type}

/-! ## Targets -/

/-- Each target has a value where there are results enough, and those beyond the targets are left
out. -/
theorem map_fst_zip_results {targets : List String} {rs : Results ν}
    (h : targets.length ≤ rs.length) :
    (targets.zip (rs.map Prod.snd)).map Prod.fst = targets :=
  List.map_fst_zip (by simpa using h)

/-- A name that stands among the targets more than once has the result for the last of them. -/
theorem exists_get?_bindTargets {front back : List String} {name : String} {rs : Results ν}
    (hlast : name ∉ back) (hle : (front ++ name :: back).length ≤ rs.length) (env : Env ν) :
    ∃ result, rs[front.length]? = some result ∧
      (bindTargets (front ++ name :: back) rs env).get? name = some result.2 := by
  induction front generalizing rs env with
  | nil =>
    match rs with
    | [] => simp at hle
    | result :: rs =>
      refine ⟨result, rfl, ?_⟩
      have hback : (back.zip (rs.map Prod.snd)).map Prod.fst = back :=
        map_fst_zip_results (Nat.le_of_succ_le_succ hle)
      change ((env.set name result.2).setAll (back.zip (rs.map Prod.snd))).get? name = _
      rw [Bindings.get?_setAll_of_not_mem (by rwa [hback]), Bindings.get?_set_self]
  -- What the first target is given is given before, and nothing is taken from the others.
  | cons target front ih =>
    match rs with
    | [] => simp at hle
    | result :: rs => exact ih (Nat.le_of_succ_le_succ hle) (env.set target result.2)

theorem length_results (returns : List String) (env : Env ν) :
    (results returns env).length = returns.length :=
  List.length_map _

/-- There are as many results as names that a function returns. -/
theorem State.Orderly.length_eq {state : State ν} {running : List String} {function : String}
    {definition : Definition} {rs : Results ν} (h : state.Orderly running)
    (hget : state.functions.get? function = some ⟨definition, .done rs⟩) :
    rs.length = definition.returns.names.length := by
  simpa using congrArg List.length (h.returned _ _ _ hget)

/-! ## Runs -/

variable [Node ν]

/-- A statement that is run in `state` gives a value to a name. -/
inductive Supplies (document : Document ν ε) (state : State ν) :
    Statement → String → Value ν → Prop
  /-- An assignment gives the value of its selection. -/
  | selection {target selection location value state'}
      (hselect : select document selection state = (.ok value, state')) :
      Supplies document state (.assignment target selection location) target value
  /-- An invocation gives the result at the place of the name among the targets, and at the last
  one if there are many. The results are those of the function, one for each returned name. -/
  | result {front back name function location entry rs state' returned value}
      (hget : state.functions.get? function = some entry)
      (hevaluate : evaluate document function entry state hget = (.ok rs, state'))
      (hreturned : rs.map Prod.fst = entry.definition.returns.names) (hlast : name ∉ back)
      (hresult : rs[front.length]? = some (returned, value)) :
      Supplies document state (.invocation (front ++ name :: back) function location) name value

variable {document : Document ν ε} {list : List Statement} {first : Statement} {env last : Env ν}
  {state final : State ν} {running : List String} {name : String}

/-- A run gives values to the targets of the statements, one after the other, and to no other
names. -/
theorem Completes.exists_eq_setAll (h : Completes document list env state last final)
    (horderly : state.Orderly running) :
    ∃ pairs, pairs.map Prod.fst = list.flatMap Check.targets ∧ last = env.setAll pairs := by
  induction h with
  | nil => exact ⟨[], rfl, rfl⟩
  | @selected target _ _ _ _ _ value _ _ _ hselect _ ih =>
    obtain ⟨pairs, hnames, rfl⟩ := ih (horderly.of_functions_eq (functions_eq_of_select hselect))
    refine ⟨(target, value) :: pairs, ?_, rfl⟩
    rw [List.map_cons, hnames, List.flatMap_cons]
    rfl
  | @cached targets _ _ _ _ _ definition rs _ _ hget hle _ ih =>
    have hlength : targets.length ≤ rs.length := hle.trans_eq (horderly.length_eq hget).symm
    obtain ⟨pairs, hnames, rfl⟩ := ih (horderly.of_functions_eq rfl)
    refine ⟨targets.zip (rs.map Prod.snd) ++ pairs, ?_, (Bindings.setAll_append ..).symm⟩
    rw [List.map_append, map_fst_zip_results hlength, hnames, List.flatMap_cons]
    rfl
  -- What the body gives values to is seen in its own scope only.
  | @evaluated targets _ _ _ _ _ definition inner _ _ _ hget hle hbody _ _ ih =>
    obtain ⟨hinner, hextends⟩ := hbody.runs.orderly (horderly.start hget)
    obtain ⟨pairs, hnames, rfl⟩ := ih (horderly.conclude hget hinner hextends _).1
    have hlength : targets.length ≤ (results definition.returns.names inner).length :=
      hle.trans_eq (length_results ..).symm
    refine ⟨targets.zip ((results definition.returns.names inner).map Prod.snd) ++ pairs, ?_,
      (Bindings.setAll_append ..).symm⟩
    rw [List.map_append, map_fst_zip_results hlength, hnames, List.flatMap_cons]
    rfl
  | @defined function body returns location _ _ _ _ _ hget _ ih =>
    have hdefine := horderly.define ⟨function, body, returns, location⟩ hget
    exact ih (hdefine.of_functions_eq rfl)

/-- A name that is no target keeps its value. -/
theorem Completes.get?_of_not_mem (h : Completes document list env state last final)
    (horderly : state.Orderly running) (hname : name ∉ list.flatMap Check.targets) :
    last.get? name = env.get? name := by
  obtain ⟨pairs, hnames, rfl⟩ := h.exists_eq_setAll horderly
  exact Bindings.get?_setAll_of_not_mem (by rwa [hnames]) env

/-- What is run from a scope without names leaves the targets, each at its first place. -/
theorem Completes.names_eq (h : Completes document list .empty state last final)
    (horderly : state.Orderly running) :
    last.names = (list.flatMap Check.targets).eraseDups := by
  obtain ⟨pairs, hnames, rfl⟩ := h.exists_eq_setAll horderly
  have hempty : (Bindings.empty : Env ν).names = ([] : List String).eraseDups := rfl
  rw [← hnames]
  exact Bindings.names_setAll_eq_eraseDups hempty pairs

/-- A name stands among others for a last time. -/
theorem exists_last_of_mem {names : List String} (h : name ∈ names) :
    ∃ front back, names = front ++ name :: back ∧ name ∉ back := by
  -- The last one is the first one of the reversed list.
  obtain ⟨front, back, hreverse, hnot⟩ := List.eq_append_cons_of_mem (List.mem_reverse.2 h)
  refine ⟨back.reverse, front.reverse, ?_, by simpa using hnot⟩
  simpa using congrArg List.reverse hreverse

/-- An invocation that is passed has given the results of its function to the targets, and there
were results enough. -/
theorem Completes.exists_evaluate {targets : List String} {function : String}
    {location : Option Location}
    (h : Completes document [.invocation targets function location] env state last final)
    (horderly : state.Orderly running) :
    ∃ entry rs, ∃ hget : state.functions.get? function = some entry,
      evaluate document function entry state hget = (.ok rs, final) ∧
        rs.map Prod.fst = entry.definition.returns.names ∧ targets.length ≤ rs.length ∧
          last = bindTargets targets rs env := by
  cases h with
  | @cached _ _ _ _ _ _ definition rs _ _ hget hle hrest =>
    cases hrest
    exact ⟨_, rs, hget, evaluate_of_done _ _ hget rfl, horderly.returned _ _ _ hget,
      hle.trans_eq (horderly.length_eq hget).symm, rfl⟩
  | @evaluated _ _ _ _ _ _ definition inner _ _ _ hget hle hbody hrest =>
    cases hrest
    have hevaluate := evaluate_of_idle document state hget rfl
    rw [completes_iff.1 hbody] at hevaluate
    exact ⟨_, _, hget, hevaluate, State.map_fst_results .., hle.trans_eq (length_results ..).symm,
      rfl⟩

/-- A statement that is passed has given a value to each of its targets. -/
theorem Completes.exists_supplies (h : Completes document [first] env state last final)
    (horderly : state.Orderly running) (hname : name ∈ Check.targets first) :
    ∃ value, Supplies document state first name value ∧ last.get? name = some value := by
  cases first with
  | assignment target selection location =>
    cases h with
    | selected hselect hrest =>
      cases hrest
      obtain rfl : name = target := List.mem_singleton.1 hname
      exact ⟨_, .selection hselect, Bindings.get?_set_self ..⟩
  | invocation targets function location =>
    obtain ⟨entry, rs, hget, hevaluate, hreturned, hlength, rfl⟩ := h.exists_evaluate horderly
    obtain ⟨front, back, rfl, hlast⟩ := exists_last_of_mem hname
    obtain ⟨⟨returned, value⟩, hresult, hvalue⟩ := exists_get?_bindTargets hlast hlength env
    exact ⟨value, .result hget hevaluate hreturned hlast hresult, hvalue⟩
  | returns => cases hname
  | definition => cases hname
  | bare => cases hname

/-! ## Programs -/

/-- At the end of a program the scope of the top level has the targets of its own statements, each
at its first place, and no other names. The value of a name is the one that was given to it by the
last of these statements of which it is a target, in the state that those before have left. -/
theorem scope_of_run {program : Program} (h : (run program document).1 = .ok env) :
    env.names = (program.statements.flatMap Check.targets).eraseDups ∧
      ∀ before statement after name, program.statements = before ++ statement :: after →
        name ∈ Check.targets statement → name ∉ after.flatMap Check.targets →
          ∃ inner state value,
            statements document before .empty (start program) = (.ok inner, state) ∧
              Supplies document state statement name value ∧ env.get? name = some value := by
  rw [run_eq] at h
  match houtcome : statements document program.statements .empty (start program) with
  | (.error stop, state) =>
    rw [houtcome] at h
    cases h
  | (.ok last, final) =>
    rw [houtcome] at h
    obtain rfl : last = env := Except.ok.inj h
    have hstart : (start program : State ν).Orderly [] := orderly_start program
    have hcompletes := completes_iff.2 houtcome
    refine ⟨hcompletes.names_eq hstart, ?_⟩
    intro before statement after name hlist hmem hafter
    -- The run is cut in front of the statement and behind it.
    rw [hlist, List.append_cons, completes_append] at hcompletes
    obtain ⟨env', state', hpassed, hrest⟩ := hcompletes
    obtain ⟨inner, state, hbefore, hstatement⟩ := (completes_append ..).1 hpassed
    have horderly := (hbefore.runs.orderly hstart).1
    obtain ⟨value, hsupplies, hvalue⟩ := hstatement.exists_supplies horderly hmem
    refine ⟨inner, state, value, completes_iff.1 hbefore, hsupplies, ?_⟩
    -- The statements behind it leave the value as it is.
    rw [hrest.get?_of_not_mem (hpassed.runs.orderly hstart).1 hafter, hvalue]

/-- A function assigns to names that the top level has, too, and returns more than it is asked for.
One of the names is a target of a single invocation twice. -/
theorem scope_of_run_with_repeated_target :
    let program : Program :=
      ⟨[.definition "f" [.assignment "a" ⟨"p", .openSlice 0, none⟩ none,
            .assignment "x" ⟨"q", .whole, none⟩ none] ⟨["x", "a", "b", "x"], none⟩ none,
        .assignment "a" ⟨"p", .whole, none⟩ none, .invocation ["b", "a", "b"] "f" none,
        .invocation ["c"] "f" none], none⟩
    let listing : Listing := ⟨.empty, []⟩
    ∃ env inner state value, (run program listing.document).1 = .ok env ∧
      env.names = ["a", "b", "c"] ∧
        statements listing.document (program.statements.take 2) .empty (start program) =
          (.ok inner, state) ∧
        Supplies listing.document state (.invocation ["b", "a", "b"] "f" none) "b" value ∧
          env.get? "b" = some value := by
  intro program listing
  have hok : (run program listing.document).1.toBool = true := by decide +kernel
  match hrun : (run program listing.document).1 with
  | .error stop =>
    rw [hrun] at hok
    cases hok
  | .ok env =>
    obtain ⟨hnames, hvalues⟩ := scope_of_run hrun
    obtain ⟨inner, state, value, hbefore, hsupplies, hvalue⟩ :=
      hvalues (program.statements.take 2) (.invocation ["b", "a", "b"] "f" none)
        [.invocation ["c"] "f" none] "b" rfl (by decide) (by decide)
    exact ⟨env, inner, state, value, rfl, hnames.trans (by decide), hbefore, hsupplies, hvalue⟩

end Extraction.Run
