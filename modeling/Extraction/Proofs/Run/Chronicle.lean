import Mathlib.Data.List.Nodup
import Extraction.Proofs.Run.Completion
import Extraction.Proofs.Run.Outline

/-!
# The events of a function

What a run reports of one function tells how far the function has come: it is defined, then its body
is run to the end, and then its results are used again, some number of times.

* `Run.history` are the events of one function.
* `Run.Chronicle` relates them to the entry of the function, and `Run.State.Chronicled` states have
  such events of all functions. `Run.Completes.chronicled` preserves it.
* `Run.State.Chronicled.mem_evaluations` finds the functions that have results among the events.
-/

namespace Extraction.Run

variable {ν ε : Type}

/-! ## Events -/

namespace Event

/-- The function that is defined, whose body was run, or whose results are used again. -/
def subject? : Event → Option String
  | .defined function _ => some function
  | .evaluated function _ => some function
  | .cached function => some function
  | _ => none

/-- The function whose body was run. -/
def evaluated? : Event → Option String
  | .evaluated function _ => some function
  | _ => none

end Event

/-- The `events` of one `function`, in order. -/
def history (function : String) (events : List Event) : List Event :=
  events.filter fun event => event.subject? = some function

/-- The functions whose bodies were run, in the order of `events`. -/
def evaluations (events : List Event) : List String := events.filterMap Event.evaluated?

variable {function other : String} {events : List Event} {event : Event}

theorem history_append (function : String) (events more : List Event) :
    history function (events ++ more) = history function events ++ history function more :=
  List.filter_append ..

/-- An event about `function` belongs to its history. -/
theorem history_singleton_of_eq (h : event.subject? = some function) :
    history function [event] = [event] := by
  simp [history, h]

theorem history_singleton_of_ne (h : event.subject? ≠ some function) :
    history function [event] = [] := by
  simp [history, h]

theorem evaluations_append (events more : List Event) :
    evaluations (events ++ more) = evaluations events ++ evaluations more :=
  List.filterMap_append

/-- A function whose body was run has an event of that. -/
theorem mem_evaluations_iff : function ∈ evaluations events ↔
    ∃ returns, .evaluated function returns ∈ history function events := by
  simp only [evaluations, history, List.mem_filterMap, List.mem_filter]
  constructor
  · rintro ⟨event, hmem, hevent⟩
    cases event with
    | evaluated other returns =>
      obtain rfl := Option.some.inj hevent
      exact ⟨returns, hmem, by simp [Event.subject?]⟩
    | _ => cases hevent
  · rintro ⟨returns, hmem, -⟩
    exact ⟨_, hmem, rfl⟩

/-- Among the events of a function, those of its body being run are counted. -/
theorem count_evaluations (function : String) (events : List Event) :
    (evaluations events).count function =
      (history function events).countP fun event => event.evaluated? == some function := by
  rw [evaluations, List.count_filterMap, history, List.countP_filter]
  refine List.countP_congr fun event _ => ?_
  cases event <;> simp [Event.evaluated?, Event.subject?]

/-- A name that was not assigned is told at the end of a body, and tells nothing of how far its
function has come. -/
theorem history_unassigned (function other : String) (names : List String) :
    history other (names.map (.unassigned function)) = [] := by
  simp [history, Event.subject?]

theorem evaluations_unassigned (function : String) (names : List String) :
    evaluations (names.map (.unassigned function)) = [] := by
  simp [evaluations, Event.evaluated?]

/-- Of the conclusion of `function`, only that its body was run belongs to a history. -/
theorem history_conclusion (function other : String) (returns : List String) (env : Env ν) :
    history other (conclusion function returns env) =
      history other [.evaluated function returns.length] := by
  rw [conclusion, history_append, history_unassigned, List.nil_append]

/-- The conclusion of `function` tells that its body was run, and of no other body. -/
theorem evaluations_conclusion (function : String) (returns : List String) (env : Env ν) :
    evaluations (conclusion function returns env) = [function] := by
  rw [conclusion, evaluations_append, evaluations_unassigned, List.nil_append]
  rfl

/-! ## How far a function has come -/

/-- What was reported of `function`, by how far it has come. -/
inductive Chronicle (function : String) : Option (Entry ν) → List Event → Prop
  /-- It is not defined. -/
  | undefined : Chronicle function none []
  /-- It is defined, and has no results. -/
  | defined {definition status} (hstatus : ∀ rs, status ≠ .done rs) :
      Chronicle function (some ⟨definition, status⟩) [.defined function definition.returns.names]
  /-- It has results, which were used again. -/
  | evaluated {definition rs} (count : Nat) :
      Chronicle function (some ⟨definition, .done rs⟩)
        (.defined function definition.returns.names ::
          .evaluated function definition.returns.names.length ::
            List.replicate count (.cached function))

/-- The events of `state` tell of all functions how far they have come. -/
def State.Chronicled (state : State ν) : Prop :=
  ∀ function, Chronicle function (state.functions.get? function) (history function state.events)

namespace State.Chronicled

variable {state state' : State ν} {definition : Definition}

/-- At the start of a program no function is defined, and nothing was reported of any. -/
theorem start (program : Program) : (Run.start program : State ν).Chronicled :=
  fun _ => .undefined

/-- `Chronicled` depends on the functions and the events of a state alone. -/
theorem of_eq (h : state.Chronicled) (hfunctions : state'.functions = state.functions)
    (hevents : state'.events = state.events) : state'.Chronicled := by
  intro function
  rw [hfunctions, hevents]
  exact h function

/-! ### What was reported of a function -/

/-- Nothing was reported of a function that is not defined. -/
theorem history_eq_nil (h : state.Chronicled) (hget : state.functions.get? function = none) :
    history function state.events = [] := by
  have hself := h function
  rw [hget] at hself
  generalize history function state.events = told at hself ⊢
  cases hself
  rfl

/-- Of a function without results only its definition was reported. -/
theorem history_eq_singleton (h : state.Chronicled) {status : Status ν}
    (hget : state.functions.get? function = some ⟨definition, status⟩)
    (hstatus : ∀ rs, status ≠ .done rs) :
    history function state.events = [.defined function definition.returns.names] := by
  have hself := h function
  rw [hget] at hself
  generalize history function state.events = told at hself ⊢
  cases hself with
  | defined => rfl
  | evaluated => exact absurd rfl (hstatus _)

/-- Of a function with results it was reported that it was defined, that its body was run, and
`count` times that the results were used again. -/
theorem exists_history_eq (h : state.Chronicled) {rs : Results ν}
    (hget : state.functions.get? function = some ⟨definition, .done rs⟩) :
    ∃ count, history function state.events = .defined function definition.returns.names ::
      .evaluated function definition.returns.names.length ::
        List.replicate count (.cached function) := by
  have hself := h function
  rw [hget] at hself
  generalize history function state.events = told at hself ⊢
  cases hself with
  | defined hstatus => exact absurd rfl (hstatus rs)
  | evaluated count => exact ⟨count, rfl⟩

/-- The functions that have results are those whose bodies were run. -/
theorem mem_evaluations (h : state.Chronicled) :
    function ∈ evaluations state.events ↔ state.IsDone function := by
  rw [mem_evaluations_iff]
  constructor
  · rintro ⟨returns, hmem⟩
    have hself := h function
    generalize history function state.events = told at hself hmem
    generalize hget : state.functions.get? function = entry? at hself
    cases hself with
    | undefined => cases hmem
    | defined => simp at hmem
    | evaluated => exact ⟨_, _, hget⟩
  · rintro ⟨definition, rs, hget⟩
    obtain ⟨count, hhistory⟩ := h.exists_history_eq hget
    rw [hhistory]
    exact ⟨_, List.mem_cons_of_mem _ List.mem_cons_self⟩

/-- No body was run twice. -/
theorem nodup_evaluations (h : state.Chronicled) : (evaluations state.events).Nodup := by
  refine List.nodup_iff_count_le_one.2 fun function => ?_
  have hself := h function
  rw [count_evaluations]
  generalize history function state.events = told at hself ⊢
  generalize state.functions.get? function = entry? at hself
  cases hself with
  | undefined => simp
  | defined => simp [Event.evaluated?]
  | evaluated count => simp [Event.evaluated?, List.countP_replicate]

/-! ### Steps -/

/-- One function comes further, and its events tell so. -/
theorem set {entry : Entry ν} (h : state.Chronicled) {more : List Event}
    (hget : state'.functions.get? function = some entry)
    (hothers : ∀ other, other ≠ function →
      state'.functions.get? other = state.functions.get? other)
    (hevents : state'.events = state.events ++ more)
    (hmore : ∀ other, other ≠ function → history other more = [])
    (hself : Chronicle function (some entry)
      (history function state.events ++ history function more)) : state'.Chronicled := by
  intro other
  rw [hevents, history_append]
  by_cases hother : other = function
  · subst hother
    rw [hget]
    exact hself
  · rw [hothers other hother, hmore other hother, List.append_nil]
    exact h other

/-- The results of a function are used again. -/
theorem cached (h : state.Chronicled) {rs : Results ν}
    (hget : state.functions.get? function = some ⟨definition, .done rs⟩) :
    (state.report (.cached function)).Chronicled := by
  refine h.set hget (fun _ _ => rfl) (events_report ..) (fun other hother => ?_) ?_
  · exact history_singleton_of_ne fun heq => hother (Option.some.inj heq).symm
  · obtain ⟨count, hhistory⟩ := h.exists_history_eq hget
    have hmore : Chronicle function (some ⟨definition, .done rs⟩) _ := .evaluated (count + 1)
    rw [List.replicate_succ'] at hmore
    rw [hhistory, history_singleton_of_eq rfl]
    exact hmore

/-- To start the body of an idle function is not reported. -/
theorem run (h : state.Chronicled)
    (hget : state.functions.get? function = some ⟨definition, .idle⟩) :
    (state.setStatus function .running).Chronicled := by
  refine h.set (get?_setStatus_self hget _) (fun _ hother => get?_setStatus_of_ne _ _ hother)
    ((events_setStatus ..).trans (List.append_nil _).symm) (fun _ _ => rfl) ?_
  rw [h.history_eq_singleton hget nofun]
  exact .defined nofun

/-- The body of a function has come to its end. -/
theorem conclude (h : state.Chronicled)
    (hget : state.functions.get? definition.name = some ⟨definition, .running⟩) (env : Env ν) :
    (Run.conclude definition.name definition env state).Chronicled := by
  refine h.set (get?_conclude_self hget definition env)
    (fun _ hother => get?_conclude_of_ne _ _ _ hother) (events_conclude ..)
    (fun other hother => ?_) ?_
  · rw [history_conclusion]
    exact history_singleton_of_ne fun heq => hother (Option.some.inj heq).symm
  · rw [history_conclusion, history_singleton_of_eq rfl, h.history_eq_singleton hget nofun]
    exact .evaluated 0

/-- A function is defined. -/
theorem define (h : state.Chronicled) (definition : Definition)
    (hget : state.functions.get? definition.name = none) :
    ((state.setEntry definition.name ⟨definition, .idle⟩).report
      (.defined definition.name definition.returns.names)).Chronicled := by
  refine h.set (get?_setEntry_self ..) (fun _ hother => get?_setEntry_of_ne _ _ hother)
    (events_report ..) (fun other hother => ?_) ?_
  · exact history_singleton_of_ne fun heq => hother (Option.some.inj heq).symm
  · rw [history_singleton_of_eq rfl, h.history_eq_nil hget]
    exact .defined nofun

end State.Chronicled

/-! ## Runs -/

variable [Node ν] {document : Document ν ε} {list : List Statement} {env last : Env ν}
  {state final : State ν} {defined : String → Option Definition}

/-- At the end of a run the events tell of all functions how far they have come. -/
theorem Completes.chronicled (h : Completes document list env state last final)
    (hregular : Regular defined) (hexpects : Expects defined list state)
    (hchronicled : state.Chronicled) : final.Chronicled := by
  induction h with
  | nil => exact hchronicled
  | selected hselect _ ih =>
    have hfunctions := functions_eq_of_select hselect
    refine ih (hexpects.of_functions_eq rfl hfunctions) (hchronicled.of_eq hfunctions ?_)
    rw [eq_perform_of_select hselect, State.events_perform_query]
  | cached hget _ _ ih =>
    have hname := hregular.name_eq _ _ (hexpects.agrees _ _ hget)
    subst hname
    exact ih (hexpects.of_functions_eq rfl rfl) (hchronicled.cached hget)
  | evaluated hget _ hbody _ ihbody ih =>
    have hname := hregular.name_eq _ _ (hexpects.agrees _ _ hget)
    subst hname
    -- The function is still marked when its body ends, so there is no event of results before.
    have hinner := ihbody (hexpects.body hregular hget) (hchronicled.run hget)
    exact ih (hexpects.evaluated hregular rfl hget hbody)
      (hinner.conclude (hbody.runs.get?_of_running hget) _)
  | @defined name body returns location _ _ _ _ _ hget _ ih =>
    exact ih (hexpects.define hget _) (hchronicled.define ⟨name, body, returns, location⟩ hget)

end Extraction.Run
