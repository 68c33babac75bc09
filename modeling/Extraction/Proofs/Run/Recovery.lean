import Extraction.Proofs.Run.Behind
import Extraction.Proofs.Run.Caching
import Extraction.Proofs.Run.Session

/-!
# Failures leave no trace

What an executor has kept of attempts that failed is the same that it would have kept without a
failure. The document refuses some selectors now and then; where it answers, it answers as ever.

* `Run.Confirms` is what a run on such a document comes to beside the executor that keeps no results
  and runs on the document that refuses nothing. `Run.Runs.confirms` finds it so.
* `Run.Settles` is the invariant between calls.
* `Run.Yields` are the evaluations of a session that give results.
* `Run.results_of_session` is the result for sessions.
-/

namespace Extraction.Run

open Direct (Gives)

variable {ν ε : Type}

/-! ## What is kept -/

variable [Node ν] {document : Document ν ε} {functions : Bindings Definition}
  {running : List String} {list : List Statement} {env env' : Env ν} {state state' : State ν}
  {outcome : Outcome ν ε (Env ν)} {name : String} {definition : Definition}
  {refused : String → Option ε}

/-- A value that is selected from a document that refuses some selectors is the value that is
selected from the document itself, whatever was done before. -/
theorem select_of_refusing (hsteady : document.Steady) {selection : Selection} {value : Value ν}
    (h : (select (document.refusing refused) selection state).1 = .ok value) (now : State ν) :
    (select document selection now).1 = .ok value := by
  rw [select_fst_eq hsteady now state]
  unfold select queryFirst queryAll at h ⊢
  split at h
  · match hfirst : (document.refusing refused).first state.queries selection.selector with
    | .ok node? =>
      rw [Document.first_of_refusing hfirst]
      rwa [hfirst] at h
    | .error refusal =>
      rw [hfirst] at h
      cases h
  · match hall : (document.refusing refused).all state.queries selection.selector with
    | .ok nodes =>
      simp only [Document.all_of_refusing hall]
      simpa only [hall] using h
    | .error refusal =>
      rw [hall] at h
      cases h

/-- What `outcome` leaves is what the executor without results comes to, and if the run comes to its
end, so does that executor, with the same names, whichever functions without results are being run.
-/
structure Confirms (document : Document ν ε) (functions : Bindings Definition)
    (running : List String) (list : List Statement) (env : Env ν) (state : State ν)
    (outcome : Outcome ν ε (Env ν)) : Prop where
  /-- Results that are kept are those that the bodies come to. -/
  mirrors : Mirrors document functions running outcome.2
  /-- No results are lost. -/
  keeps : state.Keeps outcome.2
  /-- The end of the run is that of the executor without results. -/
  gives : ∀ env', outcome.1 = .ok env' → ∀ others, outcome.2.Apart others →
    Gives document functions others list env (.ok env')

/-- A run that goes on from the first statement to the others confirms what these do. -/
theorem Confirms.cons {first : Statement} {rest : List Statement} (hkeeps : state.Keeps state')
    (hgives : ∀ others answer, state'.Apart others →
      Gives document functions others rest env' answer →
      Gives document functions others (first :: rest) env answer)
    (hrest : Confirms document functions running rest env' state' outcome) :
    Confirms document functions running (first :: rest) env state outcome where
  mirrors := hrest.mirrors
  keeps := hkeeps.trans hrest.keeps
  gives last hlast others hapart :=
    hgives others _ (hapart.of_keeps hrest.keeps) (hrest.gives last hlast others hapart)

/-- A statement that stops and changes no function confirms what was known before it. -/
theorem Confirms.of_error {stop : Stop ε} (h : Mirrors document functions running state)
    (hfunctions : state'.functions = state.functions) :
    Confirms document functions running list env state (.error stop, state') where
  mirrors := h.of_functions_eq hfunctions
  keeps := .of_functions_eq hfunctions
  gives _ hlast := by cases hlast

/-- A run of assignments and invocations leaves results that the document answers to, whatever it
refuses now. -/
theorem Runs.confirms (h : Runs (document.refusing refused) list env state outcome)
    (hsteady : document.Steady) (hbodies : PlainBodies functions)
    (hlist : ∀ statement ∈ list, statement.isBinding)
    (hmirrors : Mirrors document functions running state) :
    Confirms document functions running list env state outcome := by
  induction h generalizing running with
  | nil =>
    exact ⟨hmirrors, .refl _, fun _ hlast _ _ => by
      cases hlast
      exact Direct.gives_nil⟩
  | @selected _ _ _ _ _ state _ _ _ hselect _ ih =>
    have hfunctions := functions_eq_of_select hselect
    have hvalue := select_of_refusing hsteady (congrArg Prod.fst hselect) state
    exact .cons (.of_functions_eq hfunctions)
      (fun others answer _ => Direct.gives_assignment hsteady hvalue)
      (ih (List.forall_mem_cons.1 hlist).2 (hmirrors.of_functions_eq hfunctions))
  | unselected hselect => exact .of_error hmirrors (functions_eq_of_select hselect)
  | stopped => exact .of_error hmirrors rfl
  | @cached _ _ _ _ _ state definition _ _ hget hle _ ih =>
    obtain ⟨hname, -⟩ := State.Lists.of_get? hmirrors hget
    have hreported : Mirrors document functions running
        (state.report (.cached definition.name)) := hmirrors.of_functions_eq rfl
    exact .cons (.of_functions_eq (State.functions_report ..))
      (fun _ _ => hreported.gives_invocation hname hget hle)
      (ih (List.forall_mem_cons.1 hlist).2 hreported)
  | @evaluated _ function _ _ _ _ definition inner state' _ hget hle _ _ ihbody ih =>
    obtain ⟨hname, hnotin⟩ := State.Lists.of_get? hmirrors hget
    obtain ⟨hstart, hkeeps⟩ := hmirrors.start hname hget
    have hbody := ihbody (hbodies function definition hname) hstart
    -- The results that are kept now are those that any later run of the body comes to.
    obtain ⟨hdone, hkeepsDone⟩ := hbody.mirrors.conclude hname hnotin (hbody.gives inner rfl)
    obtain ⟨status, hget', -⟩ := hbody.mirrors.defined function definition hname
    have hresults := State.get?_conclude_self hget' definition inner
    exact .cons ((hkeeps.trans hbody.keeps).trans hkeepsDone)
      (fun _ _ => hdone.gives_invocation hname hresults hle)
      (ih (List.forall_mem_cons.1 hlist).2 hdone)
  -- What the body has led to before it failed is confirmed all the same.
  | @failed _ function _ _ _ _ definition _ _ hget _ _ ihbody =>
    obtain ⟨hname, hnotin⟩ := State.Lists.of_get? hmirrors hget
    obtain ⟨hstart, hkeeps⟩ := hmirrors.start hname hget
    have hbody := ihbody (hbodies function definition hname) hstart
    obtain ⟨hidle, hkeepsIdle⟩ := hbody.mirrors.fail hname hnotin
    exact ⟨hidle, (hkeeps.trans hbody.keeps).trans hkeepsIdle, fun _ hlast => by cases hlast⟩
  | defined => exact nomatch (List.forall_mem_cons.1 hlist).1

/-! ## Calls -/

/-- The functions that are defined in `state`. -/
def State.definitions (state : State ν) : Bindings Definition :=
  state.functions.map Entry.definition

/-- What `state` remembers of functions with bodies of assignments and invocations is what running
without results comes to on `document`. -/
def Settles (document : Document ν ε) (running : List String) (state : State ν) : Prop :=
  ∃ functions, PlainBodies functions ∧ Mirrors document functions running state

/-- `Settles` depends on the functions of a state alone. -/
theorem Settles.of_functions_eq {running : List String}
    (h : Settles document running state) (hfunctions : state'.functions = state.functions) :
    Settles document running state' := by
  obtain ⟨functions, hbodies, hmirrors⟩ := h
  exact ⟨functions, hbodies, hmirrors.of_functions_eq hfunctions⟩

/-- Where there are no functions, nothing is remembered. -/
theorem settles_of_functions_eq_empty (h : state.functions = .empty) :
    Settles document [] state := by
  refine ⟨.empty, nofun, fun name _ => ?_, nofun⟩
  rw [h]
  exact Bindings.get?_empty name

/-- An assignment or an invocation preserves `Mirrors`, whatever is refused meanwhile. -/
theorem Mirrors.statement (h : Mirrors document functions running state)
    (hsteady : document.Steady) (hbodies : PlainBodies functions) {first : Statement}
    (hfirst : first.isBinding) (refused : String → Option ε) (env : Env ν) :
    Mirrors document functions running
      (Run.statement (document.refusing refused) first env state).2 := by
  have hruns := runs_statements (document.refusing refused) [first] env state
  rw [statements_singleton] at hruns
  exact (hruns.confirms hsteady hbodies (List.forall_mem_singleton.2 hfirst) h).mirrors

/-- However a statement of the top level comes out, what it leaves is settled. -/
theorem Settles.statement (h : Settles document [] state) (hsteady : document.Steady)
    {first : Statement} (hplain : ∀ inner ∈ first.body, inner.isBinding)
    (refused : String → Option ε) (env : Env ν) :
    Settles document [] (Run.statement (document.refusing refused) first env state).2 := by
  match hfault : fault? state first with
  | some failure =>
    rw [statement_of_fault hfault]
    exact h
  | none =>
    obtain ⟨functions, hbodies, hmirrors⟩ := h
    cases first with
    | assignment => exact ⟨functions, hbodies, hmirrors.statement hsteady hbodies rfl refused env⟩
    | invocation => exact ⟨functions, hbodies, hmirrors.statement hsteady hbodies rfl refused env⟩
    | definition name body returns location =>
      have hget : state.functions.get? name = none := Option.map_eq_none_iff.1 hfault
      rw [statement_definition, define]
      simp only [hget]
      exact ⟨_, hbodies.set ⟨name, body, returns, location⟩ hplain,
        hmirrors.define ⟨name, body, returns, location⟩ (State.Lists.of_get?_eq_none hmirrors hget)⟩
    | returns => cases hfault
    | bare => cases hfault

/-- A run of the top level preserves `Settles`, whatever is refused meanwhile. -/
theorem Settles.statements (h : Settles document [] state) (hsteady : document.Steady)
    (hplain : ∀ statement ∈ list, ∀ inner ∈ statement.body, inner.isBinding)
    (refused : String → Option ε) (env : Env ν) :
    Settles document [] (Run.statements (document.refusing refused) list env state).2 := by
  induction list generalizing env state with
  | nil =>
    rw [statements_nil]
    exact h
  | cons first rest ih =>
    obtain ⟨hfirst, hrest⟩ := List.forall_mem_cons.1 hplain
    have hsettles := h.statement hsteady hfirst refused env
    rw [statements_cons]
    match hrun : Run.statement (document.refusing refused) first env state with
    | (.ok env', state') =>
      rw [hrun] at hsettles
      exact ih hsettles hrest env'
    | (.error stop, state') =>
      rw [hrun] at hsettles
      exact hsettles

/-! ## Moments -/

section

variable {bodies : List String} {now : State ν}

/-- At all moments of a run of assignments and invocations, what is remembered is what running
without results comes to. -/
theorem Moment.mirrors (h : Moment (document.refusing refused) list env state bodies now)
    (hsteady : document.Steady) (hbodies : PlainBodies functions)
    (hlist : ∀ statement ∈ list, statement.isBinding)
    (hmirrors : Mirrors document functions running state) :
    Mirrors document functions (bodies ++ running) now := by
  induction h generalizing running with
  | here => exact hmirrors
  | @stopped _ _ env _ _ _ hfirst =>
    have hstopped := hmirrors.statement hsteady hbodies (List.forall_mem_cons.1 hlist).1
      refused env
    rwa [hfirst] at hstopped
  | @later _ _ env _ _ _ _ _ hfirst _ ih =>
    have hlater := hmirrors.statement hsteady hbodies (List.forall_mem_cons.1 hlist).1
      refused env
    rw [hfirst] at hlater
    exact ih (List.forall_mem_cons.1 hlist).2 hlater
  | @within _ function _ _ _ _ definition _ _ hget _ _ ih =>
    obtain ⟨hname, -⟩ := State.Lists.of_get? hmirrors hget
    rw [List.append_assoc, List.singleton_append]
    exact ih (hbodies function definition hname) (hmirrors.start hname hget).1

/-- At all moments of the top level, what is remembered is settled. -/
theorem Moment.settles (h : Moment (document.refusing refused) list env state bodies now)
    (hsteady : document.Steady)
    (hplain : ∀ statement ∈ list, ∀ inner ∈ statement.body, inner.isBinding)
    (hsettles : Settles document [] state) : Settles document bodies now := by
  induction h with
  | here => exact hsettles
  | @stopped _ _ env _ _ _ hfirst =>
    have hstopped := hsettles.statement hsteady (List.forall_mem_cons.1 hplain).1 refused env
    rwa [hfirst] at hstopped
  | @later _ _ env _ _ _ _ _ hfirst _ ih =>
    have hlater := hsettles.statement hsteady (List.forall_mem_cons.1 hplain).1 refused env
    rw [hfirst] at hlater
    exact ih (List.forall_mem_cons.1 hplain).2 hlater
  -- From here on only assignments and invocations are run.
  | @within _ function _ _ _ _ definition _ _ hget _ hbody =>
    obtain ⟨functions, hbodies, hmirrors⟩ := hsettles
    obtain ⟨hname, -⟩ := State.Lists.of_get? hmirrors hget
    exact ⟨functions, hbodies, hbody.mirrors hsteady hbodies (hbodies function definition hname)
      (hmirrors.start hname hget).1⟩

end

/-! ## Evaluations -/

/-- The results of a function are those that its body comes to, whether they were kept or not. -/
theorem Mirrors.evaluate (h : Mirrors document functions running state)
    (hsteady : document.Steady) (hbodies : PlainBodies functions) {function : String}
    {entry : Entry ν} {hget : state.functions.get? function = some entry} {rs : Results ν}
    (heval : (Run.evaluate (document.refusing refused) function entry state hget).1 = .ok rs) :
    functions.get? function = some entry.definition ∧
      Direct.evaluate document functions function entry.definition = .ok rs := by
  obtain ⟨definition, status⟩ := entry
  obtain ⟨hname, hsettled⟩ := State.Lists.of_get? h hget
  refine ⟨hname, ?_⟩
  cases status with
  -- Results that were kept were settled when they were.
  | done rs' =>
    rw [evaluate_of_done _ _ hget rfl] at heval
    cases heval
    obtain ⟨-, inner, rfl, hgives⟩ := hsettled
    exact Direct.evaluate_of_gives (hgives [] nofun)
  | running =>
    rw [evaluate_of_running _ _ hget rfl] at heval
    cases heval
  | idle =>
    rw [evaluate_of_idle _ _ hget rfl] at heval
    have hruns := runs_statements (document.refusing refused) definition.body .empty
      (state.setStatus function .running)
    match hbody : statements (document.refusing refused) definition.body .empty
        (state.setStatus function .running) with
    | (.ok inner, state') =>
      rw [hbody] at heval hruns
      cases heval
      have hconfirms := hruns.confirms hsteady hbodies (hbodies function definition hname)
        (h.start hname hget).1
      -- The function itself is being run at the end of its body, so it has no results there.
      have hapart := hconfirms.mirrors.apart
      exact Direct.evaluate_of_gives (hconfirms.gives inner rfl [function]
        (List.forall_mem_singleton.2 (hapart function List.mem_cons_self)))
    | (.error stop, state') =>
      rw [hbody] at heval
      cases heval

/-- What the functions of a state come to, those of a later state come to. -/
theorem State.Extends.evaluate (h : state.Extends state') (hmirrors : Mirrors document functions
    running state) {function : String} {rs : Results ν}
    (heval : Direct.evaluate document functions function definition = .ok rs) :
    Direct.evaluate document state'.definitions function definition = .ok rs := by
  refine Direct.evaluate_mono (fun name old hname => ?_) heval
  obtain ⟨status, hget, -⟩ := hmirrors.defined name old hname
  obtain ⟨status', hget', -⟩ := h.kept name old status hget
  rw [State.definitions, Bindings.get?_map, hget']
  rfl

/-! ## Sessions -/

/-- The call of `step` defines functions with bodies of assignments and invocations, and its
document is `document` as it refuses some selectors at the time. -/
structure Step.Plain (document : Document ν ε) (step : Step ν ε) : Prop where
  /-- Where the document answers, it answers as ever. -/
  refusing : ∃ refused, step.document = document.refusing refused
  /-- The bodies hold assignments and invocations. -/
  bodies : ∀ statement ∈ step.call.list, ∀ inner ∈ statement.body, inner.isBinding

/-- A `session` starts with no functions: there is no `history`, or the first call forgets what was
defined. -/
def Opens (history session : List (Step ν ε)) : Prop :=
  history = [] ∨ ∃ first later, session = first :: later ∧ first.call.Resets

/-- At some moment of `session` the evaluation of `function` gives the results `rs`. No call after
that forgets the functions. -/
def Yields (history session : List (Step ν ε)) (function : String) (rs : Results ν) : Prop :=
  ∃ before step later, session = before ++ step :: later ∧ (∀ other ∈ later, ¬other.call.Resets) ∧
    ∃ bodies now, step.Moment (after before (after history .empty)) bodies now ∧
      ∃ entry, ∃ h : now.functions.get? function = some entry,
        (evaluate step.document function entry now h).1 = .ok rs

section

variable {step : Step ν ε} {steps : List (Step ν ε)}

/-- Where a call runs its first statement, the functions are settled: they are those from before, or
there are none. -/
theorem settles_start (h : step.call.Resets ∨ Settles document [] state) :
    Settles document [] (step.call.start state) := by
  by_cases hresets : step.call.Resets
  · match hcall : step.call, hresets with
    | .execute program, _ => exact settles_of_functions_eq_empty rfl
  · rw [step.call.start_of_not_resets hresets]
    exact h.resolve_left hresets

/-- A call preserves `Settles`, whatever the document refuses at that time. -/
theorem Step.Plain.settles_next (h : step.Plain document) (hsteady : document.Steady)
    (hstart : Settles document [] (step.call.start state)) :
    Settles document [] (step.next state) := by
  obtain ⟨refused, hdocument⟩ := h.refusing
  have hstatements := hstart.statements hsteady h.bodies refused step.call.env
  rw [← hdocument] at hstatements
  exact hstatements.of_functions_eq (step.functions_next state)

/-- Any number of calls preserve `Settles`. -/
theorem settles_after (hsteady : document.Steady) (hplain : ∀ step ∈ steps, step.Plain document)
    (h : Settles document [] state) : Settles document [] (after steps state) := by
  induction steps generalizing state with
  | nil => exact h
  | cons step steps ih =>
    obtain ⟨hstep, hlater⟩ := List.forall_mem_cons.1 hplain
    exact ih hlater (hstep.settles_next hsteady (settles_start (.inr h)))

/-- In a session that starts with no functions, what is remembered before a call is settled. -/
theorem Opens.settles_start {history before later : List (Step ν ε)} (hsteady : document.Steady)
    (h : Opens history (before ++ step :: later))
    (hplain : ∀ other ∈ before ++ step :: later, other.Plain document) :
    Settles document [] (step.call.start (after before (after history .empty))) := by
  -- The first call, which may be this one, finds no functions or forgets them.
  have hfirst : ∀ first rest, before ++ step :: later = first :: rest →
      Settles document [] (first.call.start (after history .empty)) := by
    intro first rest hsession
    refine Run.settles_start ?_
    rcases h with rfl | ⟨other, rest', hsession', hresets⟩
    · exact .inr (settles_of_functions_eq_empty rfl)
    · cases hsession.symm.trans hsession'
      exact .inl hresets
  cases before with
  | nil => exact hfirst step later rfl
  | cons first before =>
    obtain ⟨hplainFirst, hplain⟩ := List.forall_mem_cons.1 hplain
    have hnext := hplainFirst.settles_next hsteady (hfirst first _ rfl)
    have hbefore : Settles document [] (after before (first.next (after history .empty))) :=
      settles_after hsteady (fun other hmem => hplain other (List.mem_append_left _ hmem)) hnext
    exact Run.settles_start (.inr hbefore)

/-- What a function yields in a session, its body comes to with the functions that are defined at
the end. -/
theorem Yields.direct {history session : List (Step ν ε)} {function : String} {rs : Results ν}
    (h : Yields history session function rs) (hsteady : document.Steady)
    (hopens : Opens history session) (hplain : ∀ step ∈ session, step.Plain document) :
    ∃ definition,
      (after session (after history .empty)).definitions.get? function = some definition ∧
        Direct.evaluate document (after session (after history .empty)).definitions function
          definition = .ok rs := by
  obtain ⟨before, step, later, rfl, hlater, bodies, now, hmoment, entry, hget, heval⟩ := h
  -- What is listed at the moment of the evaluation is still listed at the end.
  have horderly := orderly_after before (orderly_after history State.Orderly.empty)
  have hextends : now.Extends (after (before ++ step :: later) (after history .empty)) := by
    have hstatements := hmoment.extends_statements (step.call.orderly_start horderly)
    have hnext := hstatements.trans (.of_functions_eq (step.functions_next _))
    rw [after_append]
    exact hnext.trans (extends_after hlater (step.orderly_next horderly).1)
  -- What is remembered at that moment is what the bodies come to.
  have hstep := hplain step (List.mem_append_right _ List.mem_cons_self)
  obtain ⟨refused, hdocument⟩ := hstep.refusing
  have hstart := hopens.settles_start hsteady hplain
  rw [Step.Moment, hdocument] at hmoment
  obtain ⟨functions, hbodies, hmirrors⟩ := hmoment.settles hsteady hstep.bodies hstart
  simp only [hdocument] at heval
  obtain ⟨-, hdirect⟩ := hmirrors.evaluate hsteady hbodies heval
  obtain ⟨status, hlisted, -⟩ := hextends.kept function entry.definition entry.status hget
  refine ⟨entry.definition, ?_, hextends.evaluate hmirrors hdirect⟩
  rw [State.definitions, Bindings.get?_map, hlisted]
  rfl

end

/-- In a session between two programs, on a document that refuses some selectors now and others
then, all evaluations of a function that give results give the same ones: those that running its
body without results comes to, on the document that refuses nothing and with the functions that are
defined at the end. To execute a program comes to what it comes to on an executor that was not used
before, does the same, and leaves the same functions. -/
theorem results_of_session (hsteady : document.Steady) :
    (∀ history session : List (Step ν ε), Opens history session →
      (∀ step ∈ session, step.Plain document) →
        ∀ function rs, Yields history session function rs →
          (∀ rs', Yields history session function rs' → rs' = rs) ∧
          ∃ definition,
            (after session (after history .empty)).definitions.get? function = some definition ∧
              Direct.evaluate document (after session (after history .empty)).definitions function
                definition = .ok rs) ∧
      ∀ (history : List (Step ν ε)) (refused : String → Option ε) (program : Program),
        let fresh := run program (document.refusing refused)
        let old := after history .empty
        let new := execute (document.refusing refused) program old
        new.1 = fresh.1 ∧ new.2.functions = fresh.2.functions ∧
          new.2.trace = old.trace ++ fresh.2.trace := by
  refine ⟨fun history session hopens hplain function rs hyields => ?_,
    fun history refused program => ?_⟩
  · obtain ⟨definition, hdefined, hdirect⟩ := hyields.direct hsteady hopens hplain
    refine ⟨fun rs' hyields' => ?_, definition, hdefined, hdirect⟩
    -- Both results are the one of the direct evaluation.
    obtain ⟨definition', hdefined', hdirect'⟩ := hyields'.direct hsteady hopens hplain
    cases hdefined.symm.trans hdefined'
    exact Except.ok.inj (hdirect'.symm.trans hdirect)
  · intro fresh old new
    have hnew : new = fresh.behind old.trace := execute_eq (hsteady.refusing refused) old
    rw [hnew]
    exact ⟨rfl, rfl, rfl⟩

/-- The document refuses the selector in the body of a function that another one invokes. When that
one is evaluated again, it gives what it would have given at first. -/
theorem results_of_session_of_refused_selector :
    let document : Document Listing.Item Listing.Refusal := Listing.document ⟨.empty, []⟩
    let program : Program :=
      ⟨[.definition "f" [.assignment "a" ⟨"b", .whole, none⟩ none] ⟨["a"], none⟩ none,
        .definition "g" [.invocation ["c"] "f" none] ⟨["c"], none⟩ none], none⟩
    let session : List (Step Listing.Item Listing.Refusal) :=
      [⟨document.refusing fun _ => none, .execute program⟩,
        ⟨document.refusing fun selector => some ⟨selector⟩, .evaluate "g"⟩,
        ⟨document.refusing fun _ => none, .evaluate "g"⟩]
    Yields [] session "g" [("c", .leaf .absent)] ∧ ∃ definition,
      Direct.evaluate document (after session .empty).definitions "g" definition =
        .ok [("c", .leaf .absent)] := by
  intro document program session
  have hsteady : document.Steady := Listing.steady_document _
  have hopens : Opens [] session := .inl rfl
  have hplain : ∀ step ∈ session, step.Plain document := by
    refine List.forall_mem_cons.2 ⟨⟨⟨fun _ => none, rfl⟩, ?_⟩, List.forall_mem_cons.2
      ⟨⟨⟨fun selector => some ⟨selector⟩, rfl⟩, ?_⟩, List.forall_mem_singleton.2
        ⟨⟨fun _ => none, rfl⟩, ?_⟩⟩⟩
    all_goals simp [program, Call.list, Statement.body, Statement.isBinding]
  have hyields : Yields [] session "g" [("c", .leaf .absent)] := by
    refine ⟨session.take 2, _, [], rfl, List.forall_mem_nil _, [], _, .here, ?_⟩
    have hf : (after (session.take 1) .empty).functions.get? "f" =
        some ⟨⟨"f", [.assignment "a" ⟨"b", .whole, none⟩ none], ⟨["a"], none⟩, none⟩, .idle⟩ := by
      simp [session, program, after, Step.next, execute, statements_cons, define, State.setEntry,
        Bindings.get?_set_of_ne]
    have hg : (after (session.take 1) .empty).functions.get? "g" =
        some ⟨⟨"g", [.invocation ["c"] "f" none], ⟨["c"], none⟩, none⟩, .idle⟩ := by
      simp [session, program, after, Step.next, execute, statements_cons, define, State.setEntry,
        Bindings.get?_set_of_ne]
    have hfg := (State.get?_setStatus_of_ne _ .running (show "f" ≠ "g" by simp)).trans hf
    -- The selection is refused, and so both functions are idle again after the evaluation.
    have hlast : (after (session.take 2) .empty).functions =
        (statement (document.refusing fun selector => some ⟨selector⟩) (.invocation [] "g" none)
          .empty (after (session.take 1) .empty)).2.functions := by
      rw [← statements_singleton]
      exact Step.functions_next ⟨_, .evaluate "g"⟩ _
    rw [statement_invocation_of_idle hg (Nat.zero_le _), statements_singleton,
      statement_invocation_of_idle hfg (Nat.le_refl ["c"].length), statements_singleton,
      statement_assignment,
      show select (document.refusing _) ⟨"b", .whole, none⟩ _ = (.error (.refused ⟨"b"⟩), _) from
        rfl] at hlast
    have hg' : (after (session.take 2) .empty).functions.get? "g" =
        some ⟨⟨"g", [.invocation ["c"] "f" none], ⟨["c"], none⟩, none⟩, .idle⟩ := by
      simp [hlast, State.setStatus, hf, hg, State.get?_setEntry_of_ne, State.get?_setEntry_self]
    have hf' : ((after (session.take 2) .empty).setStatus "g" .running).functions.get? "f" =
        some ⟨⟨"f", [.assignment "a" ⟨"b", .whole, none⟩ none], ⟨["a"], none⟩, none⟩, .idle⟩ := by
      rw [State.get?_setStatus_of_ne _ _ (by simp)]
      simp [hlast, State.setStatus, hf, hg, State.get?_setEntry_of_ne, State.get?_setEntry_self]
    have hevaluate : (evaluate (document.refusing fun _ => none) "g" _ _ hg').1 =
        .ok [("c", .leaf .absent)] := by
      rw [evaluate_of_idle _ _ hg' rfl, statements_singleton,
        statement_invocation_of_idle hf' (Nat.le_refl ["c"].length), statements_singleton,
        statement_assignment]
      rfl
    exact ⟨_, hg', hevaluate⟩
  obtain ⟨-, definition, -, hdirect⟩ :=
    (results_of_session hsteady).1 [] session hopens hplain "g" _ hyields
  exact ⟨hyields, definition, hdirect⟩

end Extraction.Run
