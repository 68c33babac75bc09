import Extraction.Document.Listing
import Extraction.Proofs.Run.Change

/-!
# Statements that stop

A statement that stops leaves its scope as it was, and of the functions it changes nothing but that
some of them have results by then, which complete evaluations have given.

* `Run.InPlace` runs statements in scopes that are written to name by name, where what was written
  before a run stops stays written. `Run.inPlace_iff_of_error` compares it with `Run.statement`.
* `Run.Owns` tells the faults of a statement itself from those of the bodies that it leads to.
* `Run.statement_stops` is the result.
-/

namespace Extraction.Run

variable {ν ε : Type}

/-! ## Scopes that are written to -/

/-- Gives the values of results to targets, one after the other, for as long as there are both. -/
def assignEach : List String → Results ν → Env ν → Env ν
  | target :: targets, result :: rs, env => assignEach targets rs (env.set target result.2)
  | _, _, env => env

/-- To give values to targets one by one comes to what `bindTargets` computes at once. -/
theorem assignEach_eq (targets : List String) (rs : Results ν) (env : Env ν) :
    assignEach targets rs env = bindTargets targets rs env := by
  induction targets generalizing rs env with
  | nil => rfl
  | cons target targets ih =>
    cases rs with
    | nil => rfl
    | cons result rs => exact ih rs (env.set target result.2)

/-- What a run in place leaves. -/
structure Leftover (ν ε : Type) where
  /-- Whether it has come to its end, or why it stops. -/
  answer : Except (Stop ε) Unit
  /-- The scopes, the innermost one first. -/
  scopes : List (Env ν)
  /-- What is remembered. -/
  state : State ν

variable [Node ν]

/-- Runs statements in the innermost of some scopes. A body is run in a new scope within these,
which is left again at its end, and also when it stops. -/
inductive InPlace (document : Document ν ε) :
    List Statement → List (Env ν) → State ν → Leftover ν ε → Prop
  /-- There is nothing left to run. -/
  | nil {scopes state} : InPlace document [] scopes state ⟨.ok (), scopes, state⟩
  /-- The value of a selection is written. -/
  | selected {target selection location rest env scopes state value state' leftover}
      (hselect : select document selection state = (.ok value, state'))
      (hrest : InPlace document rest (env.set target value :: scopes) state' leftover) :
      InPlace document (.assignment target selection location :: rest) (env :: scopes) state
        leftover
  /-- A selection has no value. -/
  | unselected {target selection location rest scopes state stop state'}
      (hselect : select document selection state = (.error stop, state')) :
      InPlace document (.assignment target selection location :: rest) scopes state
        ⟨.error stop, scopes, state'⟩
  /-- A statement is stopped for its fault. -/
  | stopped {first rest scopes state failure} (hfault : fault? state first = some failure) :
      InPlace document (first :: rest) scopes state ⟨.error (.fault failure), scopes, state⟩
  /-- Results that a function has are written. -/
  | cached {targets function location rest env scopes state definition rs leftover}
      (hget : state.functions.get? function = some ⟨definition, .done rs⟩)
      (hle : targets.length ≤ definition.returns.names.length)
      (hrest : InPlace document rest (assignEach targets rs env :: scopes)
        (state.report (.cached definition.name)) leftover) :
      InPlace document (.invocation targets function location :: rest) (env :: scopes) state
        leftover
  /-- A body is run to its end in a scope of its own, and its results are written. -/
  | evaluated {targets function location rest env scopes scopes' state definition inner state'
        leftover}
      (hget : state.functions.get? function = some ⟨definition, .idle⟩)
      (hle : targets.length ≤ definition.returns.names.length)
      (hbody : InPlace document definition.body (.empty :: scopes)
        (state.setStatus function .running) ⟨.ok (), inner :: env :: scopes', state'⟩)
      (hrest : InPlace document rest
        (assignEach targets (results definition.returns.names inner) env :: scopes')
        (conclude function definition inner state') leftover) :
      InPlace document (.invocation targets function location :: rest) scopes state leftover
  /-- A body is run in a scope of its own and stops. -/
  | failed {targets function location rest scopes scopes' state definition inner stop state'}
      (hget : state.functions.get? function = some ⟨definition, .idle⟩)
      (hle : targets.length ≤ definition.returns.names.length)
      (hbody : InPlace document definition.body (.empty :: scopes)
        (state.setStatus function .running) ⟨.error stop, inner :: scopes', state'⟩) :
      InPlace document (.invocation targets function location :: rest) scopes state
        ⟨.error stop, scopes', state'.setStatus function .idle⟩
  /-- A function is defined. -/
  | defined {name body returns location rest scopes state leftover}
      (hget : state.functions.get? name = none)
      (hrest : InPlace document rest scopes
        ((state.setEntry name ⟨⟨name, body, returns, location⟩, .idle⟩).report
          (.defined name returns.names)) leftover) :
      InPlace document (.definition name body returns location :: rest) scopes state leftover

/-- A run in place leaves what another run comes to, in the innermost scope if that one has come to
its end, and nothing but that scope is written to: those of `outer` are as they were. -/
def Leftover.Matches (outer : List (Env ν)) (leftover : Leftover ν ε) :
    Outcome ν ε (Env ν) → Prop
  | (.ok env, state) => leftover = ⟨.ok (), env :: outer, state⟩
  | (.error stop, state) => ∃ partly, leftover = ⟨.error stop, partly :: outer, state⟩

variable {document : Document ν ε} {list : List Statement} {env : Env ν} {outer : List (Env ν)}
  {state state' : State ν} {leftover : Leftover ν ε} {outcome : Outcome ν ε (Env ν)}

/-- However a run comes out, there is one in place that leaves the same. -/
theorem Runs.exists_inPlace (h : Runs document list env state outcome) (outer : List (Env ν)) :
    ∃ leftover, InPlace document list (env :: outer) state leftover ∧
      leftover.Matches outer outcome := by
  induction h generalizing outer with
  | nil => exact ⟨_, .nil, rfl⟩
  | selected hselect _ ih =>
    obtain ⟨leftover, hrest, hmatches⟩ := ih outer
    exact ⟨leftover, .selected hselect hrest, hmatches⟩
  | unselected hselect => exact ⟨_, .unselected hselect, _, rfl⟩
  | stopped hfault => exact ⟨_, .stopped hfault, _, rfl⟩
  | cached hget hle _ ih =>
    obtain ⟨leftover, hrest, hmatches⟩ := ih outer
    rw [← assignEach_eq] at hrest
    exact ⟨leftover, .cached hget hle hrest, hmatches⟩
  | @evaluated _ _ _ _ env _ _ _ _ _ hget hle _ _ ihbody ih =>
    obtain ⟨_, hbody, rfl⟩ := ihbody (env :: outer)
    obtain ⟨leftover, hrest, hmatches⟩ := ih outer
    rw [← assignEach_eq] at hrest
    exact ⟨leftover, .evaluated hget hle hbody hrest, hmatches⟩
  -- What the body has written is left with its scope.
  | @failed _ _ _ _ env _ _ _ _ hget hle _ ihbody =>
    obtain ⟨_, hbody, partly, rfl⟩ := ihbody (env :: outer)
    exact ⟨_, .failed hget hle hbody, env, rfl⟩
  | defined hget _ ih =>
    obtain ⟨leftover, hrest, hmatches⟩ := ih outer
    exact ⟨leftover, .defined hget hrest, hmatches⟩

/-- What is left in place is what the statements come to. -/
theorem InPlace.matches_statements {scopes : List (Env ν)}
    (h : InPlace document list scopes state leftover) (hscopes : scopes = env :: outer) :
    leftover.Matches outer (statements document list env state) := by
  induction h generalizing env outer with
  | nil =>
    subst hscopes
    rw [statements_nil]
    exact rfl
  | selected hselect _ ih =>
    cases hscopes
    rw [statements_cons, statement_eq_of_select hselect]
    exact ih rfl
  | unselected hselect =>
    subst hscopes
    rw [statements_cons, statement_assignment, hselect]
    exact ⟨env, rfl⟩
  | stopped hfault =>
    subst hscopes
    rw [statements_cons, statement_of_fault hfault]
    exact ⟨env, rfl⟩
  | cached hget hle _ ih =>
    cases hscopes
    rw [statements_cons, statement_invocation_of_done hget hle]
    exact ih (by rw [assignEach_eq])
  -- A body runs in a scope in front of the one of the invocation, which is there again behind it.
  | @evaluated _ function _ _ _ _ _ state definition inner state' _ hget hle _ _ ihbody ih =>
    subst hscopes
    have hbody := ihbody rfl
    rw [statements_cons, statement_invocation_of_idle hget hle]
    match statements document definition.body .empty (state.setStatus function .running), hbody with
    | (.ok inner', state₁), hbody =>
      cases hbody
      exact ih (by rw [assignEach_eq])
  | @failed _ function _ _ _ _ state definition inner _ state' hget hle _ ihbody =>
    subst hscopes
    have hbody := ihbody rfl
    rw [statements_cons, statement_invocation_of_idle hget hle]
    match statements document definition.body .empty (state.setStatus function .running), hbody with
    | (.error stop, state₁), ⟨partly, hbody⟩ =>
      cases hbody
      exact ⟨env, rfl⟩
  | defined hget _ ih =>
    rw [statements_cons, statement_eq_of_define hget]
    exact ih hscopes

/-- Nothing but the innermost scope is written to. -/
theorem InPlace.exists_scopes_eq (h : InPlace document list (env :: outer) state leftover) :
    ∃ inner, leftover.scopes = inner :: outer := by
  have hmatches := h.matches_statements rfl
  match statements document list env state, hmatches with
  | (.ok inner, state'), hmatches =>
    rw [hmatches]
    exact ⟨inner, rfl⟩
  | (.error stop, state'), ⟨partly, hmatches⟩ =>
    rw [hmatches]
    exact ⟨partly, rfl⟩

/-- One statement that stops writes nothing: names are written when nothing is left that can
stop. -/
theorem InPlace.scopes_eq_of_error {only : Statement} {stop : Stop ε} {scopes : List (Env ν)}
    (h : InPlace document [only] (env :: outer) state ⟨.error stop, scopes, state'⟩) :
    scopes = env :: outer := by
  cases h with
  | selected _ hrest => cases hrest
  | unselected => rfl
  | stopped => rfl
  | cached _ _ hrest => cases hrest
  | evaluated _ _ _ hrest => cases hrest
  | failed _ _ hbody =>
    obtain ⟨inner, hscopes⟩ := hbody.exists_scopes_eq
    exact (List.cons.inj hscopes).2
  | defined _ hrest => cases hrest

/-- One statement that stops leaves the scopes as they were: this and nothing else is what a run in
place comes to. -/
theorem inPlace_iff_of_error {only : Statement} {stop : Stop ε}
    (h : statement document only env state = (.error stop, state')) :
    InPlace document [only] (env :: outer) state leftover ↔
      leftover = ⟨.error stop, env :: outer, state'⟩ := by
  have hstatements : statements document [only] env state = (.error stop, state') := by
    rw [statements_singleton, h]
  -- What is left is determined, so that it is enough to know of one run in place.
  have hleft : ∀ other, InPlace document [only] (env :: outer) state other →
      other = ⟨.error stop, env :: outer, state'⟩ := by
    intro other hother
    have hmatches := hother.matches_statements rfl
    rw [hstatements] at hmatches
    obtain ⟨partly, rfl⟩ := hmatches
    rw [hother.scopes_eq_of_error]
  refine ⟨hleft leftover, ?_⟩
  rintro rfl
  obtain ⟨other, hother, -⟩ :=
    (runs_statements document [only] env state).exists_inPlace outer
  rwa [hleft other hother] at hother

/-! ## Faults of a statement itself -/

/-- A fault that is about a statement itself, and not about one in a body: the function that it
invokes is not defined or returns too few values for its targets, or the function that it defines
is defined already. -/
def Owns : Statement → ProgramFault → Prop
  | .invocation _ function _, .undefinedFunction other => other = function
  | .invocation targets function _, .arity other _ wanted =>
    other = function ∧ wanted = targets.length
  | .definition name _ _ _, .duplicateFunction other => other = name
  | _, _ => False

/-- What a statement does that stops for a fault of its own, is to stop. -/
theorem Runs.eq_of_owns {only : Statement} {failure : Failure ProgramFault}
    (h : Runs document [only] env state (.error (.fault failure), state'))
    (howns : Owns only failure.fault) : state' = state := by
  cases h with
  | stopped => rfl
  | unselected hselect => exact absurd rfl (ne_fault_of_select hselect _)
  | failed hget hle hbody =>
    -- The fault is one of the body, where the function is still listed as it is now.
    obtain ⟨first, now, hfaulty, hextends⟩ := hbody.exists_faulty rfl
    obtain ⟨status, hnow, -⟩ := hextends.kept _ _ _ (State.get?_setStatus_self hget .running)
    exfalso
    cases hfaulty with
    | undefined hnone =>
      cases howns
      rw [hnow] at hnone
      cases hnone
    | arity hsome hlt =>
      obtain ⟨rfl, hwanted⟩ := howns
      cases hnow.symm.trans hsome
      exact absurd (hwanted ▸ hlt) (Nat.not_lt.2 hle)
    | recursive => exact howns
    | duplicate => exact howns
    | returns => exact howns
    | bare => exact howns
  | selected _ hrest => cases hrest
  | cached _ _ hrest => cases hrest
  | evaluated _ _ _ hrest => cases hrest
  | defined _ hrest => cases hrest

/-- A function that is invoked by a statement that stops has no results, unless it had some. -/
theorem Runs.isDone_of_invocation {targets : List String} {function : String}
    {location : Option Location} {stop : Stop ε}
    (h : Runs document [.invocation targets function location] env state (.error stop, state'))
    (hdone : state'.IsDone function) : state.IsDone function := by
  cases h with
  | stopped => exact hdone
  | cached hget => exact ⟨_, _, hget⟩
  | failed hget _ hbody =>
    have hidle := State.get?_setStatus_self (hbody.get?_of_running hget) .idle
    exact absurd hdone (State.not_isDone hidle nofun)
  | evaluated _ _ _ hrest => cases hrest

/-! ## The result -/

/-- A statement that stops, whatever was done before, has written nothing to its scope, nor to the
scopes outside of it. No function is lost or moved, or has another definition. One that is idle may
have results by then, which an evaluation has given that came to its end meanwhile; all others are
as they were. The function that is invoked has none, unless it had them. If the fault is one of the
statement itself, nothing was changed and nothing was asked of the document. -/
theorem statement_stops {only : Statement} {stop : Stop ε}
    (h : statement document only env state = (.error stop, state')) :
    (∀ (outer : List (Env ν)) (leftover : Leftover ν ε),
      InPlace document [only] (env :: outer) state leftover ↔
        leftover = ⟨.error stop, env :: outer, state'⟩) ∧
    state.functions.names <+: state'.functions.names ∧
    (∀ name definition status, state.functions.get? name = some ⟨definition, status⟩ →
      ∃ status', state'.functions.get? name = some ⟨definition, status'⟩ ∧
        (status' = status ∨ status = .idle ∧ ∃ rs, status' = .done rs ∧
          Finishes document [only] env state name rs)) ∧
    (∀ targets function location, only = .invocation targets function location →
      state'.IsDone function → state.IsDone function) ∧
    ∀ failure, stop = .fault failure → Owns only failure.fault → state' = state := by
  -- Each part is an invariant of the runs of one statement.
  have hruns := runs_statements document [only] env state
  rw [statements_singleton, h] at hruns
  refine ⟨fun outer leftover => inPlace_iff_of_error h, hruns.names_prefix, ?_, ?_, ?_⟩
  · intro name definition status hget
    exact hruns.exists_becomes hget
  · rintro targets function location rfl
    exact hruns.isDone_of_invocation
  · rintro failure rfl howns
    exact hruns.eq_of_owns howns

/-- The body of a function invokes another one, and then the document refuses a selector. The other
function has results now, and the scope of the invocation still holds what it held. -/
theorem statement_stops_of_refused_selector :
    let document : Document Listing.Item Listing.Refusal := Listing.document ⟨.empty, ["d"]⟩
    let program : List Statement :=
      [.definition "f" [.assignment "a" ⟨"b", .whole, none⟩ none] ⟨["a"], none⟩ none,
        .definition "g" [.invocation ["c"] "f" none, .assignment "e" ⟨"d", .whole, none⟩ none]
          ⟨["c"], none⟩ none]
    let env : Env Listing.Item := ⟨[("x", .leaf .absent)]⟩
    let state := (statements document program .empty .empty).2
    ∃ state', statement document (.invocation ["x"] "g" none) env state =
        (.error (.refused ⟨"d"⟩), state') ∧
      InPlace document [.invocation ["x"] "g" none] [env] state
        ⟨.error (.refused ⟨"d"⟩), [env], state'⟩ ∧
      Finishes document [.invocation ["x"] "g" none] env state "f" [("a", .leaf .absent)] ∧
      ¬state'.IsDone "g" := by
  intro document program env
  have hstops : statement document (.invocation ["x"] "g" none) env
      (statements document program .empty .empty).2 = (.error (.refused ⟨"d"⟩), _) :=
    Prod.ext (by with_unfolding_all rfl) rfl
  obtain ⟨hscopes, -, hbecomes, hinvoked, -⟩ := statement_stops hstops
  have hf : (statements document program .empty .empty).2.functions.get? "f" =
      some ⟨⟨"f", [.assignment "a" ⟨"b", .whole, none⟩ none], ⟨["a"], none⟩, none⟩, .idle⟩ := by
    with_unfolding_all rfl
  have hg : (statements document program .empty .empty).2.functions.get? "g" =
      some ⟨⟨"g", [.invocation ["c"] "f" none, .assignment "e" ⟨"d", .whole, none⟩ none],
        ⟨["c"], none⟩, none⟩, .idle⟩ := by with_unfolding_all rfl
  refine ⟨_, hstops, (hscopes [] _).2 rfl, ?_, fun hdone => ?_⟩
  · have hdone : (statement document (.invocation ["x"] "g" none) env
        (statements document program .empty .empty).2).2.functions.get? "f" =
          some ⟨⟨"f", [.assignment "a" ⟨"b", .whole, none⟩ none], ⟨["a"], none⟩, none⟩,
            .done [("a", .leaf .absent)]⟩ := by with_unfolding_all rfl
    obtain ⟨status', hget', hstatus⟩ := hbecomes _ _ _ hf
    cases hdone.symm.trans hget'
    rcases hstatus with hsame | ⟨-, rs, hrs, hfinishes⟩
    · cases hsame
    · cases hrs
      exact hfinishes
  · exact State.not_isDone hg (fun _ hrs => by cases hrs) (hinvoked _ _ _ rfl hdone)

end Extraction.Run
