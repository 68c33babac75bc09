import Extraction.Document.Listing
import Extraction.Proofs.Bindings
import Extraction.Proofs.Grammar.Image
import Extraction.Proofs.Program.Graph
import Extraction.Proofs.Run.Caching
import Mathlib.Data.List.Lattice

/-!
# Statements that change places

Two statements of the top level that stand next to each other and give values to different names can
change places. Each of them may be the one that runs the body of a function that both lead to, but
without kept results there is nothing to be told from that: a statement then gives the same values
to its targets wherever it stands.

* `Run.Direct.Offers` tells what a statement gives to its targets, whatever the scope.
  `Run.Direct.exists_offers` finds it.
* `Run.Direct.map_get?_statements_eq` says that statements do not care about the order of names.
* `run_exchanged` is the result for programs.
-/

namespace Extraction.Run

namespace Direct

variable {ν ε : Type} [Node ν] {document : Document ν ε} {functions : Bindings Definition}
  {running : List String} {first second : Statement} {rest : List Statement} {env env' : Env ν}

/-! ## What a statement offers -/

/-- What statements come to in one state, they come to in every state. -/
theorem gives_bindings (hsteady : document.Steady) (functions : Bindings Definition)
    (running : List String) (list : List Statement) (env : Env ν) (state : State ν) :
    Gives document functions running list env
      (bindings document functions running list env state).1 := by
  -- The induction follows the evaluation: into the bodies that are run, and along the list.
  fun_induction bindings document functions running list env state
  case case1 running env state => exact gives_nil
  case case2 running target selection location rest env state value state' hselect ih =>
    exact gives_assignment hsteady (congrArg Prod.fst hselect) ih
  case case3 running target selection location rest env state stop state' hselect =>
    exact gives_assignment_error hsteady state (congrArg Prod.fst hselect)
  case case4 running targets function location rest env state hnone => exact gives_undefined hnone
  case case5 running targets function location rest env state definition hget returned hlt =>
    exact gives_arity hget hlt
  case case6 running targets function location rest env state definition hget returned hle hmem =>
    exact gives_recursive hget (Nat.not_lt.1 hle) (by simpa using hmem)
  case case7 running targets function location rest env state definition hget returned hle hnot
      inner state' hbody ihbody ih =>
    rw [hbody] at ihbody
    exact gives_invocation hget (Nat.not_lt.1 hle) (by simpa using hnot) ihbody ih
  case case8 running targets function location rest env state definition hget returned hle hnot
      stop state' hbody ihbody =>
    rw [hbody] at ihbody
    exact gives_invocation_error hget (Nat.not_lt.1 hle) (by simpa using hnot) ihbody
  case case9 running other rest env state hassignment hinvocation =>
    refine gives_unexecutable ?_
    cases other with
    | assignment target selection location => exact (hassignment target selection location rfl).elim
    | invocation targets function location => exact (hinvocation targets function location rfl).elim
    | returns => exact Bool.false_ne_true
    | definition => exact Bool.false_ne_true
    | bare => exact Bool.false_ne_true

/-- In every scope and in every state, the statement `first` gives the values of `offer` to names,
one by one, or it stops for the reason there. -/
def Offers (document : Document ν ε) (functions : Bindings Definition) (first : Statement)
    (offer : Except (Stop ε) (List (String × Value ν))) : Prop :=
  ∀ env, Gives document functions [] [first] env (offer.map env.setAll)

/-- What an assignment offers is the value of its selection. -/
theorem exists_offers_assignment (hsteady : document.Steady) (functions : Bindings Definition)
    (target : String) (selection : Selection) (location : Option Location) :
    ∃ offer, Offers document functions (.assignment target selection location) offer ∧
      ∀ pairs, offer = .ok pairs → ∀ name ∈ pairs.map Prod.fst, name = target := by
  match hvalue : (select document selection (.empty : State ν)).1 with
  | .ok value =>
    refine ⟨.ok [(target, value)], fun env => gives_assignment hsteady hvalue gives_nil, ?_⟩
    rintro pairs ⟨⟩
    simp
  | .error stop => exact ⟨.error stop, fun env => gives_assignment_error hsteady _ hvalue, nofun⟩

/-- What an invocation offers is taken from the results that the body of the function comes to, if
there are enough of them. -/
theorem exists_offers_invocation (hsteady : document.Steady) (functions : Bindings Definition)
    (targets : List String) (function : String) (location : Option Location) :
    ∃ offer, Offers document functions (.invocation targets function location) offer ∧
      ∀ pairs, offer = .ok pairs → ∀ name ∈ pairs.map Prod.fst, name ∈ targets := by
  match hget : functions.get? function with
  | none => exact ⟨.error _, fun env => gives_undefined hget, nofun⟩
  | some definition =>
    by_cases hlt : definition.returns.names.length < targets.length
    · exact ⟨.error _, fun env => gives_arity hget hlt, nofun⟩
    have hle : targets.length ≤ definition.returns.names.length := Nat.not_lt.1 hlt
    -- The body sees no names but its own, so that any scope and any state will do to look at it.
    have hbody := gives_bindings hsteady functions [function] definition.body .empty
      (.empty : State ν)
    match houtcome : (bindings document functions [function] definition.body .empty .empty).1 with
    | .ok inner =>
      rw [houtcome] at hbody
      refine ⟨.ok (targets.zip ((results definition.returns.names inner).map Prod.snd)),
        fun env => gives_invocation hget hle List.not_mem_nil hbody gives_nil, ?_⟩
      rintro pairs ⟨⟩ name hmem
      obtain ⟨⟨other, value⟩, hpair, rfl⟩ := List.mem_map.1 hmem
      exact (List.of_mem_zip hpair).1
    | .error stop =>
      rw [houtcome] at hbody
      exact ⟨.error stop, fun env => gives_invocation_error hget hle List.not_mem_nil hbody, nofun⟩

/-- Every statement offers something, and values only to its own targets. -/
theorem exists_offers (hsteady : document.Steady) (functions : Bindings Definition)
    (first : Statement) :
    ∃ offer, Offers document functions first offer ∧
      ∀ pairs, offer = .ok pairs → ∀ name ∈ pairs.map Prod.fst, name ∈ Check.targets first := by
  cases first with
  | assignment target selection location =>
    obtain ⟨offer, hoffers, hnames⟩ :=
      exists_offers_assignment hsteady functions target selection location
    exact ⟨offer, hoffers, fun pairs hpairs name hmem =>
      List.mem_singleton.2 (hnames pairs hpairs name hmem)⟩
  | invocation targets function location =>
    exact exists_offers_invocation hsteady functions targets function location
  | returns => exact ⟨.error _, fun env => gives_unexecutable Bool.false_ne_true, nofun⟩
  | definition => exact ⟨.error _, fun env => gives_unexecutable Bool.false_ne_true, nofun⟩
  | bare => exact ⟨.error _, fun env => gives_unexecutable Bool.false_ne_true, nofun⟩

/-! ## The top level -/

/-- A statement that is no definition gives what it offers, and the others follow. -/
theorem statements_cons_of_offers {offer : Except (Stop ε) (List (String × Value ν))}
    (hfirst : first.isDefinition = false) (h : Offers document functions first offer)
    (rest : List Statement) (env : Env ν) (state : State ν) :
    ∃ state', statements document (first :: rest) functions env state =
      offer.bind fun pairs => statements document rest functions (env.setAll pairs) state' := by
  have hanswer := h env state
  refine ⟨(bindings document functions [] [first] env state).2, ?_⟩
  rw [statements_cons_of_ne]
  · match houtcome : bindings document functions [] [first] env state with
    | (answer, state') =>
      rw [houtcome] at hanswer
      obtain rfl : answer = offer.map env.setAll := hanswer
      cases offer <;> rfl
  · rintro name body returns location rfl
    cases hfirst

/-- Statements come to the same values of names, in whatever order the names were bound before, and
whatever was done before. -/
theorem map_get?_statements_eq (hsteady : document.Steady) (list : List Statement)
    (functions : Bindings Definition) (h : env.get? = env'.get?) (state state' : State ν) :
    (statements document list functions env state).map Bindings.get? =
      (statements document list functions env' state').map Bindings.get? := by
  induction list generalizing functions env env' state state' with
  | nil => exact congrArg Except.ok h
  | cons first rest ih =>
    by_cases hfirst : first.isDefinition
    · obtain ⟨name, body, returns, location, rfl⟩ := Statement.exists_eq_definition hfirst
      rw [statements, statements]
      rcases functions.get? name with _ | old
      · exact ih _ h state state'
      · rfl
    -- Both times the first statement gives the same values.
    · obtain ⟨offer, hoffers, -⟩ := exists_offers hsteady functions first
      rw [Bool.not_eq_true] at hfirst
      obtain ⟨now, hnow⟩ := statements_cons_of_offers hfirst hoffers rest env state
      obtain ⟨now', hnow'⟩ := statements_cons_of_offers hfirst hoffers rest env' state'
      rw [hnow, hnow']
      rcases offer with stop | pairs
      · rfl
      · exact ih functions (Bindings.get?_setAll_congr h pairs) now now'

/-- A statement that is no definition gives what it offers, and the others follow in any state. -/
theorem map_get?_statements_cons (hsteady : document.Steady)
    {offer : Except (Stop ε) (List (String × Value ν))} (hfirst : first.isDefinition = false)
    (h : Offers document functions first offer) (rest : List Statement) (env : Env ν)
    (state : State ν) :
    (statements document (first :: rest) functions env state).map Bindings.get? =
      offer.bind fun pairs =>
        (statements document rest functions (env.setAll pairs) state).map Bindings.get? := by
  obtain ⟨state', hstatements⟩ := statements_cons_of_offers hfirst h rest env state
  rw [hstatements]
  match offer with
  | .ok pairs => exact map_get?_statements_eq hsteady rest functions rfl state' state
  | .error stop => rfl

/-- Of two statements that give values to different names, either may come first. -/
theorem statements_exchange (hsteady : document.Steady) (hfirst : first.isBinding)
    (hsecond : second.isBinding)
    (hdisjoint : (Check.targets first).Disjoint (Check.targets second))
    {values : String → Option (Value ν)} {state : State ν}
    (h : (statements document (first :: second :: rest) functions env state).map Bindings.get? =
      .ok values) :
    (statements document (second :: first :: rest) functions env state).map Bindings.get? =
      .ok values := by
  have hfirst := Statement.isDefinition_eq_false_of_isBinding hfirst
  have hsecond := Statement.isDefinition_eq_false_of_isBinding hsecond
  obtain ⟨offer, hoffers, hnames⟩ := exists_offers hsteady functions first
  obtain ⟨offer', hoffers', hnames'⟩ := exists_offers hsteady functions second
  -- Whichever of the two comes first, it gives what it offers to the scope that it finds.
  have hone : ∀ (rest : List Statement) (env : Env ν), _ := fun rest env =>
    map_get?_statements_cons hsteady hfirst hoffers rest env state
  have htwo : ∀ (rest : List Statement) (env : Env ν), _ := fun rest env =>
    map_get?_statements_cons hsteady hsecond hoffers' rest env state
  rw [hone] at h
  match offer with
  | .error stop => cases h
  | .ok pairs =>
    change (statements document (second :: rest) functions (env.setAll pairs) state).map _ = _ at h
    rw [htwo] at h
    match offer' with
    | .error stop => cases h
    | .ok pairs' =>
      have hcomm : ((env.setAll pairs).setAll pairs').get? =
          ((env.setAll pairs').setAll pairs).get? :=
        Bindings.get?_setAll_comm env fun name hmem hmem' =>
          hdisjoint (hnames pairs rfl name hmem) (hnames' pairs' rfl name hmem')
      calc (statements document (second :: first :: rest) functions env state).map Bindings.get?
          = (statements document (first :: rest) functions (env.setAll pairs') state).map
              Bindings.get? := htwo (first :: rest) env
        _ = (statements document rest functions ((env.setAll pairs').setAll pairs) state).map
              Bindings.get? := hone rest (env.setAll pairs')
        _ = (statements document rest functions ((env.setAll pairs).setAll pairs') state).map
              Bindings.get? := map_get?_statements_eq hsteady rest functions hcomm.symm state state
        _ = .ok values := h

/-- What one list of statements comes to wherever another one does, it comes to behind the same
statements. -/
theorem statements_append_of_forall {list list' : List Statement}
    {values : String → Option (Value ν)}
    (h : ∀ (functions : Bindings Definition) (env : Env ν) (state : State ν),
      (statements document list functions env state).map Bindings.get? = .ok values →
        (statements document list' functions env state).map Bindings.get? = .ok values)
    (before : List Statement) (functions : Bindings Definition) (env : Env ν) (state : State ν)
    (hlist : (statements document (before ++ list) functions env state).map Bindings.get? =
      .ok values) :
    (statements document (before ++ list') functions env state).map Bindings.get? =
      .ok values := by
  induction before generalizing functions env state with
  | nil => exact h functions env state hlist
  | cons first before ih =>
    -- The first statement comes to the same on both sides, and so the others start from the same.
    rw [List.cons_append] at hlist ⊢
    by_cases hfirst : first.isDefinition
    · obtain ⟨name, body, returns, location, rfl⟩ := Statement.exists_eq_definition hfirst
      rw [statements] at hlist ⊢
      rcases hname : functions.get? name with _ | old
      · rw [hname] at hlist
        exact ih _ env state hlist
      · rw [hname] at hlist
        cases hlist
    · have hne : ∀ name body returns location, first ≠ .definition name body returns location := by
        rintro name body returns location rfl
        exact hfirst rfl
      rw [statements_cons_of_ne hne] at hlist ⊢
      rcases houtcome : bindings document functions [] [first] env state with
        ⟨stop | env', state'⟩
      · rw [houtcome] at hlist
        cases hlist
      · rw [houtcome] at hlist
        exact ih functions env' state' hlist

end Direct

end Extraction.Run

namespace Extraction

variable {ν ε : Type} [Node ν] {document : Document ν ε} {before after : List Statement}
  {first second : Statement}

/-- A program binds names to values where its statements do so without kept results. -/
theorem Run.run_fst_eq (hsteady : document.Steady) {list : List Statement}
    (hplain : ∀ statement ∈ list, ∀ inner ∈ statement.body, inner.isBinding)
    (path : Option String) :
    (run ⟨list, path⟩ document).1 = Direct.statements document list .empty .empty .empty := by
  have hstart : Mirrors document .empty [] (start ⟨list, path⟩) :=
    ⟨fun _ _ => rfl, fun _ _ hget => by cases hget⟩
  rw [run_eq, ← statements_fst_eq hsteady hplain (fun _ _ hget => by cases hget) hstart]
  match statements document list .empty (start ⟨list, path⟩) with
  | (.ok env, state) => rfl
  | (.error stop, state) => rfl

theorem Program.Plain.exchange {path : Option String}
    (h : Program.Plain ⟨before ++ first :: second :: after, path⟩) :
    Program.Plain ⟨before ++ second :: first :: after, path⟩ := by
  intro statement hmem
  refine h statement ?_
  simp only [List.mem_append, List.mem_cons] at hmem ⊢
  tauto

/-- A program that comes to its end does so with two statements in each other's places, and binds
the same names to the same values. -/
theorem Run.exists_run_eq_ok_of_exchange (hsteady : document.Steady) (hfirst : first.isBinding)
    (hsecond : second.isBinding)
    (hdisjoint : (Check.targets first).Disjoint (Check.targets second)) {path : Option String}
    (hplain : Program.Plain ⟨before ++ first :: second :: after, path⟩) {env : Env ν}
    (h : (run ⟨before ++ first :: second :: after, path⟩ document).1 = .ok env) :
    ∃ env', (run ⟨before ++ second :: first :: after, path⟩ document).1 = .ok env' ∧
      env.get? = env'.get? := by
  rw [run_fst_eq hsteady hplain] at h
  rw [run_fst_eq hsteady hplain.exchange]
  have hvalues := Direct.statements_append_of_forall
    (fun functions env state => Direct.statements_exchange hsteady hfirst hsecond hdisjoint)
    before .empty .empty .empty (congrArg (Except.map Bindings.get?) h)
  match houtcome : Direct.statements document (before ++ second :: first :: after) .empty .empty
      .empty with
  | .ok env' =>
    rw [houtcome] at hvalues
    exact ⟨env', rfl, (Except.ok.inj hvalues).symm⟩
  | .error stop =>
    rw [houtcome] at hvalues
    cases hvalues

/-- Two statements of the top level that stand next to each other, and that give values to
different names, can change places: the program comes to its end if and only if it did so before,
and then it binds the same names to the same values. -/
theorem run_exchanged {source : String} {path : Option String} {program : Program}
    (hparse : parse source path = .ok program) (hsteady : document.Steady)
    (hstatements : program.statements = before ++ first :: second :: after)
    (hfirst : first.isBinding) (hsecond : second.isBinding)
    (hdisjoint : (Check.targets first).Disjoint (Check.targets second)) :
    let exchanged : Program := { program with statements := before ++ second :: first :: after }
    ((∃ env, (run program document).1 = .ok env) ↔ ∃ env, (run exchanged document).1 = .ok env) ∧
      ∀ env env', (run program document).1 = .ok env → (run exchanged document).1 = .ok env' →
        ∀ name, env.get? name = env'.get? name := by
  intro exchanged
  obtain ⟨list, own⟩ := program
  obtain rfl : list = before ++ first :: second :: after := hstatements
  have hplain : Program.Plain ⟨before ++ first :: second :: after, own⟩ := plain_of_parse hparse
  have hforth : ∀ env, (run ⟨before ++ first :: second :: after, own⟩ document).1 = .ok env →
      ∃ env', (run exchanged document).1 = .ok env' ∧ env.get? = env'.get? :=
    fun env => Run.exists_run_eq_ok_of_exchange hsteady hfirst hsecond hdisjoint hplain
  refine ⟨⟨fun ⟨env, hrun⟩ => ?_, fun ⟨env', hrun'⟩ => ?_⟩, fun env env' hrun hrun' name => ?_⟩
  · obtain ⟨env', hrun', -⟩ := hforth env hrun
    exact ⟨env', hrun'⟩
  · obtain ⟨env, hrun, -⟩ := Run.exists_run_eq_ok_of_exchange hsteady hsecond hfirst
      hdisjoint.symm hplain.exchange hrun'
    exact ⟨env, hrun⟩
  -- There is one environment that the exchanged program comes to, and it was found already.
  · obtain ⟨env'', hrun'', hvalues⟩ := hforth env hrun
    obtain rfl : env' = env'' := Except.ok.inj (hrun'.symm.trans hrun'')
    rw [hvalues]

/-- Two invocations change places that lead to the same function. The one that stands first runs its
body. -/
theorem run_exchanged_of_shared_callee :
    let source := "def f\n  x = p\nreturn \x7bx\x7d\n\ndef g\n  y = do f\nreturn \x7by\x7d\n\n" ++
      "a = do f\nb = do g\nc = q (1,)"
    let listing : Listing := ⟨.empty, []⟩
    ∃ program before first second after env env', parse source none = .ok program ∧
      program.statements = before ++ first :: second :: after ∧
      (run program listing.document).1 = .ok env ∧
      (run { program with statements := before ++ second :: first :: after } listing.document).1 =
        .ok env' ∧
      env.names = ["a", "b", "c"] ∧ ∀ name, env.get? name = env'.get? name := by
  intro source listing
  have hfound : (parse source none).toOption.map (fun program =>
      (program.statements.map fun statement => (statement.isBinding, Check.targets statement),
        (run program listing.document).1.toOption.map Bindings.names)) =
      some ([(false, []), (false, []), (true, ["a"]), (true, ["b"]), (true, ["c"])],
        some ["a", "b", "c"]) := by decide +kernel
  match hparse : parse source none with
  | .error failure =>
    rw [hparse] at hfound
    cases hfound
  | .ok program =>
    rw [hparse] at hfound
    obtain ⟨hlist, hnames⟩ := Prod.mk.inj (Option.some.inj hfound)
    match hstatements : program.statements with
    | [f, g, first, second, last] =>
      simp only [hstatements, List.map_cons, List.map_nil, List.cons.injEq, Prod.mk.injEq] at hlist
      obtain ⟨-, -, ⟨hfirst, htargets⟩, ⟨hsecond, htargets'⟩, -⟩ := hlist
      have hdisjoint : (Check.targets first).Disjoint (Check.targets second) := by
        rw [htargets, htargets']
        exact List.disjoint_singleton.2 (by decide)
      have hsplit : program.statements = [f, g] ++ first :: second :: [last] := hstatements
      obtain ⟨hreturns, hvalues⟩ := run_exchanged hparse listing.steady_document hsplit hfirst
        hsecond hdisjoint
      match hrun : (run program listing.document).1 with
      | .error stop =>
        rw [hrun] at hnames
        cases hnames
      | .ok env =>
        rw [hrun] at hnames
        obtain ⟨env', hrun'⟩ := hreturns.1 ⟨env, hrun⟩
        exact ⟨program, [f, g], first, second, [last], env, env', rfl, hsplit, hrun, hrun',
          Option.some.inj hnames, hvalues env env' hrun hrun'⟩
    | [] | [_] | [_, _] | [_, _, _] | [_, _, _, _] | _ :: _ :: _ :: _ :: _ :: _ :: _ =>
      simp [hstatements] at hlist

end Extraction
