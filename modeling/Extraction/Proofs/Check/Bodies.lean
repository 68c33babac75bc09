import Extraction.Check
import Extraction.Proofs.Bindings
import Extraction.Proofs.Program.Hoisting
import Extraction.Proofs.Run.Once

/-!
# Bodies that are followed once

A check follows the body of each function at most once, as a run visits each statement at most once,
so both come to an end, whatever the program.

* `Check.Resolves` relates some statements to the functions whose bodies are followed for them. It
  has one case for each way in which the first of them can come out. `Check.exists_resolves` finds
  the case of any check, and `Check.Resolves.eq_resolve` says that no other one applies.
* `Check.Examines` does the same for the statements of the top level.
* `Check.Resolves.once` and `Check.Examines.once` tell the bodies apart.
* `visited_once` is the result for runs and for checks.
-/

namespace Extraction

namespace Check

/-! ## Bodies that are followed for some statements -/

/-- What `resolve` comes to for some statements, with the functions whose bodies it follows for
them, in order. The lists of names are those `running` and those `resolved` in front of the
statements. -/
inductive Resolves (functions : Bindings Definition) (path : Option String) :
    List String → List Statement → List String → List String →
      Except (Failure ProgramFault) (List String) → Prop
  /-- There is nothing left to follow. -/
  | nil {running resolved} : Resolves functions path running [] resolved [] (.ok resolved)
  /-- A statement that is no invocation is passed. -/
  | passed {running first rest resolved bodies answer} (hfirst : first.isInvocation = false)
      (hrest : Resolves functions path running rest resolved bodies answer) :
      Resolves functions path running (first :: rest) resolved bodies answer
  /-- The function is not defined. -/
  | undefined {running targets function location rest resolved}
      (hget : functions.get? function = none) :
      Resolves functions path running (.invocation targets function location :: rest) resolved []
        (.error ⟨.undefinedFunction function, place path location⟩)
  /-- The function returns too few values for the targets. -/
  | arity {running targets function location rest resolved definition}
      (hget : functions.get? function = some definition)
      (hlt : definition.returns.names.length < targets.length) :
      Resolves functions path running (.invocation targets function location :: rest) resolved []
        (.error ⟨.arity function definition.returns.names.length targets.length,
          place path location⟩)
  /-- The body of the function was followed before. -/
  | known {running targets function location rest resolved definition bodies answer}
      (hget : functions.get? function = some definition)
      (hle : targets.length ≤ definition.returns.names.length) (hmem : function ∈ resolved)
      (hrest : Resolves functions path running rest resolved bodies answer) :
      Resolves functions path running (.invocation targets function location :: rest) resolved
        bodies
        answer
  /-- The body of the function is being followed. -/
  | recursive {running targets function location rest resolved definition}
      (hget : functions.get? function = some definition)
      (hle : targets.length ≤ definition.returns.names.length) (hnot : function ∉ resolved)
      (hmem : function ∈ running) :
      Resolves functions path running (.invocation targets function location :: rest) resolved []
        (.error ⟨.recursiveInvocation function, place path definition.location⟩)
  /-- The body of the function is followed to its end. -/
  | followed {running targets function location rest resolved definition inside resolved' bodies
      answer} (hget : functions.get? function = some definition)
      (hle : targets.length ≤ definition.returns.names.length) (hnot : function ∉ resolved)
      (hfresh : function ∉ running)
      (hbody : Resolves functions path (function :: running) definition.body resolved inside
        (.ok resolved'))
      (hrest : Resolves functions path running rest (function :: resolved') bodies answer) :
      Resolves functions path running (.invocation targets function location :: rest) resolved
        (function :: (inside ++ bodies)) answer
  /-- There is a fault in the body of the function. -/
  | failed {running targets function location rest resolved definition inside failure}
      (hget : functions.get? function = some definition)
      (hle : targets.length ≤ definition.returns.names.length) (hnot : function ∉ resolved)
      (hfresh : function ∉ running)
      (hbody : Resolves functions path (function :: running) definition.body resolved inside
        (.error failure)) :
      Resolves functions path running (.invocation targets function location :: rest) resolved
        (function :: inside) (.error failure)

variable {functions : Bindings Definition} {path : Option String} {running : List String}
  {list : List Statement} {resolved bodies : List String}
  {answer : Except (Failure ProgramFault) (List String)}

theorem resolve_of_not_isInvocation {first : Statement} (h : first.isInvocation = false)
    (rest : List Statement) :
    resolve functions path running (first :: rest) resolved =
      resolve functions path running rest resolved := by
  cases first with
  | invocation => cases h
  | _ => simp [resolve]

/-- A case that applies tells the answer. -/
theorem Resolves.eq_resolve (h : Resolves functions path running list resolved bodies answer) :
    answer = resolve functions path running list resolved := by
  induction h with
  | nil => rw [resolve]
  | passed hfirst _ ih => rw [resolve_of_not_isInvocation hfirst, ih]
  | undefined hget => rw [resolve_of_undefined hget]
  | arity hget hlt => rw [resolve_of_arity hget hlt]
  | known hget hle hmem _ ih => rw [resolve_of_defined hget hle, if_pos hmem, ih]
  | recursive hget hle hnot hmem => rw [resolve_of_defined hget hle, if_neg hnot, if_pos hmem]
  | followed hget hle hnot hfresh _ _ ihbody ih =>
    rw [resolve_of_defined hget hle, if_neg hnot, if_neg hfresh, ← ihbody]
    exact ih
  | failed hget hle hnot hfresh _ ihbody =>
    rw [resolve_of_defined hget hle, if_neg hnot, if_neg hfresh, ← ihbody]

/-- One of the cases applies. The induction follows the check: into the bodies that are followed,
and along the list. -/
theorem exists_resolves (functions : Bindings Definition) (path : Option String)
    (running : List String) (list : List Statement) (resolved : List String) :
    ∃ bodies, Resolves functions path running list resolved bodies
      (resolve functions path running list resolved) := by
  induction running, list, resolved using resolve.induct functions path with
  -- The cases are those of `resolve`: what is followed has a body of its own, and then a rest.
  | case1 =>
    rw [resolve]
    exact ⟨_, .nil⟩
  | case2 _ _ _ _ _ _ hget =>
    rw [resolve_of_undefined hget]
    exact ⟨_, .undefined hget⟩
  | case3 _ _ _ _ _ _ _ hget _ hlt =>
    rw [resolve_of_arity hget hlt]
    exact ⟨_, .arity hget hlt⟩
  | case4 _ _ _ _ _ _ _ hget _ hle hmem ih =>
    rw [List.contains_iff_mem] at hmem
    rw [resolve_of_defined hget (Nat.not_lt.1 hle), if_pos hmem]
    obtain ⟨bodies, hrest⟩ := ih
    exact ⟨_, .known hget (Nat.not_lt.1 hle) hmem hrest⟩
  | case5 _ _ _ _ _ _ _ hget _ hle hnot hmem =>
    rw [List.contains_iff_mem] at hnot hmem
    rw [resolve_of_defined hget (Nat.not_lt.1 hle), if_neg hnot, if_pos hmem]
    exact ⟨_, .recursive hget (Nat.not_lt.1 hle) hnot hmem⟩
  | case6 _ _ _ _ _ _ _ hget _ hle hnot hfresh _ hbody ihbody ih =>
    rw [List.contains_iff_mem] at hnot hfresh
    rw [resolve_of_defined hget (Nat.not_lt.1 hle), if_neg hnot, if_neg hfresh, hbody]
    obtain ⟨inside, hinside⟩ := ihbody
    obtain ⟨bodies, hrest⟩ := ih
    rw [hbody] at hinside
    exact ⟨_, .followed hget (Nat.not_lt.1 hle) hnot hfresh hinside hrest⟩
  | case7 _ _ _ _ _ _ _ hget _ hle hnot hfresh _ hbody ihbody =>
    rw [List.contains_iff_mem] at hnot hfresh
    rw [resolve_of_defined hget (Nat.not_lt.1 hle), if_neg hnot, if_neg hfresh, hbody]
    obtain ⟨inside, hinside⟩ := ihbody
    rw [hbody] at hinside
    exact ⟨_, .failed hget (Nat.not_lt.1 hle) hnot hfresh hinside⟩
  | case8 _ first _ _ hfirst ih =>
    have hpassed : first.isInvocation = false := by
      cases first with
      | invocation targets function location => exact absurd rfl (hfirst targets function location)
      | _ => rfl
    rw [resolve_of_not_isInvocation hpassed]
    obtain ⟨bodies, hrest⟩ := ih
    exact ⟨bodies, .passed hpassed hrest⟩

/-- What is known of the `bodies` that are followed for some statements: each is followed once, and
none that is `running` or `resolved` is followed again. -/
structure Once (functions : Bindings Definition) (running resolved bodies : List String)
    (answer : Except (Failure ProgramFault) (List String)) : Prop where
  /-- No body is followed twice. -/
  nodup : bodies.Nodup
  /-- The functions are defined. -/
  subset : bodies ⊆ functions.names
  /-- No body was followed before. -/
  not_resolved : ∀ function ∈ bodies, function ∉ resolved
  /-- No body is being followed. -/
  not_running : ∀ function ∈ bodies, function ∉ running
  /-- Without a fault, these bodies were followed to their ends. -/
  mem_iff : ∀ resolved', answer = .ok resolved' →
    ∀ function, function ∈ resolved' ↔ function ∈ bodies ∨ function ∈ resolved

theorem Once.none (failure : Failure ProgramFault) :
    Once functions running resolved [] (.error failure) :=
  ⟨List.nodup_nil, List.nil_subset _, nofun, nofun, nofun⟩

/-- No body is followed twice. -/
theorem Resolves.once (h : Resolves functions path running list resolved bodies answer) :
    Once functions running resolved bodies answer := by
  induction h with
  | nil =>
    refine ⟨List.nodup_nil, List.nil_subset _, nofun, nofun, ?_⟩
    rintro resolved' ⟨⟩ function
    simp
  | passed _ _ ih => exact ih
  | undefined => exact .none _
  | arity => exact .none _
  | known _ _ _ _ ih => exact ih
  | recursive => exact .none _
  | failed hget _ hnot hfresh _ ih =>
    refine ⟨?_, ?_, ?_, ?_, nofun⟩
    · exact List.nodup_cons.2 ⟨fun hmem => ih.not_running _ hmem List.mem_cons_self, ih.nodup⟩
    · exact List.cons_subset.2 ⟨Bindings.mem_names_of_get? hget, ih.subset⟩
    · exact List.forall_mem_cons.2 ⟨hnot, ih.not_resolved⟩
    · refine List.forall_mem_cons.2 ⟨hfresh, fun function hmem hrunning => ?_⟩
      exact ih.not_running function hmem (List.mem_cons_of_mem _ hrunning)
  | @followed _ _ callee _ _ _ _ inside resolved₁ bodies _ hget _ hnot hfresh _ _ ihbody ih =>
    have hresolved := ihbody.mem_iff resolved₁ rfl
    -- What is followed behind the body was not followed in it.
    have hbehind : ∀ function ∈ bodies, function ≠ callee ∧ function ∉ resolved₁ := by
      intro function hmem
      have hnot := ih.not_resolved function hmem
      exact ⟨List.ne_of_not_mem_cons hnot, List.not_mem_of_not_mem_cons hnot⟩
    refine ⟨?_, ?_, ?_, ?_, ?_⟩
    · refine List.nodup_cons.2 ⟨fun hmem => ?_, ihbody.nodup.append ih.nodup ?_⟩
      · rcases List.mem_append.1 hmem with hmem | hmem
        · exact ihbody.not_running _ hmem List.mem_cons_self
        · exact (hbehind _ hmem).1 rfl
      · intro function hmem hmem'
        exact (hbehind function hmem').2 ((hresolved function).2 (.inl hmem))
    · exact List.cons_subset.2
        ⟨Bindings.mem_names_of_get? hget, List.append_subset.2 ⟨ihbody.subset, ih.subset⟩⟩
    · refine List.forall_mem_cons.2 ⟨hnot, List.forall_mem_append.2 ⟨ihbody.not_resolved, ?_⟩⟩
      intro function hmem hbefore
      exact (hbehind function hmem).2 ((hresolved function).2 (.inr hbefore))
    · refine List.forall_mem_cons.2 ⟨hfresh, List.forall_mem_append.2 ⟨?_, ih.not_running⟩⟩
      intro function hmem hrunning
      exact ihbody.not_running function hmem (List.mem_cons_of_mem _ hrunning)
    · intro resolved' hanswer function
      rw [ih.mem_iff resolved' hanswer, List.mem_cons, hresolved, List.mem_cons, List.mem_append]
      tauto

/-! ## Bodies that are followed for a program -/

/-- What `steps` comes to for statements of the top level, with the functions whose bodies are
followed for them, in order. -/
inductive Examines (path : Option String) : State → List Statement → List String →
    Except (Failure ProgramFault) State → Prop
  /-- There is nothing left to look at. -/
  | nil {known} : Examines path known [] [] (.ok known)
  /-- A statement is passed for which no body is followed. -/
  | passed {known first rest known' bodies answer} (hfirst : first.isInvocation = false)
      (hstep : step path known first = .ok known')
      (hrest : Examines path known' rest bodies answer) :
      Examines path known (first :: rest) bodies answer
  /-- A statement has a fault, and no body is followed for it. -/
  | stopped {known first rest failure} (hfirst : first.isInvocation = false)
      (hstep : step path known first = .error failure) :
      Examines path known (first :: rest) [] (.error failure)
  /-- The bodies that an invocation leads to are followed to their ends. -/
  | followed {known targets function location rest inside resolved bodies answer}
      (hinside : Resolves known.functions path [] [.invocation targets function location]
        known.resolved inside (.ok resolved))
      (hrest : Examines path { known with resolved := resolved } rest bodies answer) :
      Examines path known (.invocation targets function location :: rest) (inside ++ bodies) answer
  /-- There is a fault in what an invocation leads to. -/
  | failed {known targets function location rest inside failure}
      (hinside : Resolves known.functions path [] [.invocation targets function location]
        known.resolved inside (.error failure)) :
      Examines path known (.invocation targets function location :: rest) inside (.error failure)

variable {known : State} {seen : Except (Failure ProgramFault) State}

/-- A case that applies tells the answer. -/
theorem Examines.eq_steps (h : Examines path known list bodies seen) :
    seen = steps path known list := by
  induction h with
  | nil => rfl
  | passed _ hstep _ ih => rw [steps, hstep, ih]
  | stopped _ hstep => rw [steps, hstep]
  | followed hinside _ ih => rw [steps, step, ← hinside.eq_resolve, Except.map, ih]
  | failed hinside => rw [steps, step, ← hinside.eq_resolve, Except.map]

/-- One of the cases applies. -/
theorem exists_examines (path : Option String) (known : State) (list : List Statement) :
    ∃ bodies, Examines path known list bodies (steps path known list) := by
  induction list generalizing known with
  | nil => exact ⟨[], .nil⟩
  | cons first rest ih =>
    rw [steps]
    -- Only invocations have bodies to be followed.
    cases hfirst : first.isInvocation with
    | false =>
      cases hstep : step path known first with
      | error failure => exact ⟨[], .stopped hfirst hstep⟩
      | ok known' =>
        obtain ⟨bodies, hrest⟩ := ih known'
        exact ⟨bodies, .passed hfirst hstep hrest⟩
    | true =>
      cases first with
      | invocation targets function location =>
        obtain ⟨inside, hinside⟩ := exists_resolves known.functions path []
          [.invocation targets function location] known.resolved
        rw [step]
        cases hanswer : resolve known.functions path [] [.invocation targets function location]
            known.resolved with
        | error failure =>
          rw [hanswer] at hinside
          exact ⟨inside, .failed hinside⟩
        | ok resolved =>
          rw [hanswer] at hinside
          obtain ⟨bodies, hrest⟩ := ih { known with resolved := resolved }
          exact ⟨inside ++ bodies, .followed hinside hrest⟩
      | _ => cases hfirst

/-- Where no body is followed for a statement that is passed, the functions are those from before
and the one that it defines. -/
theorem of_step {first : Statement} {known' : State} (hfirst : first.isInvocation = false)
    (hstep : step path known first = .ok known') :
    known'.resolved = known.resolved ∧ ∀ function ∈ known'.functions.names,
      function ∈ known.functions.names ∨ first.defined? = some function := by
  cases first with
  | invocation => cases hfirst
  | returns => cases hstep
  | bare => cases hstep
  | assignment =>
    cases hstep
    exact ⟨rfl, fun function hmem => .inl hmem⟩
  -- Only a definition adds a name.
  | definition name body spec location =>
    rw [step, define] at hstep
    split at hstep
    · cases hstep
    · rename_i hnone
      split at hstep
      · cases hstep
      · cases hstep
        refine ⟨rfl, fun function hmem => ?_⟩
        rw [Bindings.names_set_of_none hnone, List.mem_append, List.mem_singleton] at hmem
        exact hmem.imp_right fun heq => congrArg some heq.symm

/-- No body is followed twice, and none that was followed before. -/
theorem Examines.once (h : Examines path known list bodies seen) :
    bodies.Nodup ∧ (∀ function ∈ bodies, function ∉ known.resolved) ∧
      ∀ function ∈ bodies,
        function ∈ known.functions.names ∨ function ∈ list.filterMap Statement.defined? := by
  induction h with
  | nil => exact ⟨List.nodup_nil, nofun, nofun⟩
  | stopped => exact ⟨List.nodup_nil, nofun, nofun⟩
  | @passed _ first rest _ _ _ hfirst hstep _ ih =>
    obtain ⟨hresolved, hnames⟩ := of_step hfirst hstep
    obtain ⟨hnodup, hnot, hlisted⟩ := ih
    rw [hresolved] at hnot
    refine ⟨hnodup, hnot, fun function hmem => ?_⟩
    rcases hlisted function hmem with hmem | hmem
    · refine (hnames function hmem).imp_right fun hdefined => ?_
      exact List.mem_filterMap.2 ⟨first, List.mem_cons_self, hdefined⟩
    · obtain ⟨statement, hmem, hdefined⟩ := List.mem_filterMap.1 hmem
      exact .inr (List.mem_filterMap.2 ⟨statement, List.mem_cons_of_mem _ hmem, hdefined⟩)
  | failed hinside =>
    have honce := hinside.once
    exact ⟨honce.nodup, honce.not_resolved, fun function hmem => .inl (honce.subset hmem)⟩
  | @followed _ _ _ _ _ _ resolved bodies _ hinside _ ih =>
    have honce := hinside.once
    have hresolved := honce.mem_iff resolved rfl
    obtain ⟨hnodup, hnot, hlisted⟩ := ih
    refine ⟨honce.nodup.append hnodup ?_, List.forall_mem_append.2 ⟨honce.not_resolved, ?_⟩,
      List.forall_mem_append.2 ⟨fun function hmem => .inl (honce.subset hmem), hlisted⟩⟩
    -- What was followed in the first statement is resolved behind it, so it is not followed again.
    · intro function hmem hmem'
      exact hnot function hmem' ((hresolved function).2 (.inl hmem))
    · intro function hmem hbefore
      exact hnot function hmem ((hresolved function).2 (.inr hbefore))

end Check

/-! ## Runs and checks -/

open Run (Executes Visit passed execute)

/-- Runs and checks come to an end, whatever the program and the document. At any time the bodies
that are being run are those of different functions, the marked ones. A run comes to each statement
of the program at most once, so to no more statements than there are. A check follows the body of
each function that the program defines at most once. -/
theorem visited_once {ν ε : Type} [Node ν] (program : Program) (document : Document ν ε)
    (state : Run.State ν) :
    ((∃ visits answer, Executes document program state visits answer) ∧
      ∀ visits answer, Executes document program state visits answer →
        answer = (execute document program state).1 ∧
        (∀ visit ∈ visits,
          visit.active.Nodup ∧ ∀ name, visit.state.IsRunning name ↔ name ∈ visit.active) ∧
        passed visits ⊆ program.occurrences ∧
        ((passed visits).map Occurrence.numbers).Nodup ∧
        (passed visits).length ≤ program.occurrences.length) ∧
    ((∃ bodies seen, Check.Examines program.path ⟨.empty, []⟩ program.statements bodies seen) ∧
      ∀ bodies seen, Check.Examines program.path ⟨.empty, []⟩ program.statements bodies seen →
        seen.map (fun _ => ()) = check program ∧
        bodies.Nodup ∧
        bodies ⊆ program.statements.filterMap Statement.defined?) := by
  refine ⟨⟨?_, fun visits answer h => ?_⟩, ?_, fun bodies seen h => ?_⟩
  · obtain ⟨visits, h⟩ := Run.exists_executes document program state
    exact ⟨visits, _, h⟩
  · obtain ⟨hsubset, hnodup⟩ := h.once
    exact ⟨h.answer_eq, h.nodup_active, hsubset, hnodup, h.length_passed_le⟩
  · obtain ⟨bodies, h⟩ := Check.exists_examines program.path ⟨.empty, []⟩ program.statements
    exact ⟨bodies, _, h⟩
  · obtain ⟨hnodup, -, hlisted⟩ := h.once
    refine ⟨?_, hnodup, fun function hmem => (hlisted function hmem).resolve_left nofun⟩
    rw [h.eq_steps, check]

end Extraction
