import Extraction.Proofs.Grammar.Ahead
import Extraction.Proofs.Lexing.Calls

/-!
# Tokens that parsers pull

A parser pulls the next token when it takes the current one. As it never takes the end of the input,
it pulls the tokens of a source one after another, each of them once, and no more than it needs to
see that it cannot go on. Nor does it go on behind a number that is too long.

* `Parser.Pulling` tells the cursors that a parser asks for a token, from how it is made of others.
* `Parser.Reaches` pulls tokens from one state to another, but none behind the end of the input.
  `Parser.Refuses` are the ways to fail at a state that is reached.
* `Parser.Draws` says that a parser pulls tokens in this way, and what it has pulled when it fails.
  `Parser.Draws.bind` and `Parser.draws_collect` are the rules for sequences and repetitions, and
  `Parser.draws_program` is the result for the parser of programs.
* `Parser.sourcePulls` are the cursors that are asked when a source is parsed. `Parser.Outcome` are
  the ways in which that ends, with what was pulled and which numbers were left behind by then, and
  `pulled_once` is the result for sources.
-/

namespace Extraction

open Cursor (Scan)

namespace Parser

variable {α β : Type} {state middle final : State} {failure : Failure SyntaxFault}
  {cursors later : List Cursor}

/-! ## Pulls -/

/-- A parser of which it is known which cursors it asks for a token. -/
class Pulling (p : Parser α) where
  /-- The cursors that are asked for a token, from a state on, in order. -/
  cursors : State → List Cursor

/-- The cursors that `p` asks for a token from `state` on, in order. -/
def pulls (p : Parser α) [Pulling p] (state : State) : List Cursor := Pulling.cursors p state

instance (a : α) : Pulling (pure a : Parser α) := ⟨fun _ => []⟩

/-- The second one of two parsers asks for tokens if the first one succeeds. -/
instance (p : Parser α) (f : α → Parser β) [Pulling p] [∀ a, Pulling (f a)] :
    Pulling (p >>= f) where
  cursors state :=
    match p.run state with
    | (.ok a, state') => pulls p state ++ pulls (f a) state'
    | (.error _, _) => pulls p state

instance (condition : Prop) [Decidable condition] (p q : Parser α) [Pulling p] [Pulling q] :
    Pulling (if condition then p else q) where
  cursors state := if condition then pulls p state else pulls q state

instance : Pulling Parser.state := ⟨fun _ => []⟩

instance (kind : Token.Kind) : Pulling (isAt kind) := ⟨fun _ => []⟩

instance (token : Token) : Pulling (locate token) := ⟨fun _ => []⟩

instance (expected : String) : Pulling (unexpected expected : Parser α) := ⟨fun _ => []⟩

instance (digits : List Char) : Pulling (number digits) := ⟨fun _ => []⟩

/-- To take a token is to ask for the next one. -/
instance : Pulling advance := ⟨fun state => [state.cursor]⟩

/-- The cursors that a repetition of `p` asks for a token, round after round. -/
def pullsFrom (p : Parser (Option α)) [Pulling p] (h : p.Advances) (state : State) : List Cursor :=
  match _hp : (p.run state).1 with
  | .ok (some _) => pulls p state ++ pullsFrom p h (p.run state).2
  | .ok none => pulls p state
  | .error _ => pulls p state
termination_by state.size
decreasing_by exact h state _ _hp

instance (p : Parser (Option α)) [Pulling p] (h : p.Advances) : Pulling (collect p h) :=
  ⟨pullsFrom p h⟩

/-! The forms of the language are made of these. -/

instance (kind : Token.Kind) : Pulling (expect kind) := by
  delta expect
  infer_instance

instance : Pulling newline? := by
  delta newline?
  infer_instance

instance : Pulling skipNewlines := by
  delta skipNewlines
  infer_instance

instance : Pulling endStatement := by
  delta endStatement
  infer_instance

instance : Pulling name := by
  delta name
  infer_instance

instance : Pulling nextName? := by
  delta nextName?
  infer_instance

instance : Pulling nameList := by
  delta nameList
  infer_instance

instance : Pulling integer := by
  delta integer
  infer_instance

-- An instance is as large as the form, and this form is large.
set_option synthInstance.maxSize 1000 in
instance : Pulling range := by
  delta range
  infer_instance

instance : Pulling attributes? := by
  delta attributes?
  infer_instance

instance : Pulling rangeOrWhole := by
  delta rangeOrWhole
  infer_instance

instance : Pulling selection := by
  delta selection
  infer_instance

instance : Pulling nextTarget? := by
  delta nextTarget?
  infer_instance

instance (target : String) (others : List String) (location : Location) :
    Pulling (bound target others location) := by
  delta bound
  infer_instance

instance : Pulling binding := by
  delta binding
  infer_instance

instance : Pulling returnSpec := by
  delta returnSpec
  infer_instance

set_option synthInstance.maxSize 1000 in
instance (function : String) : Pulling (nextBinding? function) := by
  delta nextBinding?
  infer_instance

instance : Pulling definition := by
  delta definition
  infer_instance

instance : Pulling statement := by
  delta statement
  infer_instance

instance : Pulling nextStatement? := by
  delta nextStatement?
  infer_instance

instance : Pulling program := by
  delta program
  infer_instance

/-! ## Reached states -/

/-- A state is reached from another one by pulling tokens from the given cursors, each time when the
current token, which is left behind, is not the end of the input and is as `behind` says. -/
inductive Reaches (behind : Token → Prop) : State → List Cursor → State → Prop
  | refl (state : State) : Reaches behind state [] state
  | pull {state final : State} {token : Token} {cursor : Cursor} {cursors : List Cursor}
      (hkind : state.current.kind ≠ .endOfInput) (hbehind : behind state.current)
      (hnext : state.cursor.next = (.ok token, cursor))
      (hrest : Reaches behind { state with current := token, cursor := cursor } cursors final) :
      Reaches behind state (state.cursor :: cursors) final

section

variable {behind behind' : Token → Prop}

/-- What is reached from a state that is reached is reached. -/
theorem Reaches.trans (h : Reaches behind state cursors middle)
    (h' : Reaches behind middle later final) : Reaches behind state (cursors ++ later) final := by
  induction h with
  | refl => exact h'
  | pull hkind hbehind hnext _ ih => exact .pull hkind hbehind hnext (ih h')

/-- Less may be asked of what is left behind. -/
theorem Reaches.mono (h : Reaches behind state cursors final)
    (himp : ∀ token, behind token → behind' token) : Reaches behind' state cursors final := by
  induction h with
  | refl => exact .refl _
  | pull hkind hbehind hnext _ ih => exact .pull hkind (himp _ hbehind) hnext ih

end

/-- A number that is too long is not left behind. -/
abbrev ReachesShort : State → List Cursor → State → Prop := Reaches fun token => ¬token.Overlong

/-- A failure is met behind `state` in one of three ways: at the current token of a state that is
reached, when the next token is pulled there and cannot be read, or when it is pulled behind a
number that is too long. -/
inductive Refuses (state : State) : List Cursor → Failure SyntaxFault → State → Prop
  | unexpected {final : State} {cursors : List Cursor} (expected : String)
      (h : ReachesShort state cursors final) :
      Refuses state cursors (final.failure expected final.current) final
  | unreadable {middle : State} {cursors : List Cursor} {failure : Failure SyntaxFault}
      {cursor : Cursor} (h : ReachesShort state cursors middle)
      (hkind : middle.current.kind ≠ .endOfInput)
      (hnext : middle.cursor.next = (.error failure, cursor)) :
      Refuses state (cursors ++ [middle.cursor]) failure { middle with cursor := cursor }
  | tooLong {middle : State} {cursors : List Cursor} {token : Token} {cursor : Cursor}
      (h : ReachesShort state cursors middle) (hlong : middle.current.Overlong)
      (hnext : middle.cursor.next = (.ok token, cursor)) :
      Refuses state (cursors ++ [middle.cursor]) middle.current.tooLong
        { middle with current := token, cursor := cursor }

/-- To reach a state and to be refused from there is to be refused. -/
theorem Reaches.trans_refuses (h : ReachesShort state cursors middle)
    (h' : Refuses middle later failure final) : Refuses state (cursors ++ later) failure final := by
  cases h' with
  | unexpected expected h' => exact .unexpected expected (h.trans h')
  | unreadable h' hkind hnext =>
    rw [← List.append_assoc]
    exact .unreadable (h.trans h') hkind hnext
  | tooLong h' hlong hnext =>
    rw [← List.append_assoc]
    exact .tooLong (h.trans h') hlong hnext

/-! ## Rules -/

/-- From `state`, the parser `p` reaches another one and an answer that are `good`, or it is
refused. -/
structure Draws (p : Parser α) [Pulling p] (state : State) (good : α → State → Prop) : Prop where
  /-- What success comes with. -/
  ok : ∀ {a final}, p.run state = (.ok a, final) →
    ReachesShort state (pulls p state) final ∧ good a final
  /-- What failure is. -/
  error : ∀ {failure final}, p.run state = (.error failure, final) →
    Refuses state (pulls p state) failure final

variable {good good' : α → State → Prop}

theorem draws_pure {a : α} (h : good a state) : (pure a : Parser α).Draws state good where
  ok hrun := by
    cases hrun
    exact ⟨.refl state, h⟩
  error hrun := by cases hrun

/-- `unexpected` pulls no token, and fails at the current one. -/
theorem draws_unexpected (expected : String) :
    (unexpected expected : Parser α).Draws state good where
  ok hrun := by cases hrun
  error hrun := by
    cases hrun
    exact .unexpected expected (.refl state)

theorem draws_state {good : State → Prop} (h : good state) :
    Parser.state.Draws state fun _ final => good final where
  ok hrun := by
    cases hrun
    exact ⟨.refl state, h⟩
  error hrun := by cases hrun

/-- What is known of a success may be weakened. -/
theorem Draws.mono {p : Parser α} [Pulling p] (h : p.Draws state good)
    (hgood : ∀ a final, good a final → good' a final) : p.Draws state good' where
  ok hrun := (h.ok hrun).imp_right (hgood _ _)
  error := h.error

/-- What a parser with an answer pulls comes before what the parser behind it pulls. -/
theorem pulls_bind_of_ok {p : Parser α} {f : α → Parser β} [Pulling p] [∀ a, Pulling (f a)] {a : α}
    (h : p.run state = (.ok a, middle)) :
    pulls (p >>= f) state = pulls p state ++ pulls (f a) middle := by
  change (match p.run state with
    | (.ok a, state') => pulls p state ++ pulls (f a) state'
    | (.error _, _) => pulls p state) = _
  rw [h]

/-- Behind a failure no token is pulled. -/
theorem pulls_bind_of_error {p : Parser α} {f : α → Parser β} [Pulling p] [∀ a, Pulling (f a)]
    (h : p.run state = (.error failure, middle)) : pulls (p >>= f) state = pulls p state := by
  change (match p.run state with
    | (.ok a, state') => pulls p state ++ pulls (f a) state'
    | (.error _, _) => pulls p state) = _
  rw [h]

/-- What `p` and `f` pull one after the other, `p >>= f` pulls. -/
theorem Draws.bind {p : Parser α} {f : α → Parser β} [Pulling p] [∀ a, Pulling (f a)]
    {good' : β → State → Prop} (hp : p.Draws state good)
    (hf : ∀ a middle, good a middle → (f a).Draws middle good') : (p >>= f).Draws state good' := by
  constructor
  · intro b final hrun
    rw [run_bind] at hrun
    split at hrun
    · rename_i a middle hfirst
      obtain ⟨hreaches, hgood⟩ := hp.ok hfirst
      obtain ⟨hlater, hanswer⟩ := (hf a middle hgood).ok hrun
      rw [pulls_bind_of_ok hfirst]
      exact ⟨hreaches.trans hlater, hanswer⟩
    · cases hrun
  · intro failure final hrun
    rw [run_bind] at hrun
    split at hrun
    -- The second parser is refused, behind what the first one has pulled.
    · rename_i a middle hfirst
      obtain ⟨hreaches, hgood⟩ := hp.ok hfirst
      rw [pulls_bind_of_ok hfirst]
      exact hreaches.trans_refuses ((hf a middle hgood).error hrun)
    · rename_i failure' middle hfirst
      cases hrun
      rw [pulls_bind_of_error hfirst]
      exact hp.error hfirst

/-- An answer that is changed at the end changes nothing about what is pulled. -/
theorem Draws.bind_pure {p : Parser α} [Pulling p] (h : p.Draws state good) (f : α → β) :
    (p >>= fun a => pure (f a)).Draws state fun _ _ => True :=
  h.bind fun _ _ _ => draws_pure trivial

/-- A choice between parsers pulls what the chosen one pulls. -/
theorem draws_ite {condition : Prop} [Decidable condition] {p q : Parser α} [Pulling p] [Pulling q]
    (hp : condition → p.Draws state good) (hq : ¬condition → q.Draws state good) :
    (if condition then p else q).Draws state good := by
  cases ‹Decidable condition› with
  | isTrue h => exact ⟨(hp h).ok, (hp h).error⟩
  | isFalse h => exact ⟨(hq h).ok, (hq h).error⟩

/-- A look at the current token pulls nothing, and decides between two parsers. -/
theorem draws_isAt {kind : Token.Kind} {p q : Parser α} [Pulling p] [Pulling q]
    (hp : state.current.kind = kind → p.Draws state good)
    (hq : state.current.kind ≠ kind → q.Draws state good) :
    (isAt kind >>= fun found => if found then p else q).Draws state good := by
  have h : (if state.current.kind == kind then p else q).Draws state good :=
    draws_ite (fun h => hp (eq_of_beq h)) fun h => hq fun heq => h (by rw [heq, beq_self_eq_true])
  exact ⟨h.ok, h.error⟩

/-- `locate` pulls no token. -/
theorem draws_locate (token : Token) : (locate token).Draws state fun _ _ => True where
  ok hrun := by
    cases hrun
    exact ⟨.refl state, trivial⟩
  error hrun := by cases hrun

/-- To take a token pulls one, which is not behind the end of the input if the token is not the end
itself. The token is left behind, so it must not be too long. -/
theorem draws_take (hend : state.current.kind ≠ .endOfInput) (hshort : ¬state.current.Overlong) :
    advance.Draws state fun token _ => token = state.current := by
  constructor
  · intro a final hrun
    simp only [advance] at hrun
    split at hrun
    · rename_i token cursor hnext
      cases hrun
      exact ⟨.pull hend hshort hnext (.refl _), rfl⟩
    · cases hrun
  · intro failure final hrun
    simp only [advance] at hrun
    split at hrun
    · cases hrun
    · rename_i failure' cursor hnext
      cases hrun
      exact .unreadable (.refl state) hend hnext

/-- A token of most kinds may be taken where it stands. -/
theorem draws_advance {kind : Token.Kind} (hne : kind ≠ .endOfInput ∧ kind ≠ .integer)
    (hkind : state.current.kind = kind) : advance.Draws state fun _ _ => True := by
  subst hkind
  exact (draws_take hne.1 (Token.not_overlong_of_kind_ne hne.2)).mono fun _ _ _ => trivial

/-- `expect` pulls the token behind the one that it takes. -/
theorem draws_expect {kind : Token.Kind} (hne : kind ≠ .endOfInput ∧ kind ≠ .integer)
    (state : State) :
    (expect kind).Draws state fun _ _ => True :=
  draws_isAt (fun hkind => draws_advance hne hkind) fun _ => draws_unexpected _

/-- What a repetition pulls in a round comes before what it pulls in the rounds behind it. -/
theorem pulls_collect_of_some {p : Parser (Option α)} [Pulling p] {hp : p.Advances} {a : α}
    (h : (p.run state).1 = .ok (some a)) :
    pulls (collect p hp) state = pulls p state ++ pulls (collect p hp) (p.run state).2 := by
  change pullsFrom p hp state = pulls p state ++ pullsFrom p hp (p.run state).2
  rw [pullsFrom]
  split <;> simp_all

/-- A repetition that is not gone on with pulls what its last round pulls. -/
theorem pulls_collect_of_not_some {p : Parser (Option α)} [Pulling p] {hp : p.Advances}
    (h : ∀ a, (p.run state).1 ≠ .ok (some a)) : pulls (collect p hp) state = pulls p state := by
  change pullsFrom p hp state = pulls p state
  rw [pullsFrom]
  split <;> simp_all

/-- A repetition draws as its rounds do. What holds when a round answers nothing holds at its end.
-/
theorem draws_collect {p : Parser (Option α)} [Pulling p] {hp : p.Advances} {done : State → Prop}
    (hround : ∀ state, p.Draws state fun a? final => a? = none → done final) (state : State) :
    (collect p hp).Draws state fun _ final => done final := by
  constructor
  -- Both inductions are on the rounds: what the later ones pull is put behind the pulls of this
  -- one.
  · intro as final hrun
    change collectFrom p hp state = (.ok as, final) at hrun
    fun_induction collectFrom p hp state generalizing as final with
    | case1 state a hfirst later state' hlater ih =>
      cases hrun
      obtain ⟨hreaches, -⟩ := (hround state).ok (Prod.ext hfirst rfl)
      obtain ⟨hrest, hdone⟩ := ih hlater
      rw [pulls_collect_of_some hfirst]
      exact ⟨hreaches.trans hrest, hdone⟩
    | case2 => cases hrun
    | case3 state hfirst =>
      cases hrun
      obtain ⟨hreaches, hdone⟩ := (hround state).ok (Prod.ext hfirst rfl)
      rw [pulls_collect_of_not_some fun a heq => by cases hfirst.symm.trans heq]
      exact ⟨hreaches, hdone rfl⟩
    | case4 => cases hrun
  · intro failure final hrun
    change collectFrom p hp state = (.error failure, final) at hrun
    fun_induction collectFrom p hp state generalizing failure final with
    | case1 => cases hrun
    | case2 state a hfirst failure' state' hlater ih =>
      cases hrun
      obtain ⟨hreaches, -⟩ := (hround state).ok (Prod.ext hfirst rfl)
      rw [pulls_collect_of_some hfirst]
      exact hreaches.trans_refuses (ih hlater)
    | case3 => cases hrun
    | case4 state failure' hfirst =>
      cases hrun
      rw [pulls_collect_of_not_some fun a heq => by cases hfirst.symm.trans heq]
      exact (hround state).error (Prod.ext hfirst rfl)

/-! ## Forms of the language -/

theorem draws_newline? (state : State) : newline?.Draws state fun _ _ => True := by
  refine draws_isAt (fun hkind => ?_) fun _ => draws_pure trivial
  exact (draws_advance (by decide) hkind).bind_pure _

theorem draws_skipNewlines (state : State) : skipNewlines.Draws state fun _ _ => True :=
  (draws_collect (fun state => (draws_newline? state).mono fun _ _ _ _ => trivial)
    state).bind_pure _

theorem draws_endStatement (state : State) : endStatement.Draws state fun _ _ => True := by
  refine draws_isAt (fun _ => draws_pure trivial) fun _ => ?_
  exact (draws_expect (by decide) state).bind_pure _

theorem draws_name (state : State) : name.Draws state fun _ _ => True :=
  (draws_expect (by decide) state).bind_pure _

/-- A comma and the name behind it. -/
theorem draws_next (hkind : state.current.kind = .comma) :
    (advance >>= fun _ => name >>= fun next => pure (some next)).Draws state
      fun name? _ => name? ≠ none :=
  (draws_advance (by decide) hkind).bind fun _ middle _ =>
    (draws_name middle).bind fun _ _ _ => draws_pure nofun

/-- A list of names is left in front of its closing brace. -/
theorem draws_nextName? (state : State) : nextName?.Draws state fun name? final =>
    name? = none → final.current.kind = .rightBrace := by
  refine draws_isAt (fun hkind => draws_pure fun _ => hkind) fun _ => ?_
  refine draws_isAt (fun hkind => ?_) fun _ => draws_unexpected _
  exact (draws_next hkind).mono fun _ _ hsome hnone => absurd hnone hsome

theorem draws_nameList (state : State) : nameList.Draws state fun _ _ => True := by
  refine (draws_expect (by decide) state).bind fun _ state _ => ?_
  refine (draws_name state).bind fun _ state _ => ?_
  -- The closing brace is taken without a look, but the repetition ends in front of one only.
  refine (draws_collect draws_nextName? state).bind fun _ state hkind => ?_
  exact (draws_advance (by decide) hkind).bind_pure _

/-- A number that is not too long is read without a pull. -/
theorem draws_number {token : Token} (hkind : token.kind = .integer) (hshort : ¬token.Overlong) :
    (number token.text.toList).Draws state fun _ _ => True := by
  have hpure := number_eq_pure ⟨token, hkind⟩ hshort
  constructor
  · intro a final hrun
    rw [hpure] at hrun
    cases hrun
    exact ⟨.refl state, trivial⟩
  · intro failure final hrun
    rw [hpure] at hrun
    cases hrun

/-- Where a token of the kind stands, to take one is to take the current token. -/
theorem run_expect_of_kind {kind : Token.Kind} (hkind : state.current.kind = kind) :
    (expect kind).run state = advance.run state := by
  change (if state.current.kind == kind then advance else unexpected _).run state = _
  rw [if_pos (beq_iff_eq.2 hkind)]

/-- `expect` asks the cursor once, if the current token is of the kind. -/
theorem pulls_expect_of_kind {kind : Token.Kind} (hkind : state.current.kind = kind) :
    pulls (expect kind) state = [state.cursor] := by
  change (if state.current.kind == kind then [state.cursor] else []) = _
  rw [if_pos (beq_iff_eq.2 hkind)]

/-- A number that is too long is refused when the token behind it is pulled, unless that one cannot
be read. -/
theorem refuses_integer (hlong : state.current.Overlong) :
    ∃ failure final, integer.run state = (.error failure, final) ∧
      Refuses state (pulls integer state) failure final := by
  have hend : state.current.kind ≠ .endOfInput := by
    rw [hlong.1]
    decide
  have hrun := run_expect_of_kind hlong.1
  have hpulls := pulls_expect_of_kind hlong.1
  -- The token behind the number is pulled before its digits are counted.
  match hnext : state.cursor.next with
  | (.ok token, cursor) =>
    simp only [advance, hnext] at hrun
    have hrefuse := number_eq_refuse ⟨state.current, hlong.1⟩ hlong
    refine ⟨state.current.tooLong, { state with current := token, cursor := cursor }, ?_, ?_⟩
    · rw [integer, run_bind, hrun]
      simp only [hrefuse]
      rfl
    · have hall : pulls integer state = [] ++ [state.cursor] := by
        refine (pulls_bind_of_ok hrun).trans ?_
        rw [hpulls]
        rfl
      rw [hall]
      exact .tooLong (.refl state) hlong hnext
  | (.error failure, cursor) =>
    simp only [advance, hnext] at hrun
    refine ⟨failure, { state with cursor := cursor }, ?_, ?_⟩
    · rw [integer, run_bind, hrun]
    · have hall : pulls integer state = [] ++ [state.cursor] :=
        (pulls_bind_of_error hrun).trans hpulls
      rw [hall]
      exact .unreadable (.refl state) hend hnext

/-- To take an integer is to take it as a token, which pulls the next one, and to look at its digits
only then. -/
theorem draws_integer (state : State) : integer.Draws state fun _ _ => True := by
  by_cases hlong : state.current.Overlong
  · obtain ⟨failure, final, hrun, hrefuses⟩ := refuses_integer hlong
    constructor
    · intro a final' hrun'
      cases hrun.symm.trans hrun'
    · intro failure' final' hrun'
      cases hrun.symm.trans hrun'
      exact hrefuses
  · have hexpect : (expect .integer).Draws state fun token _ =>
        token.kind = .integer ∧ ¬token.Overlong := by
      refine draws_isAt (fun hkind => ?_) fun _ => draws_unexpected _
      refine (draws_take (by rw [hkind]; decide) hlong).mono ?_
      rintro token - rfl
      exact ⟨hkind, hlong⟩
    exact hexpect.bind fun token middle htoken => draws_number htoken.1 htoken.2

set_option synthInstance.maxSize 1000 in
theorem draws_range (state : State) : range.Draws state fun _ _ => True := by
  refine (draws_expect (by decide) state).bind fun _ state _ => ?_
  refine (draws_integer state).bind fun _ state _ => ?_
  refine draws_isAt (fun hkind => ?_) fun _ => draws_isAt (fun hkind => ?_) fun _ =>
    draws_unexpected _
  -- One number.
  · exact (draws_advance (by decide) hkind).bind_pure _
  refine (draws_advance (by decide) hkind).bind fun _ state _ => ?_
  refine draws_isAt (fun hkind => ?_) fun _ => draws_isAt (fun _ => ?_) fun _ =>
    draws_unexpected _
  -- A number and an open end.
  · exact (draws_advance (by decide) hkind).bind_pure _
  -- Two numbers.
  · refine (draws_integer state).bind fun _ state _ => ?_
    exact (draws_expect (by decide) state).bind_pure _

theorem draws_attributes? (state : State) : attributes?.Draws state fun _ _ => True := by
  refine draws_isAt (fun _ => ?_) fun _ => draws_pure trivial
  exact (draws_nameList state).bind_pure _

theorem draws_rangeOrWhole (state : State) : rangeOrWhole.Draws state fun _ _ => True :=
  draws_isAt (fun _ => draws_range state) fun _ => draws_pure trivial

theorem draws_selection (state : State) : selection.Draws state fun _ _ => True := by
  refine (draws_name state).bind fun _ state _ => ?_
  refine (draws_attributes? state).bind fun _ state _ => ?_
  refine (draws_rangeOrWhole state).bind fun _ state _ => ?_
  refine draws_isAt (fun _ => draws_pure trivial) fun _ => ?_
  exact draws_isAt (fun _ => draws_pure trivial) fun _ => draws_unexpected _

theorem draws_nextTarget? (state : State) : nextTarget?.Draws state fun _ _ => True :=
  draws_isAt (fun hkind => (draws_next hkind).mono fun _ _ _ => trivial) fun _ =>
    draws_pure trivial

theorem draws_bound (target : String) (others : List String) (location : Location)
    (state : State) : (bound target others location).Draws state fun _ _ => True := by
  refine draws_isAt (fun hkind => ?_) fun _ => draws_ite (fun _ => ?_) fun _ => draws_unexpected _
  · refine (draws_advance (by decide) hkind).bind fun _ state _ => ?_
    exact (draws_name state).bind_pure _
  · exact (draws_selection state).bind_pure _

theorem draws_binding (state : State) : binding.Draws state fun _ _ => True := by
  refine (draws_expect (by decide) state).bind fun first state _ => ?_
  refine (draws_collect (fun state => (draws_nextTarget? state).mono fun _ _ _ _ => trivial)
    state).bind fun others state _ => ?_
  refine (draws_expect (by decide) state).bind fun _ state _ => ?_
  exact (draws_locate first).bind fun location state _ => draws_bound _ _ location state

theorem draws_returnSpec (state : State) : returnSpec.Draws state fun _ _ => True := by
  refine (draws_expect (by decide) state).bind fun start state _ => ?_
  refine (draws_nameList state).bind fun _ state _ => ?_
  exact (draws_locate start).bind_pure _

set_option synthInstance.maxSize 1000 in
theorem draws_nextBinding? (function : String) (state : State) :
    (nextBinding? function).Draws state fun _ _ => True := by
  refine (draws_skipNewlines state).bind fun _ state _ => ?_
  refine draws_isAt (fun _ => draws_pure trivial) fun _ => ?_
  -- Neither the end of the input nor a definition is taken.
  refine draws_isAt (fun _ => draws_unexpected _) fun _ => ?_
  refine draws_isAt (fun _ => draws_unexpected _) fun _ => ?_
  refine (draws_binding state).bind fun _ state _ => ?_
  exact (draws_endStatement state).bind_pure _

/-- The first token of a definition is taken without a look, so it must be known. -/
theorem draws_definition (hkind : state.current.kind = .define) :
    definition.Draws state fun _ _ => True := by
  refine (draws_advance (by decide) hkind).bind fun start state _ => ?_
  refine (draws_name state).bind fun function state _ => ?_
  refine (draws_endStatement state).bind fun _ state _ => ?_
  refine (draws_collect (fun state => (draws_nextBinding? function state).mono
    fun _ _ _ _ => trivial) state).bind fun _ state _ => ?_
  refine (draws_returnSpec state).bind fun _ state _ => ?_
  exact (draws_locate start).bind_pure _

theorem draws_statement (state : State) : statement.Draws state fun _ _ => True :=
  draws_isAt draws_definition fun _ =>
    draws_isAt (fun _ => draws_unexpected _) fun _ => draws_binding state

/-- A program has no more statements at the end of the input. -/
theorem draws_nextStatement? (state : State) : nextStatement?.Draws state fun statement? final =>
    statement? = none → final.current.kind = .endOfInput := by
  refine (draws_skipNewlines state).bind fun _ state _ => ?_
  refine draws_isAt (fun hkind => draws_pure fun _ => hkind) fun _ => ?_
  refine (draws_statement state).bind fun _ state _ => ?_
  exact (draws_endStatement state).bind fun _ _ _ => draws_pure nofun

/-- The parser of programs pulls tokens up to the end of the input, and none behind it. -/
theorem draws_program (state : State) :
    program.Draws state fun _ final => final.current.kind = .endOfInput := by
  refine (draws_collect draws_nextStatement? state).bind fun statements state hkind => ?_
  exact (draws_state hkind).bind fun _ final hkind => draws_pure hkind

/-! ## Whole sources -/

/-- The cursors that are asked for a token behind `state`, if all tokens are read. -/
def State.upcoming (state : State) : List Cursor :=
  if state.current.kind = .endOfInput then [] else state.cursor.calls

/-- A call for a token that can be read comes before those behind that token. -/
theorem calls_of_next {cursor : Cursor} (hnext : cursor.next = (.ok state.current, state.cursor)) :
    cursor.calls = cursor :: state.upcoming := by
  rw [State.upcoming]
  split
  · rename_i hkind
    exact Cursor.calls_of_endOfInput hnext hkind
  · rename_i hkind
    exact Cursor.calls_of_ok hnext hkind

section

variable {behind : Token → Prop}

/-- What is pulled on the way to a state comes before what is upcoming there. -/
theorem Reaches.upcoming_eq (h : Reaches behind state cursors final) :
    state.upcoming = cursors ++ final.upcoming := by
  induction h with
  | refl => rfl
  | @pull state _ token cursor _ hkind _ hnext _ ih =>
    -- If the token that is pulled is the end of the input, nothing is upcoming behind it.
    have hcalls := @calls_of_next { state with current := token, cursor := cursor } _ hnext
    rw [State.upcoming, if_neg hkind, hcalls, ih, List.cons_append]

/-- The calls on the way to a state are answered with tokens. The last one of these is the current
token there, and those in front of it are left behind. -/
theorem Reaches.exists_tokens (h : Reaches behind state cursors final) :
    ∃ tokens : List Token, (cursors.map fun call => call.next.1) = tokens.map .ok ∧
      (state.current :: tokens).getLast? = some final.current ∧
      ∀ token ∈ (state.current :: tokens).dropLast, behind token := by
  induction h with
  | refl => exact ⟨[], rfl, rfl, nofun⟩
  | @pull state _ token cursor _ hkind hbehind hnext _ ih =>
    obtain ⟨tokens, hanswers, hlast, hall⟩ := ih
    refine ⟨token :: tokens, ?_, ?_, ?_⟩
    · rw [List.map_cons, List.map_cons, hanswers, hnext]
    · rw [List.getLast?_cons_cons, hlast]
    · rw [List.dropLast_cons_cons]
      exact List.forall_mem_cons.2 ⟨hbehind, hall⟩

/-- The cursors that are asked for a token when `source` is parsed. The first token is pulled before
the parser of programs starts. -/
def sourcePulls (source : String) (path : Option String) : List Cursor :=
  Cursor.start source path ::
    match State.start (Cursor.start source path) path with
    | .ok state => pulls program state
    | .error _ => []

/-- A state that is reached from the start of a source has at its current token one of the tokens
that are read, and just these have been pulled up to it. Those in front of it are left behind. -/
theorem Reaches.of_start {cursor : Cursor}
    (hnext : cursor.next = (.ok state.current, state.cursor))
    (h : Reaches behind state cursors final) :
    cursor.calls = cursor :: cursors ++ final.upcoming ∧
      ((cursor :: cursors).map fun call => call.next.1) =
        (cursor.scan.tokens.take (cursors.length + 1)).map .ok ∧
      cursor.scan.tokens[cursors.length]? = some final.current ∧
      ∀ token ∈ cursor.scan.tokens.take cursors.length, behind token := by
  have hcalls : cursor.calls = cursor :: cursors ++ final.upcoming := by
    rw [calls_of_next hnext, h.upcoming_eq, List.cons_append]
  obtain ⟨tokens, hanswers, hlast, hall⟩ := h.exists_tokens
  have hlength : tokens.length = cursors.length := by
    simpa using (congrArg List.length hanswers).symm
  have hpulled : ((cursor :: cursors).map fun call => call.next.1) =
      (state.current :: tokens).map .ok := by
    rw [List.map_cons, List.map_cons, hanswers, hnext]
  -- What can be read at the calls in front is in front of what can be read at all.
  have htokens : state.current :: tokens <+: cursor.scan.tokens := by
    rw [← Scan.filterMap_answers, ← Cursor.map_next_calls, hcalls, List.map_append, hpulled,
      List.filterMap_append, List.filterMap_map]
    exact ⟨_, congrArg (· ++ _) (List.filterMap_some (l := state.current :: tokens)).symm⟩
  have htake := List.prefix_iff_eq_take.1 htokens
  rw [List.length_cons, hlength] at htake
  refine ⟨hcalls, ?_, ?_, ?_⟩
  · rw [hpulled, ← htake]
  · rw [← hlength, ← hlast, List.getLast?_eq_getElem?]
    obtain ⟨rest, hrest⟩ := htokens
    rw [← hrest, List.getElem?_append_left (by simp)]
    simp
  · have hfront : (state.current :: tokens).dropLast = cursor.scan.tokens.take cursors.length := by
      rw [List.dropLast_eq_take, List.length_cons, Nat.add_sub_cancel, hlength]
      rw [htake, List.take_take, Nat.min_eq_left (Nat.le_succ _)]
    rwa [hfront] at hall

/-- What was pulled from the start of a source when it turns out to be a program. -/
theorem Reaches.calls_eq {cursor : Cursor}
    (hnext : cursor.next = (.ok state.current, state.cursor))
    (h : Reaches behind state cursors final)
    (hkind : final.current.kind = .endOfInput) :
    cursor.calls = cursor :: cursors ∧ cursor.scan.failure = none := by
  obtain ⟨hcalls, hanswers, -, -⟩ := h.of_start hnext
  have hupcoming : final.upcoming = [] := if_pos hkind
  rw [hupcoming, List.append_nil] at hcalls
  rw [← hcalls, Cursor.map_next_calls] at hanswers
  exact ⟨hcalls, Scan.failure_eq_none hanswers⟩

/-- What was pulled from the start of a source when a character is met that starts no token. -/
theorem calls_eq_of_unreadable {cursor after : Cursor}
    (hnext : cursor.next = (.ok state.current, state.cursor))
    (h : Reaches behind state cursors final)
    (hkind : final.current.kind ≠ .endOfInput)
    (hfail : final.cursor.next = (.error failure, after)) :
    cursor.calls = cursor :: (cursors ++ [final.cursor]) ∧ cursor.scan.failure = some failure := by
  obtain ⟨hcalls, -, -, -⟩ := h.of_start hnext
  have hupcoming : final.upcoming = [final.cursor] := by
    rw [State.upcoming, if_neg hkind, Cursor.calls_of_error hfail]
  rw [hupcoming, List.cons_append] at hcalls
  refine ⟨hcalls, Scan.failure_eq_some ?_⟩
  rw [← Cursor.map_next_calls, hcalls]
  exact List.mem_map.2 ⟨final.cursor, by simp, by rw [hfail]⟩

end

/-- Either the first token cannot be read, and it is the only one that is pulled, or the parser of
programs goes on from a state at that token. -/
theorem sourcePulls_cases (source : String) (path : Option String) :
    (∃ failure later, (Cursor.start source path).next = (.error failure, later) ∧
      parse source path = .error failure ∧ sourcePulls source path = [Cursor.start source path]) ∨
    ∃ state : State, (Cursor.start source path).next = (.ok state.current, state.cursor) ∧
      parse source path = (program.run state).1 ∧
      sourcePulls source path = Cursor.start source path :: pulls program state := by
  match hnext : (Cursor.start source path).next with
  | (.error failure, later) =>
    have hstart : State.start (Cursor.start source path) path = .error failure := by
      simp only [State.start, hnext]
    refine .inl ⟨failure, later, rfl, ?_, ?_⟩
    · rw [parse, hstart]
      rfl
    · rw [sourcePulls, hstart]
  | (.ok token, later) =>
    let state : State := ⟨token, later, path <|> (Cursor.start source path).path⟩
    have hstart : State.start (Cursor.start source path) path = .ok state := by
      simp only [State.start, hnext, state]
    refine .inr ⟨state, rfl, ?_, ?_⟩
    · rw [parse, hstart]
      rfl
    · rw [sourcePulls, hstart]

/-- How the parse of `source` ends, and what was pulled by then. The numbers that were left behind
are not too long. -/
inductive Outcome (source : String) (path : Option String) :
    Except (Failure SyntaxFault) Program → Prop
  /-- All tokens are pulled, up to the end of the input. -/
  | ok {program : Program} (hpulls : sourcePulls source path = (Cursor.start source path).calls)
      (hnone : (tokenize source path).failure = none)
      (hshort : ∀ token ∈ (tokenize source path).tokens, ¬token.Overlong) :
      Outcome source path (.ok program)
  /-- The token that is not expected is the last one that is pulled. -/
  | unexpected {expected : String} {found : Token} {place : Place} {count : Nat}
      (hfound : (tokenize source path).tokens[count]? = some found)
      (hpulls : sourcePulls source path = (Cursor.start source path).calls.take (count + 1))
      (hanswers : ((sourcePulls source path).map fun call => call.next.1) =
        ((tokenize source path).tokens.take (count + 1)).map .ok)
      (hshort : ∀ token ∈ (tokenize source path).tokens.take count, ¬token.Overlong) :
      Outcome source path (.error ⟨.unexpected expected found, place⟩)
  /-- The call that meets a character that starts no token is the last one of all. -/
  | unreadable {char : Char} {place : Place}
      (hpulls : sourcePulls source path = (Cursor.start source path).calls)
      (hfailure : (tokenize source path).failure = some ⟨.unreadable char, place⟩)
      (hshort : ∀ token ∈ (tokenize source path).tokens.dropLast, ¬token.Overlong) :
      Outcome source path (.error ⟨.unreadable char, place⟩)
  /-- One token is pulled behind the number that is too long, and that one is the first of all. -/
  | tooLong {number : Token} {count : Nat}
      (hnumber : (tokenize source path).tokens[count]? = some number) (hlong : number.Overlong)
      (hpulls : sourcePulls source path = (Cursor.start source path).calls.take (count + 2))
      (hanswers : ((sourcePulls source path).map fun call => call.next.1) =
        ((tokenize source path).tokens.take (count + 2)).map .ok)
      (hshort : ∀ token ∈ (tokenize source path).tokens.take count, ¬token.Overlong) :
      Outcome source path (.error number.tooLong)

section

variable {source : String} {path : Option String}

/-- Where the end of the input is reached, all tokens were pulled, and all but it are left behind.
-/
theorem Outcome.of_reaches
    (hnext : (Cursor.start source path).next = (.ok state.current, state.cursor))
    (h : ReachesShort state cursors final) (hkind : final.current.kind = .endOfInput)
    (hpulls : sourcePulls source path = Cursor.start source path :: cursors) (answer : Program) :
    Outcome source path (.ok answer) := by
  obtain ⟨hcalls, hnone⟩ := h.calls_eq hnext hkind
  obtain ⟨-, -, hlast, hshort⟩ := h.of_start hnext
  refine .ok (hpulls.trans hcalls.symm) hnone ?_
  have hlength : (tokenize source path).tokens.length = cursors.length + 1 := by
    have hanswers := congrArg List.length (Cursor.start source path).map_next_calls
    rw [hcalls, Scan.answers_eq hnone, List.length_map, List.length_map] at hanswers
    exact hanswers.symm
  rw [← List.take_of_length_le (Nat.le_of_eq hlength), List.take_add_one, tokenize, hlast]
  refine List.forall_mem_append.2 ⟨hshort, List.forall_mem_singleton.2 ?_⟩
  exact Token.not_overlong_of_kind_ne (by rw [hkind]; decide)

/-- Each way to be refused is the end of a parse. -/
theorem Outcome.of_refuses
    (hnext : (Cursor.start source path).next = (.ok state.current, state.cursor))
    (h : Refuses state cursors failure final)
    (hpulls : sourcePulls source path = Cursor.start source path :: cursors) :
    Outcome source path (.error failure) := by
  cases h with
  | unexpected expected hreaches =>
    obtain ⟨hcalls, hanswers, hfound, hshort⟩ := hreaches.of_start hnext
    refine .unexpected hfound ?_ (hpulls ▸ hanswers) hshort
    rw [hpulls, hcalls, ← List.length_cons, List.take_left]
  | @unreadable middle cursors _ cursor hreaches hkind hfail =>
    obtain ⟨char, hfault⟩ := Cursor.exists_fault_eq hfail
    obtain ⟨fault, place⟩ := failure
    obtain rfl : fault = .unreadable char := hfault
    obtain ⟨hcalls, hfailure⟩ := calls_eq_of_unreadable hnext hreaches hkind hfail
    obtain ⟨-, -, -, hshort⟩ := hreaches.of_start hnext
    refine .unreadable (hpulls.trans hcalls.symm) hfailure ?_
    have hlength : (Cursor.start source path).scan.tokens.length = cursors.length + 1 := by
      have hanswers := congrArg List.length (Cursor.start source path).map_next_calls
      rw [hcalls, Scan.answers, hfailure] at hanswers
      simpa using hanswers.symm
    rwa [tokenize, List.dropLast_eq_take, hlength, Nat.add_sub_cancel]
  | @tooLong middle cursors token cursor hreaches hlong hfound =>
    obtain ⟨-, -, hnumber, hshort⟩ := hreaches.of_start hnext
    have hkind : middle.current.kind ≠ .endOfInput := by
      rw [hlong.1]
      decide
    -- That the token behind the number is pulled, too, has nothing to do with its digits.
    have hbehind : Reaches (fun _ => True) state (cursors ++ [middle.cursor])
        { middle with current := token, cursor := cursor } :=
      (hreaches.mono fun _ _ => trivial).trans (.pull hkind trivial hfound (.refl _))
    obtain ⟨hcalls, hanswers, -, -⟩ := hbehind.of_start hnext
    rw [List.length_append, List.length_singleton] at hanswers
    refine .tooLong hnumber hlong ?_ (hpulls ▸ hanswers) hshort
    rw [hpulls, hcalls, List.take_left' (by simp)]

end

/-- The parse of each source ends in one of these ways. -/
theorem outcome_of_parse (source : String) (path : Option String) :
    Outcome source path (parse source path) := by
  rcases sourcePulls_cases source path with
    ⟨failure, later, hnext, hparse, hpulls⟩ | ⟨state, hnext, hparse, hpulls⟩
  -- The first token cannot be read.
  · obtain ⟨char, hfault⟩ := Cursor.exists_fault_eq hnext
    obtain ⟨fault, place⟩ := failure
    obtain rfl : fault = .unreadable char := hfault
    have hscan := Cursor.scan_of_error (by rw [hnext])
    rw [hparse]
    refine .unreadable ?_ ?_ ?_
    · rw [hpulls, Cursor.calls_of_error hnext]
    · rw [tokenize, hscan]
    · rw [tokenize, hscan]
      exact List.forall_mem_nil _
  · have hdraws := draws_program state
    rw [hparse]
    rcases hrun : program.run state with ⟨failure | answer, final⟩
    · exact .of_refuses hnext (hdraws.error hrun) hpulls
    · obtain ⟨hreaches, hkind⟩ := hdraws.ok hrun
      exact .of_reaches hnext hreaches hkind hpulls answer

end Parser

open Extraction.Parser (sourcePulls)

/-- To read a source is to ask for its tokens one after another, at most once for each character and
for the end of the input, and each time but the last some of the text is taken up. To parse a
program is to do just the same. Where a token is not expected, it is the last one that was pulled,
and where a character starts no token, nothing was pulled behind it. Where a number is too long, the
token behind it was pulled as well. -/
theorem pulled_once (source : String) (path : Option String) :
    let cursor := Cursor.start source path
    let tokens := (tokenize source path).tokens
    (cursor.calls.length ≤ source.length + 1 ∧
      cursor.calls = (List.range cursor.calls.length).map (fun count => cursor.after count) ∧
      (cursor.calls.map fun call => call.next.1) = (tokenize source path).answers ∧
      ∀ call ∈ cursor.calls,
        call.next.2.rest.length < call.rest.length ∨
          (∃ token, call.next.1 = .ok token ∧ token.kind = .endOfInput) ∨
            ∃ failure, call.next.1 = .error failure) ∧
    (∀ call ∈ cursor.calls.dropLast, ∃ token, call.next.1 = .ok token ∧ token.kind ≠ .endOfInput) ∧
    match parse source path with
    | .error failure =>
      match failure.fault with
      | .unexpected _ found =>
        ∃ count, tokens[count]? = some found ∧
          sourcePulls source path = cursor.calls.take (count + 1) ∧
          ((sourcePulls source path).map fun call => call.next.1) =
            (tokens.take (count + 1)).map .ok
      | .unreadable _ =>
        sourcePulls source path = cursor.calls ∧ (tokenize source path).failure = some failure
      | .tooLong _ =>
        ∃ count number, tokens[count]? = some number ∧ number.Overlong ∧
          failure = number.tooLong ∧
          sourcePulls source path = cursor.calls.take (count + 2) ∧
          ((sourcePulls source path).map fun call => call.next.1) =
            (tokens.take (count + 2)).map .ok
    | .ok _ =>
      sourcePulls source path = cursor.calls ∧
        ((sourcePulls source path).map fun call => call.next.1) = tokens.map .ok := by
  intro cursor tokens
  refine ⟨⟨?_, cursor.calls_eq_map_after, cursor.map_next_calls,
    fun call _ => call.length_rest_next_lt_or⟩, fun call => Cursor.exists_next_of_mem_dropLast, ?_⟩
  · rw [← String.length_toList]
    exact cursor.length_calls_le
  have houtcome := Parser.outcome_of_parse source path
  generalize parse source path = result at houtcome ⊢
  cases houtcome with
  | ok hpulls hnone _ =>
    refine ⟨hpulls, ?_⟩
    rw [hpulls, Cursor.map_next_calls, ← tokenize, Scan.answers_eq hnone]
  | @unexpected _ _ _ count hfound hpulls hanswers _ => exact ⟨count, hfound, hpulls, hanswers⟩
  | unreadable hpulls hfailure _ => exact ⟨hpulls, hfailure⟩
  | @tooLong number count hnumber hlong hpulls hanswers _ =>
    exact ⟨count, number, hnumber, hlong, rfl, hpulls, hanswers⟩

/-- The second equals sign is the last token that is pulled, though there are more. -/
example :
    (sourcePulls "x = = y" none).length = 3 ∧ (Cursor.start "x = = y" none).calls.length = 5 := by
  decide +kernel

end Extraction
