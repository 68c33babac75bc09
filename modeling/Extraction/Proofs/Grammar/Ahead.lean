import Extraction.Parser.Grammar
import Extraction.Proofs.Grammar.Derivation
import Extraction.Proofs.Lexing.Scan

/-!
# Parsers on rows of tokens

What a parser does is told in terms of the tokens in front of it, without a look at the source that
they are read from.

* `Parser.Ahead` are the tokens between a state and the end of the input, or the character that
  starts no token. `Parser.Course` tells the states on the way there.
* `Parser.Ensures` says what holds when a parser succeeds, and that it otherwise fails at a token
  that stands where another one is expected, or at a number that is too long. `Parser.ensures_bind`
  and `Parser.ensures_collect` are the rules for sequences and repetitions.
* `Parser.ahead_of_start` and `Parser.ahead_start` give the tokens in front of a parser that starts
  at a cursor, or at the start of a source.
-/

namespace Extraction

namespace Cursor

/-- The tokens of `scan` in front of the end of the input, or else of the character that starts no
token. -/
def Scan.front (scan : Scan) : List Token :=
  if scan.failure.isNone then scan.tokens.dropLast else scan.tokens

/-- A token that is read first is in front of the end of the input. -/
theorem Scan.front_cons {scan : Scan} {token : Token}
    (h : scan.failure = none → scan.tokens ≠ []) :
    front { scan with tokens := token :: scan.tokens } = token :: scan.front := by
  simp only [front]
  split
  · rename_i hnone
    rw [List.dropLast_cons_of_ne_nil (h (by simpa using hnone))]
  · rfl

/-- Tokens that are read first are in front of the end of the input. -/
theorem Scan.front_append (scan : Scan) (before : List Token)
    (h : scan.failure = none → scan.tokens ≠ []) :
    front { scan with tokens := before ++ scan.tokens } = before ++ scan.front := by
  induction before with
  | nil => rfl
  | cons token before ih =>
    have hcons := @front_cons { scan with tokens := before ++ scan.tokens } token fun hend =>
      List.append_ne_nil_of_right_ne_nil before (h hend)
    exact hcons.trans (congrArg (List.cons token) ih)

/-- In front of a character that starts no token there is no end of the input. -/
theorem Scan.front_eq_tokens {scan : Scan} {failure : Failure SyntaxFault}
    (h : scan.failure = some failure) : scan.front = scan.tokens := by
  rw [front, h]
  rfl

/-- The tokens in front of the end of the input are the first ones. -/
theorem Scan.front_prefix_tokens (scan : Scan) : scan.front <+: scan.tokens := by
  rw [front]
  split
  · exact List.dropLast_prefix _
  · exact List.prefix_rfl

/-- A source that is read without a failure ends with the end of the input. -/
theorem scan_tokens_eq {cursor : Cursor} (h : cursor.scan.failure = none) :
    ∃ stop : Token, cursor.scan.tokens = cursor.scan.front ++ [stop] ∧
      stop.kind = .endOfInput := by
  fun_induction scan cursor with
  | case1 cursor failure hnext => simp at h
  | case2 cursor token hnext hkind => exact ⟨token, rfl, hkind⟩
  | case3 cursor token hnext hkind later ih =>
    obtain ⟨stop, htokens, hstop⟩ := ih h
    refine ⟨stop, ?_, hstop⟩
    rw [Scan.front_cons fun _ => by rw [htokens]; simp]
    simp only [List.cons_append, later, ← htokens]

/-- A reading that has not failed has at least the end of the input among its tokens. -/
theorem scan_tokens_ne_nil {cursor : Cursor} (h : cursor.scan.failure = none) :
    cursor.scan.tokens ≠ [] := by
  obtain ⟨stop, htokens, -⟩ := scan_tokens_eq h
  rw [htokens]
  simp

end Cursor

/-- The failure at `number` if it has too many digits. It tells no place. -/
def Token.tooLong (number : Token) : Failure SyntaxFault :=
  ⟨.tooLong number.text.length, .unknown⟩

namespace Parser

open Token (nextKind)
open Extraction.Derivation (Leaf)

/-! ## Tokens ahead -/

/-- The way of a parser through a source. -/
structure Course where
  /-- The failure at a character that starts no token, if the way ends there. -/
  failure : Option (Failure SyntaxFault)
  /-- The state that has a number of tokens ahead. -/
  states : Nat → State

variable {α β : Type} {path : Option String} {course : Course} {tokens rest : List Token}
  {state : State}

/-- The tokens from a state on are the given ones, and then the input ends, or else a character that
starts no token is met. The state is on `course`, and names `path`. -/
def Ahead (path : Option String) (course : Course) : List Token → State → Prop
  | [], state =>
    state.path = path ∧ state.current.kind = .endOfInput ∧ course.failure = none ∧
      course.states 0 = state
  | token :: rest, state =>
    state.path = path ∧ state.current = token ∧ token.kind ≠ .endOfInput ∧
      course.states (rest.length + 1) = state ∧
        ((∃ next cursor, state.cursor.next = (.ok next, cursor) ∧
            Ahead path course rest { state with current := next, cursor := cursor }) ∨
          ∃ failure cursor, state.cursor.next = (.error failure, cursor) ∧ rest = [] ∧
            course.failure = some failure)

theorem Ahead.path_eq (h : Ahead path course tokens state) : state.path = path := by
  cases tokens <;> exact h.1

/-- The tokens ahead tell the state. -/
theorem Ahead.state_eq (h : Ahead path course tokens state) :
    course.states tokens.length = state := by
  cases tokens with
  | nil => exact h.2.2.2
  | cons token rest => exact h.2.2.2.1

theorem Ahead.current_kind (h : Ahead path course tokens state) :
    state.current.kind = nextKind tokens := by
  cases tokens with
  | nil => exact h.2.1
  | cons token rest => rw [h.2.1, nextKind]

theorem Ahead.locate_eq (h : Ahead path course tokens state) (token : Token) :
    state.locate token = token.location path := by
  rw [State.locate, Token.location, h.path_eq]

/-- To take a token leaves those behind it, or fails where there are none and the input does not
end. -/
theorem Ahead.advance {token : Token} (h : Ahead path course (token :: rest) state) :
    (∃ state', advance.run state = (.ok token, state') ∧ Ahead path course rest state') ∨
      ∃ failure state', advance.run state = (.error failure, state') ∧ rest = [] ∧
        course.failure = some failure := by
  obtain ⟨-, hcurrent, -, -, ⟨next, cursor, hnext, hrest⟩ | ⟨failure, cursor, hnext, hend⟩⟩ := h
  · refine .inl ⟨{ state with current := next, cursor := cursor }, ?_, hrest⟩
    simp only [Parser.advance, hnext, hcurrent]
  · refine .inr ⟨failure, { state with cursor := cursor }, ?_, hend⟩
    simp only [Parser.advance, hnext]

/-- Where a token of a kind comes next, there are tokens ahead. -/
theorem Ahead.exists_cons {kind : Token.Kind} (hne : kind ≠ .endOfInput)
    (hkind : nextKind tokens = kind) :
    ∃ (leaf : Leaf kind) (rest : List Token), tokens = leaf.token :: rest := by
  cases tokens with
  | nil => exact absurd hkind.symm hne
  | cons token rest => exact ⟨⟨token, hkind⟩, rest, rfl⟩

/-- A course matters as far as there are tokens ahead. -/
theorem Ahead.congr {failure : Option (Failure SyntaxFault)} {states states' : Nat → State}
    (h : Ahead path ⟨failure, states⟩ tokens state)
    (heq : ∀ n ≤ tokens.length, states' n = states n) :
    Ahead path ⟨failure, states'⟩ tokens state := by
  induction tokens generalizing state with
  | nil =>
    obtain ⟨hpath, hkind, hend, hstate⟩ := h
    exact ⟨hpath, hkind, hend, (heq 0 (Nat.zero_le _)).trans hstate⟩
  | cons token rest ih =>
    obtain ⟨hpath, hcurrent, hkind, hstate, hrest⟩ := h
    refine ⟨hpath, hcurrent, hkind, (heq _ (Nat.le_refl _)).trans hstate, ?_⟩
    rcases hrest with ⟨next, cursor, hnext, hrest⟩ | hend
    · exact .inl ⟨next, cursor, hnext, ih hrest fun n hle => heq n (Nat.le_succ_of_le hle)⟩
    · exact .inr hend

/-- The tokens that a cursor reads are ahead of a state at the first of them, and the end of the
input is the last one of them. -/
theorem ahead_scan {cursor later : Cursor} {token : Token}
    (h : cursor.next = (.ok token, later)) :
    ∃ states, Ahead path ⟨cursor.scan.failure, states⟩ cursor.scan.front ⟨token, later, path⟩ ∧
      (cursor.scan.failure = none →
        cursor.scan.tokens = cursor.scan.front ++ [(states 0).current]) := by
  fun_induction Cursor.scan cursor generalizing token later with
  | case1 cursor failure hnext =>
    rw [h] at hnext
    cases hnext
  | case2 cursor token' hnext hkind =>
    rw [h] at hnext
    cases hnext
    exact ⟨fun _ => ⟨token', later, path⟩, ⟨rfl, hkind, rfl, rfl⟩, fun _ => rfl⟩
  | case3 cursor token' hnext hkind scan =>
    rename_i ih
    simp only [scan, h] at hnext ih ⊢
    cases hnext
    -- A parser holds one token and has the cursor behind it, so it is one token ahead.
    rw [Cursor.Scan.front_cons Cursor.scan_tokens_ne_nil]
    rcases hlater : later.next with ⟨failure | next, behind⟩
    · rw [Cursor.scan_of_error (by rw [hlater])]
      exact ⟨fun _ => ⟨token', later, path⟩,
        ⟨rfl, rfl, hkind, rfl, .inr ⟨failure, behind, hlater, rfl, rfl⟩⟩, fun hend => by cases hend⟩
    · obtain ⟨states, hrest, hlast⟩ := ih hlater
      refine ⟨fun n => if n = later.scan.front.length + 1 then ⟨token', later, path⟩ else states n,
        ⟨rfl, rfl, hkind, if_pos rfl, .inl ⟨next, behind, hlater, hrest.congr fun n hle => ?_⟩⟩,
        fun hend => ?_⟩
      · exact if_neg (Nat.ne_of_lt (Nat.lt_succ_of_le hle))
      · rw [hlast hend]
        rfl

/-- Where the input ends, there are no tokens ahead. -/
theorem Ahead.eq_nil (h : Ahead path course tokens state) (hkind : nextKind tokens = .endOfInput) :
    tokens = [] := by
  cases tokens with
  | nil => rfl
  | cons token rest => exact absurd hkind h.2.2.1

/-- The row `behind` a statement is left as `rest`, without the line break that ends the line. At
the end of the input there is none. -/
def EndsIn (behind rest : List Token) : Prop :=
  behind = [] ∧ rest = [] ∨ ∃ leaf : Leaf .newline, behind = leaf.token :: rest

/-- A parser starts at the first token of its cursor. -/
theorem start_of_ok {cursor later : Cursor} {token : Token} (hpath : cursor.path = path)
    (hnext : cursor.next = (.ok token, later)) :
    State.start cursor path = .ok ⟨token, later, path⟩ := by
  have hor : (path <|> cursor.path) = path := by
    rw [hpath]
    cases path <;> rfl
  simp only [State.start, hnext, hor]

theorem start_of_error {cursor later : Cursor} {failure : Failure SyntaxFault}
    (hnext : cursor.next = (.error failure, later)) : State.start cursor path = .error failure := by
  simp only [State.start, hnext]

/-- A parser in front of the first token that a cursor reads has its tokens ahead. -/
theorem ahead_of_start {cursor : Cursor} (hpath : cursor.path = path)
    (h : State.start cursor path = .ok state) :
    ∃ states, Ahead path ⟨cursor.scan.failure, states⟩ cursor.scan.front state ∧
      (cursor.scan.failure = none →
        cursor.scan.tokens = cursor.scan.front ++ [(states 0).current]) := by
  match hnext : cursor.next with
  | (.ok token, later) =>
    rw [start_of_ok hpath hnext] at h
    cases h
    exact ahead_scan hnext
  | (.error failure, later) =>
    rw [start_of_error hnext] at h
    cases h

/-- A parser at the start of a source has its tokens ahead, unless none can be read. -/
theorem ahead_start (source : String) (path : Option String) :
    (∃ state course, State.start (Cursor.start source path) path = .ok state ∧
      course.failure = (tokenize source path).failure ∧
      (course.failure = none → (tokenize source path).tokens =
        (tokenize source path).front ++ [(course.states 0).current]) ∧
        Ahead path course (tokenize source path).front state) ∨
      ∃ failure, State.start (Cursor.start source path) path = .error failure ∧
        (tokenize source path).tokens = [] ∧ (tokenize source path).failure = some failure := by
  match hnext : (Cursor.start source path).next with
  | (.ok token, later) =>
    have hstart := start_of_ok rfl hnext
    obtain ⟨states, hahead, hlast⟩ := ahead_of_start rfl hstart
    exact .inl ⟨_, _, hstart, rfl, hlast, hahead⟩
  | (.error failure, later) =>
    refine .inr ⟨failure, start_of_error hnext, ?_⟩
    rw [tokenize, Cursor.scan_of_error (by rw [hnext])]
    exact ⟨rfl, rfl⟩

/-! ## What success ensures -/

/-- The `failure` is at a token that stands where something else is expected. -/
def IsUnexpected (failure : Failure SyntaxFault) : Prop :=
  ∃ expected found, failure.fault = .unexpected expected found

/-- The `failure` is about a number with too many digits. -/
def IsTooLong (failure : Failure SyntaxFault) : Prop := ∃ count, failure.fault = .tooLong count

/-- From `state`, the parser `p` either succeeds with an answer and a state that are `good`, or
fails at an unexpected token, at a number that is too long, or with the failure behind the tokens
ahead. -/
structure Ensures (p : Parser α) (course : Course) (state : State)
    (good : α → State → Prop) : Prop where
  /-- What success comes with. -/
  ok : ∀ {a state'}, p.run state = (.ok a, state') → good a state'
  /-- What failure is. -/
  error : ∀ {failure state'}, p.run state = (.error failure, state') →
    IsUnexpected failure ∨ IsTooLong failure ∨ course.failure = some failure

variable {good good' : α → State → Prop}

theorem ensures_pure {a : α} (h : good a state) :
    (pure a : Parser α).Ensures course state good where
  ok hrun := by
    cases hrun
    exact h
  error hrun := by cases hrun

/-- `unexpected` never succeeds, and its failure is at an unexpected token. -/
theorem ensures_unexpected (expected : String) :
    (unexpected expected : Parser α).Ensures course state good where
  ok hrun := by cases hrun
  error hrun := by
    cases hrun
    exact .inl ⟨expected, state.current, rfl⟩

/-- What is ensured by `p` and then by `f` is ensured by `p >>= f`. -/
theorem ensures_bind {p : Parser α} {f : α → Parser β} {good : β → State → Prop}
    (h : p.Ensures course state fun a state' => (f a).Ensures course state' good) :
    (p >>= f).Ensures course state good := by
  constructor
  · intro b final hrun
    rw [run_bind] at hrun
    split at hrun
    · rename_i a state' hp
      exact (h.ok hp).ok hrun
    · cases hrun
  · intro failure final hrun
    rw [run_bind] at hrun
    split at hrun
    · rename_i a state' hp
      exact (h.ok hp).error hrun
    · rename_i failure' state' hp
      cases hrun
      exact h.error hp

/-- What is ensured may be weakened. -/
theorem Ensures.mono {p : Parser α} (h : p.Ensures course state good)
    (hgood : ∀ a state', good a state' → good' a state') : p.Ensures course state good' where
  ok hrun := hgood _ _ (h.ok hrun)
  error := h.error

/-- To look at the kind of the current token is to look at the first token ahead. -/
theorem ensures_isAt {kind : Token.Kind} {f : Bool → Parser α} (h : Ahead path course tokens state)
    (hf : (f (nextKind tokens == kind)).Ensures course state good) :
    (isAt kind >>= f).Ensures course state good := by
  rw [← h.current_kind] at hf
  exact ⟨hf.ok, hf.error⟩

/-- `Parser.state` answers with the state. -/
theorem ensures_state {good : State → State → Prop} (h : good state state) :
    Parser.state.Ensures course state good where
  ok hrun := by
    cases hrun
    exact h
  error hrun := by cases hrun

/-- `locate` answers with the location of `token` in the path of the program. -/
theorem ensures_locate {token : Token} {f : Location → Parser α}
    (h : Ahead path course tokens state)
    (hf : (f (token.location path)).Ensures course state good) :
    (locate token >>= f).Ensures course state good := by
  rw [← h.locate_eq] at hf
  exact ⟨hf.ok, hf.error⟩

/-- `advance` takes the next token ahead, or fails behind it. -/
theorem ensures_advance {token : Token} {good : Token → State → Prop}
    (h : Ahead path course (token :: rest) state)
    (hgood : ∀ state', Ahead path course rest state' → good token state') :
    advance.Ensures course state good := by
  rcases h.advance with ⟨state', hrun, hrest⟩ | ⟨failure, state', hrun, -, hend⟩
  · constructor
    · intro a final hfinal
      cases hrun.symm.trans hfinal
      exact hgood state' hrest
    · intro failure final hfinal
      cases hrun.symm.trans hfinal
  · constructor
    · intro a final hfinal
      cases hrun.symm.trans hfinal
    · intro failure' final hfinal
      cases hrun.symm.trans hfinal
      exact .inr (.inr hend)

/-- `expect` takes the next token ahead, which is of the kind, or fails. -/
theorem ensures_expect {kind : Token.Kind} {good : Token → State → Prop}
    (hne : kind ≠ .endOfInput) (h : Ahead path course tokens state)
    (hgood : ∀ (leaf : Leaf kind) rest state', tokens = leaf.token :: rest →
      Ahead path course rest state' → good leaf.token state') :
    (expect kind).Ensures course state good := by
  refine ensures_isAt h ?_
  split
  · rename_i hkind
    obtain ⟨leaf, rest, rfl⟩ := Ahead.exists_cons hne (eq_of_beq hkind)
    exact ensures_advance h fun state' hrest => hgood leaf rest state' rfl hrest
  · exact ensures_unexpected _

/-- A number with few digits is read as what it denotes. -/
theorem number_eq_pure (leaf : Leaf .integer) (h : ¬leaf.token.Overlong) :
    number leaf.token.text.toList = pure leaf.number := by
  rw [leaf.overlong_iff, Nat.not_lt] at h
  rw [number, Text.decimal?, if_pos h]
  rfl

/-- A number with too many digits is refused. -/
theorem number_eq_refuse (leaf : Leaf .integer) (h : leaf.token.Overlong) :
    number leaf.token.text.toList = refuse (.tooLong leaf.token.text.length) := by
  rw [leaf.overlong_iff] at h
  rw [number, Text.decimal?, if_neg (Nat.not_le.2 h), String.length_toList]

/-- `number` answers with the number that `leaf` stands for, or fails because that is too long. -/
theorem ensures_number {leaf : Leaf .integer} {good : Int → State → Prop}
    (h : good leaf.number state) :
    (number leaf.token.text.toList).Ensures course state good := by
  by_cases hlong : leaf.token.Overlong
  · rw [number_eq_refuse leaf hlong]
    constructor
    · intro a final hrun
      cases hrun
    · intro failure final hrun
      cases hrun
      exact .inr (.inl ⟨_, rfl⟩)
  · rw [number_eq_pure leaf hlong]
    exact ensures_pure h

/-- A repetition ensures what is so when it ends, and stays so when one more answer is put in
front. -/
theorem ensures_collect {p : Parser (Option α)} {hp : p.Advances}
    (good : List Token → List α → State → Prop)
    (hround : ∀ tokens state, Ahead path course tokens state →
      p.Ensures course state fun a? state' =>
      match a? with
      | none => good tokens [] state'
      | some a => ∃ rest, Ahead path course rest state' ∧
          ∀ as final, good rest as final → good tokens (a :: as) final)
    (h : Ahead path course tokens state) : (collect p hp).Ensures course state (good tokens) := by
  constructor
  -- Both inductions are on the rounds, from the first one on: what the later rounds come to is
  -- known before the answer of this one is put in front.
  · intro as final hrun
    change collectFrom p hp state = (.ok as, final) at hrun
    fun_induction collectFrom p hp state generalizing tokens as final with
    | case1 state a hfirst later state' hlater ih =>
      cases hrun
      obtain ⟨rest, hrest, hcons⟩ := (hround tokens state h).ok (Prod.ext hfirst rfl)
      exact hcons _ _ (ih hrest hlater)
    | case2 => cases hrun
    | case3 state hfirst =>
      cases hrun
      exact (hround tokens state h).ok (Prod.ext hfirst rfl)
    | case4 => cases hrun
  · intro failure final hrun
    change collectFrom p hp state = (.error failure, final) at hrun
    fun_induction collectFrom p hp state generalizing tokens failure final with
    | case1 => cases hrun
    | case2 state a hfirst failure' state' hlater ih =>
      cases hrun
      obtain ⟨rest, hrest, -⟩ := (hround tokens state h).ok (Prod.ext hfirst rfl)
      exact ih hrest hlater
    | case3 => cases hrun
    | case4 state failure' hfirst =>
      cases hrun
      exact (hround tokens state h).error (Prod.ext hfirst rfl)

end Parser

end Extraction
