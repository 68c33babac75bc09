import Extraction.Cursor

/-!
# Parsers

A parser reads tokens with one token of look-ahead: it sees the current token, and pulls the
next one from a cursor when it takes it. What it leaves behind when it fails is kept as well.

* `Parser` is a parser that never gives input back: `State.size` measures what is left.
* `Parser.advance` takes the current token. If the next one cannot be read, it fails and the
  current token stays.
* `Parser.expect` takes a token of one kind.
* `Parser.collect` repeats a parser that takes a token in each round.
-/

namespace Extraction

/-- What a parser works on: the fields of a `Parser`. -/
structure Parser.State where
  /-- The token to be looked at next. -/
  current : Token
  /-- Where the token after it is read. -/
  cursor : Cursor
  /-- The path that failures and locations name. -/
  path : Option String

namespace Parser.State

/-- A bound on the number of tokens that can still be taken from `state`. -/
def size (state : State) : Nat :=
  state.cursor.rest.length + if state.current.kind = .endOfInput then 0 else 1

/-- The state in front of the first token of `cursor`. Without a `path` of its own a parser takes
the one of the cursor. -/
def start (cursor : Cursor) (path : Option String) : Except (Failure SyntaxFault) State :=
  match cursor.next with
  | (.ok token, cursor') => .ok ⟨token, cursor', path <|> cursor.path⟩
  | (.error failure, _) => .error failure

/-- The location of `token` (`Parser.loc`). -/
def locate (state : State) (token : Token) : Location := ⟨token.line, token.column, state.path⟩

/-- The failure at `token`, which stands where something `expected` is missing (`Parser.error`). -/
def failure (state : State) (expected : String) (token : Token) : Failure SyntaxFault :=
  ⟨.unexpected expected token, (state.locate token).place⟩

end Parser.State

/-- A parser: an answer or a failure, and the state that it leaves, in which no more input is
left than before. -/
structure Parser (α : Type) where
  /-- The answer to a state, and the state after it. -/
  run : Parser.State → Except (Failure SyntaxFault) α × Parser.State
  /-- A parser never gives input back. -/
  size_le : ∀ state, (run state).2.size ≤ state.size

namespace Parser

variable {α β : Type}

instance : Monad Parser where
  pure a := ⟨fun state => (.ok a, state), fun _ => Nat.le_refl _⟩
  bind p f :=
    { run := fun state =>
        match p.run state with
        | (.ok a, state') => (f a).run state'
        | (.error failure, state') => (.error failure, state')
      size_le := fun state => by
        have hp := p.size_le state
        split
        · rename_i a state' h
          rw [h] at hp
          exact Nat.le_trans ((f a).size_le state') hp
        · rename_i failure state' h
          rw [h] at hp
          exact hp }

@[simp]
theorem run_pure (a : α) (state : State) : (pure a : Parser α).run state = (.ok a, state) := rfl

/-- `p >>= f` goes on with `f` where `p` has stopped, and fails where `p` fails. -/
theorem run_bind (p : Parser α) (f : α → Parser β) (state : State) :
    (p >>= f).run state =
      match p.run state with
      | (.ok a, state') => (f a).run state'
      | (.error failure, state') => (.error failure, state') := rfl

/-- The current state. -/
def state : Parser State := ⟨fun state => (.ok state, state), fun _ => Nat.le_refl _⟩

/-- The current token (`Parser.peek`). -/
def peek : Parser Token := ⟨fun state => (.ok state.current, state), fun _ => Nat.le_refl _⟩

/-- Whether the current token is of the given `kind` (`Parser.at`). -/
def isAt (kind : Token.Kind) : Parser Bool :=
  ⟨fun state => (.ok (state.current.kind == kind), state), fun _ => Nat.le_refl _⟩

/-- The location of `token` in the source of the current state. -/
def locate (token : Token) : Parser Location :=
  ⟨fun state => (.ok (state.locate token), state), fun _ => Nat.le_refl _⟩

/-- Fails at the current token, because something `expected` is missing. -/
def unexpected (expected : String) : Parser α :=
  ⟨fun state => (.error (state.failure expected state.current), state), fun _ => Nat.le_refl _⟩

/-- Fails for the reason `fault`, which has no place. -/
def refuse (fault : SyntaxFault) : Parser α :=
  ⟨fun state => (.error ⟨fault, .unknown⟩, state), fun _ => Nat.le_refl _⟩

/-- Takes the current token, and asks the cursor for the next one (`Parser.advance`). Where the
cursor fails the current token stays. -/
def advance : Parser Token where
  run state :=
    match state.cursor.next with
    | (.ok token, cursor) => (.ok state.current, { state with current := token, cursor := cursor })
    | (.error failure, cursor) => (.error failure, { state with cursor := cursor })
  size_le state := by
    have hle := Cursor.length_rest_next_le state.cursor
    have hlt := @Cursor.length_rest_next_lt state.cursor
    split
    · rename_i token cursor h
      rw [h] at hle
      simp only [h, Except.ok.injEq, forall_eq'] at hlt
      dsimp only at hle hlt
      simp only [State.size]
      split
      · omega
      · rename_i hkind
        have := hlt hkind
        omega
    · rename_i failure cursor h
      rw [h] at hle
      dsimp only at hle
      simp only [State.size]
      omega

/-- Takes the current token if it is of the given `kind`, and fails at it otherwise
(`Parser.expect`). -/
def expect (kind : Token.Kind) : Parser Token := do
  if ← isAt kind then advance else unexpected kind.label

/-! ## Progress -/

/-- From `state`, the parser `p` succeeds only by taking some of the input. -/
def ProgressesFrom (p : Parser α) (state : State) : Prop :=
  ∀ a, (p.run state).1 = .ok a → (p.run state).2.size < state.size

/-- From every state, the parser `p` succeeds only by taking some of the input. -/
def Progresses (p : Parser α) : Prop := ∀ state, p.ProgressesFrom state

/-- The parser `p` serves for the rounds of a repetition: it answers nothing, or takes some of the
input. -/
def Advances (p : Parser (Option α)) : Prop :=
  ∀ state a, (p.run state).1 = .ok (some a) → (p.run state).2.size < state.size

/-- Taking the current token is progress, except at the end of the input. -/
theorem progressesFrom_advance {state : State} (h : state.current.kind ≠ .endOfInput) :
    advance.ProgressesFrom state := by
  intro token ht
  have hle := Cursor.length_rest_next_le state.cursor
  have hlt := @Cursor.length_rest_next_lt state.cursor
  unfold advance at ht ⊢
  dsimp only at ht ⊢
  split
  · rename_i token' cursor hnext
    rw [hnext] at hle
    simp only [hnext, Except.ok.injEq, forall_eq'] at hlt
    dsimp only at hle hlt
    simp only [State.size, h, if_false]
    split
    · omega
    · rename_i hkind
      have := hlt hkind
      omega
  · rename_i failure cursor hnext
    simp [hnext] at ht

/-- Progress of the first of two parsers is progress of both. -/
theorem ProgressesFrom.bind {p : Parser α} {state : State} (h : p.ProgressesFrom state)
    (f : α → Parser β) : (p >>= f).ProgressesFrom state := by
  intro b hb
  rw [run_bind] at hb ⊢
  split at hb
  · rename_i a state' hp
    have hlt := h a (by rw [hp])
    rw [hp] at hlt
    exact Nat.lt_of_le_of_lt ((f a).size_le state') hlt
  · simp at hb

/-- Taking a token of a kind is progress, unless that kind is the end of the input. -/
theorem progresses_expect {kind : Token.Kind} (h : kind ≠ .endOfInput) :
    (expect kind).Progresses := by
  intro state token ht
  simp only [expect, run_bind, isAt] at ht ⊢
  split at ht
  · rename_i hkind
    have hne : state.current.kind ≠ .endOfInput := by
      rw [beq_iff_eq] at hkind
      rwa [hkind]
    simp only [hkind, if_true]
    exact progressesFrom_advance hne token ht
  · simp [unexpected] at ht

/-- Progress of the first of two parsers is progress of both, from every state. -/
theorem Progresses.bind {p : Parser α} (h : p.Progresses) (f : α → Parser β) :
    (p >>= f).Progresses := fun state => (h state).bind f

/-- When the current token is of a kind that is not the end of the input, taking it is
progress, whatever follows. -/
theorem progressesFrom_advance_bind {kind : Token.Kind} (hkind : kind ≠ .endOfInput)
    (f : Token → Parser β) (state : State) (h : state.current.kind = kind) :
    (advance >>= f).ProgressesFrom state :=
  (progressesFrom_advance (h ▸ hkind)).bind f

/-- A look at the current token decides between two parsers that make progress; the first one
need do so only at a token of that kind. -/
theorem Progresses.ofIsAt {kind : Token.Kind} {p q : Parser α}
    (hp : ∀ state, state.current.kind = kind → p.ProgressesFrom state) (hq : q.Progresses) :
    (isAt kind >>= fun found => if found then p else q).Progresses := by
  intro state
  change (if state.current.kind == kind then p else q).ProgressesFrom state
  split
  · rename_i h
    exact hp state (eq_of_beq h)
  · exact hq state

/-- A parser that always fails makes progress whenever it succeeds. -/
theorem progresses_unexpected (expected : String) :
    (unexpected expected : Parser α).Progresses := by
  intro state a ha
  simp [unexpected] at ha

/-- A parser that makes progress serves for the rounds of a repetition. -/
theorem Progresses.advances {p : Parser (Option α)} (h : p.Progresses) : p.Advances :=
  fun state a ha => h state (some a) ha

/-- To answer nothing ends a repetition. -/
theorem advances_none : (pure none : Parser (Option α)).Advances := by
  intro state a ha
  simp at ha

/-- A round may start with a parser that makes no progress. -/
theorem advances_bind (p : Parser α) {f : α → Parser (Option β)} (h : ∀ a, (f a).Advances) :
    (p >>= f).Advances := by
  intro state b hb
  rw [run_bind] at hb ⊢
  split at hb
  · rename_i a state' hp
    have hle := p.size_le state
    rw [hp] at hle
    exact Nat.lt_of_lt_of_le (h a state' b hb) hle
  · simp at hb

/-- A round may take a token of a kind where one stands. -/
theorem advances_isAt {kind : Token.Kind} {p q : Parser (Option α)}
    (hp : ∀ state, state.current.kind = kind → p.ProgressesFrom state) (hq : q.Advances) :
    (isAt kind >>= fun found => if found then p else q).Advances := by
  intro state a
  change ((if state.current.kind == kind then p else q).run state).1 = .ok (some a) →
    ((if state.current.kind == kind then p else q).run state).2.size < state.size
  split
  · rename_i h
    exact hp state (eq_of_beq h) (some a)
  · exact hq state a

/-- A look at the current token decides between two ways through a round. -/
theorem advances_ite {found : Bool} {p q : Parser (Option α)}
    (hp : p.Advances) (hq : q.Advances) : (if found then p else q).Advances := by
  cases found
  · exact hq
  · exact hp

/-! ## Repetition -/

/-- The answers of `p`, round after round from `state`, until it answers nothing. -/
def collectFrom (p : Parser (Option α)) (h : p.Advances) (state : State) :
    Except (Failure SyntaxFault) (List α) × State :=
  match _hp : (p.run state).1 with
  | .ok (some a) =>
    match collectFrom p h (p.run state).2 with
    | (.ok as, state') => (.ok (a :: as), state')
    | (.error failure, state') => (.error failure, state')
  | .ok none => (.ok [], (p.run state).2)
  | .error failure => (.error failure, (p.run state).2)
termination_by state.size
decreasing_by exact h state a _hp

/-- A repetition gives no input back. -/
theorem size_collectFrom_le (p : Parser (Option α)) (h : p.Advances) (state : State) :
    (collectFrom p h state).2.size ≤ state.size := by
  fun_induction collectFrom p h state with
  | case1 state a hp as state' hrec ih =>
    rw [hrec] at ih
    exact Nat.le_trans ih (p.size_le state)
  | case2 state a hp failure state' hrec ih =>
    rw [hrec] at ih
    exact Nat.le_trans ih (p.size_le state)
  | case3 state hp => exact p.size_le state
  | case4 state failure hp => exact p.size_le state

/-- Repeats `p` until it answers nothing, and collects its answers. -/
def collect (p : Parser (Option α)) (h : p.Advances) : Parser (List α) :=
  ⟨collectFrom p h, size_collectFrom_le p h⟩

end Parser

end Extraction
