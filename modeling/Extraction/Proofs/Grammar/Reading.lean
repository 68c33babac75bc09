import Extraction.Proofs.Grammar.Ahead

/-!
# Reading a row of tokens

What a parser does in front of a row of tokens that need not be known to its end. It does what it
does in front of the whole row, unless it goes beyond the tokens that are known.

* `Parser.Along` says that a row is what a parser has in front of it, up to a limit.
* `Parser.Reads` says that a parser succeeds, with which answer, and what it leaves, unless it is
  `Parser.Lost` beyond the limit.
* `Parser.Ahead.along` is a row that is known to its end, and `Parser.Ahead.along_prefix` one of
  which a part is known.
-/

namespace Extraction.Parser

open Token (nextKind)
open Extraction.Derivation (Leaf)

variable {α β : Type} {path : Option String} {course : Course} {limit : Option Nat}
  {tokens rest : List Token} {state : State}

/-! ## Limits -/

/-- With `outcome`, a parser has gone beyond the `limit`: there is less left than at the limit, or a
character was met that starts no token, or a number that is too long. -/
def Lost (limit : Option Nat) (outcome : Except (Failure SyntaxFault) α × State) : Prop :=
  ∃ size, limit = some size ∧ (outcome.2.size < size ∨
    ∃ failure, outcome.1 = .error failure ∧ ¬IsUnexpected failure)

/-- Where a parser has succeeded beyond the limit, whatever leaves no more than it is lost. -/
theorem Lost.of_ok {a : α} {outcome : Except (Failure SyntaxFault) β × State}
    (h : Lost limit ((.ok a : Except (Failure SyntaxFault) α), state))
    (hle : outcome.2.size ≤ state.size) : Lost limit outcome := by
  obtain ⟨size, hlimit, hlt | ⟨failure, hfailure, -⟩⟩ := h
  · exact ⟨size, hlimit, .inl (Nat.lt_of_le_of_lt hle hlt)⟩
  · cases hfailure

/-- Where a parser has failed beyond the limit, so has one that ends with this failure. -/
theorem Lost.of_error {failure : Failure SyntaxFault}
    (h : Lost limit ((.error failure : Except (Failure SyntaxFault) α), state)) :
    Lost limit ((.error failure : Except (Failure SyntaxFault) β), state) := by
  obtain ⟨size, hlimit, hlost⟩ := h
  refine ⟨size, hlimit, hlost.imp_right ?_⟩
  rintro ⟨other, hfailure, hunexpected⟩
  cases hfailure
  exact ⟨failure, rfl, hunexpected⟩

/-- A parser that is lost stays so, whatever it does next. -/
theorem Lost.bind {p : Parser α} (h : Lost limit (p.run state)) (f : α → Parser β) :
    Lost limit ((p >>= f).run state) := by
  rw [run_bind]
  match hrun : p.run state with
  | (.ok a, state') =>
    rw [hrun] at h
    exact h.of_ok ((f a).size_le state')
  | (.error failure, state') =>
    rw [hrun] at h
    exact h.of_error

section

variable {p : Parser (Option α)} {hp : p.Advances} {a : α} {state' : State}

/-- A repetition ends with the round that answers nothing. -/
theorem run_collect_none (h : p.run state = (.ok none, state')) :
    (collect p hp).run state = (.ok [], state') := by
  change collectFrom p hp state = _
  rw [collectFrom]
  split <;> simp_all

/-- A repetition fails with the round that fails. -/
theorem run_collect_error {failure : Failure SyntaxFault}
    (h : p.run state = (.error failure, state')) :
    (collect p hp).run state = (.error failure, state') := by
  change collectFrom p hp state = _
  rw [collectFrom]
  split <;> simp_all

/-- A repetition goes on behind a round that answers, and keeps the answer. -/
theorem run_collect_some (h : p.run state = (.ok (some a), state')) :
    (collect p hp).run state =
      match (collect p hp).run state' with
      | (.ok as, final) => (.ok (a :: as), final)
      | (.error failure, final) => (.error failure, final) := by
  change collectFrom p hp state = match collectFrom p hp state' with
    | (.ok as, final) => (.ok (a :: as), final)
    | (.error failure, final) => (.error failure, final)
  rw [collectFrom]
  split
  · rename_i b hfirst
    rw [h] at hfirst
    cases hfirst
    obtain rfl : (p.run state).2 = state' := by rw [h]
    rfl
  · rename_i hfirst
    rw [h] at hfirst
    cases hfirst
  · rename_i failure hfirst
    rw [h] at hfirst
    cases hfirst

/-- A repetition that is lost in its first round stays so. -/
theorem Lost.collect (h : Lost limit (p.run state)) : Lost limit ((collect p hp).run state) := by
  match hrun : p.run state with
  | (.ok none, state') =>
    rw [hrun] at h
    rw [run_collect_none hrun]
    exact h.of_ok (Nat.le_refl _)
  | (.error failure, state') =>
    rw [hrun] at h
    rw [run_collect_error hrun]
    exact h.of_error
  | (.ok (some a), state') =>
    rw [hrun] at h
    refine h.of_ok ?_
    have hle := (Parser.collect p hp).size_le state'
    rw [run_collect_some hrun]
    match hlater : (Parser.collect p hp).run state' with
    | (.ok as, final) => rwa [hlater] at hle
    | (.error failure, final) => rwa [hlater] at hle

/-- A repetition that is lost in a later round is lost. -/
theorem Lost.collect_some (hrun : p.run state = (.ok (some a), state'))
    (h : Lost limit ((Parser.collect p hp).run state')) :
    Lost limit ((Parser.collect p hp).run state) := by
  rw [run_collect_some hrun]
  match hlater : (Parser.collect p hp).run state' with
  | (.ok as, final) =>
    rw [hlater] at h
    exact h.of_ok (Nat.le_refl _)
  | (.error failure, final) =>
    rw [hlater] at h
    exact h.of_error

end

/-! ## Rows up to a limit -/

/-- The tokens from a state on are the given ones up to `limit`, and if that is not met, the input
ends behind them. Without a limit no number among them is too long. The state names `path`. -/
def Along (path : Option String) (limit : Option Nat) : List Token → State → Prop
  | [], state => state.path = path ∧ state.current.kind = .endOfInput
  | token :: rest, state =>
    state.path = path ∧ state.current = token ∧ (limit = none → ¬token.Overlong) ∧
      ((∃ state', advance.run state = (.ok token, state') ∧ Along path limit rest state') ∨
        Lost limit (advance.run state))

theorem Along.path_eq (h : Along path limit tokens state) : state.path = path := by
  cases tokens <;> exact h.1

theorem Along.current_kind (h : Along path limit tokens state) :
    state.current.kind = nextKind tokens := by
  cases tokens with
  | nil => exact h.2
  | cons token rest => rw [h.2.1, nextKind]

theorem Along.locate_eq (h : Along path limit tokens state) (token : Token) :
    state.locate token = token.location path := by
  rw [State.locate, Token.location, h.path_eq]

/-- A row that is known to its end is what is in front of a parser, up to any limit. Without a limit
the numbers have to be short enough. -/
theorem Ahead.along (h : Ahead path course tokens state) (hend : course.failure = none)
    (hshort : limit = none → ∀ token ∈ tokens, ¬token.Overlong) :
    Along path limit tokens state := by
  induction tokens generalizing state with
  | nil => exact ⟨h.1, h.2.1⟩
  | cons token rest ih =>
    refine ⟨h.path_eq, h.2.1, fun hnone => hshort hnone token List.mem_cons_self, .inl ?_⟩
    rcases h.advance with ⟨state', hrun, hrest⟩ | ⟨failure, state', -, -, hfailure⟩
    · exact ⟨state', hrun, ih hrest fun hnone => (List.forall_mem_cons.1 (hshort hnone)).2⟩
    · rw [hend] at hfailure
      cases hfailure

/-- A character that starts no token makes no unexpected token. -/
theorem not_isUnexpected_of_next {cursor cursor' : Cursor} {failure : Failure SyntaxFault}
    (h : cursor.next = (.error failure, cursor')) : ¬IsUnexpected failure := by
  unfold Cursor.next at h
  dsimp only at h
  split at h
  · cases h
  · split at h
    · cases h
    · cases h
      rintro ⟨expected, found, hfault⟩
      cases hfault

/-- A parser that takes a token is lost beyond it, if the limit is set there. -/
theorem lost_advance (hkind : state.current.kind ≠ .endOfInput) :
    Lost (some state.size) (advance.run state) := by
  refine ⟨state.size, rfl, ?_⟩
  have hprogress := progressesFrom_advance hkind
  match hnext : state.cursor.next with
  | (.ok token, cursor) => exact .inl (hprogress state.current (by simp only [advance, hnext]))
  | (.error failure, cursor) =>
    exact .inr ⟨failure, by simp only [advance, hnext], not_isUnexpected_of_next hnext⟩

/-- A row that shares its first tokens with what is in front of a parser is as good as that, up to
the last token that is shared. -/
theorem Ahead.along_prefix {before after : List Token} {token : Token}
    (h : Ahead path course (before ++ token :: rest) state) :
    Along path (some (course.states (rest.length + 1)).size) (before ++ token :: after) state := by
  induction before generalizing state with
  -- The rows part behind this token, so the limit is met when it is taken.
  | nil =>
    obtain ⟨hpath, hcurrent, hkind, hstate, -⟩ := h
    refine ⟨hpath, hcurrent, nofun, .inr ?_⟩
    rw [hstate]
    exact lost_advance (by rwa [hcurrent])
  | cons first before ih =>
    refine ⟨h.path_eq, h.2.1, nofun, .inl ?_⟩
    rcases h.advance with ⟨state', hrun, hrest⟩ | ⟨failure, state', -, hnil, -⟩
    · exact ⟨state', hrun, ih hrest⟩
    · simp at hnil

/-! ## What is read -/

/-- From `state`, the parser `p` succeeds with the answer `a`, and leaves the tokens `rest`, unless
it goes beyond the `limit`. -/
def Reads (path : Option String) (limit : Option Nat) (p : Parser α) (state : State) (a : α)
    (rest : List Token) : Prop :=
  (∃ state', p.run state = (.ok a, state') ∧ Along path limit rest state') ∨
    Lost limit (p.run state)

theorem reads_pure {a : α} (h : Along path limit rest state) :
    Reads path limit (pure a) state a rest :=
  .inl ⟨state, rfl, h⟩

/-- What `p` and `f` read one after the other, `p >>= f` reads. -/
theorem reads_bind {p : Parser α} {f : α → Parser β} {a : α} {b : β} {mid : List Token}
    (hp : Reads path limit p state a mid)
    (hf : ∀ state', Along path limit mid state' → Reads path limit (f a) state' b rest) :
    Reads path limit (p >>= f) state b rest := by
  rcases hp with ⟨state', hrun, hmid⟩ | hlost
  · have hbind : (p >>= f).run state = (f a).run state' := by rw [run_bind, hrun]
    rw [Reads, hbind]
    exact hf state' hmid
  · exact .inr (hlost.bind f)

/-- Where a token of a kind comes next, a look for it leads the one way. -/
theorem reads_isAt_pos {kind : Token.Kind} {p q : Parser α} {a : α}
    (h : Along path limit tokens state)
    (hkind : nextKind tokens = kind) (hp : Reads path limit p state a rest) :
    Reads path limit (isAt kind >>= fun found => if found then p else q) state a rest := by
  have hrun : (isAt kind >>= fun found => if found then p else q).run state = p.run state := by
    change (if state.current.kind == kind then p else q).run state = _
    rw [if_pos (beq_iff_eq.2 (h.current_kind.trans hkind))]
  rwa [Reads, hrun]

/-- Where another token comes next, a look for a kind leads the other way. -/
theorem reads_isAt_neg {kind : Token.Kind} {p q : Parser α} {a : α}
    (h : Along path limit tokens state)
    (hkind : nextKind tokens ≠ kind) (hq : Reads path limit q state a rest) :
    Reads path limit (isAt kind >>= fun found => if found then p else q) state a rest := by
  have hrun : (isAt kind >>= fun found => if found then p else q).run state = q.run state := by
    change (if state.current.kind == kind then p else q).run state = _
    rw [if_neg (fun heq => hkind (h.current_kind.symm.trans (beq_iff_eq.1 heq)))]
  rwa [Reads, hrun]

theorem reads_locate {token : Token} {f : Location → Parser α} {a : α}
    (h : Along path limit tokens state)
    (hf : Reads path limit (f (token.location path)) state a rest) :
    Reads path limit (locate token >>= f) state a rest := by
  rw [← h.locate_eq] at hf
  exact hf

/-- `advance` takes the next token of the row. -/
theorem reads_advance {token : Token} (h : Along path limit (token :: rest) state) :
    Reads path limit advance state token rest := h.2.2.2

/-- `expect` takes the next token of the row, if it is of the kind. -/
theorem reads_expect {kind : Token.Kind} {leaf : Leaf kind}
    (h : Along path limit (leaf.token :: rest) state) :
    Reads path limit (expect kind) state leaf.token rest :=
  reads_isAt_pos h leaf.kind_eq (reads_advance h)

/-- A number is read, unless it is too long, which it is in front of a limit only. -/
theorem reads_number {leaf : Leaf .integer} (hshort : limit = none → ¬leaf.token.Overlong)
    (h : Along path limit rest state) :
    Reads path limit (number leaf.token.text.toList) state leaf.number rest := by
  by_cases hlong : leaf.token.Overlong
  · rw [number_eq_refuse leaf hlong]
    obtain ⟨size, rfl⟩ := Option.ne_none_iff_exists'.1 fun hnone => hshort hnone hlong
    refine .inr ⟨size, rfl, .inr ⟨_, rfl, ?_⟩⟩
    rintro ⟨expected, found, hfault⟩
    cases hfault
  · rw [number_eq_pure leaf hlong]
    exact reads_pure h

/-- A repetition ends where a round answers nothing. -/
theorem reads_collect_nil {p : Parser (Option α)} {hp : p.Advances}
    (h : Reads path limit p state none rest) : Reads path limit (collect p hp) state [] rest := by
  rcases h with ⟨state', hrun, hrest⟩ | hlost
  · exact .inl ⟨state', run_collect_none hrun, hrest⟩
  · exact .inr hlost.collect

/-- A repetition goes on where a round answers. -/
theorem reads_collect_cons {p : Parser (Option α)} {hp : p.Advances} {a : α} {as : List α}
    {mid : List Token} (h : Reads path limit p state (some a) mid)
    (hlater : ∀ state', Along path limit mid state' →
      Reads path limit (collect p hp) state' as rest) :
    Reads path limit (collect p hp) state (a :: as) rest := by
  rcases h with ⟨state', hrun, hmid⟩ | hlost
  · rcases hlater state' hmid with ⟨final, hfinal, hrest⟩ | hlost
    · refine .inl ⟨final, ?_, hrest⟩
      rw [run_collect_some hrun, hfinal]
    · exact .inr (hlost.collect_some hrun)
  · exact .inr hlost.collect

end Extraction.Parser
