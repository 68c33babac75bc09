import Extraction.Proofs.Grammar.Soundness

/-!
# Where parsers stop

A parser that fails has read tokens that could go on: they begin a derivation of its form. It fails
at the token behind them, without taking it, or at the character behind them, if that starts no
token, or else at the last one of them, if that is a number that is too long.

* `Derivation.Begins` says that a row of tokens begins a form.
* `Parser.Stopped` are the places where a parser fails behind what it has read, and `Parser.Stops`
  says that a parser does so. `Parser.stops_bind` and `Parser.stops_collect` are the rules for
  sequences and repetitions.
* `Parser.stops_program` is the result for the parser of programs.
-/

namespace Extraction

open Token (nextKind)

namespace Derivation

/-! ## Beginnings -/

/-- A token that stands for any one of its kind. -/
instance {kind : Token.Kind} : Inhabited (Leaf kind) := ⟨⟨kind, "", 0, 0⟩, rfl⟩

instance : Inhabited Names := ⟨default, []⟩

instance : Inhabited NameList := ⟨default, default, default⟩

instance : Inhabited Range := ⟨default, default, none, default⟩

instance : Inhabited Binding := ⟨.invocation default default default default⟩

instance : Inhabited Breaks := ⟨default, []⟩

/-- The row `read` begins one of the forms that have the given `tokens`. -/
def Begins {α : Type} (tokens : α → List Token) (read : List Token) : Prop :=
  ∃ form, read <+: tokens form

theorem begins_nil {α : Type} [Inhabited α] (tokens : α → List Token) : Begins tokens [] :=
  ⟨default, List.nil_prefix⟩

end Derivation

namespace Parser

open Extraction.Derivation (Leaf Begins begins_nil)

variable {α β : Type} {path : Option String} {course : Course} {tokens rest : List Token}
  {state : State} {begun begun' : List Token → Prop}

/-! ## Rules -/

/-- A failure behind the tokens `read`, with the tokens `rest` behind these and the parser in the
state `final`. -/
inductive Stopped (path : Option String) (course : Course) (final : State) :
    Failure SyntaxFault → List Token → List Token → Prop
  /-- The next token is not expected, and it is not taken. -/
  | unexpected (expected : String) (read : List Token) {rest : List Token}
      (h : Ahead path course rest final) :
      Stopped path course final (final.failure expected final.current) read rest
  /-- All tokens are read, and a character behind them starts none. -/
  | unreadable {failure : Failure SyntaxFault} (read : List Token)
      (h : course.failure = some failure) : Stopped path course final failure read []
  /-- The last token that is read is a number that is too long. -/
  | tooLong {number : Token} {read : List Token} (rest : List Token) (hlast : [number] <:+ read)
      (hlong : number.Overlong) : Stopped path course final number.tooLong read rest

/-- What was read before does not change where a parser has failed. -/
theorem Stopped.append {failure : Failure SyntaxFault} {final : State} {read : List Token}
    (h : Stopped path course final failure read rest) (taken : List Token) :
    Stopped path course final failure (taken ++ read) rest := by
  cases h with
  | unexpected expected _ hahead => exact .unexpected expected _ hahead
  | unreadable _ hend => exact .unreadable _ hend
  | tooLong _ hlast hlong => exact .tooLong _ (hlast.trans (List.suffix_append taken read)) hlong

/-- If the parser `p` fails, it has read some of the `tokens` in front of it, which begin as `begun`
says. -/
def Stops (path : Option String) (course : Course) (p : Parser α) (tokens : List Token)
    (state : State) (begun : List Token → Prop) : Prop :=
  ∀ failure final, p.run state = (.error failure, final) → ∃ read rest,
    tokens = read ++ rest ∧ begun read ∧ Stopped path course final failure read rest

/-- `pure a` does not stop. -/
theorem stops_pure {a : α} : Stops path course (pure a) tokens state begun :=
  fun _ _ hrun => by cases hrun

/-- `unexpected` stops at the current token, with nothing read. -/
theorem stops_unexpected (expected : String) (h : Ahead path course tokens state)
    (hbegun : begun []) :
    Stops path course (unexpected expected : Parser α) tokens state begun := by
  intro failure final hrun
  cases hrun
  exact ⟨[], tokens, rfl, hbegun, .unexpected expected [] h⟩

/-- What was begun may be said in a weaker way. -/
theorem Stops.mono {p : Parser α} (h : Stops path course p tokens state begun)
    (hbegun : ∀ read, read <+: tokens → begun read → begun' read) :
    Stops path course p tokens state begun' := by
  intro failure final hrun
  obtain ⟨read, rest, htokens, hread, hstop⟩ := h failure final hrun
  exact ⟨read, rest, htokens, hbegun read ⟨rest, htokens.symm⟩ hread, hstop⟩

/-- Of two parsers the first one stops, or it has taken some tokens and the second one stops behind
these. -/
theorem stops_bind {p : Parser α} {f : α → Parser β} (hp : Stops path course p tokens state begun)
    (hf : p.Ensures course state fun a state' => ∃ taken rest, tokens = taken ++ rest ∧
      Stops path course (f a) rest state' fun read => begun (taken ++ read)) :
    Stops path course (p >>= f) tokens state begun := by
  intro failure final hrun
  rw [run_bind] at hrun
  split at hrun
  · rename_i a state' hfirst
    obtain ⟨taken, behind, rfl, hstops⟩ := hf.ok hfirst
    obtain ⟨read, rest, rfl, hread, hstop⟩ := hstops failure final hrun
    exact ⟨taken ++ read, rest, (List.append_assoc ..).symm, hread, hstop.append taken⟩
  · rename_i failure' state' hfirst
    cases hrun
    exact hp failure final hfirst

/-- What is made of an answer does not change where a parser stops. -/
theorem Stops.bind_pure {p : Parser α} (h : Stops path course p tokens state begun) (f : α → β) :
    Stops path course (p >>= fun a => pure (f a)) tokens state begun := by
  intro failure final hrun
  rw [run_bind] at hrun
  split at hrun
  · cases hrun
  · rename_i failure' state' hfirst
    cases hrun
    exact h failure final hfirst

/-- A look at the current token goes on with the branch for its kind. -/
theorem stops_isAt {kind : Token.Kind} {f : Bool → Parser α} (h : Ahead path course tokens state)
    (hf : Stops path course (f (nextKind tokens == kind)) tokens state begun) :
    Stops path course (isAt kind >>= f) tokens state begun := by
  rw [← h.current_kind] at hf
  exact hf

theorem stops_locate {token : Token} {f : Location → Parser α} (h : Ahead path course tokens state)
    (hf : Stops path course (f (token.location path)) tokens state begun) :
    Stops path course (locate token >>= f) tokens state begun := by
  rw [← h.locate_eq] at hf
  exact hf

/-- `advance` stops behind the token that it has taken, at a character that starts none. -/
theorem stops_advance {token : Token} (h : Ahead path course (token :: rest) state)
    (hbegun : begun [token]) : Stops path course advance (token :: rest) state begun := by
  intro failure final hrun
  rcases h.advance with ⟨state', hadvance, -⟩ | ⟨failure', state', hadvance, rfl, hend⟩
  · cases hadvance.symm.trans hrun
  · cases hadvance.symm.trans hrun
    exact ⟨[token], [], rfl, hbegun, .unreadable _ hend⟩

/-- `expect` stops at a token of another kind, with nothing read, or behind the token that it has
taken. -/
theorem stops_expect {kind : Token.Kind} (hne : kind ≠ .endOfInput)
    (h : Ahead path course tokens state) (hnil : begun [])
    (hone : ∀ leaf : Leaf kind, begun [leaf.token]) :
    Stops path course (expect kind) tokens state begun := by
  refine stops_isAt h ?_
  split
  · rename_i hkind
    obtain ⟨leaf, rest, rfl⟩ := Ahead.exists_cons hne (eq_of_beq hkind)
    exact stops_advance h (hone leaf)
  · exact stops_unexpected _ h hnil

/-- A repetition stops in one of its rounds. What is begun there stays so when the tokens that were
taken by the rounds before are put in front. -/
theorem stops_collect {p : Parser (Option α)} {hp : p.Advances} (begun : List Token → Prop)
    (hround : ∀ tokens state, Ahead path course tokens state →
      Stops path course p tokens state begun)
    (hnext : ∀ tokens state, Ahead path course tokens state →
      p.Ensures course state fun a? state' =>
      match a? with
      | none => True
      | some _ => ∃ taken rest, tokens = taken ++ rest ∧ Ahead path course rest state' ∧
          ∀ read, read <+: rest → begun read → begun (taken ++ read))
    (h : Ahead path course tokens state) :
    Stops path course (collect p hp) tokens state begun := by
  intro failure final hrun
  change collectFrom p hp state = (.error failure, final) at hrun
  fun_induction collectFrom p hp state generalizing tokens failure final with
  | case1 => cases hrun
  -- A later round has failed. What it has begun goes on from what this round has taken.
  | case2 state a hfirst failure' state' hlater ih =>
    cases hrun
    obtain ⟨taken, behind, rfl, hbehind, hcons⟩ :=
      (hnext tokens state h).ok (Prod.ext hfirst rfl)
    obtain ⟨read, rest, rfl, hread, hstop⟩ := ih hbehind _ _ hlater
    exact ⟨taken ++ read, rest, (List.append_assoc ..).symm,
      hcons read (List.prefix_append ..) hread, hstop.append taken⟩
  | case3 => cases hrun
  | case4 state failure' hfirst =>
    cases hrun
    exact hround tokens state h _ _ (Prod.ext hfirst rfl)

/-! ## Lines -/

theorem stops_newline? (h : Ahead path course tokens state) :
    Stops path course newline? tokens state (Begins Derivation.breakTokens) := by
  refine stops_isAt h ?_
  split
  · rename_i hkind
    obtain ⟨leaf, rest, rfl⟩ := Ahead.exists_cons (by decide) (eq_of_beq hkind)
    exact (stops_advance h ⟨[leaf], List.prefix_refl _⟩).bind_pure _
  · exact stops_pure

theorem stops_skipNewlines (h : Ahead path course tokens state) :
    Stops path course skipNewlines tokens state (Begins Derivation.breakTokens) := by
  refine (stops_collect _ (fun tokens state h => stops_newline? h)
    (fun tokens state h => (ensures_newline? h).mono ?_) h).bind_pure _
  rintro (_ | token) state' hround
  · trivial
  · obtain ⟨leaf, rest, rfl, hrest⟩ := hround
    refine ⟨[leaf.token], rest, rfl, hrest, ?_⟩
    rintro read - ⟨breaks, hbreaks⟩
    exact ⟨leaf :: breaks, List.cons_prefix_cons.2 ⟨rfl, hbreaks⟩⟩

theorem stops_endStatement (h : Ahead path course tokens state) :
    Stops path course endStatement tokens state (Begins Derivation.Breaks.tokens) := by
  refine stops_isAt h ?_
  split
  · exact stops_pure
  · refine (stops_expect (by decide) h (begins_nil _) fun leaf => ?_).bind_pure _
    exact ⟨⟨leaf, []⟩, List.prefix_refl _⟩

/-! ## Lists of names -/

theorem stops_name (h : Ahead path course tokens state) (hnil : begun [])
    (hone : ∀ leaf : Leaf .name, begun [leaf.token]) :
    Stops path course name tokens state begun :=
  (stops_expect (by decide) h hnil hone).bind_pure _

/-- The tokens of names behind commas. -/
abbrev othersTokens (others : List (Leaf .comma × Leaf .name)) : List Token :=
  others.flatMap Derivation.nextTokens

/-- A comma and the name behind it. -/
theorem stops_next (h : Ahead path course tokens state) (hkind : nextKind tokens = .comma) :
    Stops path course (advance >>= fun _ => name >>= fun next => pure (some next)) tokens state
      (Begins othersTokens) := by
  obtain ⟨comma, rest, rfl⟩ := Ahead.exists_cons (by decide) hkind
  have hcomma : Begins othersTokens [comma.token] :=
    ⟨[(comma, default)], by simp [othersTokens, Derivation.nextTokens]⟩
  refine stops_bind (stops_advance h hcomma) (ensures_advance h fun state' hrest => ?_)
  refine ⟨[comma.token], rest, rfl, (stops_name hrest hcomma fun leaf => ?_).bind_pure _⟩
  exact ⟨[(comma, leaf)], List.prefix_refl _⟩

/-- Rounds that each read a comma and a name behind it stop within a row of such names. -/
theorem stops_others {p : Parser (Option String)} {hp : p.Advances} (P : Token.Kind → Prop)
    (hround : ∀ tokens state, Ahead path course tokens state →
      Stops path course p tokens state (Begins othersTokens))
    (hnext : ∀ tokens state, Ahead path course tokens state →
      p.Ensures course state fun name? state' =>
      match name? with
      | none => P (nextKind tokens) ∧ Ahead path course tokens state'
      | some name => ∃ next rest, tokens = Derivation.nextTokens next ++ rest ∧
          name = next.2.token.text ∧ Ahead path course rest state')
    (h : Ahead path course tokens state) :
    Stops path course (collect p hp) tokens state (Begins othersTokens) := by
  refine stops_collect _ hround (fun tokens state h => (hnext tokens state h).mono ?_) h
  rintro (_ | name) state' hname
  · trivial
  · obtain ⟨next, rest, rfl, -, hrest⟩ := hname
    refine ⟨Derivation.nextTokens next, rest, rfl, hrest, ?_⟩
    rintro read - ⟨others, hothers⟩
    exact ⟨next :: others, (List.prefix_append_right_inj _).2 hothers⟩

theorem stops_nextName? (h : Ahead path course tokens state) :
    Stops path course nextName? tokens state (Begins othersTokens) := by
  refine stops_isAt h ?_
  split
  · exact stops_pure
  · refine stops_isAt h ?_
    split
    · rename_i hkind
      exact stops_next h (eq_of_beq hkind)
    · exact stops_unexpected _ h (begins_nil _)

/-- Where `nameList` stops, a list of names was begun. -/
theorem stops_nameList (h : Ahead path course tokens state) :
    Stops path course nameList tokens state (Begins Derivation.NameList.tokens) := by
  refine stops_bind (stops_expect (by decide) h (begins_nil _) fun opening => ?_)
    (ensures_expect (by decide) h fun opening behind state heq hnames =>
      ⟨[opening.token], behind, heq, ?_⟩)
  · exact ⟨⟨opening, default, default⟩, by simp [Derivation.NameList.tokens]⟩
  refine stops_bind (stops_name hnames ?_ fun first => ?_)
    (ensures_name hnames fun first behind state heq hothers => ⟨[first.token], behind, heq, ?_⟩)
  · exact ⟨⟨opening, default, default⟩, by simp [Derivation.NameList.tokens]⟩
  · exact ⟨⟨opening, ⟨first, []⟩, default⟩, by
      simp [Derivation.NameList.tokens, Derivation.Names.tokens]⟩
  -- What was read so far begins a list that ends behind it.
  refine stops_bind ((stops_others (· = .rightBrace) (fun tokens state h => stops_nextName? h)
    (fun tokens state h => ensures_nextName? h) hothers).mono ?_)
    ((ensures_others (· = .rightBrace) (fun tokens state h => ensures_nextName? h) hothers).mono ?_)
  · rintro read - ⟨others, hread⟩
    exact ⟨⟨opening, ⟨first, others⟩, default⟩, by
      simpa [Derivation.NameList.tokens, Derivation.Names.tokens] using
        List.IsPrefix.trans hread (List.prefix_append (othersTokens others) _)⟩
  · rintro names state ⟨others, rest, rfl, -, hkind, hclosing⟩
    obtain ⟨closing, rest, rfl⟩ := Ahead.exists_cons (by decide) hkind
    refine ⟨_, _, rfl, (stops_advance hclosing ?_).bind_pure _⟩
    exact ⟨⟨opening, ⟨first, others⟩, closing⟩, by
      simp [Derivation.NameList.tokens, Derivation.Names.tokens]⟩

/-! ## Selections -/

/-- A number that is too long is read when it is refused. -/
theorem stops_integer (h : Ahead path course tokens state) (hnil : begun [])
    (hone : ∀ leaf : Leaf .integer, begun [leaf.token]) :
    Stops path course integer tokens state begun := by
  have hexpect : (expect .integer).Ensures course state fun token _ =>
      ∃ (leaf : Leaf .integer) (rest : List Token),
        tokens = leaf.token :: rest ∧ token = leaf.token :=
    ensures_expect (by decide) h fun leaf rest state' heq _ => ⟨leaf, rest, heq, rfl⟩
  intro failure final hrun
  rw [integer, run_bind] at hrun
  split at hrun
  · rename_i token state' hfirst
    obtain ⟨leaf, rest, rfl, rfl⟩ := hexpect.ok hfirst
    by_cases hlong : leaf.token.Overlong
    · rw [number_eq_refuse leaf hlong] at hrun
      cases hrun
      exact ⟨[leaf.token], rest, rfl, hone leaf, .tooLong rest List.suffix_rfl hlong⟩
    · rw [number_eq_pure leaf hlong] at hrun
      cases hrun
  · rename_i failure' state' hfirst
    cases hrun
    exact stops_expect (by decide) h hnil hone failure final hfirst

/-- Where `range` stops, a range was begun. -/
theorem stops_range (h : Ahead path course tokens state) :
    Stops path course range tokens state (Begins Derivation.Range.tokens) := by
  refine stops_bind (stops_expect (by decide) h (begins_nil _) fun opening => ?_)
    (ensures_expect (by decide) h fun opening behind state heq hstart =>
      ⟨[opening.token], behind, heq, ?_⟩)
  · exact ⟨⟨opening, default, none, default⟩, by simp [Derivation.Range.tokens]⟩
  refine stops_bind (stops_integer hstart ?_ fun start => ?_)
    (ensures_integer hstart fun start behind state heq hcomma => ⟨[start.token], behind, heq, ?_⟩)
  · exact ⟨⟨opening, default, none, default⟩, by simp [Derivation.Range.tokens]⟩
  · exact ⟨⟨opening, start, none, default⟩, by simp [Derivation.Range.tokens]⟩
  refine stops_isAt hcomma ?_
  split
  -- One number.
  · rename_i hkind
    obtain ⟨closing, rest, rfl⟩ := Ahead.exists_cons (by decide) (eq_of_beq hkind)
    refine (stops_advance hcomma ?_).bind_pure _
    exact ⟨⟨opening, start, none, closing⟩, by
      simp [Derivation.Range.tokens, Derivation.optionalTokens]⟩
  refine stops_isAt hcomma ?_
  split
  · rename_i hkind
    obtain ⟨comma, behind, rfl⟩ := Ahead.exists_cons (by decide) (eq_of_beq hkind)
    have hbegun : Begins Derivation.Range.tokens [opening.token, start.token, comma.token] :=
      ⟨⟨opening, start, some (comma, none), default⟩, by
        simp [Derivation.Range.tokens, Derivation.optionalTokens, Derivation.Range.stopTokens]⟩
    refine stops_bind (stops_advance hcomma hbegun) (ensures_advance hcomma fun state hstop =>
      ⟨[comma.token], behind, rfl, ?_⟩)
    refine stops_isAt hstop ?_
    split
    -- A number and an open end.
    · rename_i hkind
      obtain ⟨closing, rest, rfl⟩ := Ahead.exists_cons (by decide) (eq_of_beq hkind)
      refine (stops_advance hstop ?_).bind_pure _
      exact ⟨⟨opening, start, some (comma, none), closing⟩, by
        simp [Derivation.Range.tokens, Derivation.optionalTokens, Derivation.Range.stopTokens]⟩
    refine stops_isAt hstop ?_
    split
    -- Two numbers.
    · have htwo : ∀ (stop : Leaf .integer) (closing : Leaf .rightParen),
          Derivation.Range.tokens ⟨opening, start, some (comma, some stop), closing⟩ =
            [opening.token, start.token, comma.token, stop.token, closing.token] := by
        simp [Derivation.Range.tokens, Derivation.optionalTokens, Derivation.Range.stopTokens]
      refine stops_bind (stops_integer hstop hbegun fun stop => ?_)
        (ensures_integer hstop fun stop behind state heq hclosing =>
          ⟨[stop.token], behind, heq, ?_⟩)
      · exact ⟨⟨opening, start, some (comma, some stop), default⟩, by simp [htwo]⟩
      refine (stops_expect (by decide) hclosing ?_ fun closing => ?_).bind_pure _
      · exact ⟨⟨opening, start, some (comma, some stop), default⟩, by simp [htwo]⟩
      · exact ⟨⟨opening, start, some (comma, some stop), closing⟩, by simp [htwo]⟩
    · exact stops_unexpected _ hstop hbegun
  · refine stops_unexpected _ hcomma ?_
    exact ⟨⟨opening, start, none, default⟩, by simp [Derivation.Range.tokens]⟩

theorem stops_attributes? (h : Ahead path course tokens state) :
    Stops path course attributes? tokens state
      (Begins (Derivation.optionalTokens Derivation.NameList.tokens)) := by
  refine stops_isAt h ?_
  split
  · refine ((stops_nameList h).mono ?_).bind_pure _
    rintro read - ⟨list, hread⟩
    exact ⟨some list, hread⟩
  · exact stops_pure

theorem stops_rangeOrWhole (h : Ahead path course tokens state) :
    Stops path course rangeOrWhole tokens state
      (Begins (Derivation.optionalTokens Derivation.Range.tokens)) := by
  refine stops_isAt h ?_
  split
  · refine (stops_range h).mono ?_
    rintro read - ⟨bounds, hread⟩
    exact ⟨some bounds, hread⟩
  · exact stops_pure

/-- The tokens of a selector with its attributes and its range. -/
def selectionTokens (form : Leaf .name × Option Derivation.NameList × Option Derivation.Range) :
    List Token :=
  form.1.token :: (Derivation.optionalTokens Derivation.NameList.tokens form.2.1 ++
    Derivation.optionalTokens Derivation.Range.tokens form.2.2)

/-- Where `selection` stops, a selection was begun. -/
theorem stops_selection (h : Ahead path course tokens state) :
    Stops path course selection tokens state (Begins selectionTokens) := by
  refine stops_bind (stops_name h (begins_nil _) fun selector => ?_)
    (ensures_name h fun selector behind state heq hlist => ⟨[selector.token], behind, heq, ?_⟩)
  · exact ⟨(selector, none, none), List.prefix_refl _⟩
  refine stops_bind ((stops_attributes? hlist).mono ?_) ((ensures_attributes? hlist).mono ?_)
  · rintro read - ⟨list, hread⟩
    exact ⟨(selector, list, none),
      List.cons_prefix_cons.2 ⟨rfl, hread.trans (List.prefix_append ..)⟩⟩
  rintro attributes state ⟨list, behind, rfl, -, hbounds⟩
  refine ⟨_, _, rfl, ?_⟩
  refine stops_bind ((stops_rangeOrWhole hbounds).mono ?_) ((ensures_rangeOrWhole hbounds).mono ?_)
  · rintro read - ⟨bounds, hread⟩
    have hoptions := (List.prefix_append_right_inj
      (Derivation.optionalTokens Derivation.NameList.tokens list)).2 hread
    exact ⟨(selector, list, bounds), List.cons_prefix_cons.2 ⟨rfl, hoptions⟩⟩
  rintro range state ⟨bounds, rest, rfl, -, hrest⟩
  refine ⟨_, _, rfl, ?_⟩
  -- What may follow the selector has been read, so a refusal here is behind a whole selection.
  refine stops_isAt hrest ?_
  split
  · exact stops_pure
  refine stops_isAt hrest ?_
  split
  · exact stops_pure
  · exact stops_unexpected _ hrest ⟨(selector, list, bounds), by simp [selectionTokens]⟩

/-! ## Bindings -/

theorem stops_nextTarget? (h : Ahead path course tokens state) :
    Stops path course nextTarget? tokens state (Begins othersTokens) := by
  refine stops_isAt h ?_
  split
  · rename_i hkind
    exact stops_next h (eq_of_beq hkind)
  · exact stops_pure

/-- Behind its first target and an equals sign, a binding goes on as an invocation. -/
theorem begins_invocation (first : Leaf .name) (others : List (Leaf .comma × Leaf .name))
    (equals : Leaf .equals) (invoke : Leaf .invoke) (function : Leaf .name) {read : List Token}
    (hread : read <+: othersTokens others ++ [equals.token, invoke.token, function.token]) :
    Begins Derivation.Binding.tokens (first.token :: read) :=
  ⟨.invocation ⟨first, others⟩ equals invoke function, List.cons_prefix_cons.2 ⟨rfl, hread⟩⟩

/-- Behind the equals sign an invocation or a selection follows. -/
theorem stops_bound (first : Leaf .name) (others : List (Leaf .comma × Leaf .name))
    (equals : Leaf .equals) {names : List String} {location : Location}
    (h : Ahead path course tokens state) (hnames : names.isEmpty = others.isEmpty) :
    Stops path course (bound first.token.text names location) tokens state fun read =>
      Begins Derivation.Binding.tokens
        (first.token :: (othersTokens others ++ equals.token :: read)) := by
  -- An invocation begins with what was read, wherever it is cut behind the equals sign.
  have hbegun : ∀ (invoke : Leaf .invoke) (function : Leaf .name) (read : List Token),
      read <+: [invoke.token, function.token] → Begins Derivation.Binding.tokens
        (first.token :: (othersTokens others ++ equals.token :: read)) := by
    intro invoke function read hread
    refine begins_invocation first others equals invoke function ?_
    exact (List.prefix_append_right_inj _).2 (List.cons_prefix_cons.2 ⟨rfl, hread⟩)
  refine stops_isAt h ?_
  split
  · rename_i hkind
    obtain ⟨invoke, behind, rfl⟩ := Ahead.exists_cons (by decide) (eq_of_beq hkind)
    have hinvoke := hbegun invoke default [invoke.token] (List.prefix_append _ [_])
    refine stops_bind (stops_advance h hinvoke) (ensures_advance h fun state hname =>
      ⟨[invoke.token], behind, rfl, ?_⟩)
    exact (stops_name hname hinvoke fun function =>
      hbegun invoke function _ (List.prefix_refl _)).bind_pure _
  split
  · rename_i hempty
    obtain rfl : others = [] := by simpa [hnames] using hempty
    refine ((stops_selection h).mono ?_).bind_pure _
    rintro read - ⟨⟨selector, list, bounds⟩, hread⟩
    exact ⟨.assignment first equals selector list bounds, by
      simpa [Derivation.Binding.tokens, List.cons_prefix_cons, selectionTokens] using hread⟩
  · exact stops_unexpected _ h (hbegun default default [] List.nil_prefix)

/-- Where `binding` stops, a binding was begun. -/
theorem stops_binding (h : Ahead path course tokens state) :
    Stops path course binding tokens state (Begins Derivation.Binding.tokens) := by
  refine stops_bind (stops_expect (by decide) h (begins_nil _) fun first => ?_)
    (ensures_expect (by decide) h fun first behind state heq hothers =>
      ⟨[first.token], behind, heq, ?_⟩)
  -- While no form is decided, an invocation begins with what was read.
  · exact begins_invocation first [] default default default List.nil_prefix
  refine stops_bind ((stops_others (· ≠ .comma) (fun tokens state h => stops_nextTarget? h)
    (fun tokens state h => ensures_nextTarget? h) hothers).mono ?_)
    ((ensures_others (· ≠ .comma) (fun tokens state h => ensures_nextTarget? h) hothers).mono ?_)
  · rintro read - ⟨others, hread⟩
    exact begins_invocation first others default default default
      (hread.trans (List.prefix_append ..))
  rintro names state ⟨others, behind, rfl, rfl, -, hequals⟩
  refine ⟨_, behind, rfl, ?_⟩
  refine stops_bind (stops_expect (by decide) hequals ?_ fun equals => ?_)
    (ensures_expect (by decide) hequals fun equals behind state heq hbound =>
      ⟨[equals.token], behind, heq, ?_⟩)
  · exact begins_invocation first others default default default (by simp)
  · exact begins_invocation first others equals default default (by simp [othersTokens])
  refine stops_locate hbound ((stops_bound first others equals hbound ?_).mono ?_)
  · exact List.isEmpty_map
  · intro read _ hread
    simpa using hread

/-! ## Definitions -/

/-- The tokens of the keyword and the names that a function returns. -/
def returnTokens (form : Leaf .returns × Derivation.NameList) : List Token :=
  form.1.token :: form.2.tokens

/-- Where `returnSpec` stops, the returned names were begun. -/
theorem stops_returnSpec (h : Ahead path course tokens state) :
    Stops path course returnSpec tokens state (Begins returnTokens) := by
  refine stops_bind (stops_expect (by decide) h (begins_nil _) fun returns => ?_)
    (ensures_expect (by decide) h fun returns behind state heq hlist =>
      ⟨[returns.token], behind, heq, ?_⟩)
  · exact ⟨(returns, default), List.prefix_append [_] _⟩
  refine stops_bind ((stops_nameList hlist).mono ?_) ((ensures_nameList hlist).mono ?_)
  · rintro read - ⟨list, hread⟩
    exact ⟨(returns, list), List.cons_prefix_cons.2 ⟨rfl, hread⟩⟩
  · rintro names state ⟨list, rest, rfl, -, hrest⟩
    exact ⟨_, rest, rfl, stops_locate hrest stops_pure⟩

/-- The tokens of the lines of a body, with line breaks in front of them. -/
def bodyTokens (form : List (Leaf .newline) × List (Derivation.Binding × Derivation.Breaks)) :
    List Token :=
  Derivation.breakTokens form.1 ++ form.2.flatMap Derivation.lineTokens

theorem stops_nextBinding? (function : String) (h : Ahead path course tokens state) :
    Stops path course (nextBinding? function) tokens state (Begins bodyTokens) := by
  refine stops_bind ((stops_skipNewlines h).mono ?_) ((ensures_skipNewlines h).mono ?_)
  · rintro read - ⟨breaks, hread⟩
    exact ⟨(breaks, []), hread.trans (List.prefix_append ..)⟩
  rintro - state ⟨breaks, behind, rfl, -, hline⟩
  refine ⟨_, behind, rfl, ?_⟩
  -- A refusal in front of the next line leaves line breaks only.
  have hbegun : Begins bodyTokens (Derivation.breakTokens breaks ++ []) :=
    ⟨(breaks, []), List.prefix_refl _⟩
  refine stops_isAt hline ?_
  split
  · exact stops_pure
  refine stops_isAt hline ?_
  split
  · exact stops_unexpected _ hline hbegun
  refine stops_isAt hline ?_
  split
  · exact stops_unexpected _ hline hbegun
  refine stops_bind ((stops_binding hline).mono ?_) ((ensures_binding hline).mono ?_)
  · rintro read - ⟨form, hread⟩
    refine ⟨(breaks, [(form, default)]), (List.prefix_append_right_inj _).2 ?_⟩
    simpa [Derivation.lineTokens] using hread.trans (List.prefix_append ..)
  rintro statement state ⟨form, behind, rfl, -, hend⟩
  refine ⟨_, behind, rfl, ((stops_endStatement hend).mono ?_).bind_pure _⟩
  rintro read - ⟨others, hread⟩
  refine ⟨(breaks, [(form, others)]), (List.prefix_append_right_inj _).2 ?_⟩
  simpa [Derivation.lineTokens] using hread

/-- Where the bindings of a body stop, a body was begun. -/
theorem stops_body (function : String) (h : Ahead path course tokens state) :
    Stops path course (collect (nextBinding? function) (advances_nextBinding? function)) tokens
      state (Begins bodyTokens) := by
  refine stops_collect _ (fun tokens state h => stops_nextBinding? function h)
    (fun tokens state h => (ensures_nextBinding? function h).mono ?_) h
  rintro (_ | statement) state' hround
  · trivial
  obtain ⟨breaks, form, behind, rest, rfl, -, ⟨rfl, rfl⟩ | ⟨leaf, rfl⟩, hrest⟩ := hround
  -- Where the input ends, nothing more is read.
  · refine ⟨_, [], (List.append_nil _).symm, hrest, ?_⟩
    rintro read hread -
    obtain rfl := List.prefix_nil.1 hread
    exact ⟨(breaks, [(form, default)]), by simp [bodyTokens, Derivation.lineTokens]⟩
  · refine ⟨Derivation.breakTokens breaks ++ (form.tokens ++ [leaf.token]), rest, by simp,
      hrest, ?_⟩
    rintro read - ⟨⟨others, body⟩, hread⟩
    refine ⟨(breaks, (form, ⟨leaf, others⟩) :: body), ?_⟩
    simpa [bodyTokens, Derivation.lineTokens, Derivation.Breaks.tokens] using hread

/-- The tokens of a definition behind the first line break. -/
def closingTokens (form : (List (Leaf .newline) × List (Derivation.Binding × Derivation.Breaks)) ×
    Leaf .returns × Derivation.NameList) : List Token :=
  bodyTokens form.1 ++ returnTokens form.2

/-- The body of a definition and the names that it returns. -/
theorem stops_closing (function : String) (start : Token) (h : Ahead path course tokens state) :
    Stops path course (do
      let body ← collect (nextBinding? function) (advances_nextBinding? function)
      let spec ← returnSpec
      let location ← locate start
      pure (Extraction.Statement.definition function body spec (some location))) tokens state
      (Begins closingTokens) := by
  refine stops_bind ((stops_body function h).mono ?_) ((ensures_body function h).mono ?_)
  · rintro read - ⟨form, hread⟩
    exact ⟨(form, default), hread.trans (List.prefix_append ..)⟩
  rintro statements state ⟨breaks, body, behind, rfl, -, -, hreturns⟩
  refine ⟨_, behind, rfl, ?_⟩
  refine stops_bind ((stops_returnSpec hreturns).mono ?_) ((ensures_returnSpec hreturns).mono ?_)
  · rintro read - ⟨form, hread⟩
    exact ⟨((breaks, body), form), (List.prefix_append_right_inj _).2 hread⟩
  · rintro spec state ⟨returns, list, rest, rfl, -, hrest⟩
    exact ⟨_, rest, rfl, stops_locate hrest stops_pure⟩

/-- Where `definition` stops, a definition was begun. -/
theorem stops_definition (h : Ahead path course tokens state) (hkind : nextKind tokens = .define) :
    Stops path course definition tokens state (Begins Derivation.Definition.tokens) := by
  obtain ⟨define, behind, rfl⟩ := Ahead.exists_cons (by decide) hkind
  have hbegun : ∀ (name : Leaf .name) (breaks : Derivation.Breaks) (read : List Token),
      read <+: name.token :: breaks.tokens →
        Begins Derivation.Definition.tokens (define.token :: read) := by
    intro name breaks read hread
    refine ⟨⟨define, name, breaks, [], default, default⟩, List.cons_prefix_cons.2 ⟨rfl, ?_⟩⟩
    simpa using hread.trans (List.prefix_append ..)
  refine stops_bind (stops_advance h (hbegun default default [] List.nil_prefix))
    (ensures_advance h fun state hname => ⟨[define.token], behind, rfl, ?_⟩)
  refine stops_bind (stops_name hname (hbegun default default [] List.nil_prefix) fun name =>
    hbegun name default [name.token] (List.prefix_append [_] _))
    (ensures_name hname fun name behind state heq hend => ⟨[name.token], behind, heq, ?_⟩)
  refine stops_bind ((stops_endStatement hend).mono ?_) ((ensures_endStatement hend).mono ?_)
  · rintro read - ⟨breaks, hread⟩
    exact hbegun name breaks _ (List.cons_prefix_cons.2 ⟨rfl, hread⟩)
  rintro - state (⟨rfl, hclosing⟩ | ⟨leaf, rest, rfl, hclosing⟩)
  -- Where the input ends, nothing more is read.
  · refine ⟨[], [], rfl, (stops_closing name.token.text define.token hclosing).mono ?_⟩
    rintro read hread -
    obtain rfl := List.prefix_nil.1 hread
    exact hbegun name default [name.token] (List.prefix_append [_] _)
  · refine ⟨[leaf.token], rest, rfl,
      (stops_closing name.token.text define.token hclosing).mono ?_⟩
    rintro read - ⟨⟨⟨breaks, body⟩, returns, list⟩, hread⟩
    refine ⟨⟨define, name, ⟨leaf, breaks⟩, body, returns, list⟩, ?_⟩
    simpa [closingTokens, bodyTokens, returnTokens, Derivation.Definition.tokens,
      Derivation.Breaks.tokens] using hread

/-! ## Programs -/

/-- Where `statement` stops, a statement was begun. -/
theorem stops_statement (h : Ahead path course tokens state) :
    Stops path course statement tokens state (Begins Derivation.Statement.tokens) := by
  refine stops_isAt h ?_
  split
  · rename_i hkind
    refine (stops_definition h (eq_of_beq hkind)).mono ?_
    rintro read - ⟨form, hread⟩
    exact ⟨.definition form, hread⟩
  refine stops_isAt h ?_
  split
  · exact stops_unexpected _ h ⟨.binding default, List.nil_prefix⟩
  refine (stops_binding h).mono ?_
  rintro read - ⟨form, hread⟩
  exact ⟨.binding form, hread⟩

theorem stops_nextStatement? (h : Ahead path course tokens state) :
    Stops path course nextStatement? tokens state (Begins Derivation.Program.tokens) := by
  refine stops_bind ((stops_skipNewlines h).mono ?_) ((ensures_skipNewlines h).mono ?_)
  · rintro read - ⟨breaks, hread⟩
    exact ⟨.blank breaks, hread⟩
  rintro - state ⟨breaks, behind, rfl, -, hline⟩
  refine ⟨_, behind, rfl, ?_⟩
  refine stops_isAt hline ?_
  split
  · exact stops_pure
  refine stops_bind ((stops_statement hline).mono ?_) ((ensures_statement hline).mono ?_)
  · rintro read - ⟨form, hread⟩
    refine ⟨.lines breaks form [] [], ?_⟩
    simpa [Derivation.Program.tokens, Derivation.breakTokens] using hread
  rintro statement state ⟨form, behind, rfl, -, hend⟩
  refine ⟨_, behind, rfl, ((stops_endStatement hend).mono ?_).bind_pure _⟩
  rintro read - ⟨⟨leaf, others⟩, hread⟩
  refine ⟨.lines breaks form [] (leaf :: others), ?_⟩
  simpa [Derivation.Program.tokens, Derivation.breakTokens, Derivation.Breaks.tokens] using hread

/-- Where the statements of a program stop, a program was begun. -/
theorem stops_statements (h : Ahead path course tokens state) :
    Stops path course (collect nextStatement? advances_nextStatement?) tokens state
      (Begins Derivation.Program.tokens) := by
  refine stops_collect _ (fun tokens state h => stops_nextStatement? h)
    (fun tokens state h => (ensures_nextStatement? h).mono ?_) h
  rintro (_ | statement) state' hround
  · trivial
  obtain ⟨breaks, form, behind, rest, rfl, -, ⟨rfl, rfl⟩ | ⟨leaf, rfl⟩, hrest⟩ := hround
  -- Where the input ends, nothing more is read.
  · refine ⟨_, [], (List.append_nil _).symm, hrest, ?_⟩
    rintro read hread -
    obtain rfl := List.prefix_nil.1 hread
    exact ⟨.lines breaks form [] [], by simp [Derivation.Program.tokens, Derivation.breakTokens]⟩
  · refine ⟨Derivation.breakTokens breaks ++ (form.tokens ++ [leaf.token]), rest, by simp,
      hrest, ?_⟩
    rintro read - ⟨later, hread⟩
    obtain ⟨whole, htokens, -⟩ := exists_prepend path breaks form leaf later
    exact ⟨whole, by simpa [htokens] using hread⟩

/-- The parser of programs stops behind tokens with which a program begins. -/
theorem stops_program (h : Ahead path course tokens state) :
    Stops path course program tokens state (Begins Derivation.Program.tokens) := by
  refine stops_bind (stops_statements h) ((ensures_statements h).mono ?_)
  rintro statements final ⟨form, rfl, -, hfinal⟩
  exact ⟨form.tokens, [], (List.append_nil _).symm, fun _ _ hrun => by cases hrun⟩

end Parser

end Extraction
