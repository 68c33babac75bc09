import Extraction.Parser.Grammar
import Extraction.Proofs.Grammar.Ahead

/-!
# What parsers accept is derived

Every parser that succeeds has read the tokens of a derivation, and answers with its meaning. The
main result is `Parser.ensures_program`.
-/

namespace Extraction.Parser

open Token (nextKind)
open Extraction.Derivation (Leaf)

variable {path : Option String} {course : Course} {tokens rest : List Token} {state : State}

/-! ## Lines -/

/-- `newline?` takes a line break, or answers with nothing where none comes next. -/
theorem ensures_newline? (h : Ahead path course tokens state) :
    newline?.Ensures course state fun token? state' =>
      match token? with
      | none => nextKind tokens ≠ .newline ∧ Ahead path course tokens state'
      | some _ => ∃ (leaf : Leaf .newline) (rest : List Token),
          tokens = leaf.token :: rest ∧ Ahead path course rest state' := by
  refine ensures_isAt h ?_
  split
  · rename_i hkind
    obtain ⟨leaf, rest, rfl⟩ := Ahead.exists_cons (by decide) (eq_of_beq hkind)
    refine ensures_bind (ensures_advance h fun state' hrest => ?_)
    exact ensures_pure ⟨leaf, rest, rfl, hrest⟩
  · rename_i hkind
    exact ensures_pure ⟨by simpa using hkind, h⟩

/-- Line breaks are skipped up to the first other token. -/
theorem ensures_skipNewlines (h : Ahead path course tokens state) :
    skipNewlines.Ensures course state fun _ state' => ∃ breaks rest,
      tokens = Derivation.breakTokens breaks ++ rest ∧ nextKind rest ≠ .newline ∧
        Ahead path course rest state' := by
  refine ensures_bind (Ensures.mono (ensures_collect (fun tokens _ final => ∃ breaks rest,
    tokens = Derivation.breakTokens breaks ++ rest ∧ nextKind rest ≠ .newline ∧
      Ahead path course rest final) ?_ h) fun _ _ hall => ensures_pure hall)
  intro tokens state h
  refine (ensures_newline? h).mono ?_
  rintro (_ | token) state' hround
  · exact ⟨[], tokens, rfl, hround.1, hround.2⟩
  · obtain ⟨leaf, rest, rfl, hrest⟩ := hround
    refine ⟨rest, hrest, ?_⟩
    rintro as final ⟨breaks, behind, rfl, hkind, hbehind⟩
    exact ⟨leaf :: breaks, behind, rfl, hkind, hbehind⟩

/-- A statement ends with the input or with a line break. -/
theorem ensures_endStatement (h : Ahead path course tokens state) :
    endStatement.Ensures course state fun _ state' =>
      tokens = [] ∧ Ahead path course [] state' ∨
        ∃ (leaf : Leaf .newline) (rest : List Token),
          tokens = leaf.token :: rest ∧ Ahead path course rest state' := by
  refine ensures_isAt h ?_
  split
  · rename_i hkind
    obtain rfl := h.eq_nil (eq_of_beq hkind)
    exact ensures_pure (.inl ⟨rfl, h⟩)
  · refine ensures_bind (ensures_expect (by decide) h fun leaf rest state' heq hrest => ?_)
    exact ensures_pure (.inr ⟨leaf, rest, heq, hrest⟩)

/-! ## Lists of names -/

/-- `name` takes a name, and answers with its text. -/
theorem ensures_name {good : String → State → Prop} (h : Ahead path course tokens state)
    (hgood : ∀ (leaf : Leaf .name) rest state', tokens = leaf.token :: rest →
      Ahead path course rest state' → good leaf.token.text state') :
    name.Ensures course state good :=
  ensures_bind <| ensures_expect (by decide) h fun leaf rest state' heq hrest =>
    ensures_pure (hgood leaf rest state' heq hrest)

/-- A comma and the name behind it. -/
theorem ensures_next {tokens : List Token} {state : State} {good : Option String → State → Prop}
    (h : Ahead path course tokens state) (hkind : nextKind tokens = .comma)
    (hgood : ∀ next rest state', tokens = Derivation.nextTokens next ++ rest →
      Ahead path course rest state' → good (some next.2.token.text) state') :
    (advance >>= fun _ => name >>= fun next => pure (some next)).Ensures course state good := by
  obtain ⟨comma, rest, rfl⟩ := Ahead.exists_cons (by decide) hkind
  refine ensures_bind (ensures_advance h fun state' hrest => ?_)
  refine ensures_bind (ensures_name hrest fun leaf behind final heq hbehind => ?_)
  subst heq
  exact ensures_pure (hgood (comma, leaf) behind final rfl hbehind)

/-- Rounds that each read a comma and a name behind it, or end in front of a token of some kinds,
read a row of such names. -/
theorem ensures_others {p : Parser (Option String)} {hp : p.Advances} (P : Token.Kind → Prop)
    (hround : ∀ tokens state, Ahead path course tokens state →
      p.Ensures course state fun name? state' =>
      match name? with
      | none => P (nextKind tokens) ∧ Ahead path course tokens state'
      | some name => ∃ next rest, tokens = Derivation.nextTokens next ++ rest ∧
          name = next.2.token.text ∧ Ahead path course rest state')
    (h : Ahead path course tokens state) :
    (collect p hp).Ensures course state fun names state' =>
      ∃ (others : List (Leaf .comma × Leaf .name)) (rest : List Token),
        tokens = others.flatMap Derivation.nextTokens ++ rest ∧
          names = others.map (fun next => next.2.token.text) ∧ P (nextKind rest) ∧
            Ahead path course rest state' := by
  refine ensures_collect (fun tokens names final =>
    ∃ (others : List (Leaf .comma × Leaf .name)) (rest : List Token),
      tokens = others.flatMap Derivation.nextTokens ++ rest ∧
        names = others.map (fun next => next.2.token.text) ∧ P (nextKind rest) ∧
          Ahead path course rest final) ?_ h
  intro tokens state h
  -- A round adds one name in front of those that later rounds add.
  refine (hround tokens state h).mono ?_
  rintro (_ | name) state' hname
  · exact ⟨[], tokens, rfl, rfl, hname.1, hname.2⟩
  · obtain ⟨next, rest, rfl, rfl, hrest⟩ := hname
    refine ⟨rest, hrest, ?_⟩
    rintro names final ⟨others, behind, rfl, rfl, hkind, hbehind⟩
    exact ⟨next :: others, behind, by simp, rfl, hkind, hbehind⟩

/-- `nextName?` takes a comma and a name, or answers with nothing at the closing brace. -/
theorem ensures_nextName? (h : Ahead path course tokens state) :
    nextName?.Ensures course state fun name? state' =>
      match name? with
      | none => nextKind tokens = .rightBrace ∧ Ahead path course tokens state'
      | some name => ∃ next rest, tokens = Derivation.nextTokens next ++ rest ∧
          name = next.2.token.text ∧ Ahead path course rest state' := by
  refine ensures_isAt h ?_
  split
  · rename_i hkind
    exact ensures_pure ⟨eq_of_beq hkind, h⟩
  · refine ensures_isAt h ?_
    split
    · rename_i hkind
      exact ensures_next h (eq_of_beq hkind) fun next rest state' heq hrest =>
        ⟨next, rest, heq, rfl, hrest⟩
    · exact ensures_unexpected _

/-- `nameList` takes a list of names in braces, and answers with their texts. -/
theorem ensures_nameList (h : Ahead path course tokens state) :
    nameList.Ensures course state fun names state' =>
      ∃ (list : Derivation.NameList) (rest : List Token),
      tokens = list.tokens ++ rest ∧ names = list.texts ∧ Ahead path course rest state' := by
  refine ensures_bind (ensures_expect (by decide) h fun opening behind state hopening hnames => ?_)
  refine ensures_bind (ensures_name hnames fun first behind state hfirst hothers => ?_)
  refine ensures_bind ((ensures_others (· = .rightBrace)
    (fun tokens state h => ensures_nextName? h) hothers).mono ?_)
  rintro names state ⟨others, rest, rfl, rfl, hkind, hclosing⟩
  obtain ⟨closing, rest, rfl⟩ := Ahead.exists_cons (by decide) hkind
  refine ensures_bind (ensures_advance hclosing fun state hrest => ?_)
  subst hfirst hopening
  refine ensures_pure ⟨⟨opening, ⟨first, others⟩, closing⟩, rest, ?_, rfl, hrest⟩
  simp [Derivation.NameList.tokens, Derivation.Names.tokens]

/-! ## Selections -/

/-- `integer` takes a number, and answers with what it stands for. -/
theorem ensures_integer {good : Int → State → Prop} (h : Ahead path course tokens state)
    (hgood : ∀ (leaf : Leaf .integer) rest state', tokens = leaf.token :: rest →
      Ahead path course rest state' → good leaf.number state') :
    integer.Ensures course state good :=
  ensures_bind <| ensures_expect (by decide) h fun leaf rest state' heq hrest =>
    ensures_number (hgood leaf rest state' heq hrest)

/-- `range` takes a range, and answers with what it stands for. -/
theorem ensures_range (h : Ahead path course tokens state) :
    range.Ensures course state fun range state' =>
      ∃ (bounds : Derivation.Range) (rest : List Token),
      tokens = bounds.tokens ++ rest ∧ range = bounds.range ∧ Ahead path course rest state' := by
  refine ensures_bind (ensures_expect (by decide) h fun opening behind state hopening hstart => ?_)
  refine ensures_bind (ensures_integer hstart fun start behind state hnumber hcomma => ?_)
  subst hnumber hopening
  refine ensures_isAt hcomma ?_
  split
  -- One number.
  · rename_i hkind
    obtain ⟨closing, rest, rfl⟩ := Ahead.exists_cons (by decide) (eq_of_beq hkind)
    refine ensures_bind (ensures_advance hcomma fun state hrest => ?_)
    exact ensures_pure ⟨⟨opening, start, none, closing⟩, rest, rfl, rfl, hrest⟩
  · refine ensures_isAt hcomma ?_
    split
    · rename_i hkind
      obtain ⟨comma, behind, rfl⟩ := Ahead.exists_cons (by decide) (eq_of_beq hkind)
      refine ensures_bind (ensures_advance hcomma fun state hstop => ?_)
      refine ensures_isAt hstop ?_
      split
      -- A number and an open end.
      · rename_i hkind
        obtain ⟨closing, rest, rfl⟩ := Ahead.exists_cons (by decide) (eq_of_beq hkind)
        refine ensures_bind (ensures_advance hstop fun state hrest => ?_)
        exact ensures_pure ⟨⟨opening, start, some (comma, none), closing⟩, rest, rfl, rfl, hrest⟩
      · refine ensures_isAt hstop ?_
        split
        -- Two numbers.
        · refine ensures_bind (ensures_integer hstop fun stop behind state hnumber hclosing => ?_)
          subst hnumber
          refine ensures_bind (ensures_expect (by decide) hclosing
            fun closing rest state hlast hrest => ?_)
          subst hlast
          exact ensures_pure
            ⟨⟨opening, start, some (comma, some stop), closing⟩, rest, rfl, rfl, hrest⟩
        · exact ensures_unexpected _
    · exact ensures_unexpected _

theorem ensures_attributes? (h : Ahead path course tokens state) :
    attributes?.Ensures course state fun attributes state' =>
      ∃ (list : Option Derivation.NameList) (rest : List Token),
        tokens = Derivation.optionalTokens Derivation.NameList.tokens list ++ rest ∧
          attributes = list.map Derivation.NameList.texts ∧ Ahead path course rest state' := by
  refine ensures_isAt h ?_
  split
  · refine ensures_bind ((ensures_nameList h).mono ?_)
    rintro names state' ⟨list, rest, rfl, rfl, hrest⟩
    exact ensures_pure ⟨some list, rest, rfl, rfl, hrest⟩
  · exact ensures_pure ⟨none, tokens, rfl, rfl, h⟩

theorem ensures_rangeOrWhole (h : Ahead path course tokens state) :
    rangeOrWhole.Ensures course state fun range state' =>
      ∃ (bounds : Option Derivation.Range) (rest : List Token),
        tokens = Derivation.optionalTokens Derivation.Range.tokens bounds ++ rest ∧
          range = Derivation.rangeOrWhole bounds ∧ Ahead path course rest state' := by
  refine ensures_isAt h ?_
  split
  · refine (ensures_range h).mono ?_
    rintro range state' ⟨bounds, rest, rfl, rfl, hrest⟩
    exact ⟨some bounds, rest, rfl, rfl, hrest⟩
  · exact ensures_pure ⟨none, tokens, rfl, rfl, h⟩

/-- `selection` takes a selector, a list of names if there is one, and a range if there is one. -/
theorem ensures_selection (h : Ahead path course tokens state) :
    selection.Ensures course state fun selection state' =>
      ∃ (selector : Leaf .name) (list : Option Derivation.NameList)
        (bounds : Option Derivation.Range) (rest : List Token),
        tokens = selector.token ::
            (Derivation.optionalTokens Derivation.NameList.tokens list ++
              Derivation.optionalTokens Derivation.Range.tokens bounds) ++ rest ∧
          selection = ⟨selector.token.text, Derivation.rangeOrWhole bounds,
            list.map Derivation.NameList.texts⟩ ∧ Ahead path course rest state' := by
  refine ensures_bind (ensures_name h fun selector behind state hselector hlist => ?_)
  refine ensures_bind ((ensures_attributes? hlist).mono ?_)
  rintro attributes state ⟨list, behind, rfl, rfl, hbounds⟩
  refine ensures_bind ((ensures_rangeOrWhole hbounds).mono ?_)
  rintro range state ⟨bounds, rest, rfl, rfl, hrest⟩
  subst hselector
  -- What is read is the same at the end of the line and at the end of the input.
  refine ensures_isAt hrest ?_
  split
  · exact ensures_pure ⟨selector, list, bounds, rest, by simp, rfl, hrest⟩
  · refine ensures_isAt hrest ?_
    split
    · exact ensures_pure ⟨selector, list, bounds, rest, by simp, rfl, hrest⟩
    · exact ensures_unexpected _

/-! ## Bindings -/

theorem ensures_nextTarget? (h : Ahead path course tokens state) :
    nextTarget?.Ensures course state fun target? state' =>
      match target? with
      | none => nextKind tokens ≠ .comma ∧ Ahead path course tokens state'
      | some target => ∃ next rest, tokens = Derivation.nextTokens next ++ rest ∧
          target = next.2.token.text ∧ Ahead path course rest state' := by
  refine ensures_isAt h ?_
  split
  · rename_i hkind
    exact ensures_next h (eq_of_beq hkind) fun next rest state' heq hrest =>
      ⟨next, rest, heq, rfl, hrest⟩
  · rename_i hkind
    exact ensures_pure ⟨by simpa using hkind, h⟩

/-- `binding` takes a binding, and answers with the statement that it stands for. -/
theorem ensures_binding (h : Ahead path course tokens state) :
    binding.Ensures course state fun statement state' =>
      ∃ (form : Derivation.Binding) (rest : List Token), tokens = form.tokens ++ rest ∧
        statement = form.statement path ∧ Ahead path course rest state' := by
  refine ensures_bind (ensures_expect (by decide) h fun first behind state hfirst hothers => ?_)
  refine ensures_bind ((ensures_others (· ≠ .comma)
    (fun tokens state h => ensures_nextTarget? h) hothers).mono ?_)
  rintro others state ⟨others, behind, rfl, rfl, -, hequals⟩
  refine ensures_bind (ensures_expect (by decide) hequals fun equals behind state heq hbound => ?_)
  subst heq hfirst
  refine ensures_locate hbound ?_
  refine ensures_isAt hbound ?_
  split
  · rename_i hkind
    obtain ⟨invoke, behind, rfl⟩ := Ahead.exists_cons (by decide) (eq_of_beq hkind)
    refine ensures_bind (ensures_advance hbound fun state hname => ?_)
    refine ensures_bind (ensures_name hname fun function rest state hfunction hrest => ?_)
    subst hfunction
    refine ensures_pure ⟨.invocation ⟨first, others⟩ equals invoke function, rest, ?_, rfl, hrest⟩
    simp [Derivation.Binding.tokens, Derivation.Names.tokens]
  · split
    · rename_i hothers
      obtain rfl : others = [] := by simpa using hothers
      refine ensures_bind ((ensures_selection hbound).mono ?_)
      rintro selection state ⟨selector, list, bounds, rest, rfl, rfl, hrest⟩
      exact ensures_pure ⟨.assignment first equals selector list bounds, rest, rfl, rfl, hrest⟩
    · exact ensures_unexpected _

/-! ## Definitions -/

theorem ensures_returnSpec (h : Ahead path course tokens state) :
    returnSpec.Ensures course state fun spec state' =>
      ∃ (returns : Leaf .returns) (list : Derivation.NameList) (rest : List Token),
        tokens = returns.token :: list.tokens ++ rest ∧
          spec = ⟨list.texts, some (returns.token.location path)⟩ ∧
          Ahead path course rest state' := by
  refine ensures_bind (ensures_expect (by decide) h fun returns behind state heq hlist => ?_)
  subst heq
  refine ensures_bind ((ensures_nameList hlist).mono ?_)
  rintro names state ⟨list, rest, rfl, rfl, hrest⟩
  refine ensures_locate hrest ?_
  exact ensures_pure ⟨returns, list, rest, rfl, rfl, hrest⟩

/-- A round in a body reads a binding with the line breaks in front of it, and with the one behind
it unless the input ends there. -/
theorem ensures_nextBinding? (function : String) (h : Ahead path course tokens state) :
    (nextBinding? function).Ensures course state fun statement? state' =>
      match statement? with
      | none => ∃ breaks rest, tokens = Derivation.breakTokens breaks ++ rest ∧
          nextKind rest = .returns ∧ Ahead path course rest state'
      | some statement => ∃ (breaks : _) (form : Derivation.Binding) (behind rest : List Token),
          tokens = Derivation.breakTokens breaks ++ (form.tokens ++ behind) ∧
            statement = form.statement path ∧ EndsIn behind rest ∧
              Ahead path course rest state' := by
  refine ensures_bind ((ensures_skipNewlines h).mono ?_)
  rintro - state ⟨breaks, behind, rfl, -, hline⟩
  refine ensures_isAt hline ?_
  split
  · rename_i hkind
    exact ensures_pure ⟨breaks, behind, rfl, eq_of_beq hkind, hline⟩
  refine ensures_isAt hline ?_
  split
  · exact ensures_unexpected _
  refine ensures_isAt hline ?_
  split
  · exact ensures_unexpected _
  -- Neither the end of the body nor a definition is next.
  refine ensures_bind ((ensures_binding hline).mono ?_)
  rintro statement state ⟨form, behind, rfl, rfl, hend⟩
  refine ensures_bind ((ensures_endStatement hend).mono ?_)
  rintro - state (⟨rfl, hrest⟩ | ⟨leaf, rest, rfl, hrest⟩)
  · exact ensures_pure ⟨breaks, form, [], [], rfl, rfl, .inl ⟨rfl, rfl⟩, hrest⟩
  · exact ensures_pure ⟨breaks, form, _, rest, rfl, rfl, .inr ⟨leaf, rfl⟩, hrest⟩

/-- The lines of a body, behind the rest of the line breaks in front of them. -/
theorem ensures_body (function : String) (h : Ahead path course tokens state) :
    (collect (nextBinding? function) (advances_nextBinding? function)).Ensures course state
      fun statements state' => ∃ breaks body rest,
        tokens = Derivation.breakTokens breaks ++ body.flatMap Derivation.lineTokens ++ rest ∧
          statements = Derivation.bodyStatements path body ∧ nextKind rest = .returns ∧
            Ahead path course rest state' := by
  refine ensures_collect (fun tokens statements final => ∃ breaks body rest,
    tokens = Derivation.breakTokens breaks ++ body.flatMap Derivation.lineTokens ++ rest ∧
      statements = Derivation.bodyStatements path body ∧ nextKind rest = .returns ∧
        Ahead path course rest final) ?_ h
  intro tokens state h
  refine (ensures_nextBinding? function h).mono ?_
  rintro (_ | statement) state' hround
  · obtain ⟨breaks, rest, rfl, hkind, hrest⟩ := hround
    exact ⟨breaks, [], rest, by simp, rfl, hkind, hrest⟩
  obtain ⟨breaks, form, behind, rest, rfl, rfl, hbehind, hrest⟩ := hround
  refine ⟨rest, hrest, ?_⟩
  rcases hbehind with ⟨rfl, rfl⟩ | ⟨leaf, rfl⟩
  -- Where the input ends within a body, no later round closes it.
  · rintro statements final ⟨others, body, rest, heq, -, hkind, -⟩
    obtain rfl : rest = [] := by simp_all
    cases hkind
  · rintro statements final ⟨others, body, behind, rfl, rfl, hkind, hbehind⟩
    refine ⟨breaks, (form, ⟨leaf, others⟩) :: body, behind, ?_, rfl, hkind, hbehind⟩
    simp [Derivation.lineTokens, Derivation.Breaks.tokens]

/-- At its keyword `definition` takes a definition, and answers with the statement that it stands
for. -/
theorem ensures_definition (h : Ahead path course tokens state)
    (hkind : nextKind tokens = .define) :
    definition.Ensures course state fun statement state' =>
      ∃ (form : Derivation.Definition) (rest : List Token), tokens = form.tokens ++ rest ∧
        statement = form.statement path ∧ Ahead path course rest state' := by
  obtain ⟨define, behind, rfl⟩ := Ahead.exists_cons (by decide) hkind
  refine ensures_bind (ensures_advance h fun state hname => ?_)
  refine ensures_bind (ensures_name hname fun function behind state hfunction hend => ?_)
  subst hfunction
  refine ensures_bind ((ensures_endStatement hend).mono ?_)
  rintro - state (⟨rfl, hbody⟩ | ⟨leaf, behind, rfl, hbody⟩)
  -- Where the input ends behind the name, nothing is returned.
  · refine ensures_bind ((ensures_body function.token.text hbody).mono ?_)
    rintro statements state ⟨breaks, body, rest, heq, -, hkind, -⟩
    obtain rfl : rest = [] := by simp_all
    cases hkind
  · refine ensures_bind ((ensures_body function.token.text hbody).mono ?_)
    rintro statements state ⟨breaks, body, behind, rfl, rfl, -, hreturns⟩
    refine ensures_bind ((ensures_returnSpec hreturns).mono ?_)
    rintro spec state ⟨returns, list, rest, rfl, rfl, hrest⟩
    refine ensures_locate hrest ?_
    refine ensures_pure ⟨⟨define, function, ⟨leaf, breaks⟩, body, returns, list⟩, rest, ?_, rfl,
      hrest⟩
    simp [Derivation.Definition.tokens, Derivation.Breaks.tokens]

/-! ## Programs -/

/-- `statement` takes a statement, and answers with what it stands for. -/
theorem ensures_statement (h : Ahead path course tokens state) :
    statement.Ensures course state fun statement state' =>
      ∃ (form : Derivation.Statement) (rest : List Token), tokens = form.tokens ++ rest ∧
        statement = form.statement path ∧ Ahead path course rest state' := by
  refine ensures_isAt h ?_
  split
  · rename_i hkind
    refine (ensures_definition h (eq_of_beq hkind)).mono ?_
    rintro statement state' ⟨form, rest, rfl, rfl, hrest⟩
    exact ⟨.definition form, rest, rfl, rfl, hrest⟩
  refine ensures_isAt h ?_
  split
  · exact ensures_unexpected _
  refine (ensures_binding h).mono ?_
  rintro statement state' ⟨form, rest, rfl, rfl, hrest⟩
  exact ⟨.binding form, rest, rfl, rfl, hrest⟩

/-- A line in front of a program gives a program. -/
theorem exists_prepend (path : Option String) (breaks : List (Leaf .newline))
    (form : Derivation.Statement) (leaf : Leaf .newline) (later : Derivation.Program) :
    ∃ whole : Derivation.Program,
      whole.tokens = Derivation.breakTokens breaks ++ form.tokens ++ leaf.token :: later.tokens ∧
        whole.statements path = form.statement path :: later.statements path := by
  -- The line break between them belongs to what follows the line.
  cases later with
  | blank after =>
    exact ⟨.lines breaks form [] (leaf :: after), by
      simp [Derivation.Program.tokens, Derivation.breakTokens], rfl⟩
  | lines before first others after =>
    exact ⟨.lines breaks form ((⟨leaf, before⟩, first) :: others) after, by
      simp [Derivation.Program.tokens, Derivation.furtherTokens, Derivation.Breaks.tokens], rfl⟩

/-- Where there are no tokens, there are no statements. -/
theorem statements_eq_nil {form : Derivation.Program} (h : form.tokens = []) :
    form.statements path = [] := by
  cases form with
  | blank breaks => rfl
  | lines before first others after =>
    have hkind := first.nextKind_tokens []
    simp_all [Derivation.Program.tokens, nextKind]

/-- A round of a program reads a statement with the line breaks in front of it, and with the one
behind it unless the input ends there. -/
theorem ensures_nextStatement? (h : Ahead path course tokens state) :
    nextStatement?.Ensures course state fun statement? state' =>
      match statement? with
      | none => ∃ breaks, tokens = Derivation.breakTokens breaks ∧ Ahead path course [] state'
      | some statement => ∃ (breaks : _) (form : Derivation.Statement) (behind rest : List Token),
          tokens = Derivation.breakTokens breaks ++ (form.tokens ++ behind) ∧
            statement = form.statement path ∧ EndsIn behind rest ∧
              Ahead path course rest state' := by
  refine ensures_bind ((ensures_skipNewlines h).mono ?_)
  rintro - state ⟨breaks, behind, rfl, -, hline⟩
  refine ensures_isAt hline ?_
  split
  · rename_i hkind
    obtain rfl := hline.eq_nil (eq_of_beq hkind)
    exact ensures_pure ⟨breaks, List.append_nil _, hline⟩
  refine ensures_bind ((ensures_statement hline).mono ?_)
  rintro statement state ⟨form, behind, rfl, rfl, hend⟩
  refine ensures_bind ((ensures_endStatement hend).mono ?_)
  rintro - state (⟨rfl, hrest⟩ | ⟨leaf, rest, rfl, hrest⟩)
  · exact ensures_pure ⟨breaks, form, [], [], rfl, rfl, .inl ⟨rfl, rfl⟩, hrest⟩
  · exact ensures_pure ⟨breaks, form, _, rest, rfl, rfl, .inr ⟨leaf, rfl⟩, hrest⟩

/-- The statements of a program are taken up to the end of the input. -/
theorem ensures_statements (h : Ahead path course tokens state) :
    (collect nextStatement? advances_nextStatement?).Ensures course state fun statements state' =>
      ∃ form : Derivation.Program, tokens = form.tokens ∧ statements = form.statements path ∧
        Ahead path course [] state' := by
  refine ensures_collect (fun tokens statements final => ∃ form : Derivation.Program,
    tokens = form.tokens ∧ statements = form.statements path ∧ Ahead path course [] final) ?_ h
  intro tokens state h
  refine (ensures_nextStatement? h).mono ?_
  rintro (_ | statement) state' hround
  · obtain ⟨breaks, rfl, hend⟩ := hround
    exact ⟨.blank breaks, rfl, rfl, hend⟩
  obtain ⟨breaks, form, behind, rest, rfl, rfl, hbehind, hrest⟩ := hround
  refine ⟨rest, hrest, ?_⟩
  rintro statements final ⟨later, rfl, rfl, hfinal⟩
  rcases hbehind with ⟨rfl, hlater⟩ | ⟨leaf, rfl⟩
  -- Where the input ends behind a statement, it is the last one.
  · refine ⟨.lines breaks form [] [], ?_, ?_, hfinal⟩
    · simp [Derivation.Program.tokens, Derivation.breakTokens]
    · rw [statements_eq_nil hlater]
      rfl
  · obtain ⟨whole, htokens, hstatements⟩ := exists_prepend path breaks form leaf later
    exact ⟨whole, by rw [htokens, List.append_assoc], hstatements.symm, hfinal⟩

/-- A program that is accepted has a derivation of all the tokens ahead, behind which the input
ends, and is its meaning. -/
theorem ensures_program (h : Ahead path course tokens state) :
    program.Ensures course state fun program _ => course.failure = none ∧
      ∃ form : Derivation.Program, tokens = form.tokens ∧ program = form.program path := by
  refine ensures_bind ((ensures_statements h).mono ?_)
  rintro statements final ⟨form, rfl, rfl, hfinal⟩
  refine ensures_bind (ensures_state ?_)
  refine ensures_pure ⟨hfinal.2.2.1, form, rfl, ?_⟩
  rw [hfinal.path_eq, Derivation.Program.program]

end Extraction.Parser
