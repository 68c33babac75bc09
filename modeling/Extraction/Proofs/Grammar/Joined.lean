import Extraction.Proofs.Grammar.Prefix
import Extraction.Proofs.Grammar.Tandem
import Extraction.Proofs.Lexing.Joined

/-!
# Programs one below the other

A source with a line break and another source behind it denotes the statements of both.

* `Derivation.Program.exists_append` puts a derivation behind a line break below another one.
* `parse_joined_of_parse` is about two programs, and `parse_joined_of_error` about a first source
  that is refused in front of its end: what is behind it does not matter.
* `joined_sources` is the result about tokens and about programs.
-/

namespace Extraction

/-! ## Derivations -/

namespace Derivation

/-- Line breaks in front of a program give a program. -/
theorem Program.exists_breaks_append (path : Option String) (breaks : List (Leaf .newline))
    (later : Program) : ∃ whole : Program, whole.tokens = breakTokens breaks ++ later.tokens ∧
      whole.statements path = later.statements path := by
  cases later with
  | blank others =>
    exact ⟨.blank (breaks ++ others), by simp [Program.tokens, breakTokens], rfl⟩
  | lines before first others after =>
    exact ⟨.lines (breaks ++ before) first others after, by
      simp [Program.tokens, breakTokens], rfl⟩

/-- So do the lines of another program, with a line break behind them. -/
theorem Program.exists_append (path : Option String) (form : Program) (leaf : Leaf .newline)
    (later : Program) : ∃ whole : Program,
      whole.tokens = form.tokens ++ leaf.token :: later.tokens ∧
        whole.statements path = form.statements path ++ later.statements path := by
  cases form with
  | blank breaks =>
    obtain ⟨whole, htokens, hstatements⟩ :=
      exists_breaks_append path (breaks ++ [leaf]) later
    refine ⟨whole, ?_, hstatements⟩
    rw [htokens]
    simp [Program.tokens, breakTokens]
  | lines before first others after =>
    induction others generalizing before first with
    | nil =>
      -- The line break behind the last line is the next one.
      cases after with
      | nil =>
        obtain ⟨whole, htokens, hstatements⟩ :=
          Parser.exists_prepend path before first leaf later
        refine ⟨whole, ?_, hstatements⟩
        rw [htokens]
        simp [Program.tokens, breakTokens]
      | cons next after =>
        obtain ⟨rest, hrest, hsame⟩ := exists_breaks_append path (after ++ [leaf]) later
        obtain ⟨whole, htokens, hstatements⟩ :=
          Parser.exists_prepend path before first next rest
        refine ⟨whole, ?_, ?_⟩
        · rw [htokens, hrest]
          simp [Program.tokens, breakTokens]
        · rw [hstatements, hsame]
          rfl
    | cons next others ih =>
      obtain ⟨breaks, second⟩ := next
      obtain ⟨rest, hrest, hsame⟩ := ih breaks.others second
      obtain ⟨whole, htokens, hstatements⟩ :=
        Parser.exists_prepend path before first breaks.first rest
      refine ⟨whole, ?_, ?_⟩
      · rw [htokens, hrest]
        simp [Program.tokens, furtherTokens, Breaks.tokens]
      · rw [hstatements, hsame]
        rfl

end Derivation

/-! ## Programs -/

/-- `statement` some `lines` further down. -/
def Statement.lowered (lines : Nat) (statement : Statement) : Statement :=
  statement.relocated fun location => some (location.lowered lines)

/-- The comparison with a source some `lines` further down. -/
def Views.lowered (path : Option String) (lines : Nat) : Views :=
  ⟨path, fun location => some (location.lowered lines), some⟩

variable {source below : String} {path : Option String} {lines : Nat}

/-- What is read further down is the same program, further down. -/
theorem exists_derivation_lowered {cursor : Cursor} {program : Program}
    (h : parse below path = .ok program)
    (hcursor : (Cursor.start below path).Lowered lines cursor) :
    ∃ form : Derivation.Program,
      form.tokens = (tokenize below path).front.map (Token.lowered lines) ∧
        form.statements path = program.statements.map (Statement.lowered lines) := by
  obtain ⟨hend, -⟩ := exists_derivation_of_parse h
  obtain ⟨htokens, hfailure⟩ := hcursor.scan_eq
  rw [← tokenize] at htokens hfailure
  rw [hend, Option.map_none] at hfailure
  have hscan : (Views.lowered path lines).SameScan (tokenize below path) cursor.scan := by
    refine ⟨?_, by rw [hend, hfailure]; exact .none⟩
    rw [htokens, List.forall₂_map_right_iff]
    exact List.forall₂_same.2 fun token _ => ⟨rfl, rfl, rfl⟩
  -- To parse further down goes as to parse the source itself, and a derivation is what it comes
  -- from.
  have houtcome := parseFrom_of_sameScan hscan rfl hcursor.path_eq
  rw [Views.lowered, ← parse_eq_parseFrom, h] at houtcome
  generalize hparse : parseFrom cursor path = result at houtcome
  cases houtcome with
  | ok hpath hstatements =>
    obtain ⟨-, form, hform, rfl⟩ := exists_derivation_of_parseFrom hcursor.path_eq hparse
    refine ⟨form, hform.trans hcursor.front_eq, ?_⟩
    rw [funext Statement.relocated_some, List.map_id'] at hstatements
    exact hstatements.symm

/-- Two programs, the one below the other, are a program with the statements of both. -/
theorem parse_joined_of_parse {program program' : Program} (h : parse source path = .ok program)
    (h' : parse below path = .ok program') :
    parse (joined source below) path = .ok ⟨program.statements ++
      program'.statements.map (Statement.lowered (lineCount source)), path⟩ := by
  obtain ⟨hend, form, hform, rfl⟩ := exists_derivation_of_parse h
  obtain ⟨hend', -⟩ := exists_derivation_of_parse h'
  obtain ⟨later, hlater, -⟩ := scan_of_joined below hend
  obtain ⟨form', hform', hstatements⟩ := exists_derivation_lowered h' hlater
  obtain ⟨-, hfailure⟩ := tokens_of_joined below hend
  rw [hend', Option.map_none] at hfailure
  -- The one derivation and the other, put together at the line break, are one of all tokens.
  obtain ⟨whole, hwhole, hall⟩ := form.exists_append path
    ⟨⟨.newline, "\n", (tokenize source path).cursor.line,
      (tokenize source path).cursor.column⟩, rfl⟩
    form'
  have hfront : whole.tokens = (tokenize (joined source below) path).front := by
    rw [hwhole, hform, hform', front_of_joined below hend]
  have hshort : ∀ token ∈ whole.tokens, ¬token.Overlong := by
    rw [hwhole, hform, hform']
    refine List.forall_mem_append.2 ⟨fun token hmem => ?_, List.forall_mem_cons.2 ⟨?_, ?_⟩⟩
    · exact not_overlong_of_parse h token ((tokenize source path).front_prefix_tokens.subset hmem)
    · exact Token.not_overlong_of_kind_ne nofun
    · refine List.forall_mem_map.2 fun token hmem => ?_
      exact not_overlong_of_parse h' token ((tokenize below path).front_prefix_tokens.subset hmem)
  have hjoined := parse_of_derivation hfailure hfront hshort
  rw [hjoined, Derivation.Program.program, hall, hstatements]
  rfl

/-! ## Refused sources -/

/-- The comparison that sees each place as it is. -/
def Views.exact (path : Option String) : Views := ⟨path, some, some⟩

theorem Views.SameToken.eq {token token' : Token} (h : (Views.exact path).SameToken token token') :
    token = token' := by
  obtain ⟨hkind, htext, hlocation⟩ := h
  obtain ⟨hline, hcolumn, -⟩ := Location.mk.inj (Option.some.inj hlocation)
  cases token
  cases token'
  rw [Token.mk.injEq]
  exact ⟨hkind, htext, hline, hcolumn⟩

theorem Views.SameFailure.eq {failure failure' : Failure SyntaxFault}
    (h : (Views.exact path).SameFailure failure failure') : failure = failure' := by
  cases h with
  | unreadable c hlocation => rw [Option.some.inj hlocation]
  | unexpected expected htoken => rw [htoken.eq]
  | tooLong => rfl

/-- Seen exactly, the same outcome is an equal one. -/
theorem Views.SameOutcome.eq {result result' : Except (Failure SyntaxFault) Program}
    (h : (Views.exact path).SameOutcome result result') : result = result' := by
  cases h with
  | @ok program program' hpath hstatements =>
    rw [Views.exact, funext Statement.relocated_some, List.map_id', List.map_id'] at hstatements
    cases program
    cases program'
    dsimp only at hpath hstatements
    rw [hpath, hstatements]
  | error hfailure => rw [hfailure.eq]

/-- Where the tokens in front of the end of one text come first in another one, the next token is
the same, unless the one text ends. -/
theorem Cursor.next_of_prefix {cursor cursor' : Cursor} (hend : cursor.scan.failure = none)
    (h : cursor.scan.front <+: cursor'.scan.tokens) :
    (∃ token later, cursor.next = (.ok token, later) ∧ token.kind = .endOfInput ∧
      later.rest = []) ∨
    ∃ token later later', cursor.next = (.ok token, later) ∧ cursor'.next = (.ok token, later') ∧
      later.scan.failure = none ∧ later.scan.front <+: later'.scan.tokens := by
  rcases cursor.scan_cases with ⟨failure, later, hnext, hscan⟩ |
    ⟨token, later, hnext, hkind, hscan, -⟩ | ⟨token, later, hnext, hkind, hscan⟩
  · rw [hscan] at hend
    cases hend
  · have hrest := (scan_ends hend).1
    rw [hscan] at hrest
    exact .inl ⟨token, later, hnext, hkind, hrest⟩
  · rw [hscan] at hend h
    rw [Scan.front_cons scan_tokens_ne_nil] at h
    -- The other cursor has the same token next, as it is in front of the end of the input.
    rcases cursor'.scan_cases with ⟨failure', later', hnext', hscan'⟩ |
      ⟨token', later', hnext', hkind', hscan', -⟩ | ⟨token', later', hnext', -, hscan'⟩ <;>
    rw [hscan'] at h
    · cases List.prefix_nil.1 h
    · obtain ⟨rfl, -⟩ := List.cons_prefix_cons.1 h
      exact absurd hkind' hkind
    · obtain ⟨rfl, hrest⟩ := List.cons_prefix_cons.1 h
      exact .inr ⟨token, later, later', hnext, hnext', hend, hrest⟩

namespace Parser

variable {course : Course} {tokens : List Token} {state final : State}
  {failure : Failure SyntaxFault}

/-- A parser is at the end of the input when nothing is left. -/
theorem lost_of_end {α : Type} {outcome : Except (Failure SyntaxFault) α × State}
    (hkind : outcome.2.current.kind = .endOfInput) (hrest : outcome.2.cursor.rest = []) :
    Lost (some 1) outcome := by
  refine ⟨1, rfl, .inl ?_⟩
  rw [State.size, hrest, if_pos hkind]
  exact Nat.one_pos

/-- The states of parsers that have the same tokens in front of them, until the first one is at the
end of its input. -/
def Tandem.untilEnd (path : Option String) : Tandem where
  views := .exact path
  limit := some 1
  alike state state' := (state.path = path ∧ state'.path = path) ∧ state.current = state'.current ∧
    state.cursor.scan.failure = none ∧ state.cursor.scan.front <+: state'.cursor.scan.tokens
  path_eq h := h.1
  current h := h.2.1 ▸ ⟨rfl, rfl, rfl⟩
  advance := by
    rintro state state' ⟨hpath, hcurrent, hend, hprefix⟩
    -- At the end of its input the first parser is at the limit; in front of it both take one token.
    rcases Cursor.next_of_prefix hend hprefix with ⟨token, later, hnext, hkind, hrest⟩ |
      ⟨token, later, later', hnext, hnext', hend', hprefix'⟩
    · refine .beyond (lost_of_end ?_ ?_) _
      · simp only [Parser.advance, hnext, hkind]
      · simp only [Parser.advance, hnext, hrest]
    · simp only [Parser.advance, hnext, hnext']
      exact .ok (hcurrent ▸ ⟨rfl, rfl, rfl⟩) ⟨hpath, rfl, hend', hprefix'⟩

/-- A parser that refuses a token in front of the end of the input has not reached it. -/
theorem not_lost_of_error {expected : String} {found : Token}
    (h : Ahead path course tokens state) (hend : course.failure = none)
    (hrun : program.run state = (.error failure, final))
    (hfault : failure.fault = .unexpected expected found) (hplace : found.kind ≠ .endOfInput) :
    ¬Lost (some 1) (program.run state) := by
  rw [hrun]
  obtain ⟨read, rest, -, -, hstop⟩ := stops_program h failure final hrun
  cases hstop with
  -- It stands at the token of its fault, so there is something left.
  | unexpected _ _ _ =>
    cases hfault
    rintro ⟨size, hsize, hlt | ⟨other, hother, hunexpected⟩⟩
    · obtain rfl := Option.some.inj hsize
      rw [State.size, if_neg hplace] at hlt
      omega
    · cases hother
      exact hunexpected ⟨expected, final.current, rfl⟩
  | unreadable _ hunreadable => cases hend.symm.trans hunreadable
  | tooLong _ _ _ => cases hfault

/-- A parser that works on more input fails in the same way in front of the end of the first one. -/
theorem error_of_alike {state' : State} (halike : (Tandem.untilEnd path).alike state state')
    (hrun : program.run state = (.error failure, final))
    (hnot : ¬Lost (some 1) (program.run state)) : (program.run state').1 = .error failure := by
  have houtcome := inStep_program _ _ halike
  generalize program.run state = outcome, program.run state' = outcome' at houtcome hrun hnot ⊢
  subst hrun
  cases houtcome with
  | error hsame _ _ => rw [hsame.eq]
  | beyond hlost _ => exact absurd hlost hnot

end Parser

/-- Where a character of a source starts no token, nothing below is read. -/
theorem parse_joined_of_fails {failure : Failure SyntaxFault}
    (h : (tokenize source path).failure = some failure) :
    parse (joined source below) path = parse source path := by
  obtain ⟨htokens, hfailure⟩ := fails_of_joined below h
  obtain ⟨c, -, -, -, hunreadable⟩ := Cursor.scan_fails h
  have hscan : (Views.exact path).SameScan (tokenize source path)
      (tokenize (joined source below) path) := by
    constructor
    · rw [htokens]
      exact List.forall₂_same.2 fun token _ => ⟨rfl, rfl, rfl⟩
    · rw [h, hfailure, hunreadable]
      exact .some (.unreadable c rfl)
  exact (parse_of_sameScan hscan).eq.symm

/-- A token that is refused in front of the end of a source is refused whatever is below. -/
theorem parse_joined_of_unexpected {failure : Failure SyntaxFault} {expected : String}
    {found : Token}
    (hscan : (tokenize source path).failure = none) (h : parse source path = .error failure)
    (hfault : failure.fault = .unexpected expected found) (hplace : found.kind ≠ .endOfInput) :
    parse (joined source below) path = .error failure := by
  have hprefix : (tokenize source path).front <+: (tokenize (joined source below) path).tokens := by
    rw [(tokens_of_joined below hscan).1]
    exact List.prefix_append _ _
  have hnot : ∀ {state}, Parser.State.start (Cursor.start source path) path = .ok state →
      (Parser.program.run state).1 = .error failure ∧
        ¬Parser.Lost (some 1) (Parser.program.run state) := by
    intro state hstart
    obtain ⟨states, hahead, -⟩ := Parser.ahead_of_start rfl hstart
    rw [parse_eq_run hstart] at h
    exact ⟨h, Parser.not_lost_of_error hahead hscan (Prod.ext h rfl) hfault hplace⟩
  rcases Cursor.next_of_prefix hscan hprefix with ⟨token, later, hnext, hkind, hrest⟩ |
    ⟨token, later, later', hnext, hnext', hend, hprefix'⟩
  -- Without any token the end would have been reached from the start.
  · have hlost : Parser.Lost (some 1) ((.ok (), ⟨token, later, path⟩) :
        Except (Failure SyntaxFault) Unit × Parser.State) := Parser.lost_of_end hkind hrest
    exact absurd (hlost.of_ok (Parser.program.size_le _)) (hnot (Parser.start_of_ok rfl hnext)).2
  · obtain ⟨hrun, hnot⟩ := hnot (Parser.start_of_ok rfl hnext)
    have halike : (Parser.Tandem.untilEnd path).alike ⟨token, later, path⟩ ⟨token, later', path⟩ :=
      ⟨⟨rfl, rfl⟩, rfl, hend, hprefix'⟩
    rw [parse_eq_run (Parser.start_of_ok rfl hnext')]
    exact Parser.error_of_alike halike (Prod.ext hrun rfl) hnot

/-- A number that is too long is refused whatever is below. It may be the last token of the first
source, so the parser may have seen the line break behind it. -/
theorem parse_joined_of_tooLong {number : Token} (hscan : (tokenize source path).failure = none)
    (h : parse source path = .error number.tooLong) :
    parse (joined source below) path = .error number.tooLong := by
  obtain ⟨stop, hsource, hstop⟩ := Cursor.scan_tokens_eq hscan
  obtain ⟨hjoined, -⟩ := tokens_of_joined below hscan
  rw [← tokenize] at hsource
  have houtcome := Parser.outcome_of_parse source path
  rw [h] at houtcome
  generalize hfailure : number.tooLong = failure at houtcome h ⊢
  cases houtcome with
  | unexpected | unreadable => cases hfailure
  | @tooLong first count hfirst hlong _ _ hshort =>
    -- The end of the input is no number, so the number is in front of it.
    have hlt : count < (tokenize source path).front.length := by
      by_contra hle
      rw [hsource, List.getElem?_append_right (by omega)] at hfirst
      obtain rfl := List.mem_singleton.1 (List.mem_of_getElem? hfirst)
      cases hstop.symm.trans hlong.1
    rw [hsource, List.getElem?_append_left hlt] at hfirst
    rw [hsource, List.take_append_of_le_length hlt.le] at hshort
    have hfront : (tokenize source path).front = (tokenize source path).front.take count ++
        first :: (tokenize source path).front.drop (count + 1) := by
      obtain ⟨hlt, rfl⟩ := List.getElem?_eq_some_iff.1 hfirst
      simp
    rw [hfront, List.append_assoc, List.cons_append] at hsource hjoined
    have hbegins := (parse_eq_tooLong_iff hsource (by simp) hlong hshort).1 h
    exact (parse_eq_tooLong_iff hjoined (by simp) hlong hshort).2 hbegins

/-- A source that is refused in front of its end is refused for the same reason whatever is below.
-/
theorem parse_joined_of_error {failure : Failure SyntaxFault}
    (h : parse source path = .error failure)
    (hplace : ∀ expected found, failure.fault = .unexpected expected found →
      found.kind ≠ .endOfInput) : parse (joined source below) path = .error failure := by
  match hscan : (tokenize source path).failure with
  | some unreadable => rw [parse_joined_of_fails hscan, h]
  | none =>
    rcases parse_error_cases h with
      ⟨expected, found, -, -, rfl, -⟩ | ⟨hunreadable, -⟩ | ⟨number, -, rfl, -⟩
    · exact parse_joined_of_unexpected hscan h rfl (hplace expected found rfl)
    · cases hscan.symm.trans hunreadable
    · exact parse_joined_of_tooLong hscan h

/-! ## Both -/

/-- A source, a line break and another source. If the first one can be read to its end, the tokens
are those of both, the second ones further down, with a line break where the input ended; otherwise
they are those of the first one. Two programs are a program with the statements of both, the second
ones further down. If the first source is refused in front of its end, it is still refused so. -/
theorem joined_sources (source below : String) (path : Option String) :
    let lines := lineCount source
    let all := tokenize (joined source below) path
    ((tokenize source path).failure = none → ∃ front line column,
      (tokenize source path).tokens = front ++ [⟨.endOfInput, "", line, column⟩] ∧
      all.tokens = front ++ ⟨.newline, "\n", line, column⟩ ::
        (tokenize below path).tokens.map (Token.lowered lines) ∧
      all.failure = (tokenize below path).failure.map (Failure.lowered lines)) ∧
    (∀ failure, (tokenize source path).failure = some failure →
      all.tokens = (tokenize source path).tokens ∧ all.failure = some failure) ∧
    (∀ program program', parse source path = .ok program → parse below path = .ok program' →
      parse (joined source below) path = .ok ⟨program.statements ++
        program'.statements.map (Statement.lowered lines), path⟩) ∧
    ∀ failure, parse source path = .error failure →
      (∀ expected found, failure.fault = .unexpected expected found → found.kind ≠ .endOfInput) →
        parse (joined source below) path = .error failure := by
  refine ⟨fun h => ?_, fun failure h => fails_of_joined below h,
    fun program program' h h' => parse_joined_of_parse h h',
    fun failure h hplace => parse_joined_of_error h hplace⟩
  -- The token at the end of `source` becomes the line break in front of `below`.
  obtain ⟨-, front, hfront⟩ := Cursor.scan_ends h
  obtain ⟨htokens, hfailure⟩ := tokens_of_joined below h
  have hsame : (tokenize source path).front = front := by
    rw [Cursor.Scan.front, h, Option.isNone_none, if_pos rfl, tokenize, hfront,
      List.dropLast_concat]
  rw [hsame] at htokens
  exact ⟨front, _, _, hfront, htokens, hfailure⟩

/-- An assignment above a definition with an indented body, a source with a character that starts no
token, and one with a comma where a name is expected. -/
theorem joined_sources_of_assignment_and_definition :
    let source := "x = a (1)\n"
    let below := "def f\n  y = b\nreturn \x7by\x7d"
    ((tokenize source none).failure = none ∧ ∃ front line column,
      (tokenize source none).tokens = front ++ [⟨.endOfInput, "", line, column⟩] ∧
      (tokenize (joined source below) none).tokens = front ++ ⟨.newline, "\n", line, column⟩ ::
        (tokenize below none).tokens.map (Token.lowered (lineCount source)) ∧
      (tokenize (joined source below) none).failure =
        (tokenize below none).failure.map (Failure.lowered (lineCount source))) ∧
    (∃ failure, (tokenize "x = \x07" none).failure = some failure ∧
      (tokenize (joined "x = \x07" below) none).tokens = (tokenize "x = \x07" none).tokens ∧
      (tokenize (joined "x = \x07" below) none).failure = some failure) ∧
    (∃ program program', parse source none = .ok program ∧ parse below none = .ok program' ∧
      parse (joined source below) none = .ok ⟨program.statements ++
        program'.statements.map (Statement.lowered (lineCount source)), none⟩) ∧
    ∃ failure, parse "x = , a" none = .error failure ∧
      (∀ expected found, failure.fault = .unexpected expected found → found.kind ≠ .endOfInput) ∧
      parse (joined "x = , a" below) none = .error failure := by
  intro source below
  obtain ⟨hends, -, hprograms, -⟩ := joined_sources source below none
  obtain ⟨-, hfails, -, -⟩ := joined_sources "x = \x07" below none
  obtain ⟨-, -, -, hrefused⟩ := joined_sources "x = , a" below none
  have hscan : (tokenize source none).failure = none := by decide +kernel
  refine ⟨⟨hscan, hends hscan⟩, ?_, ?_, ?_⟩
  · have hunreadable : (tokenize "x = \x07" none).failure =
        some ⟨.unreadable (Char.ofNat 7), ⟨some 1, some 4, none⟩⟩ := by decide +kernel
    exact ⟨_, hunreadable, hfails _ hunreadable⟩
  · have hok : (parse source none).toBool = true := by decide +kernel
    have hok' : (parse below none).toBool = true := by decide +kernel
    match hresult : parse source none, hresult' : parse below none with
    | .ok program, .ok program' =>
      exact ⟨program, program', rfl, rfl, hprograms program program' hresult hresult'⟩
    | .error failure, _ =>
      rw [hresult] at hok
      cases hok
    | _, .error failure =>
      rw [hresult'] at hok'
      cases hok'
  · have herror : (match parse "x = , a" none with
        | .ok _ => none
        | .error failure => some failure) =
        some ⟨.unexpected "IDENT" ⟨.comma, ",", 1, 4⟩, ⟨some 1, some 4, none⟩⟩ := by
      decide +kernel
    match hresult : parse "x = , a" none with
    | .ok program =>
      rw [hresult] at herror
      cases herror
    | .error failure =>
      rw [hresult] at herror
      cases herror
      have hplace : ∀ expected found, SyntaxFault.unexpected "IDENT" ⟨.comma, ",", 1, 4⟩ =
          .unexpected expected found → found.kind ≠ .endOfInput := by
        intro expected found heq
        cases heq
        decide
      exact ⟨_, rfl, hplace, hrefused _ hresult hplace⟩

end Extraction
