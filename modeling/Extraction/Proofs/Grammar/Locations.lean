import Extraction.Proofs.Grammar.Language
import Extraction.Proofs.Lexing.Position

/-!
# Locations of statements

Where the statements of a program stand in its source. A definition comes before the statements of
its body, and these come before the list of returned names, which counts as a statement here.

* `Program.listing` are the statements of a program in this order, and `Statement.opening?` is the
  text that a statement starts with.
* `Location.Before` is the order of places, line by line; `Text.IsAt.before` relates it to offsets.
* `Derivation.Program.heads` are the tokens that the statements of a derivation start with.
  `Derivation.Program.heads_sublist` finds them among its tokens, and
  `Derivation.Program.marks_listing` finds the places and the texts of its statements in them.
* `locations_of_parse` is the result for sources.
-/

namespace Extraction

/-! ## Statements in order -/

namespace Statement

mutual

/-- A statement with those in it: a definition, its body, and the names that it returns. -/
def unfolded : Statement → List Statement
  | .definition name body spec location =>
    .definition name body spec location :: (unfoldedAll body ++ [.returns spec])
  | statement => [statement]

/-- Statements with those in them. -/
def unfoldedAll : List Statement → List Statement
  | [] => []
  | statement :: rest => unfolded statement ++ unfoldedAll rest

end

/-- The text that a statement starts with: its first target, or a keyword. -/
def opening? : Statement → Option String
  | .assignment target _ _ => some target
  | .invocation targets _ _ => targets.head?
  | .definition .. => some Keyword.define.text
  | .returns _ => some Keyword.returns.text
  | .bare => none

/-- Where `statement` was read, and what it starts with. -/
def mark (statement : Statement) : Option Location × Option String :=
  (statement.location, statement.opening?)

end Statement

/-- The statements of `program` in the order of their places. -/
def Program.listing (program : Program) : List Statement :=
  Statement.unfoldedAll program.statements

/-! ## The order of places -/

/-- `location` comes before `later`: on a line above, or on the same line further left. -/
def Location.Before (location later : Location) : Prop :=
  location.line < later.line ∨ location.line = later.line ∧ location.column < later.column

/-- Behind a part of a text, without a line break in it, the column is larger by its length. -/
theorem Text.length_rtakeWhile_append {before part : List Char} (h : '\n' ∉ part) :
    ((before ++ part).rtakeWhile (· != '\n')).length =
      (before.rtakeWhile (· != '\n')).length + part.length := by
  have hpart : ∀ c ∈ part.reverse, (c != '\n') = true := by
    intro c hmem
    rw [bne_iff_ne]
    rintro rfl
    exact h (List.mem_reverse.1 hmem)
  rw [List.rtakeWhile, List.reverse_append, List.takeWhile_append_of_pos hpart, List.reverse_append,
    List.reverse_reverse, List.length_append, List.rtakeWhile]

/-- Of two offsets in a text, the larger one is on a line further down, or further right. -/
theorem Text.IsAt.before {cs : List Char} {location later : Location} {k l : Nat}
    (h : IsAt cs location.line location.column k) (hlater : IsAt cs later.line later.column l)
    (hlt : k < l) : location.Before later := by
  -- Between the two there is a part that is not empty.
  obtain ⟨part, hpart⟩ : cs.take k <+: cs.take l := List.take_prefix_take_left (Nat.le_of_lt hlt)
  have hlength := congrArg List.length hpart
  rw [List.length_append, List.length_take_of_le h.le_length,
    List.length_take_of_le hlater.le_length] at hlength
  have hcount := congrArg (List.count '\n') hpart
  rw [List.count_append] at hcount
  have hline := h.line_eq
  have hline' := hlater.line_eq
  by_cases hnewline : '\n' ∈ part
  · have hpos := List.count_pos_iff.2 hnewline
    left
    omega
  · have hzero := List.count_eq_zero_of_not_mem hnewline
    have hcolumn := hlater.column_eq
    rw [← hpart, length_rtakeWhile_append hnewline, ← h.column_eq] at hcolumn
    right
    omega

/-! ## Tokens and words -/

namespace Lexeme.Word

/-- A token of the kind of a keyword has the text of the keyword. -/
theorem eq_keyword {text rest : List Char} {kind : Token.Kind} (h : Word kind text rest)
    {keyword : Keyword} (hkind : kind = keyword.kind) : text = keyword.text.toList := by
  cases h with
  | integer => cases keyword <;> cases hkind
  | keyword other _ => cases keyword <;> cases other <;> first | rfl | cases hkind
  | symbol _ hsymbol =>
    subst hkind
    unfold Token.Kind.ofSymbol? at hsymbol
    split_ifs at hsymbol <;> cases keyword <;> cases hsymbol
  | name => cases keyword <;> cases hkind

end Lexeme.Word

namespace Cursor

/-- Each token of a source, but for the end of the input, is a word. -/
theorem exists_word_of_mem_front {cursor : Cursor} {token : Token}
    (hmem : token ∈ cursor.scan.front) :
    ∃ rest, Lexeme.Word token.kind token.text.toList rest := by
  induction cursor using token_induction with
  | nil cursor hrest =>
    rw [scan_of_nil hrest] at hmem
    cases hmem
  | space cursor c rest hrest hc ih =>
    rw [scan_of_space hrest hc] at hmem
    exact ih hmem
  | word cursor kind text rest hrest hword ih =>
    rw [scan_of_word hrest hword, Scan.front_cons scan_tokens_ne_nil] at hmem
    rcases List.mem_cons.1 hmem with rfl | hmem
    · exact ⟨rest, by rwa [String.toList_ofList]⟩
    · exact ih hmem
  | unreadable cursor c rest hrest hc =>
    rw [scan_of_unreadable hrest hc] at hmem
    cases hmem

end Cursor

/-- Those of `tokens` that are of the kind of a keyword have the text of the keyword. -/
def SpellsKeywords (tokens : List Token) : Prop :=
  ∀ token ∈ tokens, ∀ keyword : Keyword, token.kind = keyword.kind → token.text = keyword.text

/-- The keywords that a cursor reads have their own texts. -/
theorem Cursor.spellsKeywords_front (cursor : Cursor) : SpellsKeywords cursor.scan.front := by
  intro token hmem keyword hkind
  obtain ⟨rest, hword⟩ := exists_word_of_mem_front hmem
  exact String.toList_inj.1 (hword.eq_keyword hkind)

/-! ## Tokens in front of statements -/

/-- `token` as the mark of a statement that starts with it. -/
def Token.mark (path : Option String) (token : Token) : Option Location × Option String :=
  (some (token.location path), some token.text)

namespace Derivation

variable {path : Option String}

/-- The first token of a binding. -/
def Binding.head : Binding → Token
  | .invocation targets _ _ _ => targets.first.token
  | .assignment target _ _ _ _ => target.token

/-- The first tokens of `definition`, of the statements in its body, and of what it returns. -/
def Definition.heads (definition : Definition) : List Token :=
  definition.define.token ::
    (definition.body.map (fun line => line.1.head) ++ [definition.returns.token])

/-- The first tokens of a statement and of those in it. -/
def Statement.heads : Statement → List Token
  | .binding form => [form.head]
  | .definition form => form.heads

/-- The first tokens of the statements of a program. -/
def Program.heads : Program → List Token
  | .blank _ => []
  | .lines _ first others _ => first.heads ++ others.flatMap fun next => next.2.heads

/-! ### Among the tokens -/

theorem Binding.exists_tokens_eq (form : Binding) : ∃ rest, form.tokens = form.head :: rest := by
  cases form <;> exact ⟨_, rfl⟩

/-- The head of a binding is one of its tokens. -/
theorem Binding.head_sublist (form : Binding) : [form.head].Sublist form.tokens := by
  obtain ⟨rest, htokens⟩ := form.exists_tokens_eq
  rw [htokens]
  exact List.singleton_sublist.2 List.mem_cons_self

theorem Definition.heads_sublist (form : Definition) : form.heads.Sublist form.tokens := by
  have hbody : (form.body.map fun line => line.1.head).Sublist (form.body.flatMap lineTokens) := by
    induction form.body with
    | nil => exact List.Sublist.refl _
    | cons line body ih =>
      rw [List.map_cons, List.flatMap_cons, ← List.singleton_append]
      exact (line.1.head_sublist.trans (List.sublist_append_left ..)).append ih
  have hreturns : [form.returns.token].Sublist (form.returns.token :: form.names.tokens) :=
    List.singleton_sublist.2 List.mem_cons_self
  -- The tokens of the name and of the line breaks behind it are left out.
  have hbehind := (hbody.trans (List.sublist_append_right form.breaks.tokens _)).append hreturns
  exact (hbehind.cons form.name.token).cons_cons form.define.token

theorem Statement.heads_sublist (form : Statement) : form.heads.Sublist form.tokens := by
  cases form with
  | binding form => exact form.head_sublist
  | definition form => exact form.heads_sublist

/-- The heads of a program are among its tokens, in order. -/
theorem Program.heads_sublist (form : Program) : form.heads.Sublist form.tokens := by
  cases form with
  | blank breaks => exact List.nil_sublist _
  | lines before first others after =>
    have hothers : (others.flatMap fun next => next.2.heads).Sublist
        (others.flatMap furtherTokens) := by
      induction others with
      | nil => exact List.Sublist.refl _
      | cons next others ih =>
        rw [List.flatMap_cons, List.flatMap_cons]
        exact (next.2.heads_sublist.trans (List.sublist_append_right ..)).append ih
    have hfirst := first.heads_sublist.trans (List.sublist_append_right (breakTokens before) _)
    exact (hfirst.append hothers).trans (List.sublist_append_left ..)

/-! ### Marks -/

/-- A binding is marked by its head. -/
theorem Binding.marks_unfolded (form : Binding) :
    (form.statement path).unfolded.map Statement.mark = [form.head.mark path] := by
  cases form <;> rfl

theorem marks_unfoldedAll_body (body : List (Binding × Breaks)) :
    (Statement.unfoldedAll (bodyStatements path body)).map Statement.mark =
      body.map fun line => line.1.head.mark path := by
  induction body with
  | nil => rfl
  | cons line body ih =>
    rw [bodyStatements, List.map_cons, Statement.unfoldedAll, List.map_append,
      line.1.marks_unfolded, List.map_cons, ← ih]
    rfl

/-- A definition and the statements in it are marked by its heads, if its keywords are spelled. -/
theorem Definition.marks_unfolded {form : Definition} (h : SpellsKeywords form.tokens) :
    (form.statement path).unfolded.map Statement.mark = form.heads.map (Token.mark path) := by
  -- Both keywords are among the tokens.
  have hdefine : form.define.token.text = Keyword.define.text :=
    h _ List.mem_cons_self .define form.define.kind_eq
  have hreturns : form.returns.token.text = Keyword.returns.text := by
    refine h _ (form.heads_sublist.mem ?_) .returns form.returns.kind_eq
    exact List.mem_cons_of_mem _ (List.mem_append_right _ (List.mem_singleton.2 rfl))
  have hmark : (form.statement path).mark = form.define.token.mark path := by
    rw [Token.mark, hdefine]
    rfl
  have hmark' : (Extraction.Statement.returns
      ⟨form.names.texts, some (form.returns.token.location path)⟩).mark =
        form.returns.token.mark path := by
    rw [Token.mark, hreturns]
    rfl
  calc (form.statement path).unfolded.map Statement.mark
      = (form.statement path).mark ::
          ((Statement.unfoldedAll (bodyStatements path form.body) ++ [Statement.returns
            ⟨form.names.texts, some (form.returns.token.location path)⟩]).map Statement.mark) := rfl
    _ = form.define.token.mark path :: ((form.body.map fun line => line.1.head.mark path) ++
          [form.returns.token.mark path]) := by
      rw [List.map_append, marks_unfoldedAll_body, List.map_singleton, hmark, hmark']
    _ = form.heads.map (Token.mark path) := by
      rw [Definition.heads, List.map_cons, List.map_append, List.map_map]
      rfl

/-- A statement and those in it are marked by its heads, if its keywords are spelled. -/
theorem Statement.marks_unfolded {form : Statement} (h : SpellsKeywords form.tokens) :
    (form.statement path).unfolded.map Statement.mark = form.heads.map (Token.mark path) := by
  cases form with
  | binding form => exact form.marks_unfolded
  | definition form => exact Definition.marks_unfolded h

theorem marks_unfoldedAll_further {others : List (Breaks × Statement)}
    (h : SpellsKeywords (others.flatMap furtherTokens)) :
    (Statement.unfoldedAll (others.map fun next => next.2.statement path)).map Statement.mark =
      (others.flatMap fun next => next.2.heads).map (Token.mark path) := by
  induction others with
  | nil => rfl
  | cons next others ih =>
    obtain ⟨hnext, hothers⟩ := List.forall_mem_append.1 h
    have hmarks : (next.2.statement path).unfolded.map Statement.mark = _ :=
      Statement.marks_unfolded (List.forall_mem_append.1 hnext).2
    rw [List.map_cons, Statement.unfoldedAll, List.map_append, List.flatMap_cons,
      List.map_append, hmarks, ih hothers]

/-- The places and the texts of the statements of a program are those of their first tokens. -/
theorem Program.marks_listing {form : Program} (h : SpellsKeywords form.tokens) :
    (form.program path).listing.map Statement.mark = form.heads.map (Token.mark path) := by
  cases form with
  | blank breaks => rfl
  | lines before first others after =>
    obtain ⟨hlines, -⟩ := List.forall_mem_append.1 h
    obtain ⟨hfirst, hothers⟩ := List.forall_mem_append.1 hlines
    have hmarks : (first.statement path).unfolded.map Statement.mark = _ :=
      Statement.marks_unfolded (List.forall_mem_append.1 hfirst).2
    rw [Program.listing, Program.program, Program.statements, Statement.unfoldedAll,
      Program.heads, List.map_append, List.map_append, hmarks, marks_unfoldedAll_further hothers]

end Derivation

/-! ## The statements of a source -/

variable {source : String} {path : Option String} {program : Program}

/-- The statements of a program are at places of its source, in order. Each is at its first token,
a target or a keyword. -/
theorem exists_heads_of_parse (h : parse source path = .ok program) :
    ∃ heads : List Token, heads.Sublist (tokenize source path).front ∧
      program.listing.map Statement.mark = heads.map (Token.mark path) := by
  obtain ⟨-, form, htokens, rfl⟩ := exists_derivation_of_parse h
  refine ⟨form.heads, ?_, Derivation.Program.marks_listing ?_⟩
  · rw [← htokens]
    exact form.heads_sublist
  · rw [htokens]
    exact Cursor.spellsKeywords_front _

/-- Every statement of a parsed program, also in bodies and with the lists of returned names, was
read from the given path, at a place in the source where its first target stands, or `def` or
`return`. The places follow the order of the program strictly. -/
theorem locations_of_parse (h : parse source path = .ok program) :
    let cs := source.toList
    (∀ statement ∈ program.listing, ∃ location text,
      statement.location = some location ∧ statement.opening? = some text ∧
      location.path = path ∧
      let start := Text.offset cs location.line location.column
      Text.IsAt cs location.line location.column start ∧ text.toList <+: cs.drop start ∧
        0 < text.length ∧ start + text.length ≤ cs.length) ∧
    (program.listing.filterMap Statement.location).Pairwise Location.Before := by
  intro cs
  obtain ⟨heads, hsublist, hmarks⟩ := exists_heads_of_parse h
  have hwithin := Cursor.Within.start source path
  have htiles := Cursor.tiles_scan hwithin
  have hheads : heads.Sublist (tokenize source path).tokens :=
    hsublist.trans (Cursor.Scan.front_prefix_tokens _).sublist
  constructor
  · intro statement hmem
    -- The statement is marked by one of the tokens.
    have hmark := @List.mem_map_of_mem _ _ _ _ Statement.mark hmem
    rw [hmarks] at hmark
    obtain ⟨token, htoken, hmark⟩ := List.mem_map.1 hmark
    obtain ⟨hlocation, htext⟩ := Prod.mk.inj hmark
    refine ⟨_, _, hlocation.symm, htext.symm, rfl, ?_⟩
    obtain ⟨hisAt, hpart, -, hstop⟩ := htiles.of_mem (hheads.mem htoken)
    obtain ⟨rest, hword⟩ := Cursor.exists_word_of_mem_front (hsublist.mem htoken)
    refine ⟨hisAt, hpart, ?_, hstop.trans (Cursor.scan_cursor hwithin).1.isAt.le_length⟩
    rw [← String.length_toList]
    exact List.length_pos_iff.2 hword.ne_nil
  · have hlocations : program.listing.filterMap Statement.location =
        heads.map fun token => token.location path := by
      have hfilter := congrArg (List.filterMap Prod.fst) hmarks
      rw [List.filterMap_map, List.filterMap_map] at hfilter
      calc program.listing.filterMap Statement.location
          = heads.filterMap fun token => some (token.location path) := hfilter
        _ = heads.map fun token => token.location path := by rw [← List.filterMap_eq_map]; rfl
    rw [hlocations, List.pairwise_map]
    refine (htiles.pairwise.sublist hheads).imp_of_mem ?_
    intro token later hmem hmem' hlater
    obtain ⟨hisAt, -⟩ := htiles.of_mem (hheads.mem hmem)
    obtain ⟨hisAt', -⟩ := htiles.of_mem (hheads.mem hmem')
    exact hisAt.before hisAt' hlater.1

/-- The statements of a source with blank lines and a definition are at places in order. -/
theorem locations_of_parse_of_definition :
    let source :=
      "\nfirst name, b = do f\n\n def f\n\n  a = p \x7bhref\x7d\n return \x7ba\x7d\nc = q"
    ∃ program, parse source (some "shop") = .ok program ∧
      ((program.listing.filterMap Statement.location).map fun location =>
        (location.line, location.column)) = [(2, 0), (4, 1), (6, 2), (7, 1), (8, 0)] ∧
      (program.listing.filterMap Statement.location).Pairwise Location.Before := by
  intro source
  have hparse : ((parse source (some "shop")).toOption.map fun program =>
      (program.listing.filterMap Statement.location).map fun location =>
        (location.line, location.column)) = some [(2, 0), (4, 1), (6, 2), (7, 1), (8, 0)] := by
    decide +kernel
  match hresult : parse source (some "shop") with
  | .ok program =>
    rw [hresult] at hparse
    exact ⟨program, rfl, Option.some.inj hparse, (locations_of_parse hresult).2⟩
  | .error failure =>
    rw [hresult] at hparse
    cases hparse

end Extraction
