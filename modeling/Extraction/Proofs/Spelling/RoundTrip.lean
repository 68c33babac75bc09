import Extraction.Proofs.Grammar.Image
import Extraction.Proofs.Spelling.Line

/-!
# Programs as text

A program that was read from a source can be written down again, one line for each of its
assignments, invocations and lists of returned names, and one for the name of each function. What
is written is read as the program, but for the places.

* `Statement.lines` and `Program.source` are the text of a program.
* `isSpelled_of_parse` says that the names in a source can be written down again.
* `writes_statement` and `writes_program` say what the text is read as.
* `parse_source_of_parse` is the round trip.
-/

namespace Extraction

open Extraction.Derivation (Leaf)
open Identifier (IsName StopsNames)

/-! ## The text of a program -/

/-- The first line of a statement. -/
def Statement.firstLine : Statement → String
  | .definition name _ _ _ => "def " ++ name
  | statement => statement.describe

/-- The other lines of a statement: those of the body of a definition, and the returned names. -/
def Statement.furtherLines : Statement → List String
  | .definition _ body spec _ => body.map Statement.describe ++ [spec.describe]
  | _ => []

/-- The lines of `statement`. -/
def Statement.lines (statement : Statement) : List String :=
  statement.firstLine :: statement.furtherLines

/-- The text of `program`. -/
def Program.source (program : Program) : String :=
  String.intercalate "\n" (program.statements.flatMap Statement.lines)

/-- A statement that a source may hold. -/
def Statement.IsSpelled : Statement → Prop
  | .definition name body spec _ =>
    IsName name.toList ∧ (∀ inner ∈ body, inner.IsLine) ∧ AreNames spec.names
  | statement => statement.IsLine

/-! ## Names of a source -/

/-- The text of every name among `tokens` is a name by itself, and that of every number is a row of
digits that is not too long. -/
def Legible (tokens : List Token) : Prop :=
  ∀ token ∈ tokens, (token.kind = .name → IsName token.text.toList) ∧
    (token.kind = .integer → (∀ c ∈ token.text.toList, Identifier.isDigit c) ∧ ¬token.Overlong)

theorem legible_append {before after : List Token} :
    Legible (before ++ after) ↔ Legible before ∧ Legible after := List.forall_mem_append

/-- The tokens of each part of a legible row are legible. -/
theorem Legible.of_flatMap {α : Type} {tokens : α → List Token} {as : List α}
    (h : Legible (as.flatMap tokens)) {a : α} (hmem : a ∈ as) : Legible (tokens a) :=
  fun token htoken => h token (List.mem_flatMap.2 ⟨a, hmem, htoken⟩)

/-- The names and the numbers of a program can be read from its source. -/
theorem legible_of_parse {source : String} {path : Option String} {program : Program}
    (h : parse source path = .ok program) : Legible (tokenize source path).front := by
  intro token hmem
  have htoken := (tokenize source path).front_prefix_tokens.subset hmem
  obtain ⟨here, hnext⟩ := Cursor.exists_next_of_mem_scan htoken
  refine ⟨Cursor.isName_of_next hnext, fun hkind => ⟨fun c hc => ?_, ?_⟩⟩
  · obtain ⟨rest, hword⟩ := Cursor.exists_word_of_next hnext (by rw [hkind]; decide)
    exact hword.isDigit_of_mem hkind hc
  · exact not_overlong_of_parse h token htoken

namespace Derivation

/-- A name among legible tokens is one by itself. -/
theorem Leaf.isName (leaf : Leaf .name) {tokens : List Token} (h : Legible tokens)
    (hmem : leaf.token ∈ tokens) : IsName leaf.token.text.toList :=
  (h leaf.token hmem).1 leaf.kind_eq

/-- A number among legible tokens can be written again. -/
theorem Leaf.isNumber (leaf : Leaf .integer) {tokens : List Token} (h : Legible tokens)
    (hmem : leaf.token ∈ tokens) : IsNumber leaf.number := by
  obtain ⟨hdigits, hshort⟩ := (h leaf.token hmem).2 leaf.kind_eq
  rw [leaf.overlong_iff, Nat.not_lt] at hshort
  exact isNumber_decimal hdigits hshort

theorem Names.areNames {names : Names} (h : Legible names.tokens) : AreNames names.texts := by
  refine ⟨List.cons_ne_nil _ _, fun name hmem => ?_⟩
  rcases List.mem_cons.1 hmem with rfl | hmem
  · exact names.first.isName h (by simp [Names.tokens])
  · obtain ⟨next, hnext, rfl⟩ := List.mem_map.1 hmem
    refine next.2.isName h (List.mem_cons_of_mem _ ?_)
    exact List.mem_flatMap.2 ⟨next, hnext, by simp [nextTokens]⟩

theorem NameList.areNames {list : NameList} (h : Legible list.tokens) : AreNames list.texts :=
  Names.areNames fun token hmem => h token (by simp [NameList.tokens, hmem])

/-- The numbers of a legible range can be written again. -/
theorem Range.isSpelled {form : Range} (h : Legible form.tokens) : form.range.IsSpelled := by
  obtain ⟨opening, start, _ | ⟨comma, _ | stop⟩, closing⟩ := form
  all_goals have hstart := start.isNumber h (by simp [Range.tokens])
  -- One number, a number and an open end, and two numbers.
  · exact ⟨hstart, hstart⟩
  · exact hstart
  · exact ⟨hstart, stop.isNumber h (by simp [Range.tokens, optionalTokens, stopTokens])⟩

/-- A legible binding stands for a statement that its own line can be read as. -/
theorem Binding.isLine {form : Binding} (path : Option String) (h : Legible form.tokens) :
    (form.statement path).IsLine := by
  cases form with
  | invocation targets equals invoke function =>
    obtain ⟨htargets, hcall⟩ := legible_append.1 h
    exact ⟨Names.areNames htargets, function.isName hcall (by simp)⟩
  | assignment target equals selector attributes range =>
    -- Each part has its tokens among those of the whole binding.
    refine ⟨target.isName h (by simp [Binding.tokens]),
      selector.isName h (by simp [Binding.tokens]),
      ?_, ?_⟩
    · cases range with
      | none => exact trivial
      | some range =>
        exact Range.isSpelled fun token htoken =>
          h token (by simp [Binding.tokens, optionalTokens, htoken])
    · intro names hmem
      cases attributes with
      | none => cases hmem
      | some list =>
        obtain rfl := Option.some.inj hmem
        exact NameList.areNames fun token htoken =>
          h token (by simp [Binding.tokens, optionalTokens, htoken])

/-- A legible definition stands for a statement whose lines can be read. -/
theorem Definition.isSpelled {form : Definition} (path : Option String) (h : Legible form.tokens) :
    (form.statement path).IsSpelled := by
  have hname := form.name.isName h (by simp [Definition.tokens])
  have hbody : Legible (form.body.flatMap lineTokens) := fun token hmem =>
    h token (by simp only [Definition.tokens, List.mem_cons, List.mem_append, hmem]; simp)
  have hnames : Legible form.names.tokens := fun token hmem =>
    h token (by simp [Definition.tokens, hmem])
  refine ⟨hname, fun inner hinner => ?_, NameList.areNames hnames⟩
  obtain ⟨line, hmem, rfl⟩ := List.mem_map.1 hinner
  exact Binding.isLine path (legible_append.1 (hbody.of_flatMap hmem)).1

/-- A legible statement stands for one whose lines can be read. -/
theorem Statement.isSpelled {form : Statement} (path : Option String) (h : Legible form.tokens) :
    (form.statement path).IsSpelled := by
  cases form with
  | binding form =>
    have hline := Binding.isLine path h
    cases form <;> exact hline
  | definition form => exact Definition.isSpelled path h

/-- The statements of a legible program can be read from their lines. -/
theorem Program.isSpelled {form : Program} (path : Option String) (h : Legible form.tokens) :
    ∀ statement ∈ form.statements path, statement.IsSpelled := by
  intro statement hmem
  cases form with
  | blank breaks => cases hmem
  | lines before first others after =>
    obtain ⟨hlines, -⟩ := legible_append.1 h
    obtain ⟨hbefore, hothers⟩ := legible_append.1 hlines
    rcases List.mem_cons.1 hmem with rfl | hmem
    · exact Statement.isSpelled path (legible_append.1 hbefore).2
    · obtain ⟨next, hnext, rfl⟩ := List.mem_map.1 hmem
      exact Statement.isSpelled path (legible_append.1 (hothers.of_flatMap hnext)).2

end Derivation

/-- The statements in a source can be written down again. -/
theorem isSpelled_of_parse {source : String} {path : Option String} {program : Program}
    (h : parse source path = .ok program) : ∀ statement ∈ program.statements,
      statement.IsSpelled := by
  obtain ⟨-, form, htokens, rfl⟩ := exists_derivation_of_parse h
  refine Derivation.Program.isSpelled path ?_
  rw [htokens]
  exact legible_of_parse h

/-! ## What the text is read as -/

/-- The `lines` that stand behind others, each behind a line break. -/
def lineBreaks (lines : List String) : List Char := lines.flatMap fun line => '\n' :: line.toList

/-- A line ends in front of further lines, and where there are none as it does in front of `rest`.
-/
theorem lineEnds_lineBreaks {lines : List String} {rest : List Char}
    (h : lines = [] → LineEnds rest) : LineEnds (lineBreaks lines ++ rest) := by
  cases lines with
  | nil => exact h rfl
  | cons line lines => exact .inr ⟨_, rfl⟩

theorem writes_newline : Writes ['\n'] (fun _ => True) (IsLeaf .newline (String.ofList ['\n'])) :=
  writes_symbol rfl

/-- The list of returned names is read as its keyword and a list in braces. -/
theorem writes_returns {spec : ReturnSpec} (h : AreNames spec.names) :
    Writes spec.describe.toList (fun _ => True) fun tokens =>
      ∃ (returns : Leaf .returns) (list : Derivation.NameList),
        tokens = returns.token :: list.tokens ∧ list.texts = spec.names := by
  have htext : spec.describe.toList =
      Keyword.returns.text.toList ++ (' ' :: (bracedNames spec.names).toList) := by
    simp [ReturnSpec.describe, Keyword.text]
  rw [htext]
  refine ((writes_keyword .returns).append (writes_nameList h).space fun _ _ => rfl).mono
    (fun _ => id) ?_
  rintro tokens ⟨_, _, ⟨returns, rfl, -⟩, ⟨list, rfl, hnames⟩, rfl⟩
  exact ⟨returns, list, rfl, hnames⟩

/-- The lines of the body of a function and of its returned names are read as such. The line break
in front of a line belongs to what stands in front of it. -/
theorem writes_body {body : List Statement} (hbody : ∀ inner ∈ body, inner.IsLine)
    {spec : ReturnSpec} (hspec : AreNames spec.names) :
    Writes (lineBreaks (body.map Statement.describe ++ [spec.describe])) (fun _ => True)
      fun tokens => ∃ (breaks : Derivation.Breaks)
        (lines : List (Derivation.Binding × Derivation.Breaks)) (returns : Leaf .returns)
        (list : Derivation.NameList),
        tokens = breaks.tokens ++
          (lines.flatMap Derivation.lineTokens ++ returns.token :: list.tokens) ∧
        (∀ path, (Derivation.bodyStatements path lines).map Statement.unlocated =
          body.map Statement.unlocated) ∧
        list.texts = spec.names := by
  induction body with
  | nil =>
    have htext : lineBreaks ([].map Statement.describe ++ [spec.describe]) =
        ['\n'] ++ spec.describe.toList := by simp [lineBreaks]
    rw [htext]
    refine (writes_newline.append (writes_returns hspec) fun _ _ => trivial).mono (fun _ => id) ?_
    rintro tokens ⟨_, _, ⟨leaf, rfl, -⟩, ⟨returns, list, rfl, hnames⟩, rfl⟩
    exact ⟨⟨leaf, []⟩, [], returns, list, rfl, fun path => rfl, hnames⟩
  | cons first body ih =>
    have hfirst := writes_line (hbody first List.mem_cons_self)
    have hrest := ih fun inner hmem => hbody inner (List.mem_cons_of_mem _ hmem)
    have htext : lineBreaks ((first :: body).map Statement.describe ++ [spec.describe]) =
        ['\n'] ++ (first.describe.toList ++
          lineBreaks (body.map Statement.describe ++ [spec.describe])) := by simp [lineBreaks]
    rw [htext]
    refine (writes_newline.append (hfirst.append hrest fun rest _ =>
      lineEnds_lineBreaks (by simp)) fun _ _ => trivial).mono (fun _ => id) ?_
    -- The line break that the later lines start with is the one behind this line.
    · rintro tokens ⟨_, _, ⟨leaf, rfl, -⟩, ⟨_, _, ⟨form, rfl, hform⟩,
        ⟨breaks, lines, returns, list, rfl, hlines, hnames⟩, rfl⟩, rfl⟩
      refine ⟨⟨leaf, []⟩, (form, breaks) :: lines, returns, list, ?_, fun path => ?_, hnames⟩
      · simp [Derivation.Breaks.tokens, Derivation.breakTokens, Derivation.lineTokens]
      · have hlater := hlines path
        simp only [Derivation.bodyStatements, List.map_cons] at hlater ⊢
        rw [hform, hlater]

/-- The lines of a statement are read as it. -/
theorem writes_statement {statement : Statement} (h : statement.IsSpelled) :
    Writes (statement.firstLine.toList ++ lineBreaks statement.furtherLines) LineEnds
      fun tokens => ∃ form : Derivation.Statement, tokens = form.tokens ∧
        ∀ path, (form.statement path).unlocated = statement.unlocated := by
  -- An assignment or an invocation has no further lines.
  have hline : ∀ statement : Statement, statement.IsLine →
      Writes (statement.describe.toList ++ lineBreaks []) LineEnds fun tokens =>
        ∃ form : Derivation.Statement, tokens = form.tokens ∧
          ∀ path, (form.statement path).unlocated = statement.unlocated := by
    intro statement hline
    rw [lineBreaks, List.flatMap_nil, List.append_nil]
    refine (writes_line hline).mono (fun _ => id) ?_
    rintro tokens ⟨form, rfl, hform⟩
    exact ⟨.binding form, rfl, hform⟩
  cases statement with
  | assignment => exact hline _ h
  | invocation => exact hline _ h
  | returns => exact h.elim
  | bare => exact h.elim
  | definition name body spec location =>
    obtain ⟨hname, hbody, hspec⟩ := h
    have htext : ("def " ++ name).toList = Keyword.define.text.toList ++ (' ' :: name.toList) := by
      simp [Keyword.text]
    rw [Statement.firstLine, Statement.furtherLines, htext, List.append_assoc]
    refine ((writes_keyword .define).append ((writes_name hname).space.append
      (writes_body hbody hspec) fun rest _ => ?_) fun _ _ => rfl).mono (fun _ _ => trivial) ?_
    · exact (lineEnds_lineBreaks (by simp)).stopsNames
    · rintro tokens ⟨_, _, ⟨define, rfl, -⟩, ⟨_, _, ⟨leaf, rfl, rfl⟩,
        ⟨breaks, lines, returns, list, rfl, hlines, hnames⟩, rfl⟩, rfl⟩
      refine ⟨.definition ⟨define, leaf, breaks, lines, returns, list⟩, ?_, fun path => ?_⟩
      · simp [Derivation.Statement.tokens, Derivation.Definition.tokens]
      · simp only [Derivation.Statement.statement, Derivation.Definition.statement,
          Statement.unlocated, Statement.unlocatedAll_eq_map, hlines path, hnames]

/-- The lines of statements behind another one are read as them. -/
theorem writes_others_lines {list : List Statement}
    (h : ∀ statement ∈ list, statement.IsSpelled) :
    Writes (lineBreaks (list.flatMap Statement.lines)) LineEnds fun tokens =>
      ∃ others : List (Derivation.Breaks × Derivation.Statement),
        tokens = others.flatMap Derivation.furtherTokens ∧ ∀ path,
          (others.map fun next => next.2.statement path).map Statement.unlocated =
            list.map Statement.unlocated := by
  induction list with
  | nil => exact writes_nil.mono (fun _ => id) fun tokens htokens => ⟨[], htokens, fun _ => rfl⟩
  | cons first list ih =>
    have hfirst := writes_statement (h first List.mem_cons_self)
    have hrest := ih fun statement hmem => h statement (List.mem_cons_of_mem _ hmem)
    -- The text is a line break, the first statement, and what the later ones write.
    have htext : lineBreaks ((first :: list).flatMap Statement.lines) =
        ['\n'] ++ (first.firstLine.toList ++ lineBreaks first.furtherLines ++
          lineBreaks (list.flatMap Statement.lines)) := by
      simp [lineBreaks, Statement.lines]
    rw [htext]
    refine (writes_newline.append (hfirst.append hrest fun rest hrest =>
      lineEnds_lineBreaks fun _ => hrest) fun _ _ => trivial).mono (fun _ => id) ?_
    rintro tokens ⟨_, _, ⟨leaf, rfl, -⟩, ⟨_, _, ⟨form, rfl, hform⟩, ⟨others, rfl, hothers⟩, rfl⟩,
      rfl⟩
    refine ⟨(⟨leaf, []⟩, form) :: others, ?_, fun path => ?_⟩
    · simp [Derivation.furtherTokens, Derivation.Breaks.tokens, Derivation.breakTokens]
    · rw [List.map_cons, List.map_cons, List.map_cons, hform path, hothers path]

/-- The text of a program is read as it. -/
theorem writes_program {program : Program}
    (h : ∀ statement ∈ program.statements, statement.IsSpelled) :
    Writes program.source.toList LineEnds fun tokens =>
      ∃ form : Derivation.Program, tokens = form.tokens ∧ ∀ path,
        (form.statements path).map Statement.unlocated =
          program.statements.map Statement.unlocated := by
  rw [Program.source]
  cases hlist : program.statements with
  | nil =>
    exact writes_nil.mono (fun _ => id) fun tokens htokens => ⟨.blank [], htokens, fun _ => rfl⟩
  | cons first list =>
    rw [hlist] at h
    have hfirst := writes_statement (h first List.mem_cons_self)
    have hrest := writes_others_lines fun statement hmem =>
      h statement (List.mem_cons_of_mem _ hmem)
    -- The first line has no line break in front of it; every later line has.
    have htext : (String.intercalate "\n" ((first :: list).flatMap Statement.lines)).toList =
        first.firstLine.toList ++ lineBreaks first.furtherLines ++
          lineBreaks (list.flatMap Statement.lines) := by
      rw [List.flatMap_cons, Statement.lines, List.cons_append, toList_intercalate_cons,
        List.flatMap_append, List.append_assoc]
      rfl
    rw [htext]
    refine (hfirst.append hrest fun rest hrest => lineEnds_lineBreaks fun _ => hrest).mono
      (fun _ => id) ?_
    rintro tokens ⟨_, _, ⟨form, rfl, hform⟩, ⟨others, rfl, hothers⟩, rfl⟩
    refine ⟨.lines [] form others [], ?_, fun path => ?_⟩
    · simp [Derivation.Program.tokens, Derivation.breakTokens]
    · rw [Derivation.Program.statements, List.map_cons, List.map_cons, hform path, hothers path]

/-! ## The round trip -/

variable {source : String} {path : Option String} {program : Program}

/-- Every binding of a program that was read can be read from its own line. -/
theorem isLine_of_parse (h : parse source path = .ok program) {statement : Statement}
    (hmem : statement ∈ program.everything) (hbinding : statement.isBinding) :
    statement.IsLine := by
  obtain ⟨outer, houter, hinner⟩ := List.mem_flatMap.1 hmem
  have hspelled := isSpelled_of_parse h outer houter
  rcases List.mem_cons.1 hinner with rfl | hbody
  -- It stands at the top level.
  · cases statement with
    | assignment => exact hspelled
    | invocation => exact hspelled
    | returns => cases hbinding
    | definition => cases hbinding
    | bare => cases hbinding
  -- It stands in the body of a definition.
  · cases outer with
    | definition name body spec location => exact hspelled.2.1 statement hbody
    | assignment => cases hbody
    | invocation => cases hbody
    | returns => cases hbody
    | bare => cases hbody

/-- A line is read as one statement. -/
theorem parse_describe {statement : Statement} (h : statement.IsLine) (path : Option String) :
    ∃ statement', parse statement.describe path = .ok ⟨[statement'], path⟩ ∧
      statement'.unlocated = statement.unlocated := by
  obtain ⟨hfailure, hshort, form, htokens, hform⟩ := (writes_line h).front_eq (.inl rfl) path
  rw [String.ofList_toList] at hfailure hshort htokens
  refine ⟨form.statement path, ?_, hform path⟩
  -- The line is a program with one statement.
  have htokens' : (Derivation.Program.lines [] (.binding form) [] []).tokens =
      (tokenize statement.describe path).front := by
    rw [htokens]
    simp [Derivation.Program.tokens, Derivation.breakTokens, Derivation.Statement.tokens]
  exact parse_of_derivation hfailure htokens' (htokens' ▸ hshort)

/-- What is written of a program that was read from a source is read as the program again, but for
the places. So is each line of an assignment or of an invocation by itself, which is one line. -/
theorem parse_source_of_parse (h : parse source path = .ok program) (path' : Option String) :
    (∃ program', parse program.source path' = .ok program' ∧ program'.path = path' ∧
      program'.statements.map Statement.unlocated =
        program.statements.map Statement.unlocated) ∧
    ∀ statement ∈ program.everything, statement.isBinding →
      '\n' ∉ statement.describe.toList ∧
        ∃ statement', parse statement.describe path' = .ok ⟨[statement'], path'⟩ ∧
          statement'.unlocated = statement.unlocated := by
  refine ⟨?_, fun statement hmem hbinding => ?_⟩
  · obtain ⟨hfailure, hshort, form, htokens, hform⟩ :=
      (writes_program (isSpelled_of_parse h)).front_eq (.inl rfl) path'
    rw [String.ofList_toList] at hfailure hshort htokens
    have hparse := parse_of_derivation hfailure htokens.symm (htokens ▸ hshort)
    exact ⟨form.program path', hparse, rfl, hform path'⟩
  · have hline := isLine_of_parse h hmem hbinding
    exact ⟨hline.newline_not_mem, parse_describe hline path'⟩

/-- A source with names that hold spaces, symbols and leading zeros is written down without what
does not matter, and read again. -/
theorem parse_source_of_parse_of_spaced_source :
    let source := "\ndef f\n  a b=c = ul > li:nth-child(2) \x7bhref,text\x7d ( 007 , )\n\n" ++
      "return\x7ba b=c\x7d\n\nx ,y = do  f"
    let text := "def f\na b=c = ul > li:nth-child(2) \x7bhref, text\x7d (7,)\n" ++
      "return \x7ba b=c\x7d\nx, y = do f"
    ∃ program program', parse source none = .ok program ∧ program.source = text ∧
      parse text none = .ok program' ∧
        program'.statements.map Statement.unlocated =
          program.statements.map Statement.unlocated := by
  intro source text
  have hsource : (parse source none).toOption.map Program.source = some text := by decide +kernel
  match hparse : parse source none with
  | .ok program =>
    rw [hparse] at hsource
    have htext : program.source = text := Option.some.inj hsource
    obtain ⟨⟨program', hparse', -, hsame⟩, -⟩ := parse_source_of_parse hparse none
    rw [htext] at hparse'
    exact ⟨program, program', rfl, htext, hparse', hsame⟩
  | .error failure =>
    rw [hparse] at hsource
    cases hsource

end Extraction
