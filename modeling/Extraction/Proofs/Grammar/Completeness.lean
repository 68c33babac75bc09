import Extraction.Parser.Grammar
import Extraction.Proofs.Grammar.Reading

/-!
# What is derived is accepted

In front of the tokens of a derivation, every parser reads just these and answers with the meaning
of the derivation, unless it goes beyond the tokens that are known. The main result is
`Parser.reads_program`.
-/

namespace Extraction.Parser

open Token (nextKind)
open Extraction.Derivation (Leaf EndsLine)

variable {α : Type} {path : Option String} {limit : Option Nat} {tokens rest : List Token}
  {state : State}

/-! ## Lines -/

/-- `newline?` takes a line break that comes next. -/
theorem reads_newline?_some {leaf : Leaf .newline}
    (h : Along path limit (leaf.token :: rest) state) :
    Reads path limit newline? state (some leaf.token) rest :=
  reads_isAt_pos h leaf.kind_eq (reads_bind (reads_advance h) fun _ hrest => reads_pure hrest)

theorem reads_newline?_none (h : Along path limit rest state) (hkind : nextKind rest ≠ .newline) :
    Reads path limit newline? state none rest :=
  reads_isAt_neg h hkind (reads_pure h)

/-- `skipNewlines` takes all line breaks in front of `rest`. -/
theorem reads_skipNewlines {breaks : List (Leaf .newline)}
    (h : Along path limit (Derivation.breakTokens breaks ++ rest) state)
    (hkind : nextKind rest ≠ .newline) : Reads path limit skipNewlines state () rest := by
  suffices hcollect : Reads path limit (collect newline? advances_newline?) state
      (Derivation.breakTokens breaks) rest from
    reads_bind hcollect fun state' hrest => reads_pure hrest
  induction breaks generalizing state with
  | nil => exact reads_collect_nil (reads_newline?_none h hkind)
  | cons leaf breaks ih =>
    exact reads_collect_cons (reads_newline?_some h) fun state' hrest => ih hrest

theorem reads_endStatement_nil (h : Along path limit [] state) :
    Reads path limit endStatement state () [] :=
  reads_isAt_pos h rfl (reads_pure h)

/-- `endStatement` takes the line break behind a statement. -/
theorem reads_endStatement {leaf : Leaf .newline}
    (h : Along path limit (leaf.token :: rest) state) :
    Reads path limit endStatement state () rest :=
  reads_isAt_neg h (by simp) (reads_bind (reads_expect h) fun _ hrest => reads_pure hrest)

/-! ## Lists of names -/

/-- `name` takes a name, and answers with its text. -/
theorem reads_name {leaf : Leaf .name} (h : Along path limit (leaf.token :: rest) state) :
    Reads path limit name state leaf.token.text rest :=
  reads_bind (reads_expect h) fun _ hrest => reads_pure hrest

/-- Rounds that each read a comma and a name behind it read a row of such names, if they end in
front of what follows it. -/
theorem reads_others {p : Parser (Option String)} {hp : p.Advances}
    {others : List (Leaf .comma × Leaf .name)}
    (hsome : ∀ next rest state, Along path limit (Derivation.nextTokens next ++ rest) state →
      Reads path limit p state (some next.2.token.text) rest)
    (hnone : ∀ state, Along path limit rest state → Reads path limit p state none rest)
    (h : Along path limit (others.flatMap Derivation.nextTokens ++ rest) state) :
    Reads path limit (collect p hp) state (others.map fun next => next.2.token.text) rest := by
  induction others generalizing state with
  | nil => exact reads_collect_nil (hnone state h)
  | cons next others ih =>
    rw [List.flatMap_cons, List.append_assoc] at h
    exact reads_collect_cons (hsome next _ state h) fun state' hrest => ih hrest

/-- A comma and the name behind it are taken, and the answer is the text of the name. -/
theorem reads_next {comma : Leaf .comma} {leaf : Leaf .name}
    (h : Along path limit (comma.token :: leaf.token :: rest) state) :
    Reads path limit (advance >>= fun _ => name >>= fun next => pure (some next)) state
      (some leaf.token.text) rest :=
  reads_bind (reads_advance h) fun _ hname =>
    reads_bind (reads_name hname) fun _ hrest => reads_pure hrest

/-- `nextName?` takes a comma and the name behind it. -/
theorem reads_nextName?_some {next : Leaf .comma × Leaf .name}
    (h : Along path limit (Derivation.nextTokens next ++ rest) state) :
    Reads path limit nextName? state (some next.2.token.text) rest := by
  have hkind : nextKind (Derivation.nextTokens next ++ rest) = .comma := next.1.kind_eq
  refine reads_isAt_neg h (by rw [hkind]; decide) ?_
  exact reads_isAt_pos h hkind (reads_next h)

theorem reads_nextName?_none (h : Along path limit rest state)
    (hkind : nextKind rest = .rightBrace) :
    Reads path limit nextName? state none rest :=
  reads_isAt_pos h hkind (reads_pure h)

/-- `nameList` takes a list of names in braces, and answers with their texts. -/
theorem reads_nameList {list : Derivation.NameList}
    (h : Along path limit (list.tokens ++ rest) state) :
    Reads path limit nameList state list.texts rest := by
  obtain ⟨opening, ⟨first, others⟩, closing⟩ := list
  simp only [Derivation.NameList.tokens, Derivation.Names.tokens, List.cons_append,
    List.append_assoc, List.nil_append] at h
  refine reads_bind (reads_expect h) fun state hnames => ?_
  refine reads_bind (reads_name hnames) fun state hothers => ?_
  refine reads_bind (reads_others (fun next rest state h => reads_nextName?_some h)
    (fun state h => reads_nextName?_none h (Derivation.nextKind_leaf ..)) hothers)
    fun state hclosing => ?_
  exact reads_bind (reads_advance hclosing) fun state hrest => reads_pure hrest

/-! ## Selections -/

theorem reads_integer {leaf : Leaf .integer} (h : Along path limit (leaf.token :: rest) state) :
    Reads path limit integer state leaf.number rest :=
  reads_bind (reads_expect h) fun _ hrest => reads_number h.2.2.1 hrest

/-- `range` takes numbers in parentheses, in each of the forms that a range may have. -/
theorem reads_range {bounds : Derivation.Range}
    (h : Along path limit (bounds.tokens ++ rest) state) :
    Reads path limit range state bounds.range rest := by
  obtain ⟨opening, start, stop, closing⟩ := bounds
  simp only [Derivation.Range.tokens, List.cons_append, List.append_assoc, List.nil_append] at h
  refine reads_bind (reads_expect h) fun state hstart => ?_
  refine reads_bind (reads_integer hstart) fun state hstop => ?_
  rcases stop with _ | ⟨comma, _ | number⟩
  -- One number.
  · rw [Derivation.optionalTokens, List.nil_append] at hstop
    refine reads_isAt_pos hstop closing.kind_eq ?_
    exact reads_bind (reads_advance hstop) fun state hrest => reads_pure hrest
  -- A number and an open end.
  · simp only [Derivation.optionalTokens, Derivation.Range.stopTokens, List.cons_append,
      List.nil_append] at hstop
    refine reads_isAt_neg hstop (by simp) ?_
    refine reads_isAt_pos hstop comma.kind_eq ?_
    refine reads_bind (reads_advance hstop) fun state hclosing => ?_
    refine reads_isAt_pos hclosing closing.kind_eq ?_
    exact reads_bind (reads_advance hclosing) fun state hrest => reads_pure hrest
  -- Two numbers.
  · simp only [Derivation.optionalTokens, Derivation.Range.stopTokens, List.cons_append,
      List.nil_append] at hstop
    refine reads_isAt_neg hstop (by simp) ?_
    refine reads_isAt_pos hstop comma.kind_eq ?_
    refine reads_bind (reads_advance hstop) fun state hnumber => ?_
    refine reads_isAt_neg hnumber (by simp) ?_
    refine reads_isAt_pos hnumber number.kind_eq ?_
    refine reads_bind (reads_integer hnumber) fun state hclosing => ?_
    exact reads_bind (reads_expect hclosing) fun state hrest => reads_pure hrest

/-- `attributes?` takes the list of names, if there is one. -/
theorem reads_attributes? {list : Option Derivation.NameList}
    (h : Along path limit (Derivation.optionalTokens Derivation.NameList.tokens list ++ rest) state)
    (hkind : nextKind rest ≠ .leftBrace) :
    Reads path limit attributes? state (list.map Derivation.NameList.texts) rest := by
  cases list with
  | none => exact reads_isAt_neg h hkind (reads_pure h)
  | some list =>
    refine reads_isAt_pos h list.opening.kind_eq ?_
    exact reads_bind (reads_nameList h) fun state hrest => reads_pure hrest

/-- `rangeOrWhole` takes the range, if there is one. -/
theorem reads_rangeOrWhole {bounds : Option Derivation.Range}
    (h : Along path limit (Derivation.optionalTokens Derivation.Range.tokens bounds ++ rest) state)
    (hkind : nextKind rest ≠ .leftParen) :
    Reads path limit rangeOrWhole state (Derivation.rangeOrWhole bounds) rest := by
  cases bounds with
  | none => exact reads_isAt_neg h hkind (reads_pure h)
  | some bounds => exact reads_isAt_pos h bounds.opening.kind_eq (reads_range h)

/-- `selection` takes a selector with its attributes and its range, up to the end of the line. -/
theorem reads_selection {selector : Leaf .name} {list : Option Derivation.NameList}
    {bounds : Option Derivation.Range}
    (h : Along path limit (selector.token ::
      (Derivation.optionalTokens Derivation.NameList.tokens list ++
        (Derivation.optionalTokens Derivation.Range.tokens bounds ++ rest))) state)
    (hends : EndsLine rest) :
    Reads path limit selection state ⟨selector.token.text, Derivation.rangeOrWhole bounds,
      list.map Derivation.NameList.texts⟩ rest := by
  refine reads_bind (reads_name h) fun state hlist => ?_
  refine reads_bind (reads_attributes? hlist (hends.nextKind_optionalRange_ne bounds))
    fun state hbounds => ?_
  refine reads_bind (reads_rangeOrWhole hbounds (hends.nextKind_ne (by decide) (by decide)))
    fun state hrest => ?_
  -- A selection is refused unless its line ends behind it.
  rcases hends with hkind | hkind
  · exact reads_isAt_neg hrest (by rw [hkind]; decide)
      (reads_isAt_pos hrest hkind (reads_pure hrest))
  · exact reads_isAt_pos hrest hkind (reads_pure hrest)

/-! ## Bindings -/

/-- `nextTarget?` takes a comma and the target behind it. -/
theorem reads_nextTarget?_some {next : Leaf .comma × Leaf .name}
    (h : Along path limit (Derivation.nextTokens next ++ rest) state) :
    Reads path limit nextTarget? state (some next.2.token.text) rest :=
  reads_isAt_pos h next.1.kind_eq (reads_next h)

theorem reads_nextTarget?_none (h : Along path limit rest state) (hkind : nextKind rest ≠ .comma) :
    Reads path limit nextTarget? state none rest :=
  reads_isAt_neg h hkind (reads_pure h)

/-- `binding` takes an assignment or an invocation, up to the end of the line. -/
theorem reads_binding {form : Derivation.Binding} (h : Along path limit (form.tokens ++ rest) state)
    (hends : EndsLine rest) : Reads path limit binding state (form.statement path) rest := by
  -- The other targets are read up to the equals sign, also where there are none.
  have hothers : ∀ (others : List (Leaf .comma × Leaf .name)) {equals : Leaf .equals}
      {behind state},
      Along path limit (others.flatMap Derivation.nextTokens ++ equals.token :: behind) state →
      Reads path limit (collect nextTarget? advances_nextTarget?) state
        (others.map fun next => next.2.token.text) (equals.token :: behind) :=
    fun others _ _ _ h => reads_others (fun next rest state h => reads_nextTarget?_some h)
      (fun state h => reads_nextTarget?_none h (by simp)) h
  cases form with
  | invocation targets equals invoke function =>
    obtain ⟨first, others⟩ := targets
    simp only [Derivation.Binding.tokens, Derivation.Names.tokens, List.cons_append,
      List.append_assoc, List.nil_append] at h
    refine reads_bind (reads_expect h) fun state h => ?_
    refine reads_bind (hothers others h) fun state hequals => ?_
    refine reads_bind (reads_expect hequals) fun state hinvoke => ?_
    refine reads_locate hinvoke ?_
    refine reads_isAt_pos hinvoke invoke.kind_eq ?_
    refine reads_bind (reads_advance hinvoke) fun state hfunction => ?_
    exact reads_bind (reads_name hfunction) fun state hrest => reads_pure hrest
  | assignment target equals selector list bounds =>
    simp only [Derivation.Binding.tokens, List.cons_append, List.append_assoc] at h
    refine reads_bind (reads_expect h) fun state h => ?_
    refine reads_bind (hothers [] h) fun state hequals => ?_
    refine reads_bind (reads_expect hequals) fun state hselector => ?_
    refine reads_locate hselector ?_
    refine reads_isAt_neg hselector (by simp) ?_
    exact reads_bind (reads_selection hselector hends) fun state hrest => reads_pure hrest

/-! ## Definitions -/

/-- `returnSpec` takes the keyword and the list of names behind it. -/
theorem reads_returnSpec {returns : Leaf .returns} {list : Derivation.NameList}
    (h : Along path limit (returns.token :: (list.tokens ++ rest)) state) :
    Reads path limit returnSpec state ⟨list.texts, some (returns.token.location path)⟩ rest := by
  refine reads_bind (reads_expect h) fun state hlist => ?_
  refine reads_bind (reads_nameList hlist) fun state hrest => ?_
  exact reads_locate hrest (reads_pure hrest)

/-- `nextBinding?` takes the line breaks in front of the returned names, and nothing else there. -/
theorem reads_nextBinding?_none {function : String} {breaks : List (Leaf .newline)}
    (h : Along path limit (Derivation.breakTokens breaks ++ rest) state)
    (hkind : nextKind rest = .returns) :
    Reads path limit (nextBinding? function) state none rest := by
  refine reads_bind (reads_skipNewlines h (by rw [hkind]; decide)) fun state hrest => ?_
  exact reads_isAt_pos hrest hkind (reads_pure hrest)

/-- `nextBinding?` takes a binding with the line breaks in front of it and the one behind it. -/
theorem reads_nextBinding?_some {function : String} {breaks : List (Leaf .newline)}
    {form : Derivation.Binding} {leaf : Leaf .newline}
    (h : Along path limit (Derivation.breakTokens breaks ++ (form.tokens ++ leaf.token :: rest))
      state) :
    Reads path limit (nextBinding? function) state (some (form.statement path)) rest := by
  -- A binding starts with a name, so the body neither breaks its line, nor ends, nor nests there.
  have hkind := form.nextKind_tokens (leaf.token :: rest)
  refine reads_bind (reads_skipNewlines h (by rw [hkind]; decide)) fun state hline => ?_
  refine reads_isAt_neg hline (by rw [hkind]; decide) ?_
  refine reads_isAt_neg hline (by rw [hkind]; decide) ?_
  refine reads_isAt_neg hline (by rw [hkind]; decide) ?_
  refine reads_bind (reads_binding hline (.inr leaf.kind_eq)) fun state hend => ?_
  exact reads_bind (reads_endStatement hend) fun state hrest => reads_pure hrest

/-- The bindings of a body are collected up to the returned names. -/
theorem reads_body {function : String} {breaks : List (Leaf .newline)}
    {body : List (Derivation.Binding × Derivation.Breaks)}
    (h : Along path limit
      (Derivation.breakTokens breaks ++ (body.flatMap Derivation.lineTokens ++ rest)) state)
    (hkind : nextKind rest = .returns) :
    Reads path limit (collect (nextBinding? function) (advances_nextBinding? function)) state
      (Derivation.bodyStatements path body) rest := by
  induction body generalizing breaks state with
  | nil => exact reads_collect_nil (reads_nextBinding?_none h hkind)
  | cons line body ih =>
    -- A round takes one line break behind its line, and the next round skips the others.
    obtain ⟨form, ⟨leaf, others⟩⟩ := line
    simp only [List.flatMap_cons, Derivation.lineTokens, Derivation.Breaks.tokens,
      List.append_assoc, List.cons_append] at h
    exact reads_collect_cons (reads_nextBinding?_some h) fun state hlater => ih hlater

/-- `definition` takes a definition from its keyword to the closing brace. -/
theorem reads_definition {form : Derivation.Definition}
    (h : Along path limit (form.tokens ++ rest) state) :
    Reads path limit definition state (form.statement path) rest := by
  obtain ⟨define, function, ⟨leaf, breaks⟩, body, returns, list⟩ := form
  simp only [Derivation.Definition.tokens, Derivation.Breaks.tokens, List.append_assoc,
    List.cons_append] at h
  refine reads_bind (reads_advance h) fun state hname => ?_
  refine reads_bind (reads_name hname) fun state hend => ?_
  refine reads_bind (reads_endStatement hend) fun state hbody => ?_
  refine reads_bind (reads_body hbody returns.kind_eq) fun state hreturns => ?_
  refine reads_bind (reads_returnSpec hreturns) fun state hrest => ?_
  exact reads_locate hrest (reads_pure hrest)

/-! ## Programs -/

/-- `statement` takes a statement of any kind, up to the end of the line. -/
theorem reads_statement {form : Derivation.Statement}
    (h : Along path limit (form.tokens ++ rest) state)
    (hends : EndsLine rest) : Reads path limit statement state (form.statement path) rest := by
  cases form with
  | binding form =>
    have hkind := form.nextKind_tokens rest
    refine reads_isAt_neg h ?_ (reads_isAt_neg h ?_ (reads_binding h hends))
    · rw [Derivation.Statement.tokens, hkind]
      decide
    · rw [Derivation.Statement.tokens, hkind]
      decide
  | definition form => exact reads_isAt_pos h form.define.kind_eq (reads_definition h)

/-- `nextStatement?` takes the line breaks at the end of the input, and answers with nothing. -/
theorem reads_nextStatement?_none (breaks : List (Leaf .newline))
    (h : Along path limit (Derivation.breakTokens breaks) state) :
    Reads path limit nextStatement? state none [] := by
  rw [← List.append_nil (Derivation.breakTokens breaks)] at h
  refine reads_bind (reads_skipNewlines h (by decide)) fun state hrest => ?_
  exact reads_isAt_pos hrest rfl (reads_pure hrest)

/-- A statement is read with the line breaks in front of it, and with the one behind it unless the
input ends there. -/
theorem reads_nextStatement?_some {breaks : List (Leaf .newline)} {form : Derivation.Statement}
    {behind : List Token}
    (h : Along path limit (Derivation.breakTokens breaks ++ (form.tokens ++ behind)) state)
    (hbehind : EndsIn behind rest) :
    Reads path limit nextStatement? state (some (form.statement path)) rest := by
  refine reads_bind (reads_skipNewlines h (form.nextKind_tokens_ne behind)) fun state hline => ?_
  refine reads_isAt_neg hline ?_ ?_
  · rcases form.nextKind_tokens behind with hkind | hkind <;> rw [hkind] <;> decide
  rcases hbehind with ⟨rfl, rfl⟩ | ⟨leaf, rfl⟩
  · refine reads_bind (reads_statement hline (.inl rfl)) fun state hend => ?_
    exact reads_bind (reads_endStatement_nil hend) fun state hrest => reads_pure hrest
  · refine reads_bind (reads_statement hline (.inr leaf.kind_eq)) fun state hend => ?_
    exact reads_bind (reads_endStatement hend) fun state hrest => reads_pure hrest

/-- The statements of a program are collected up to the end of the input. -/
theorem reads_lines {before after : List (Leaf .newline)} {first : Derivation.Statement}
    {others : List (Derivation.Breaks × Derivation.Statement)}
    (h : Along path limit (Derivation.Program.lines before first others after).tokens state) :
    Reads path limit (collect nextStatement? advances_nextStatement?) state
      ((Derivation.Program.lines before first others after).statements path) [] := by
  induction others generalizing before first state with
  -- Behind the last statement the input may end, or line breaks may follow.
  | nil =>
    simp only [Derivation.Program.tokens, List.flatMap_nil, List.append_nil,
      List.append_assoc] at h
    cases after with
    | nil =>
      exact reads_collect_cons (reads_nextStatement?_some h (.inl ⟨rfl, rfl⟩)) fun state hrest =>
        reads_collect_nil (reads_nextStatement?_none [] hrest)
    | cons leaf after =>
      exact reads_collect_cons (reads_nextStatement?_some h (.inr ⟨leaf, rfl⟩)) fun state hrest =>
        reads_collect_nil (reads_nextStatement?_none after hrest)
  | cons next others ih =>
    obtain ⟨⟨leaf, breaks⟩, second⟩ := next
    simp only [Derivation.Program.tokens, List.flatMap_cons, Derivation.furtherTokens,
      Derivation.Breaks.tokens, List.append_assoc, List.cons_append] at h
    refine reads_collect_cons (reads_nextStatement?_some h (.inr ⟨leaf, rfl⟩)) fun state hrest => ?_
    have hlines :
        Along path limit (Derivation.Program.lines breaks second others after).tokens state := by
      simpa only [Derivation.Program.tokens, List.append_assoc] using hrest
    exact ih hlines

/-- In front of all the tokens of a derivation, the parser of programs answers with its meaning. -/
theorem reads_program {form : Derivation.Program} (h : Along path limit form.tokens state) :
    Reads path limit program state (form.program path) [] := by
  have hstatements : Reads path limit (collect nextStatement? advances_nextStatement?) state
      (form.statements path) [] := by
    cases form with
    | blank breaks => exact reads_collect_nil (reads_nextStatement?_none breaks h)
    | lines before first others after => exact reads_lines h
  refine reads_bind hstatements fun state hend => ?_
  refine reads_bind (.inl ⟨state, rfl, hend⟩) fun state' hrest => ?_
  rw [hend.path_eq]
  exact reads_pure hrest

end Extraction.Parser
