import Extraction.Program
import Extraction.Text.Digit
import Extraction.Token

/-!
# Derivations

The grammar of the language as a type of derivations: one type for each form, with the tokens at
the leaves.

* `Program → NEWLINE* (Statement (NEWLINE+ Statement)*)? NEWLINE*`
* `Statement → Binding | Definition`
* `Definition → DEF IDENT NEWLINE+ (Binding NEWLINE+)* RETURN NameList`
* `Binding → Names EQUALS DO IDENT | IDENT EQUALS IDENT NameList? Range?`
* `NameList → LBRACE Names RBRACE`
* `Names → IDENT (COMMA IDENT)*`
* `Range → LPAREN INTEGER (COMMA INTEGER?)? RPAREN`

A derivation has the row of its leaves, `tokens`, and a meaning, which is a part of a syntax tree.
The main result is `Derivation.Program.eq_of_tokens_eq`: a row of tokens has at most one
derivation.
-/

namespace Extraction

/-- The kind of the token that comes next in a row; behind the last one the input ends. -/
def Token.nextKind : List Token → Token.Kind
  | [] => .endOfInput
  | token :: _ => token.kind

/-- Where `token` stands in the source at `path`. -/
def Token.location (token : Token) (path : Option String) : Location :=
  ⟨token.line, token.column, path⟩

/-- `token` is a number with too many digits. -/
def Token.Overlong (token : Token) : Prop :=
  token.kind = .integer ∧ Text.mostDigits < token.text.length

instance : DecidablePred Token.Overlong := fun _ => inferInstanceAs (Decidable (_ ∧ _))

/-- Only numbers can be too long. -/
theorem Token.not_overlong_of_kind_ne {token : Token} (h : token.kind ≠ .integer) :
    ¬token.Overlong := fun hlong => h hlong.1

namespace Derivation

open Token (nextKind)

/-! ## Forms -/

/-- A token of the given `kind`. -/
@[ext]
structure Leaf (kind : Token.Kind) where
  /-- The token. -/
  token : Token
  /-- It is of the kind. -/
  kind_eq : token.kind = kind

/-- Names with commas between them. -/
structure Names where
  /-- The first name. -/
  first : Leaf .name
  /-- The other names, each behind a comma. -/
  others : List (Leaf .comma × Leaf .name)

/-- A list of names in braces. -/
structure NameList where
  /-- The opening brace. -/
  opening : Leaf .leftBrace
  /-- The names. -/
  names : Names
  /-- The closing brace. -/
  closing : Leaf .rightBrace

/-- Numbers in parentheses. -/
structure Range where
  /-- The opening parenthesis. -/
  opening : Leaf .leftParen
  /-- The first number. -/
  start : Leaf .integer
  /-- A comma, and a second number behind it. -/
  stop : Option (Leaf .comma × Option (Leaf .integer))
  /-- The closing parenthesis. -/
  closing : Leaf .rightParen

/-- An invocation or an assignment. -/
inductive Binding where
  /-- Targets for the results of a function. -/
  | invocation (targets : Names) (equals : Leaf .equals) (invoke : Leaf .invoke)
      (function : Leaf .name)
  /-- A target for a selection. -/
  | assignment (target : Leaf .name) (equals : Leaf .equals) (selector : Leaf .name)
      (attributes : Option NameList) (range : Option Range)

/-- Line breaks, at least one. -/
structure Breaks where
  /-- The first line break. -/
  first : Leaf .newline
  /-- The other ones. -/
  others : List (Leaf .newline)

/-- The definition of a function. -/
structure Definition where
  /-- The keyword. -/
  define : Leaf .define
  /-- The name of the function. -/
  name : Leaf .name
  /-- The line breaks behind it. -/
  breaks : Breaks
  /-- The bindings of the body, with the line breaks behind each. -/
  body : List (Binding × Breaks)
  /-- The keyword in front of the returned names. -/
  returns : Leaf .returns
  /-- The returned names. -/
  names : NameList

/-- A statement. -/
inductive Statement where
  /-- A binding. -/
  | binding (form : Binding)
  /-- A definition. -/
  | definition (form : Definition)

/-- A program. -/
inductive Program where
  /-- No statement. -/
  | blank (breaks : List (Leaf .newline))
  /-- Statements on lines of their own. -/
  | lines (before : List (Leaf .newline)) (first : Statement) (others : List (Breaks × Statement))
      (after : List (Leaf .newline))

/-! ## Leaves -/

/-- The tokens of `next`, a name behind a comma. -/
def nextTokens (next : Leaf .comma × Leaf .name) : List Token := [next.1.token, next.2.token]

/-- The tokens of some line breaks. -/
def breakTokens (breaks : List (Leaf .newline)) : List Token := breaks.map Leaf.token

/-- The tokens of names. -/
def Names.tokens (names : Names) : List Token :=
  names.first.token :: names.others.flatMap nextTokens

/-- The tokens of a list of names. -/
def NameList.tokens (list : NameList) : List Token :=
  list.opening.token :: (list.names.tokens ++ [list.closing.token])

/-- The tokens of an optional form. -/
def optionalTokens {α : Type} (tokens : α → List Token) : Option α → List Token
  | none => []
  | some a => tokens a

/-- The tokens of a comma and the number behind it. -/
def Range.stopTokens (stop : Leaf .comma × Option (Leaf .integer)) : List Token :=
  stop.1.token :: optionalTokens (fun leaf => [leaf.token]) stop.2

/-- The tokens of a range. -/
def Range.tokens (range : Range) : List Token :=
  range.opening.token :: range.start.token ::
    (optionalTokens stopTokens range.stop ++ [range.closing.token])

/-- The tokens of a binding. -/
def Binding.tokens : Binding → List Token
  | .invocation targets equals invoke function =>
    targets.tokens ++ [equals.token, invoke.token, function.token]
  | .assignment target equals selector attributes range =>
    target.token :: equals.token :: selector.token ::
      (optionalTokens NameList.tokens attributes ++ optionalTokens Range.tokens range)

/-- The tokens of line breaks. -/
def Breaks.tokens (breaks : Breaks) : List Token :=
  breaks.first.token :: breakTokens breaks.others

/-- The tokens of a binding on a line of its own. -/
def lineTokens (line : Binding × Breaks) : List Token := line.1.tokens ++ line.2.tokens

/-- The tokens of a definition. -/
def Definition.tokens (definition : Definition) : List Token :=
  definition.define.token :: definition.name.token ::
    (definition.breaks.tokens ++ definition.body.flatMap lineTokens ++
      definition.returns.token :: definition.names.tokens)

/-- The tokens of a statement. -/
def Statement.tokens : Statement → List Token
  | .binding form => form.tokens
  | .definition form => form.tokens

/-- The tokens of a statement on a further line. -/
def furtherTokens (next : Breaks × Statement) : List Token := next.1.tokens ++ next.2.tokens

/-- The tokens of a program. -/
def Program.tokens : Program → List Token
  | .blank breaks => breakTokens breaks
  | .lines before first others after =>
    breakTokens before ++ first.tokens ++ others.flatMap furtherTokens ++ breakTokens after

/-! ## Meaning -/

/-- The names. -/
def Names.texts (names : Names) : List String :=
  names.first.token.text :: names.others.map fun next => next.2.token.text

/-- The names of a list. -/
def NameList.texts (list : NameList) : List String := list.names.texts

/-- The number that `leaf` denotes. -/
def Leaf.number (leaf : Leaf .integer) : Int := Text.decimal leaf.token.text.toList

/-- Whether a number is too long is a matter of its digits. -/
theorem Leaf.overlong_iff (leaf : Leaf .integer) :
    leaf.token.Overlong ↔ Text.mostDigits < leaf.token.text.toList.length := by
  rw [Token.Overlong, String.length_toList, and_iff_right leaf.kind_eq]

/-- The range of the numbers in `range`: one by itself is start and end, and a comma without a
second one leaves the end open. -/
def Range.range (range : Range) : Extraction.Range :=
  match range.stop with
  | none => .bounded range.start.number range.start.number
  | some (_, none) => .openSlice range.start.number
  | some (_, some stop) => .bounded range.start.number stop.number

/-- The range of a selection that has `range` behind it; without numbers only the first match is
meant. -/
def rangeOrWhole (range : Option Range) : Extraction.Range := (range.map Range.range).getD .whole

/-- The statement of a binding in the source at `path`. -/
def Binding.statement (path : Option String) : Binding → Extraction.Statement
  | .invocation targets _ _ function =>
    .invocation targets.texts function.token.text (some (targets.first.token.location path))
  | .assignment target _ selector attributes range =>
    .assignment target.token.text
      ⟨selector.token.text, rangeOrWhole range, attributes.map NameList.texts⟩
      (some (target.token.location path))

/-- The statements of the lines of `body`, in the source at `path`. -/
def bodyStatements (path : Option String) (body : List (Binding × Breaks)) :
    List Extraction.Statement :=
  body.map fun line => line.1.statement path

/-- The statement of `definition` in the source at `path`. -/
def Definition.statement (path : Option String) (definition : Definition) :
    Extraction.Statement :=
  .definition definition.name.token.text (bodyStatements path definition.body)
    ⟨definition.names.texts, some (definition.returns.token.location path)⟩
    (some (definition.define.token.location path))

/-- The statement of a derivation in the source at `path`. -/
def Statement.statement (path : Option String) : Statement → Extraction.Statement
  | .binding form => form.statement path
  | .definition form => form.statement path

/-- The statements of a program in the source at `path`, in order. -/
def Program.statements (path : Option String) : Program → List Extraction.Statement
  | .blank _ => []
  | .lines _ first others _ =>
    first.statement path :: others.map fun next => next.2.statement path

/-- The program of `derivation` in the source at `path`. -/
def Program.program (path : Option String) (derivation : Program) : Extraction.Program :=
  ⟨derivation.statements path, path⟩

/-! ## Unique derivations

Every form but a program is told apart from what follows it: two rows of tokens that start with the
form, and go on with something that cannot belong to it, start with the same derivation. -/

/-- The next token of a row that starts with `leaf` is of its kind. -/
@[simp]
theorem nextKind_leaf {kind : Token.Kind} (leaf : Leaf kind) (rest : List Token) :
    nextKind (leaf.token :: rest) = kind := leaf.kind_eq

/-- Two rows that start with leaves of one kind are the same when the leaves and the rest are. -/
theorem Leaf.cons_eq_cons {kind : Token.Kind} {a b : Leaf kind} {as bs : List Token} :
    a.token :: as = b.token :: bs ↔ a = b ∧ as = bs := by
  rw [List.cons.injEq, Leaf.ext_iff]

/-- A repeated form has one derivation in front of what starts no further one, if each repetition
has. -/
theorem flatMap_append_inj {α : Type} {tokens : α → List Token} {F : List Token → Prop}
    (hnext : ∀ a rest, F (tokens a ++ rest))
    (hone : ∀ a b x y, F x → F y → tokens a ++ x = tokens b ++ y → a = b ∧ x = y)
    {as bs : List α} {x y : List Token} (hx : F x) (hy : F y)
    (hxa : ∀ a rest, x ≠ tokens a ++ rest) (hya : ∀ a rest, y ≠ tokens a ++ rest)
    (h : as.flatMap tokens ++ x = bs.flatMap tokens ++ y) : as = bs ∧ x = y := by
  -- What follows a repetition is the next one, or else what follows them all.
  have hfollows : ∀ {cs : List α} {z : List Token}, F z → F (cs.flatMap tokens ++ z) := by
    intro cs z hz
    cases cs with
    | nil => exact hz
    | cons c cs => simpa only [List.flatMap_cons, List.append_assoc] using hnext c _
  induction as generalizing bs with
  | nil =>
    cases bs with
    | nil => exact ⟨rfl, h⟩
    | cons b bs =>
      simp only [List.flatMap_nil, List.nil_append, List.flatMap_cons, List.append_assoc] at h
      exact absurd h (hxa b _)
  | cons a as ih =>
    cases bs with
    | nil =>
      simp only [List.flatMap_nil, List.nil_append, List.flatMap_cons, List.append_assoc] at h
      exact absurd h.symm (hya a _)
    | cons b bs =>
      simp only [List.flatMap_cons, List.append_assoc] at h
      obtain ⟨rfl, hrest⟩ := hone a b _ _ (hfollows hx) (hfollows hy) h
      obtain ⟨rfl, hxy⟩ := ih hrest
      exact ⟨rfl, hxy⟩

/-- A row can be cut in one way only into line breaks and what no line break starts. -/
theorem breakTokens_append_inj {as bs : List (Leaf .newline)} {x y : List Token}
    (hx : nextKind x ≠ .newline) (hy : nextKind y ≠ .newline)
    (h : breakTokens as ++ x = breakTokens bs ++ y) : as = bs ∧ x = y := by
  simp only [breakTokens, List.map_eq_flatMap] at h
  refine flatMap_append_inj (F := fun _ => True) (fun _ _ => trivial) ?_ trivial trivial
    ?_ ?_ h
  · intro a b x y _ _ hab
    exact Leaf.cons_eq_cons.1 hab
  · rintro a rest rfl
    exact hx (nextKind_leaf a rest)
  · rintro a rest rfl
    exact hy (nextKind_leaf a rest)

theorem Breaks.tokens_append_inj {a b : Breaks} {x y : List Token}
    (hx : nextKind x ≠ .newline) (hy : nextKind y ≠ .newline)
    (h : a.tokens ++ x = b.tokens ++ y) : a = b ∧ x = y := by
  obtain ⟨first, others⟩ := a
  obtain ⟨first', others'⟩ := b
  obtain ⟨rfl, hothers⟩ := Leaf.cons_eq_cons.1 h
  obtain ⟨rfl, hxy⟩ := breakTokens_append_inj hx hy hothers
  exact ⟨rfl, hxy⟩

/-- A row can be cut in one way only behind names with commas between them. -/
theorem Names.tokens_append_inj {a b : Names} {x y : List Token}
    (hx : nextKind x ≠ .comma) (hy : nextKind y ≠ .comma)
    (h : a.tokens ++ x = b.tokens ++ y) : a = b ∧ x = y := by
  obtain ⟨first, others⟩ := a
  obtain ⟨first', others'⟩ := b
  obtain ⟨rfl, hrest⟩ := Leaf.cons_eq_cons.1 h
  have hothers : others = others' ∧ x = y := by
    refine flatMap_append_inj (F := fun _ => True) (fun _ _ => trivial) ?_ trivial trivial
      ?_ ?_ hrest
    · rintro ⟨comma, name⟩ ⟨comma', name'⟩ x y _ _ hab
      obtain ⟨rfl, hname⟩ := Leaf.cons_eq_cons.1 hab
      obtain ⟨rfl, hxy⟩ := Leaf.cons_eq_cons.1 hname
      exact ⟨rfl, hxy⟩
    · rintro ⟨comma, name⟩ rest rfl
      exact hx (nextKind_leaf comma _)
    · rintro ⟨comma, name⟩ rest rfl
      exact hy (nextKind_leaf comma _)
  obtain ⟨rfl, hxy⟩ := hothers
  exact ⟨rfl, hxy⟩

/-- A row can be cut in one way only behind a list of names in braces. -/
theorem NameList.tokens_append_inj {a b : NameList} {x y : List Token}
    (h : a.tokens ++ x = b.tokens ++ y) : a = b ∧ x = y := by
  obtain ⟨opening, names, closing⟩ := a
  obtain ⟨opening', names', closing'⟩ := b
  simp only [NameList.tokens, List.cons_append, List.append_assoc, List.nil_append] at h
  obtain ⟨rfl, hnames⟩ := Leaf.cons_eq_cons.1 h
  obtain ⟨rfl, hclosing⟩ := Names.tokens_append_inj
    (by rw [nextKind_leaf]; decide) (by rw [nextKind_leaf]; decide) hnames
  obtain ⟨rfl, hxy⟩ := Leaf.cons_eq_cons.1 hclosing
  exact ⟨rfl, hxy⟩

/-- An optional form has one derivation in front of what does not start like it, if the form has
one. -/
theorem optionalTokens_append_inj {α : Type} {tokens : α → List Token} {kind : Token.Kind}
    {x y : List Token} (hfirst : ∀ a rest, nextKind (tokens a ++ rest) = kind)
    (hone : ∀ a b, tokens a ++ x = tokens b ++ y → a = b ∧ x = y)
    (hx : nextKind x ≠ kind) (hy : nextKind y ≠ kind) {a b : Option α}
    (h : optionalTokens tokens a ++ x = optionalTokens tokens b ++ y) : a = b ∧ x = y := by
  match a, b with
  | none, none => exact ⟨rfl, h⟩
  | none, some b => exact absurd ((congrArg nextKind h).trans (hfirst b y)) hx
  | some a, none => exact absurd ((congrArg nextKind h).symm.trans (hfirst a x)) hy
  | some a, some b =>
    obtain ⟨rfl, hxy⟩ := hone a b h
    exact ⟨rfl, hxy⟩

/-- A row can be cut in one way only behind the comma of a range and the number after it, if there
is one. -/
theorem Range.stopTokens_append_inj {a b : Leaf .comma × Option (Leaf .integer)}
    {x y : List Token} (hx : nextKind x ≠ .integer) (hy : nextKind y ≠ .integer)
    (h : stopTokens a ++ x = stopTokens b ++ y) : a = b ∧ x = y := by
  obtain ⟨comma, stop⟩ := a
  obtain ⟨comma', stop'⟩ := b
  obtain ⟨rfl, hstop⟩ := Leaf.cons_eq_cons.1 h
  obtain ⟨rfl, hxy⟩ := optionalTokens_append_inj (fun a rest => nextKind_leaf a rest)
    (fun a b hab => Leaf.cons_eq_cons.1 hab) hx hy hstop
  exact ⟨rfl, hxy⟩

/-- A row can be cut in one way only behind a range. -/
theorem Range.tokens_append_inj {a b : Range} {x y : List Token}
    (h : a.tokens ++ x = b.tokens ++ y) : a = b ∧ x = y := by
  obtain ⟨opening, start, stop, closing⟩ := a
  obtain ⟨opening', start', stop', closing'⟩ := b
  simp only [Range.tokens, List.cons_append, List.append_assoc, List.nil_append] at h
  obtain ⟨rfl, hstart⟩ := Leaf.cons_eq_cons.1 h
  obtain ⟨rfl, hstop⟩ := Leaf.cons_eq_cons.1 hstart
  obtain ⟨rfl, hclosing⟩ := optionalTokens_append_inj (fun a rest => nextKind_leaf a.1 _)
    (fun a b hab => Range.stopTokens_append_inj (by simp) (by simp) hab) (by simp) (by simp) hstop
  obtain ⟨rfl, hxy⟩ := Leaf.cons_eq_cons.1 hclosing
  exact ⟨rfl, hxy⟩

/-- The row `rest` starts behind a line: the input ends there, or a line break comes next. -/
def EndsLine (rest : List Token) : Prop := nextKind rest = .endOfInput ∨ nextKind rest = .newline

/-- Where a line ends, no token of another kind comes next. -/
theorem EndsLine.nextKind_ne {rest : List Token} (h : EndsLine rest) {kind : Token.Kind}
    (hend : kind ≠ .endOfInput) (hkind : kind ≠ .newline) : nextKind rest ≠ kind := by
  rintro rfl
  exact h.elim hend hkind

/-- Behind the selector of an assignment, a brace opens a list of attributes. -/
theorem EndsLine.nextKind_optionalRange_ne {rest : List Token} (h : EndsLine rest)
    (range : Option Range) :
    nextKind (optionalTokens Range.tokens range ++ rest) ≠ .leftBrace := by
  cases range with
  | none => exact h.nextKind_ne (by decide) (by decide)
  | some range =>
    rw [optionalTokens, Range.tokens, List.cons_append, nextKind_leaf]
    decide

theorem Breaks.endsLine (breaks : Breaks) (rest : List Token) : EndsLine (breaks.tokens ++ rest) :=
  .inr (nextKind_leaf breaks.first _)

/-- A binding starts with a name. -/
theorem Binding.nextKind_tokens (binding : Binding) (rest : List Token) :
    nextKind (binding.tokens ++ rest) = .name := by
  cases binding <;> exact nextKind_leaf _ _

/-- The token behind the first equals sign tells an invocation from an assignment. -/
theorem Binding.invocation_tokens_ne {targets : Names} {equals equals' : Leaf .equals}
    {invoke : Leaf .invoke} {target selector : Leaf .name} (x y : List Token) :
    targets.tokens ++ equals.token :: invoke.token :: x ≠
      target.token :: equals'.token :: selector.token :: y := by
  intro h
  obtain ⟨first, others⟩ := targets
  have hbehind := (Leaf.cons_eq_cons.1 h).2
  cases others with
  -- With one target, a keyword would stand where the selector does.
  | nil =>
    have hkinds := congrArg nextKind (Leaf.cons_eq_cons.1 hbehind).2
    simp at hkinds
  -- With more targets, a comma would stand where the equals sign does.
  | cons next others =>
    have hkinds := congrArg nextKind hbehind
    simp [nextTokens] at hkinds

/-- A binding has one derivation in front of the end of its line. -/
theorem Binding.tokens_append_inj {a b : Binding} {x y : List Token} (hx : EndsLine x)
    (hy : EndsLine y) (h : a.tokens ++ x = b.tokens ++ y) : a = b ∧ x = y := by
  cases a with
  | invocation targets equals invoke function =>
    cases b with
    | invocation targets' equals' invoke' function' =>
      simp only [Binding.tokens, List.cons_append, List.append_assoc, List.nil_append] at h
      obtain ⟨rfl, hequals⟩ := Names.tokens_append_inj (by simp) (by simp) h
      obtain ⟨rfl, hinvoke⟩ := Leaf.cons_eq_cons.1 hequals
      obtain ⟨rfl, hfunction⟩ := Leaf.cons_eq_cons.1 hinvoke
      obtain ⟨rfl, hxy⟩ := Leaf.cons_eq_cons.1 hfunction
      exact ⟨rfl, hxy⟩
    | assignment =>
      simp only [Binding.tokens, List.cons_append, List.append_assoc, List.nil_append] at h
      -- Behind the equals sign stands `do` in one of them, and a name in the other.
      exact absurd h (Binding.invocation_tokens_ne _ _)
  | assignment target equals selector attributes range =>
    cases b with
    | invocation =>
      simp only [Binding.tokens, List.cons_append, List.append_assoc, List.nil_append] at h
      exact absurd h.symm (Binding.invocation_tokens_ne _ _)
    | assignment target' equals' selector' attributes' range' =>
      simp only [Binding.tokens, List.cons_append, List.append_assoc] at h
      obtain ⟨rfl, hequals⟩ := Leaf.cons_eq_cons.1 h
      obtain ⟨rfl, hselector⟩ := Leaf.cons_eq_cons.1 hequals
      obtain ⟨rfl, hattributes⟩ := Leaf.cons_eq_cons.1 hselector
      obtain ⟨rfl, hbounds⟩ := optionalTokens_append_inj
        (fun a rest => nextKind_leaf a.opening _)
        (fun a b hab => NameList.tokens_append_inj hab)
        (hx.nextKind_optionalRange_ne range) (hy.nextKind_optionalRange_ne range') hattributes
      obtain ⟨rfl, hxy⟩ := optionalTokens_append_inj (fun a rest => nextKind_leaf a.opening _)
        (fun a b hab => Range.tokens_append_inj hab) (hx.nextKind_ne (by decide) (by decide))
        (hy.nextKind_ne (by decide) (by decide)) hbounds
      exact ⟨rfl, hxy⟩

theorem lineTokens_append_inj {a b : Binding × Breaks} {x y : List Token}
    (hx : nextKind x ≠ .newline) (hy : nextKind y ≠ .newline)
    (h : lineTokens a ++ x = lineTokens b ++ y) : a = b ∧ x = y := by
  obtain ⟨binding, breaks⟩ := a
  obtain ⟨binding', breaks'⟩ := b
  simp only [lineTokens, List.append_assoc] at h
  obtain ⟨rfl, hbreaks⟩ :=
    Binding.tokens_append_inj (breaks.endsLine x) (breaks'.endsLine y) h
  obtain ⟨rfl, hxy⟩ := Breaks.tokens_append_inj hx hy hbreaks
  exact ⟨rfl, hxy⟩

theorem nextKind_lineTokens (line : Binding × Breaks) (rest : List Token) :
    nextKind (lineTokens line ++ rest) = .name := by
  rw [lineTokens, List.append_assoc]
  exact line.1.nextKind_tokens _

/-- Neither a body nor the returned names behind it start with a line break. -/
theorem nextKind_bodyTokens_ne (body : List (Binding × Breaks)) (returns : Leaf .returns)
    (rest : List Token) :
    nextKind (body.flatMap lineTokens ++ returns.token :: rest) ≠ .newline := by
  cases body with
  | nil => simp
  | cons line body =>
    rw [List.flatMap_cons, List.append_assoc, nextKind_lineTokens]
    decide

/-- A row can be cut in one way only behind a definition. -/
theorem Definition.tokens_append_inj {a b : Definition} {x y : List Token}
    (h : a.tokens ++ x = b.tokens ++ y) : a = b ∧ x = y := by
  obtain ⟨define, name, breaks, body, returns, names⟩ := a
  obtain ⟨define', name', breaks', body', returns', names'⟩ := b
  simp only [Definition.tokens, List.cons_append, List.append_assoc] at h
  obtain ⟨rfl, hname⟩ := Leaf.cons_eq_cons.1 h
  obtain ⟨rfl, hbreaks⟩ := Leaf.cons_eq_cons.1 hname
  obtain ⟨rfl, hbody⟩ := Breaks.tokens_append_inj (nextKind_bodyTokens_ne body returns _)
    (nextKind_bodyTokens_ne body' returns' _) hbreaks
  -- The keyword behind the body starts no line of it.
  have hends : ∀ (returns : Leaf .returns) (rest : List Token) (line : Binding × Breaks)
      (later : List Token), returns.token :: rest ≠ lineTokens line ++ later := by
    intro returns rest line later heq
    have hkinds := congrArg nextKind heq
    rw [nextKind_leaf, nextKind_lineTokens] at hkinds
    cases hkinds
  obtain ⟨rfl, hreturns⟩ := flatMap_append_inj (F := fun rest => nextKind rest ≠ .newline)
    (fun line rest => by rw [nextKind_lineTokens]; decide)
    (fun a b x y hx hy hab => lineTokens_append_inj hx hy hab) (by simp) (by simp)
    (hends returns _) (hends returns' _) hbody
  obtain ⟨rfl, hnames⟩ := Leaf.cons_eq_cons.1 hreturns
  obtain ⟨rfl, hxy⟩ := NameList.tokens_append_inj hnames
  exact ⟨rfl, hxy⟩

/-- A statement starts with a name or with the keyword of a definition. -/
theorem Statement.nextKind_tokens (statement : Statement) (rest : List Token) :
    nextKind (statement.tokens ++ rest) = .name ∨
      nextKind (statement.tokens ++ rest) = .define := by
  cases statement with
  | binding form => exact .inl (form.nextKind_tokens rest)
  | definition form => exact .inr (nextKind_leaf form.define _)

/-- A statement does not start with a line break. -/
theorem Statement.nextKind_tokens_ne (statement : Statement) (rest : List Token) :
    nextKind (statement.tokens ++ rest) ≠ .newline := by
  rcases statement.nextKind_tokens rest with h | h <;> rw [h] <;> decide

/-- A row can be cut in one way only behind a statement, if a line ends there. -/
theorem Statement.tokens_append_inj {a b : Statement} {x y : List Token} (hx : EndsLine x)
    (hy : EndsLine y) (h : a.tokens ++ x = b.tokens ++ y) : a = b ∧ x = y := by
  match a, b with
  | .binding a, .binding b =>
    obtain ⟨rfl, hxy⟩ := Binding.tokens_append_inj hx hy h
    exact ⟨rfl, hxy⟩
  | .definition a, .definition b =>
    obtain ⟨rfl, hxy⟩ := Definition.tokens_append_inj h
    exact ⟨rfl, hxy⟩
  | .binding a, .definition b =>
    have hkinds := (a.nextKind_tokens x).symm.trans (congrArg nextKind h)
    rw [Statement.tokens, Definition.tokens, List.cons_append, nextKind_leaf] at hkinds
    cases hkinds
  | .definition a, .binding b =>
    have hkinds := (b.nextKind_tokens y).symm.trans (congrArg nextKind h.symm)
    rw [Statement.tokens, Definition.tokens, List.cons_append, nextKind_leaf] at hkinds
    cases hkinds

theorem furtherTokens_append_inj {a b : Breaks × Statement} {x y : List Token} (hx : EndsLine x)
    (hy : EndsLine y) (h : furtherTokens a ++ x = furtherTokens b ++ y) : a = b ∧ x = y := by
  obtain ⟨breaks, statement⟩ := a
  obtain ⟨breaks', statement'⟩ := b
  simp only [furtherTokens, List.append_assoc] at h
  obtain ⟨rfl, hstatement⟩ := Breaks.tokens_append_inj (statement.nextKind_tokens_ne x)
    (statement'.nextKind_tokens_ne y) h
  obtain ⟨rfl, hxy⟩ := Statement.tokens_append_inj hx hy hstatement
  exact ⟨rfl, hxy⟩

/-- A line ends in front of line breaks, or of the end of the input where there are none. -/
theorem endsLine_breakTokens (breaks : List (Leaf .newline)) : EndsLine (breakTokens breaks) := by
  cases breaks with
  | nil => exact .inl rfl
  | cons first others => exact .inr (nextKind_leaf first _)

/-- Line breaks hold no statement. -/
theorem breakTokens_ne_statement (breaks before : List (Leaf .newline)) (statement : Statement)
    (rest : List Token) :
    breakTokens breaks ≠ breakTokens before ++ (statement.tokens ++ rest) := by
  intro h
  rw [← List.append_nil (breakTokens breaks)] at h
  obtain ⟨-, hnil⟩ := breakTokens_append_inj (by decide) (statement.nextKind_tokens_ne rest) h
  rcases statement.nextKind_tokens rest with hkind | hkind <;> simp [← hnil, nextKind] at hkind

/-- Line breaks at the end of the input are followed by no statement. -/
theorem breakTokens_ne_furtherTokens (breaks : List (Leaf .newline)) (next : Breaks × Statement)
    (rest : List Token) : breakTokens breaks ≠ furtherTokens next ++ rest := by
  rw [furtherTokens, List.append_assoc]
  exact breakTokens_ne_statement breaks (next.1.first :: next.1.others) next.2 rest

/-- A line ends in front of a further statement, because line breaks come first. -/
theorem endsLine_furtherTokens (next : Breaks × Statement) (rest : List Token) :
    EndsLine (furtherTokens next ++ rest) := by
  rw [furtherTokens, List.append_assoc]
  exact next.1.endsLine _

/-- Behind a statement its line ends, whether further ones follow or not. -/
theorem endsLine_linesBehind (others : List (Breaks × Statement)) (after : List (Leaf .newline)) :
    EndsLine (others.flatMap furtherTokens ++ breakTokens after) := by
  cases others with
  | nil => exact endsLine_breakTokens after
  | cons next others =>
    rw [List.flatMap_cons, List.append_assoc]
    exact endsLine_furtherTokens next _

/-- A row of tokens has at most one derivation. -/
theorem Program.eq_of_tokens_eq {a b : Program} (h : a.tokens = b.tokens) : a = b := by
  match a, b with
  | .blank breaks, .blank breaks' =>
    rw [Program.tokens, Program.tokens, ← List.append_nil (breakTokens breaks),
      ← List.append_nil (breakTokens breaks')] at h
    obtain ⟨rfl, -⟩ := breakTokens_append_inj (by decide) (by decide) h
    rfl
  | .blank breaks, .lines before first others after =>
    simp only [Program.tokens, List.append_assoc] at h
    exact absurd h (breakTokens_ne_statement _ _ _ _)
  | .lines before first others after, .blank breaks =>
    simp only [Program.tokens, List.append_assoc] at h
    exact absurd h.symm (breakTokens_ne_statement _ _ _ _)
  | .lines before first others after, .lines before' first' others' after' =>
    simp only [Program.tokens, List.append_assoc] at h
    obtain ⟨rfl, hfirst⟩ := breakTokens_append_inj (first.nextKind_tokens_ne _)
      (first'.nextKind_tokens_ne _) h
    obtain ⟨rfl, hothers⟩ := Statement.tokens_append_inj (endsLine_linesBehind others after)
      (endsLine_linesBehind others' after') hfirst
    -- A further statement is told from the line breaks at the end by what comes behind the breaks.
    obtain ⟨rfl, hafter⟩ := flatMap_append_inj (F := EndsLine) endsLine_furtherTokens
      (fun a b x y hx hy hab => furtherTokens_append_inj hx hy hab) (endsLine_breakTokens after)
      (endsLine_breakTokens after') (breakTokens_ne_furtherTokens after)
      (breakTokens_ne_furtherTokens after') hothers
    rw [← List.append_nil (breakTokens after), ← List.append_nil (breakTokens after')] at hafter
    obtain ⟨rfl, -⟩ := breakTokens_append_inj (by decide) (by decide) hafter
    rfl

end Derivation

end Extraction
