import Extraction.Parser.Basic
import Extraction.Program
import Extraction.Text.Digit

/-!
# The grammar

One parser for each form of the language.

* A program is a list of statements, each on a line of its own.
* A statement is a definition or a binding.
* A binding is a row of targets, an equals sign, and either an invocation or a selection.
* A definition is a name and bindings on the lines after it, closed by the names it returns.
* A selection is a selector, optionally the wanted attributes in braces, and optionally a range
  in parentheses.

The main definition is `parse`.
-/

namespace Extraction

namespace Parser

/-! ## Lines -/

/-- Takes a line break, if there is one. -/
def newline? : Parser (Option Token) := do
  if ← isAt .newline then
    let token ← advance
    pure (some token)
  else pure none

/-- Where `newline?` answers with a line break, it has taken it. -/
theorem advances_newline? : newline?.Advances :=
  advances_isAt (progressesFrom_advance_bind (by decide) _) advances_none

/-- Takes all line breaks that stand next (`Parser._skip_newlines`). -/
def skipNewlines : Parser Unit := do
  let _ ← collect newline? advances_newline?

/-- Takes the line break behind a statement (`Parser._end_statement`); the end of the input serves
as well. -/
def endStatement : Parser Unit := do
  if ← isAt .endOfInput then pure ()
  else
    let _ ← expect .newline

/-! ## Lists of names -/

/-- Takes a name. -/
def name : Parser String := do
  let token ← expect .name
  pure token.text

/-- Takes a comma and the name behind it, unless the list of names is closed here. -/
def nextName? : Parser (Option String) := do
  if ← isAt .rightBrace then pure none
  else if ← isAt .comma then
    let _ ← advance
    let next ← name
    pure (some next)
  else unexpected (Token.Kind.comma.label ++ " or " ++ Token.Kind.rightBrace.label)

/-- Where `nextName?` answers with a name, it has taken at least the comma. -/
theorem advances_nextName? : nextName?.Advances :=
  advances_bind _ fun _ => advances_ite advances_none <|
    advances_isAt (progressesFrom_advance_bind (by decide) _) (progresses_unexpected _).advances

/-- A list of names in braces (`Parser.parse_name_list`). -/
def nameList : Parser (List String) := do
  let _ ← expect .leftBrace
  let first ← name
  let others ← collect nextName? advances_nextName?
  let _ ← advance
  pure (first :: others)

/-! ## Selections -/

/-- The number that the row `digits` denotes. If there are too many of them, it is refused without a
place. -/
def number (digits : List Char) : Parser Int :=
  match Text.decimal? digits with
  | some value => pure value
  | none => refuse (.tooLong digits.length)

/-- Takes an integer. Its token is gone when it turns out to be too long. -/
def integer : Parser Int := do
  let token ← expect .integer
  number token.text.toList

/-- A range in parentheses (`Parser.parse_range`): one number, a start with a comma, or a start and
an end. -/
def range : Parser Range := do
  let _ ← expect .leftParen
  let start ← integer
  if ← isAt .rightParen then
    let _ ← advance
    pure (.bounded start start)
  else if ← isAt .comma then
    let _ ← advance
    if ← isAt .rightParen then
      let _ ← advance
      pure (.openSlice start)
    else if ← isAt .integer then
      let stop ← integer
      let _ ← expect .rightParen
      pure (.bounded start stop)
    else unexpected (Token.Kind.integer.label ++ " or " ++ Token.Kind.rightParen.label)
  else unexpected (Token.Kind.comma.label ++ " or " ++ Token.Kind.rightParen.label)

/-- The wanted attributes behind a selector, if a list of them stands next. -/
def attributes? : Parser (Option (List String)) := do
  if ← isAt .leftBrace then
    let names ← nameList
    pure (some names)
  else pure none

/-- The range behind a selector, if one stands next. -/
def rangeOrWhole : Parser Range := do
  if ← isAt .leftParen then range else pure .whole

/-- What may follow a selection with `attributes` and a `range` that is not at the end of its line.
-/
def afterSelection (attributes : Option (List String)) (range : Range) : String :=
  if attributes.isNone && range.start?.isNone then
    Token.Kind.leftBrace.label ++ ", " ++ Token.Kind.leftParen.label ++ " or end of statement"
  else "end of statement"

/-- A selection, which ends its line (`Parser.parse_selection`). -/
def selection : Parser Selection := do
  let selector ← name
  let attributes ← attributes?
  let range ← rangeOrWhole
  if ← isAt .newline then pure ⟨selector, range, attributes⟩
  else if ← isAt .endOfInput then pure ⟨selector, range, attributes⟩
  else unexpected (afterSelection attributes range)

/-! ## Bindings -/

/-- Takes a comma and the target behind it, if a comma stands next. -/
def nextTarget? : Parser (Option String) := do
  if ← isAt .comma then
    let _ ← advance
    let next ← name
    pure (some next)
  else pure none

/-- Where `nextTarget?` answers with a target, it has taken at least the comma. -/
theorem advances_nextTarget? : nextTarget?.Advances :=
  advances_isAt (progressesFrom_advance_bind (by decide) _) advances_none

/-- An invocation from its keyword on, or a selection, for the targets `target` and `others`. The
statement stands at `location`. -/
def bound (target : String) (others : List String) (location : Location) : Parser Statement := do
  if ← isAt .invoke then
    let _ ← advance
    let function ← name
    pure (.invocation (target :: others) function (some location))
  else if others.isEmpty then
    let selection ← selection
    pure (.assignment target selection (some location))
  else unexpected ("'do' after " ++ toString (others.length + 1) ++ " targets")

/-- An assignment or an invocation (`Parser.parse_binding`). -/
def binding : Parser Statement := do
  let first ← expect .name
  let others ← collect nextTarget? advances_nextTarget?
  let _ ← expect .equals
  let location ← locate first
  bound first.text others location

/-- A binding takes at least the name of its first target. -/
theorem progresses_binding : binding.Progresses := (progresses_expect (by decide)).bind _

/-! ## Definitions -/

/-- The names that a function returns, behind their keyword (`Parser.parse_return`). -/
def returnSpec : Parser ReturnSpec := do
  let start ← expect .returns
  let names ← nameList
  let location ← locate start
  pure ⟨names, some location⟩

/-- The next binding in the body of `function`, unless the body is closed here. -/
def nextBinding? (function : String) : Parser (Option Statement) := do
  skipNewlines
  if ← isAt .returns then pure none
  else if ← isAt .endOfInput then
    unexpected ("'return' to close function " ++ Text.quoted function)
  else if ← isAt .define then unexpected "a statement (functions cannot be nested)"
  else
    let statement ← binding
    endStatement
    pure (some statement)

/-- Where `nextBinding?` answers with a statement, it has taken at least the name that the statement
starts with. -/
theorem advances_nextBinding? (function : String) : (nextBinding? function).Advances :=
  advances_bind _ fun _ => advances_bind _ fun _ => advances_ite advances_none <|
    advances_bind _ fun _ => advances_ite (progresses_unexpected _).advances <|
    advances_bind _ fun _ => advances_ite (progresses_unexpected _).advances
      (progresses_binding.bind _).advances

/-- The definition of a function (`Parser.parse_function`). Its first token is taken for the keyword
without a look. -/
def definition : Parser Statement := do
  let start ← advance
  let function ← name
  endStatement
  let body ← collect (nextBinding? function) (advances_nextBinding? function)
  let spec ← returnSpec
  let location ← locate start
  pure (.definition function body spec (some location))

/-! ## Programs -/

/-- A statement (`Parser.parse_statement`). -/
def statement : Parser Statement := do
  if ← isAt .define then definition
  else if ← isAt .returns then
    unexpected "a statement ('return' is only valid at the end of a function)"
  else binding

/-- A statement takes at least its first token. -/
theorem progresses_statement : statement.Progresses :=
  .ofIsAt (progressesFrom_advance_bind (by decide) _) <|
    .ofIsAt (fun state _ => progresses_unexpected _ state) progresses_binding

/-- The next statement of a program, unless the input has ended. -/
def nextStatement? : Parser (Option Statement) := do
  skipNewlines
  if ← isAt .endOfInput then pure none
  else
    let statement ← statement
    endStatement
    pure (some statement)

/-- Where `nextStatement?` answers with a statement, it has taken at least the first token of it. -/
theorem advances_nextStatement? : nextStatement?.Advances :=
  advances_bind _ fun _ => advances_bind _ fun _ => advances_ite advances_none
    (progresses_statement.bind _).advances

/-- A program (`Parser.parse_program`). -/
def program : Parser Program := do
  let statements ← collect nextStatement? advances_nextStatement?
  let state ← state
  pure ⟨statements, state.path⟩

end Parser

/-- The program that `source` denotes (`parse`). It was read from `path`. -/
def parse (source : String) (path : Option String) : Except (Failure SyntaxFault) Program := do
  let state ← Parser.State.start (Cursor.start source path) path
  (Parser.program.run state).1

end Extraction
