import Extraction.Text.Quoted

/-!
# Tokens

The words of the extraction language. A token is of a kind, holds the text it was read from,
and knows where it starts: at a line, counted from one, and a column, counted from zero.

* `Token.Kind` lists the kinds, and `Token.Kind.name` their names in messages.
* `Keyword` lists the words that are never part of a name.
* `Token.shown` is a token as an error message quotes it.
-/

namespace Extraction

/-- The kinds of tokens (`TokenKind`). The end of the input counts as a token, too. -/
inductive Token.Kind where
  | name
  | integer
  | endOfInput
  | leftParen
  | rightParen
  | comma
  | equals
  | newline
  | leftBrace
  | rightBrace
  | define
  | returns
  | invoke
deriving DecidableEq, Repr, Inhabited

namespace Token.Kind

/-- Every kind of token. -/
def all : List Kind :=
  [.name, .integer, .endOfInput, .leftParen, .rightParen, .comma, .equals, .newline, .leftBrace,
    .rightBrace, .define, .returns, .invoke]

/-- The name of a kind in messages, such as `IDENT`. -/
def label : Kind → String
  | .name => "IDENT"
  | .integer => "INTEGER"
  | .endOfInput => "EOF"
  | .leftParen => "LPAREN"
  | .rightParen => "RPAREN"
  | .comma => "COMMA"
  | .equals => "EQUALS"
  | .newline => "NEWLINE"
  | .leftBrace => "LBRACE"
  | .rightBrace => "RBRACE"
  | .define => "DEF"
  | .returns => "RETURN"
  | .invoke => "DO"

/-- The kind of the token that `c` is on its own, if `c` is a symbol of the language. -/
def ofSymbol? (c : Char) : Option Kind :=
  if c = '(' then some .leftParen
  else if c = ')' then some .rightParen
  else if c = ',' then some .comma
  else if c = '=' then some .equals
  else if c = '\n' then some .newline
  else if c = '{' then some .leftBrace
  else if c = '}' then some .rightBrace
  else none

end Token.Kind

/-- The words that are never part of a name (`KEYWORDS`). -/
inductive Keyword where
  | returns
  | define
  | invoke
deriving DecidableEq, Repr

namespace Keyword

/-- Every keyword, the longest first. -/
def all : List Keyword := [.returns, .define, .invoke]

/-- The text of a keyword. -/
def text : Keyword → String
  | .returns => "return"
  | .define => "def"
  | .invoke => "do"

/-- The kind of token that a keyword is. -/
def kind : Keyword → Token.Kind
  | .returns => .returns
  | .define => .define
  | .invoke => .invoke

/-- The keyword whose text is `word`. -/
def ofChars? (word : List Char) : Option Keyword :=
  all.find? fun keyword => keyword.text.toList == word

end Keyword

/-- A token (`Token`): its kind, its text, and where it starts. -/
structure Token where
  /-- The kind of the token. -/
  kind : Token.Kind
  /-- The text of the token; empty at the end of the input. -/
  text : String
  /-- The line of its first character, counted from one. -/
  line : Nat
  /-- The number of characters before it on its line. -/
  column : Nat
deriving DecidableEq, Repr

namespace Token

/-- `token` as error messages quote it (`_show`): its kind and, unless the input has ended, its
text. -/
def shown (token : Token) : String :=
  if token.kind = .endOfInput then token.kind.label
  else token.kind.label ++ " " ++ Text.quoted token.text

/-- `token` with everything that is known of it. -/
def detailed (token : Token) : String :=
  "Token(" ++ token.kind.label ++ ", " ++ Text.quoted token.text ++ ", L" ++ toString token.line ++
    ":" ++ toString token.column ++ ")"

end Token

end Extraction
