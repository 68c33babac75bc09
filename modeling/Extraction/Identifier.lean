import Extraction.Text.Blank
import Extraction.Token

/-!
# Names

Which characters make up a name, and where a name ends. Selectors are names, so a name may hold
spaces, parentheses and equals signs; whether such a character belongs to the name before it is
decided by the character before and the text after.

* `isIdentifierChar` are the characters that always continue a name.
* `keywordAt` finds a keyword that stands as a whole word.
* `continues` decides whether the next character continues the name that was read so far.
* `extent` is the longest text that continues a name.

A text that was read so far is kept with its last character first.
-/

namespace Extraction.Identifier

/-- Whether `c` is a decimal digit (`is_digit`). -/
def isDigit (c : Char) : Bool := '0' ≤ c && c ≤ '9'

/-- Whether `c` is white space within a line (`is_space`). The line break is a token of its own. -/
def isSpace (c : Char) : Bool := c == ' ' || c == '\t' || c == '\r'

/-- Whether `c` is a token of its own. -/
def isSymbol (c : Char) : Bool := (Token.Kind.ofSymbol? c).isSome

/-- Whether the language reserves a text (`is_reserved`): it is a symbol or a keyword. -/
def isReserved : List Char → Bool
  | [c] => isSymbol c
  | word => (Keyword.ofChars? word).isSome

/-- Whether `c` always continues a name (`is_identifier_char`): it is printable, and neither a space
nor a symbol. -/
def isIdentifierChar (c : Char) : Bool :=
  !isSpace c && !isSymbol c && Text.isPrintable c

/-- A text that no name continues into: it is empty, or starts with another character. -/
def endsWord : List Char → Bool
  | [] => true
  | c :: _ => !isIdentifierChar c

/-- The keyword that `rest` starts with, if it stands there as a whole word (`keyword_at`). -/
def keywordAt (rest : List Char) : Option Keyword :=
  Keyword.all.find? fun keyword =>
    keyword.text.toList.isPrefixOf rest && endsWord (rest.drop keyword.text.length)

/-- Whether a text starts with a symbol or a keyword (`starts_reserved`); so does the end of the
input. -/
def startsReserved : List Char → Bool
  | [] => true
  | c :: rest => isSymbol c || (keywordAt (c :: rest)).isSome

/-- The last word of `seen`, which is what was read so far with its last character first. -/
def lastWord (seen : List Char) : List Char :=
  ((seen.dropWhile Text.isBlank).takeWhile fun c => !Text.isBlank c).reverse

/-- What was read so far ends in a character that always continues a name. -/
def endsInIdentifier : List Char → Bool
  | [] => false
  | c :: _ => isIdentifierChar c

/-- Whether the first character of `rest` continues the name `seen`, in this order of rules:

* a character that always continues a name does;
* any other one does only right after such a character;
* there an equals sign and a parenthesis do;
* there a space does when the next text on the line is not reserved and the last word that was
  read is no keyword. -/
def continues (seen : List Char) : List Char → Bool
  | [] => false
  | c :: rest =>
    if isIdentifierChar c then true
    else if !endsInIdentifier seen then false
    else if c == '=' || c == '(' || c == ')' then true
    else if isSpace c then
      !startsReserved (rest.dropWhile isSpace) && (Keyword.ofChars? (lastWord seen)).isNone
    else false

/-- The characters of a text that continue the name `seen`, up to the first that does not. -/
def extent (seen : List Char) : List Char → List Char
  | [] => []
  | c :: rest => if continues seen (c :: rest) then c :: extent (c :: seen) rest else []

end Extraction.Identifier
