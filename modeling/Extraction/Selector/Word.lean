import Extraction.Markup.Element
import Extraction.Markup.Reference
import Extraction.Text.Digit

/-!
# Words of selectors

Names and values as they are written in a selector. A backslash takes the meaning from the
character behind it, or gives a character by its number in hexadecimal digits.

* `Selector.name` takes a name, and `Selector.value` a value.
* `Selector.gap` takes white space and comments.
-/

namespace Extraction.Selector

open Markup (isSpace)

/-- A name with basic Latin letters as small ones. -/
def small (cs : List Char) : String := String.ofList (cs.map Char.toLower)

/-! ## Gaps -/

/-- Takes one white space; a carriage return with a line feed is one. -/
def blank : Scanner Unit :=
  Scanner.literal ['\r', '\n'] <|> do
    let _ ← Scanner.satisfy isSpace

/-- Takes a comment. -/
def comment : Scanner Unit := do
  Scanner.literal ['/', '*']
  let _ ← Scanner.takeUntil fun cs => ['*', '/'].isPrefixOf cs
  Scanner.literal ['*', '/']

/-- Takes white space and comments. The answer is whether there was white space. -/
def gap : Scanner Bool := do
  let parts ← Scanner.many <|
    (do blank; pure true) <|>
    (do comment; pure false)
  pure (parts.contains true)

/-- Takes white space and comments, with white space among them. -/
def wideGap : Scanner Unit := do
  if !(← gap) then failure

/-! ## Names -/

/-- A character that starts a name, a hyphen in front of it apart. -/
def startsName (c : Char) : Bool := Markup.isLetter c || c == '_' || 0xa0 ≤ c.toNat

/-- A character that continues a name. -/
def continuesName (c : Char) : Bool := startsName c || Markup.isDecimal c || c == '-'

/-- The character of a number that is written in an escape; one that no character has stands for the
replacement character. -/
def numbered (n : Nat) : Char := if n != 0 && n.isValidChar then Char.ofNat n else '\ufffd'

/-- The greatest number of digits in an escape. -/
def longestEscape : Nat := 6

/-- Takes the number of a character, and the one white space that may end it. -/
def escapedNumber : Scanner Char := do
  let digits := ((← Scanner.remaining).takeWhile Text.isHexDigit).take longestEscape
  if digits.isEmpty then failure
  Scanner.skip digits.length
  let _ ← Scanner.optional blank
  pure (numbered (Text.hexadecimal digits))

/-- A character that ends a line. -/
def endsLine (c : Char) : Bool := c == '\n' || c == '\r' || c == '\x0c'

/-- Takes an escape. A backslash at the end, or in front of a last line feed, stands for the
replacement character. -/
def escaped : Scanner Char := do
  Scanner.char '\\'
  escapedNumber <|> (Scanner.satisfy fun c => !endsLine c) <|> do
    let rest ← Scanner.remaining
    if !rest.isEmpty && rest != ['\n'] then failure
    pure '\ufffd'

/-- Takes a name. -/
def name : Scanner (List Char) :=
  (do
    Scanner.literal ['-', '-']
    let rest ← Scanner.many (Scanner.satisfy continuesName <|> escaped)
    pure ('-' :: '-' :: rest)) <|>
  (do
    let hyphen ← Scanner.optional (Scanner.char '-')
    let first ← Scanner.satisfy startsName <|> escaped
    let rest ← Scanner.many (Scanner.satisfy continuesName <|> escaped)
    pure ((if hyphen.isSome then ['-'] else []) ++ first :: rest))

/-- Takes a name, or a star for any one. -/
def nameOrStar : Scanner (List Char) :=
  name <|> do
    Scanner.char '*'
    pure ['*']

/-- Takes a name by the given scanner, which may have another one with a bar in front of it to say
where it comes from. The answer has that other name as well; it may be empty. -/
def qualified (own : Scanner (List Char)) : Scanner (Option (List Char) × List Char) :=
  (do
    let origin ← Scanner.optional nameOrStar
    Scanner.char '|'
    pure (some (origin.getD []), ← own)) <|>
  (do pure (none, ← own))

/-! ## Values -/

/-- Takes a text in quotes. An escaped line break in it stands for nothing. -/
def quotedValue (quote : Char) : Scanner (List Char) := do
  Scanner.char quote
  let parts ← Scanner.many <|
    (do
      let c ← Scanner.satisfy fun c => c != quote && c != '\\' && !endsLine c
      pure [c]) <|>
    (do
      Scanner.char '\\'
      Scanner.literal ['\r', '\n'] <|> do
        let _ ← Scanner.satisfy endsLine
      pure []) <|>
    (do
      let c ← escaped
      pure [c])
  Scanner.char quote
  pure parts.flatten

/-- Takes a value. -/
def value : Scanner (List Char) := quotedValue '"' <|> quotedValue '\'' <|> name

/-- Takes some values with commas between them. -/
def values : Scanner (List String) := do
  let first ← value
  let later ← Scanner.many do
    let _ ← gap
    Scanner.char ','
    let _ ← gap
    value
  pure ((first :: later).map String.ofList)

end Extraction.Selector
