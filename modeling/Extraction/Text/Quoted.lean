import Extraction.Text.Digit
import Extraction.Text.Printable

/-!
# Quoted text

How a text is shown inside a message: between quotes, on one line, with everything that could
be mistaken or not be seen written as an escape.

* The quotes are single, unless the text holds a single quote and no double one.
* The quote in use and the backslash are escaped by a backslash.
* Line feed, carriage return and tab have short escapes. Any other unprintable character is
  written by its code point in two, four or eight lower-case hexadecimal digits.
-/

namespace Extraction.Text

/-- The escape of a character by its code point. -/
def codePointEscape (c : Char) : List Char :=
  let n := c.toNat
  if n < 0x100 then '\\' :: 'x' :: hex 2 n
  else if n < 0x10000 then '\\' :: 'u' :: hex 4 n
  else '\\' :: 'U' :: hex 8 n

/-- A character as it is written between the quotes `quote`. -/
def escaped (quote c : Char) : List Char :=
  if c = quote ∨ c = '\\' then ['\\', c]
  else if c = '\n' then ['\\', 'n']
  else if c = '\r' then ['\\', 'r']
  else if c = '\t' then ['\\', 't']
  else if isPrintable c then [c]
  else codePointEscape c

/-- The quote that a text is written with: the single one wherever it needs no escape that the
double one would spare. -/
def quoteFor (cs : List Char) : Char :=
  if cs.contains '\'' && !cs.contains '"' then '"' else '\''

/-- A text between quotes, as messages show it. -/
def quoted (text : String) : String :=
  let cs := text.toList
  let quote := quoteFor cs
  String.ofList (quote :: cs.flatMap (escaped quote) ++ [quote])

end Extraction.Text
