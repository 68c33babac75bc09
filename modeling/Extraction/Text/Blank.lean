/-!
# Blanks and line ends

The characters that separate words, which are the white space of Unicode together with the four
information separators U+001C to U+001F, and the characters that end lines, in different ways on
different systems.

* `isBlank` decides whether a character separates words.
* `words` are the maximal runs of other characters, and `wordsBy` those for any separators.
* `trimEnd` drops blanks from the end.
* `unifyLines` ends all lines in one way.
-/

namespace Extraction.Text

/-- A character that separates words. -/
def isBlank (c : Char) : Bool :=
  let n := c.toNat
  (0x9 ≤ n && n ≤ 0xd) || (0x1c ≤ n && n ≤ 0x20) || n == 0x85 || n == 0xa0 || n == 0x1680 ||
    (0x2000 ≤ n && n ≤ 0x200a) || n == 0x2028 || n == 0x2029 || n == 0x202f || n == 0x205f ||
    n == 0x3000

/-- The pieces of a text between the characters that separate, empty ones included. -/
def pieces (separates : Char → Bool) : List Char → List (List Char)
  | [] => [[]]
  | c :: cs =>
    if separates c then [] :: pieces separates cs
    else match pieces separates cs with
      | [] => [[c]]
      | piece :: later => (c :: piece) :: later

/-- The maximal nonempty runs of characters that do not separate, in order. -/
def wordsBy (separates : Char → Bool) (cs : List Char) : List (List Char) :=
  (pieces separates cs).filter fun piece => !piece.isEmpty

/-- The words of a text: the maximal runs of characters that are not blank. -/
def words (cs : List Char) : List (List Char) := wordsBy isBlank cs

/-- The text without the blanks at its end. -/
def trimEnd (cs : List Char) : List Char := (cs.reverse.dropWhile isBlank).reverse

/-- The text with a line feed at the end of each line, in place of a carriage return or of both. -/
def unifyLines : List Char → List Char
  | '\r' :: '\n' :: cs => '\n' :: unifyLines cs
  | '\r' :: cs => '\n' :: unifyLines cs
  | c :: cs => c :: unifyLines cs
  | [] => []

end Extraction.Text
