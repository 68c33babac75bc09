import Extraction.Markup.Reference
import Extraction.Text.Blank
import Extraction.Text.Case

/-!
# Tags

The start tags and end tags of markup, behind the bracket that opens them.

* `Markup.startTag` reads a start tag, and `Markup.endTag` an end tag.

A tag that breaks off is told apart from one that is there, as more text could complete it.
-/

namespace Extraction.Markup

/-- A character that continues the name of a tag. -/
def continuesTagName (c : Char) : Bool := !"\t\n\r\x0c />\x00".toList.contains c

/-- A name in small letters, as the names of markup are kept. -/
def lowered (cs : List Char) : String := String.ofList (Text.smallLetters cs)

/-! ## Start tags -/

/-- The rest of a start tag behind a gap between its parts: blanks, and slashes that do not close
the tag. -/
def behindGap : List Char → List Char
  | [] => []
  | c :: rest =>
    if Text.isBlank c || (c == '/' && rest.head? != some '>') then behindGap rest else c :: rest

/-- A character between quotes that ends where they do. -/
def isQuote (c : Char) : Bool := c == '"' || c == '\''

/-- A character of a value without quotes. -/
def isBare (c : Char) : Bool := c != '>' && !Text.isBlank c

/-- The value of an attribute behind its name, whether it stands in quotes, and what follows. Where
a quote is not closed the value ends in front of it, if a blank or a second equals sign stands
there. -/
def attributeValue? (cs : List Char) : Option (List Char × Bool × List Char) :=
  let behindBlanks := cs.dropWhile Text.isBlank
  let signs := behindBlanks.takeWhile (· == '=')
  let gap := (behindBlanks.drop signs.length).takeWhile Text.isBlank
  let rest := behindBlanks.drop (signs.length + gap.length)
  if signs.isEmpty then none
  else match rest with
    | [] => some ([], false, [])
    | c :: behind =>
      if !isQuote c then some (rest.takeWhile isBare, false, rest.dropWhile isBare)
      else if behind.contains c then
        some (behind.takeWhile (· != c), true, (behind.dropWhile (· != c)).drop 1)
      else if !gap.isEmpty then some ([], false, ' ' :: rest)
      else if 1 < signs.length then
        some ('=' :: rest.takeWhile isBare, false, rest.dropWhile isBare)
      else none

/-- An attribute in a start tag. -/
structure AttributeRead where
  /-- Its name, as it is written. -/
  name : List Char
  /-- Its value, if it has one. -/
  value : Option (List Char)
  /-- Whether another attribute may follow without a gap. -/
  adjacent : Bool
  /-- The text behind it. -/
  rest : List Char

/-- The attribute at the front of a text. -/
def attributeAt? : List Char → Option AttributeRead
  | [] => none
  | c :: rest =>
    if Text.isBlank c || c == '/' || c == '>' then none
    else
      let continues (c : Char) : Bool := !Text.isBlank c && c != '/' && c != '=' && c != '>'
      let name := c :: rest.takeWhile continues
      let behind := rest.dropWhile continues
      match attributeValue? behind with
      | some (value, quoted, behind) => some ⟨name, some value, quoted, behind⟩
      | none => some ⟨name, none, name.getLast?.any isQuote, behind⟩

/-- The attributes at the front of a text, and what follows them and the gap behind them. Where a
gap is missing no attribute follows. -/
def attributesFrom (free : Bool) (cs : List Char) : List (String × String) × List Char :=
  if !free then ([], cs)
  else match attributeAt? cs with
    | none => ([], cs)
    | some read =>
      let rest := behindGap read.rest
      let first := (lowered read.name, String.ofList (decodeValue (read.value.getD [])))
      if rest.length < cs.length then
        let (attributes, rest) :=
          attributesFrom (read.adjacent || rest.length < read.rest.length) rest
        (first :: attributes, rest)
      else ([first], rest)
termination_by cs.length

/-- What the text behind the bracket of a start tag comes to. -/
inductive StartTag where
  /-- A start tag with its name and attributes, whether a slash closes it, and what follows. -/
  | complete (name : String) (attributes : List (String × String)) (closed : Bool)
    (rest : List Char)
  /-- No tag, but text up to where it can be none, and what follows. -/
  | plain (text rest : List Char)
  /-- A tag that breaks off. -/
  | cut

/-- Reads a start tag behind its bracket, from the letter on that starts its name. -/
def startTag (cs : List Char) : StartTag :=
  let name := cs.takeWhile continuesTagName
  let behind := cs.dropWhile continuesTagName
  let rest := behindGap behind
  let free := rest.length < behind.length ||
    name.getLast?.any fun c => isQuote c || Text.isBlank c
  let (attributes, rest) := attributesFrom free rest
  match rest with
  | '>' :: rest => .complete (lowered name) attributes false rest
  | '/' :: '>' :: rest => .complete (lowered name) attributes true rest
  | [] => .cut
  | c :: _ =>
    if c == '=' || c == '/' || isLetter c then .cut
    else .plain (cs.take (cs.length - rest.length)) rest

/-! ## End tags -/

/-- What the text behind the bracket and the slash of an end tag comes to. -/
inductive EndTag where
  /-- An end tag with its name, and what follows. -/
  | complete (name : String) (rest : List Char)
  /-- An end tag without a name, and what follows. -/
  | nameless (rest : List Char)
  /-- No tag, but a comment, and what follows. -/
  | comment (text rest : List Char)
  /-- A tag that breaks off. -/
  | cut

/-- Takes an end tag in which blanks surround a plain name. -/
def plainEndTag : Scanner String := do
  let _ ← Scanner.takeWhile Text.isBlank
  let first ← Scanner.satisfy isLetter
  let rest ← Scanner.takeWhile fun c => isLetter c || isDecimal c || "-.:_".toList.contains c
  let _ ← Scanner.takeWhile Text.isBlank
  Scanner.char '>'
  pure (lowered (first :: rest))

/-- Reads an end tag behind its bracket and slash. What stands between its name and its end does not
count. -/
def endTag (cs : List Char) : EndTag :=
  if !cs.contains '>' then .cut
  else
    let behind := (cs.dropWhile (· != '>')).drop 1
    match plainEndTag cs with
    | some (name, rest) => .complete name rest
    | none =>
      if cs.head?.any isLetter then .complete (lowered (cs.takeWhile continuesTagName)) behind
      else if cs.head? = some '>' then .nameless behind
      else .comment (cs.takeWhile (· != '>')) behind

end Extraction.Markup
