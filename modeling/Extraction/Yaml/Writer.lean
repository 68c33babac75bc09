import Extraction.Text.Digit
import Extraction.Value
import Extraction.Yaml.Kind
import Extraction.Yaml.Token

/-!
# Writing YAML

Names with plain values as a YAML text, laid out by indentation.

* `Yaml.quotation` says how a text has to be written so that it reads as itself.
* `Yaml.write` writes the names with their values.

The items of a list stand in the column of the name in front of them, and otherwise each level is
indented by two spaces. A line that has become too long goes on in a further line where that adds
nothing to the text: at a single space, and within double quotes anywhere behind an escape.
-/

namespace Extraction.Yaml

/-- How the text of a scalar is written. -/
inductive Quotation where
  | plain
  | single
  | double
deriving DecidableEq, Repr

/-- A character that shows in a text as it is. -/
def isVisible (c : Char) : Bool :=
  let n := c.toNat
  c == '\n' || (0x20 ≤ n && n ≤ 0x7e) || n == 0x85 || (0xa0 ≤ n && n ≤ 0xd7ff) ||
    (0xe000 ≤ n && n ≤ 0xfffd && n != 0xfeff) || (0x10000 ≤ n && n < 0x10ffff)

/-- A character that ends a line of a text. -/
def endsLine (c : Char) : Bool := isBreak c || c == '\u0085'

/-- Whether a text has a character with one property directly in front of one with another. -/
def hasPair (first second : Char → Bool) (cs : List Char) : Bool :=
  (cs.zip cs.tail).any fun (c, d) => first c && second d

/-- Whether a character starts something else than a plain scalar, in front of the given rest. -/
def startsOther (c : Char) (rest : List Char) : Bool :=
  "#,[]\x7b\x7d&*!|>'\"%@`".toList.contains c || ((c == '?' || c == ':' || c == '-') && atGap rest)

/-- Whether a text holds the mark behind a key or the start of a comment. -/
def holdsMark (cs : List Char) : Bool :=
  hasPair (· == ':') (fun c => isBlank c || endsLine c) cs || cs.getLast? == some ':' ||
    hasPair (fun c => isBlank c || endsLine c) (· == '#') cs

/-- Whether a text in one line can stand without quotes. -/
def isPlain (cs : List Char) : Bool :=
  match cs with
  | [] => false
  | c :: rest =>
    !(startsOther c rest || holdsMark cs || c == ' ' || cs.getLast? == some ' ' ||
      cs.any endsLine || "---".toList.isPrefixOf cs || "...".toList.isPrefixOf cs) &&
      Kind.ofPlain (String.ofList cs) == .text

/-- How a text has to be written so that it reads as itself. -/
def quotation (cs : List Char) : Quotation :=
  -- A space in front of a break would be lost in any other form.
  if cs.any (fun c => !isVisible c) || hasPair (· == ' ') endsLine cs then .double
  else if isPlain cs then .plain
  -- A space behind a break would be taken for indentation.
  else if hasPair endsLine (· == ' ') cs then .double
  else .single

/-- A line feed and the indentation of the next line. -/
def newLine (column : Nat) : List Char := '\n' :: List.replicate column ' '

/-- The number of columns of a line behind which it is too long. -/
def longestLine : Nat := 80

/-- Whether a space is a single one between two other characters. -/
def isSingleSpace (before : Option Char) (c : Char) (rest : List Char) : Bool :=
  c == ' ' && before.any (· != ' ') && rest.head?.any (· != ' ')

/-- A text without quotes behind a given character and from a given column on, whose further lines
start in the column `indent`. -/
def plainFrom (indent column : Nat) (before : Option Char) : List Char → List Char
  | [] => []
  | c :: rest =>
    if isSingleSpace before c rest && longestLine < column then
      newLine indent ++ plainFrom indent indent (some c) rest
    else c :: plainFrom indent (column + 1) (some c) rest

/-- A text within single quotes behind a given character and from a given column on, whose further
lines start in the column `indent`. A row of line breaks that starts with a line feed is written
with a further one in front. -/
def singleQuotedFrom (indent column : Nat) (before : Option Char) : List Char → List Char
  | [] => if before.any endsLine then List.replicate indent ' ' else []
  | c :: rest =>
    if endsLine c then
      -- One break alone would be read as a space.
      if c == '\n' && !before.any endsLine then
        '\n' :: c :: singleQuotedFrom indent indent (some c) rest
      else c :: singleQuotedFrom indent indent (some c) rest
    else
      (if before.any endsLine then List.replicate indent ' ' else []) ++
        if isSingleSpace before c rest && longestLine < column then
          newLine indent ++ singleQuotedFrom indent indent (some c) rest
        else if c = '\'' then
          '\'' :: '\'' :: singleQuotedFrom indent (column + 2) (some c) rest
        else c :: singleQuotedFrom indent (column + 1) (some c) rest

/-- The letter of a character that has an escape by a letter. -/
def letterOf? (c : Char) : Option Char :=
  [('\x00', '0'), ('\x07', 'a'), ('\x08', 'b'), ('\t', 't'), ('\n', 'n'), ('\x0b', 'v'),
    ('\x0c', 'f'), ('\r', 'r'), ('\x1b', 'e'), ('"', '"'), ('\\', '\\'), ('\u0085', 'N'),
    ('\u2028', 'L'), ('\u2029', 'P')].lookup c

/-- The escape of a character within double quotes, if it needs one. -/
def escapeOf? (c : Char) : Option (List Char) :=
  let n := c.toNat
  let capitalHex (width : Nat) : List Char := (Text.hex width n).map Char.toUpper
  match letterOf? c with
  | some letter => some ['\\', letter]
  | none =>
    if (0x20 ≤ n && n ≤ 0x7e) || (0xa0 ≤ n && n ≤ 0xd7ff) ||
        (0xe000 ≤ n && n ≤ 0xfffd && n != 0xfeff) then none
    else if n ≤ 0xff then some ('\\' :: 'x' :: capitalHex 2)
    else if n ≤ 0xffff then some ('\\' :: 'u' :: capitalHex 4)
    else some ('\\' :: 'U' :: capitalHex 8)

/-- The end of a line within double quotes, and the start of the next one in front of the given
text. A space there needs a backslash. -/
def doubleQuotedBreak (indent : Nat) (rest : List Char) : List Char × Nat :=
  let atSpace := rest.head? == some ' '
  ('\\' :: newLine indent ++ (if atSpace then ['\\'] else []),
    if atSpace then indent + 1 else indent)

/-- A text within double quotes from a given column on, whose further lines start in the column
`indent`. A line is not broken behind its first character nor in front of the last one, and only in
front of a space or behind an escape. -/
def doubleQuotedFrom (indent column : Nat) (first behindEscape : Bool) : List Char → List Char
  | [] => []
  | c :: rest =>
    let inside := !first && !rest.isEmpty
    match escapeOf? c with
    | some escape =>
      let column := column + escape.length
      if inside && longestLine + 1 < column then
        let (lineBreak, column) := doubleQuotedBreak indent rest
        escape ++ lineBreak ++ doubleQuotedFrom indent column false true rest
      else escape ++ doubleQuotedFrom indent column false true rest
    | none =>
      if inside && (c == ' ' || behindEscape) && longestLine < column then
        let (lineBreak, column) := doubleQuotedBreak indent (c :: rest)
        lineBreak ++ c :: doubleQuotedFrom indent (column + 1) false false rest
      else c :: doubleQuotedFrom indent (column + 1) false false rest

/-- A text as a scalar from a given column on, whose further lines start in the column `indent`. -/
def writeText (indent column : Nat) (text : String) : List Char :=
  let cs := text.toList
  match quotation cs with
  | .plain => plainFrom indent column none cs
  | .single => '\'' :: singleQuotedFrom indent (column + 1) none cs ++ ['\'']
  | .double => '"' :: doubleQuotedFrom indent (column + 1) true false cs ++ ['"']

/-- The longest name that stands in front of its value on one line. -/
def longestKey : Nat := 122

/-- Whether a name stands in front of its value on one line. A longer name has a mark of its own
and so has one of several lines. -/
def isSimpleKey (name : String) : Bool :=
  !name.isEmpty && name.length ≤ longestKey && !name.toList.any endsLine

/-- A name in front of its value on one line, which is not broken. -/
def writeKey (name : String) : List Char :=
  let cs := name.toList
  match quotation cs with
  | .plain => cs
  | .single => '\'' :: (cs.flatMap fun c => if c = '\'' then ['\'', '\''] else [c]) ++ ['\'']
  | .double => '"' :: (cs.flatMap fun c => (escapeOf? c).getD [c]) ++ ['"']

mutual

/-- A value from a given column on, whose further lines start in the column `indent`. -/
def writeValue (indent column : Nat) : Plain → List Char
  | .leaf none => "null".toList
  | .leaf (some text) => writeText indent column text
  | .list [] => "[]".toList
  | .list (item :: items) => writeItem indent item ++ writeItems indent items

/-- An item of a list in the given column. -/
def writeItem (indent : Nat) (item : Plain) : List Char :=
  "- ".toList ++ writeValue (indent + 2) (indent + 2) item

/-- Further items of a list in the given column. -/
def writeItems (indent : Nat) : List Plain → List Char
  | [] => []
  | item :: items =>
    newLine indent ++ "- ".toList ++ writeValue (indent + 2) (indent + 2) item ++
      writeItems indent items

end

/-- A name with its value. -/
def writeEntry (entry : String × Plain) : List Char :=
  let (name, value) := entry
  if isSimpleKey name then
    let key := writeKey name
    key ++ match value with
      | .list (item :: items) => ':' :: newLine 0 ++ writeValue 0 0 (.list (item :: items))
      | value => ": ".toList ++ writeValue 2 (key.length + 2) value
  else
    "? ".toList ++ writeText 2 2 name ++ newLine 0 ++ ": ".toList ++ writeValue 2 2 value

/-- Names with their values. -/
def write (entries : List (String × Plain)) : String :=
  if entries.isEmpty then "\x7b\x7d\n"
  else String.ofList (entries.flatMap fun entry => writeEntry entry ++ ['\n'])

end Extraction.Yaml
