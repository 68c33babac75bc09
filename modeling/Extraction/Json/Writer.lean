import Extraction.Text.Digit

/-!
# Writing JSON

Values of JSON as texts, on one line or on a line for each part.

* `Json.Value` are the values.
* `Json.Value.line` writes a value on one line, in basic Latin characters only.
* `Json.Value.lines` writes each part of a value on a line of its own.
-/

namespace Extraction.Json

/-- A value. -/
inductive Value where
  /-- Nothing. -/
  | null
  /-- A text. -/
  | text (text : String)
  /-- A number. -/
  | number (number : Nat)
  /-- A list of values. -/
  | list (items : List Value)
  /-- Names with values. -/
  | object (entries : List (String × Value))

/-- An escape by a number of sixteen bits. -/
def unitEscape (n : Nat) : List Char := '\\' :: 'u' :: Text.hex 4 n

/-- The escape of a character by its code: beyond sixteen bits by two numbers. -/
def codeEscape (c : Char) : List Char :=
  let n := c.toNat
  if n < 0x10000 then unitEscape n
  else
    unitEscape (0xd800 + (n - 0x10000) / 0x400) ++ unitEscape (0xdc00 + (n - 0x10000) % 0x400)

/-- A character within quotes. Those that are not printable basic Latin characters are escaped on
demand, and the controls always. -/
def escaped (basicOnly : Bool) (c : Char) : List Char :=
  if c = '"' ∨ c = '\\' then ['\\', c]
  else if c = '\n' then ['\\', 'n']
  else if c = '\r' then ['\\', 'r']
  else if c = '\t' then ['\\', 't']
  else if c = '\x08' then ['\\', 'b']
  else if c = '\x0c' then ['\\', 'f']
  else if c < ' ' ∨ (basicOnly ∧ '~' < c) then codeEscape c
  else [c]

/-- A text in quotes. -/
def quoted (basicOnly : Bool) (text : String) : String :=
  String.ofList ('"' :: text.toList.flatMap (escaped basicOnly) ++ ['"'])

namespace Value

mutual

/-- A value on one line, in basic Latin characters. -/
def line : Value → String
  | .null => "null"
  | .text s => quoted true s
  | .number n => toString n
  | .list items => "[" ++ String.intercalate ", " (lineOfItems items) ++ "]"
  | .object entries => "\x7b" ++ String.intercalate ", " (lineOfEntries entries) ++ "\x7d"

/-- Each of some values on one line. -/
def lineOfItems : List Value → List String
  | [] => []
  | item :: items => line item :: lineOfItems items

/-- Each of some names with its value on one line. -/
def lineOfEntries : List (String × Value) → List String
  | [] => []
  | (name, value) :: entries =>
    (quoted true name ++ ": " ++ line value) :: lineOfEntries entries

end

/-- Parts between brackets, each on a line that is indented by two spaces more than the brackets.
No parts need no lines. -/
def bracketed (start stop : String) (depth : Nat) (parts : List String) : String :=
  let newLine (depth : Nat) : String := "\n" ++ "".pushn ' ' (2 * depth)
  if parts.isEmpty then start ++ stop
  else
    start ++ newLine (depth + 1) ++ String.intercalate ("," ++ newLine (depth + 1)) parts ++
      newLine depth ++ stop

mutual

/-- A value with each part on a line of its own, within so many others. -/
def linesAt (depth : Nat) : Value → String
  | .null => "null"
  | .text s => quoted false s
  | .number n => toString n
  | .list items => bracketed "[" "]" depth (linesOfItems (depth + 1) items)
  | .object entries => bracketed "\x7b" "\x7d" depth (linesOfEntries (depth + 1) entries)

/-- Each of some values within so many others. -/
def linesOfItems (depth : Nat) : List Value → List String
  | [] => []
  | item :: items => linesAt depth item :: linesOfItems depth items

/-- Each of some names with its value within so many others. -/
def linesOfEntries (depth : Nat) : List (String × Value) → List String
  | [] => []
  | (name, value) :: entries =>
    (quoted false name ++ ": " ++ linesAt depth value) :: linesOfEntries depth entries

end

/-- A value with each part on a line of its own. -/
def lines (value : Value) : String := linesAt 0 value

end Value

end Extraction.Json
