import Extraction.Markup.Named
import Extraction.Text.Digit
import Extraction.Text.Scanner

/-!
# Character references

Characters that markup writes by a name or by a number. A number up to 255 is taken for the
place of a character in the code page of Western European letters, which differs from Unicode
from 128 to 159 only.

* `Markup.numberedCharacter` is the character of a number within text, and `Markup.nameInText` what
  a name stands for there.
* `Markup.decodeValue` decodes the references within the value of an attribute.
-/

namespace Extraction.Markup

/-- A decimal digit. -/
def isDecimal (c : Char) : Bool := '0' ≤ c && c ≤ '9'

/-- A basic Latin letter. -/
def isLetter (c : Char) : Bool := ('a' ≤ c && c ≤ 'z') || ('A' ≤ c && c ≤ 'Z')

/-! ## Numbers -/

/-- The code points of the places from 128 to 159 of the code page; zero where it has none. -/
def upperControls : List Nat :=
  [0x20ac, 0, 0x201a, 0x0192, 0x201e, 0x2026, 0x2020, 0x2021, 0x02c6, 0x2030, 0x0160, 0x2039,
    0x0152, 0, 0x017d, 0, 0, 0x2018, 0x2019, 0x201c, 0x201d, 0x2022, 0x2013, 0x2014, 0x02dc,
    0x2122, 0x0161, 0x203a, 0x0153, 0, 0x017e, 0x0178]

/-- The character of a number; zero and a number that no character has stand for the replacement
character. -/
def numberedCharacter (n : Nat) : Char :=
  let code := match upperControls[n - 128]? with
    | some place => if 128 ≤ n && place != 0 then place else n
    | none => n
  if n != 0 && code.isValidChar then Char.ofNat code else '\ufffd'

/-- Whether a number is that of a control, or of a place that is kept free of characters. -/
def isVacant (n : Nat) : Bool :=
  (0x1 ≤ n && n ≤ 0x8) || n == 0xb || (0xe ≤ n && n ≤ 0x1f) || n == 0x7f ||
    (0xfdd0 ≤ n && n ≤ 0xfdef) || (0xfffe ≤ n % 0x10000 && n ≤ 0x10ffff)

/-- What a number stands for within a value. Here controls stand for nothing. -/
def numberedInValue (n : Nat) : List Char :=
  if isVacant n then [] else [numberedCharacter n]

/-- Takes the number of a character behind its sign, in decimal or hexadecimal digits. -/
def number : Scanner Nat :=
  (do
    let _ ← Scanner.satisfy fun c => c == 'x' || c == 'X'
    let digits ← Scanner.takeSome Text.isHexDigit
    pure (Text.hexadecimal digits)) <|>
  (do
    let digits ← Scanner.takeSome isDecimal
    pure (Text.decimal digits))

/-! ## Names -/

/-- What a name stands for within text. A name that no character has stands for itself. -/
def nameInText (name : List Char) : List Char :=
  (characters? (String.ofList name)).getD ('&' :: name)

/-- The longest text that is taken for a name within a value, the semicolon apart. -/
def longestName : Nat := 32

/-- A character of a name within a value. -/
def isNameCharacter (c : Char) : Bool := !"\t\n\x0c <&#;".toList.contains c

/-- What the longest name at the front of a text stands for, together with the text behind it. The
names are looked for among those that need no semicolon and have at most the given length. -/
def looseName? (cs : List Char) : Nat → Option (List Char)
  | 0 => none
  | length + 1 =>
    let name := String.ofList (cs.take (length + 1))
    if looseNames.contains name then
      (characters? name).map fun characters => characters ++ cs.drop (length + 1)
    else looseName? cs length

/-- What a name within a value stands for, with its semicolon or without one. A name without one may
end within the text, and one that no character has stands for itself. -/
def nameInValue (name : List Char) (closed : Bool) : List Char :=
  let written := if closed then name ++ [';'] else name
  match if closed then characters? (String.ofList name) else none with
  | some characters => characters
  | none => (looseName? written name.length).getD ('&' :: written)

/-! ## Values -/

/-- Takes one character of a value, or a reference. -/
def valuePart : Scanner (List Char) :=
  (do
    Scanner.char '&'
    (do
      Scanner.char '#'
      let n ← number
      let _ ← Scanner.optional (Scanner.char ';')
      pure (numberedInValue n)) <|>
    (do
      let run ← Scanner.takeSome isNameCharacter
      let name := run.take longestName
      let beyond := run.drop longestName
      if beyond.isEmpty then
        let semicolon ← Scanner.optional (Scanner.char ';')
        pure (nameInValue name semicolon.isSome)
      else pure (nameInValue name false ++ beyond))) <|>
  (do
    let c ← Scanner.satisfy fun _ => true
    pure [c])

/-- A value with its references decoded. -/
def decodeValue (cs : List Char) : List Char := (Scanner.manyFrom valuePart cs).1.flatten

end Extraction.Markup
