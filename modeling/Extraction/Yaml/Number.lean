import Extraction.Text.Blank
import Extraction.Text.Case
import Extraction.Text.Digit
import Extraction.Yaml.Fault
import Extraction.Yaml.Kind

/-!
# Numbers of YAML

What is wrong with a text that is said to be a number. Marks that group digits do not count.

* `Yaml.integerFault?` is what is wrong with an integer, and `Yaml.fractionFault?` with any other
  number.
-/

namespace Extraction.Yaml

/-- A text without blanks at its ends. -/
def trimmed (cs : List Char) : List Char := Text.trimEnd (cs.dropWhile Text.isBlank)

/-- A text without the marks that group digits. -/
def ungrouped (cs : List Char) : List Char := cs.filter (· != '_')

/-- The letter that may mark digits in a base, behind a zero. -/
def baseLetter? (base : Nat) : Option Char := [(2, 'b'), (8, 'o'), (16, 'x')].lookup base

/-- Digits in a base without the mark in front of them. -/
def withoutBaseMark (base : Nat) (cs : List Char) : List Char :=
  match cs with
  | '0' :: c :: rest => if baseLetter? base == some c.toLower then rest else cs
  | _ => cs

/-- What is wrong with an integer in the base `base`. Only in base ten there may be too many
digits. -/
def integerInFault? (base : Nat) (cs : List Char) : Option Fault :=
  let digits := withoutBaseMark base (Kind.withoutSign (trimmed cs))
  if digits.isEmpty || !(digits.all fun c => (Text.hexValue? c).any (· < base)) then
    some (.noInteger base (String.ofList cs))
  else if base == 10 && (Text.decimal? digits).isNone then some (.longInteger digits.length)
  else none

/-- What is wrong with an integer: in base two, eight, ten or sixteen, or of hours, minutes and
seconds. -/
def integerFault? (text : String) : Option Fault :=
  let written := ungrouped text.toList
  let cs := Kind.withoutSign written
  if written.isEmpty then some .emptyNumber
  else match cs with
    | [] => some .emptyNumber
    | ['0'] => none
    | '0' :: 'b' :: digits => integerInFault? 2 digits
    | '0' :: 'x' :: digits => integerInFault? 16 digits
    | '0' :: _ => integerInFault? 8 cs
    | _ => (Text.pieces (· == ':') cs).findSome? (integerInFault? 10)

/-- Whether a text is empty or the power of ten behind a number in digits. -/
def isPower : List Char → Bool
  | [] => true
  | e :: rest =>
    let digits := Kind.withoutSign rest
    e == 'e' && !digits.isEmpty && digits.all Char.isDigit

/-- Whether a text in small letters is a number, which may be infinite or none at all. -/
def isNumber (cs : List Char) : Bool :=
  let cs := Kind.withoutSign (trimmed cs)
  let digits := cs.takeWhile Char.isDigit
  if ["inf", "infinity", "nan"].contains (String.ofList cs) then true
  else match cs.dropWhile Char.isDigit with
    | '.' :: part =>
      (!digits.isEmpty || part.head?.any Char.isDigit) && isPower (part.dropWhile Char.isDigit)
    | rest => !digits.isEmpty && isPower rest

/-- What is wrong with a number. -/
def numberFault? (cs : List Char) : Option Fault :=
  if isNumber cs then none else some (.noNumber (String.ofList cs))

/-- What is wrong with a number that may have a fraction, or is of hours, minutes and seconds. -/
def fractionFault? (text : String) : Option Fault :=
  let written := Text.smallLetters (ungrouped text.toList)
  let cs := Kind.withoutSign written
  if written.isEmpty then some .emptyNumber
  else if cs == ".inf".toList || cs == ".nan".toList then none
  else (Text.pieces (· == ':') cs).findSome? numberFault?

end Extraction.Yaml
