import Extraction.Text.Blank
import Extraction.Yaml.Date

/-!
# Kinds of plain scalars

A plain scalar is read as a number, a date, a truth value or nothing at all if it has the form of
one, and as a text otherwise.

* `Yaml.Kind.ofPlain` is the kind of a plain scalar.
-/

namespace Extraction.Yaml

/-- The kind of a scalar. -/
inductive Kind where
  | absent
  | truth
  | integer
  | fraction
  | date
  | text
  /-- Bytes, which are written as letters. -/
  | binary
  /-- The key that stands for the entries of another mapping. -/
  | merge
  /-- The key of the value that a mapping stands for. -/
  | default
deriving DecidableEq, Repr

namespace Kind

/-- A digit or a mark that groups digits. -/
def isDigitOrMark (c : Char) : Bool := c.isDigit || c == '_'

/-- A text without the sign of a number at its front. -/
def withoutSign : List Char → List Char
  | '+' :: cs => cs
  | '-' :: cs => cs
  | cs => cs

/-- Whether a text is a number of minutes or seconds. -/
def isSixtieth : List Char → Bool
  | [c] => c.isDigit
  | [c, d] => '0' ≤ c && c ≤ '5' && d.isDigit
  | _ => false

/-- Whether a text has the form of an integer: in base two, eight, ten or sixteen, or of hours,
minutes and seconds. -/
def isInteger (cs : List Char) : Bool :=
  match withoutSign cs with
  | '0' :: 'b' :: ds => !ds.isEmpty && ds.all fun c => c == '0' || c == '1' || c == '_'
  | '0' :: 'x' :: ds =>
    !ds.isEmpty && ds.all fun c =>
      isDigitOrMark c || ('a' ≤ c && c ≤ 'f') || ('A' ≤ c && c ≤ 'F')
  | '0' :: ds => ds.all fun c => ('0' ≤ c && c ≤ '7') || c == '_'
  | ds =>
    match Text.pieces (· == ':') ds with
    | (c :: whole) :: parts => c.isDigit && whole.all isDigitOrMark && parts.all isSixtieth
    | _ => false

/-- Whether a text is the power of ten behind a number, or nothing. -/
def isExponent : List Char → Bool
  | [] => true
  | e :: sign :: ds =>
    (e == 'e' || e == 'E') && (sign == '+' || sign == '-') && !ds.isEmpty && ds.all Char.isDigit
  | _ => false

/-- Whether a text has the form of a number with a point: a decimal fraction, hours, minutes and
seconds with a fraction, or a word for a number that is none. -/
def isFraction (cs : List Char) : Bool :=
  match cs.dropWhile (· != '.') with
  | [] => false
  | _ :: part =>
    let whole := cs.takeWhile (· != '.')
    let isTail (part : List Char) : Bool := isExponent (part.dropWhile isDigitOrMark)
    if whole.isEmpty then
      (part.head?.any Char.isDigit && isTail part) ||
        ["inf", "Inf", "INF", "nan", "NaN", "NAN"].contains (String.ofList part)
    else
      match Text.pieces (· == ':') (withoutSign whole) with
      | [[]] => ["inf", "Inf", "INF"].contains (String.ofList part)
      | (c :: digits) :: parts =>
        c.isDigit && digits.all isDigitOrMark && parts.all isSixtieth &&
          (if parts.isEmpty then isTail part else part.all isDigitOrMark)
      | _ => false

/-- The words for truth values. -/
def truthWords : List String :=
  ["yes", "Yes", "YES", "no", "No", "NO", "true", "True", "TRUE", "false", "False", "FALSE",
    "on", "On", "ON", "off", "Off", "OFF"]

/-- The kind of a plain scalar. -/
def ofPlain (text : String) : Kind :=
  let cs := text.toList
  if ["", "~", "null", "Null", "NULL"].contains text then .absent
  else if truthWords.contains text then .truth
  else if isFraction cs then .fraction
  else if isInteger cs then .integer
  else if Date.hasForm cs then .date
  else if text = "<<" then .merge
  else if text = "=" then .default
  else .text

/-- The kind of a scalar that looks like a plain one but for a line feed at its end. -/
def ofPlainLine (text : String) : Kind :=
  match text.toList.getLast? with
  | some '\n' =>
    let line := text.toList.dropLast
    if line.isEmpty then .text else ofPlain (String.ofList line)
  | _ => ofPlain text

end Kind

end Extraction.Yaml
