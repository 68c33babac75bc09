import Extraction.Failure
import Extraction.Token

/-!
# Faults of sources

A source is no program because a character starts no token, because a token stands where the
grammar has no place for it, or because a number has too many digits.
-/

namespace Extraction

/-- Why a source is no program: the cases of `ParseError`, and the number that is too long to be
read. -/
inductive SyntaxFault where
  /-- A character starts no token. -/
  | unreadable (char : Char)
  /-- A token stands where something else is expected. -/
  | unexpected (expected : String) (found : Token)
  /-- A number has too many digits, `count` of them. -/
  | tooLong (count : Nat)
deriving DecidableEq, Repr

namespace SyntaxFault

/-- A fault in words. -/
def message : SyntaxFault → String
  | .unreadable char => "Unexpected character: " ++ Text.quoted (String.singleton char)
  | .unexpected expected found => "Expected " ++ expected ++ ", got " ++ found.shown
  | .tooLong count => Text.tooManyDigits count

/-- The kind of a fault. That a number is too long is none of the library's own failures. -/
def kind? : SyntaxFault → Option Failure.Kind
  | .unreadable _ => some .lexical
  | .unexpected .. => some .unexpectedToken
  | .tooLong _ => none

/-- What a fault tells beyond its message. -/
def detail : SyntaxFault → Failure.Detail → String
  | .unreadable char, .char => String.singleton char
  | .unexpected expected _, .expected => expected
  | .unexpected _ found, .found => found.shown
  | _, _ => ""

end SyntaxFault

end Extraction
