import Extraction.Text.Quoted
import Extraction.Yaml.Date

/-!
# Faults of YAML

Why a text has no value. Most texts without one are malformed, and some are not but hold a scalar
that is none of the type it is said or seems to have.

* `Yaml.Fault` are the faults, and `Yaml.Fault.message` tells one.
-/

namespace Extraction.Yaml

/-- Why a text has no value. -/
inductive Fault where
  /-- The text is not YAML, or no YAML that can be read here. -/
  | malformed
  /-- A number has no digit or anything else. -/
  | emptyNumber
  /-- A text is no integer in a base. -/
  | noInteger (base : Nat) (text : String)
  /-- An integer has too many digits, `count` of them. -/
  | longInteger (count : Nat)
  /-- A text is no number. -/
  | noNumber (text : String)
  /-- A text is no truth value. -/
  | noTruth (text : String)
  /-- A text is no date. -/
  | noDate (text : String)
  /-- A mapping is said to be a date. -/
  | dateOfMapping
  /-- There is no such date. -/
  | badDate (fault : Date.Fault)
deriving DecidableEq, Repr

/-- The greatest number of characters that a message shows of a text that is no integer. -/
def longestShown : Nat := 200

/-- A fault in words. -/
def Fault.message : Fault → String
  | .malformed => "the text has no value"
  | .emptyNumber => "string index out of range"
  | .noInteger base text =>
    "invalid literal for int() with base " ++ toString base ++ ": " ++
      String.ofList ((Text.quoted text).toList.take longestShown)
  | .longInteger count => Text.tooManyDigits count
  | .noNumber text => "could not convert string to float: " ++ Text.quoted text
  | .noTruth text => "no truth value: " ++ Text.quoted text
  | .noDate text => "no date: " ++ Text.quoted text
  | .dateOfMapping => "a mapping is no date"
  | .badDate fault => fault.message

end Extraction.Yaml
