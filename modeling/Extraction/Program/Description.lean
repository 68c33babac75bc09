import Extraction.Program

/-!
# Programs as text

One line for each statement. The line of an assignment, of an invocation and of a list of
returned names is a line of the language; that of a definition is a summary.
-/

namespace Extraction

/-- The `texts` with a comma and a space between them. -/
def commaSeparated (texts : List String) : String := String.intercalate ", " texts

/-- The `names` in braces. -/
def bracedNames (names : List String) : String := "\x7b" ++ commaSeparated names ++ "\x7d"

/-- A range as it stands behind a selector (`_describe_range`): nothing for the first match, else
numbers in parentheses after a space. -/
def Range.describe : Range → String
  | .whole => ""
  | .openSlice start => " (" ++ toString start ++ ",)"
  | .bounded start stop =>
    if stop = start then " (" ++ toString start ++ ")"
    else " (" ++ toString start ++ ", " ++ toString stop ++ ")"

/-- `selection` as it stands in a source: its selector, its attributes, and its range. -/
def Selection.describe (selection : Selection) : String :=
  let attributes := match selection.attributes with
    | some names => " " ++ bracedNames names
    | none => ""
  selection.selector ++ attributes ++ selection.range.describe

/-- A list of returned names as it stands in a source. -/
def ReturnSpec.describe (spec : ReturnSpec) : String := "return " ++ bracedNames spec.names

/-- A statement on one line (`describe`). -/
def Statement.describe : Statement → String
  | .assignment target selection _ => target ++ " = " ++ selection.describe
  | .invocation targets function _ => commaSeparated targets ++ " = do " ++ function
  | .returns spec => spec.describe
  | .definition name body spec _ =>
    "def " ++ name ++ " (" ++ toString body.length ++ " statements) -> " ++
      bracedNames spec.names
  | .bare => Statement.form .bare

end Extraction
