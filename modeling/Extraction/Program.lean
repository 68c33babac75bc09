import Extraction.Failure

/-!
# Programs

A program is a list of statements. A statement gives names to what is selected from a document,
gives names to what a function returns, or defines a function.

* `Range` says which of the matches of a selector are meant.
* `Selection` is a selector with a range and the attributes that are wanted.
* `Statement` and `Program` are the syntax trees.
-/

namespace Extraction

/-- Which of the matches of a selector are meant (`Range`). A range with an end has a start, and
negative numbers count from the last match backwards. -/
inductive Range where
  /-- Only the first match. -/
  | whole
  /-- The matches from `start` on. -/
  | openSlice (start : Int)
  /-- The matches from `start` up to but not including `stop`; when the two are equal, the one
  match of that number. -/
  | bounded (start stop : Int)
deriving DecidableEq, Repr, Inhabited

namespace Range

/-- How a range picks (`RangeMode`): by default, by number, or as a slice with or without an end. -/
inductive Mode where
  | whole
  | index
  | openSlice
  | slice
deriving DecidableEq, Repr

/-- The range from one bound to another. An end without a start makes no range. -/
def ofBounds? : Option Int → Option Int → Option Range
  | none, none => some .whole
  | none, some _ => none
  | some start, none => some (.openSlice start)
  | some start, some stop => some (.bounded start stop)

/-- The start of a range. -/
def start? : Range → Option Int
  | .whole => none
  | .openSlice start => some start
  | .bounded start _ => some start

/-- The end of a range. -/
def stop? : Range → Option Int
  | .bounded _ stop => some stop
  | _ => none

/-- How a range picks (`Range.mode`). Equal bounds pick by number. -/
def mode : Range → Mode
  | .whole => .whole
  | .openSlice _ => .openSlice
  | .bounded start stop => if stop = start then .index else .slice

end Range

/-- What is selected from a document (`Selection`). -/
structure Selection where
  /-- The selector that elements have to match. -/
  selector : String
  /-- Which of the matches are meant. -/
  range : Range
  /-- The attributes that are wanted of each; without a list, the elements themselves. -/
  attributes : Option (List String)
deriving DecidableEq, Repr

/-- The names that a function returns (`ReturnSpec`). -/
structure ReturnSpec where
  /-- The names, in the order of the results. -/
  names : List String
  /-- Where the list was read. -/
  location : Option Location
deriving DecidableEq, Repr

/-- A statement (`Statement` and its cases). Trees that no source denotes are statements, too: a
list of returned names outside its place, a definition within a body, or a statement of no
particular form. -/
inductive Statement where
  /-- Gives a name to a selection. -/
  | assignment (target : String) (selection : Selection) (location : Option Location)
  /-- Gives names to the first results of a function. -/
  | invocation (targets : List String) (function : String) (location : Option Location)
  /-- The names that a function returns, standing as a statement. -/
  | returns (spec : ReturnSpec)
  /-- Defines a function. -/
  | definition (name : String) (body : List Statement) (returns : ReturnSpec)
      (location : Option Location)
  /-- A statement of no particular form. -/
  | bare
deriving Repr, Inhabited

/-- The definition of a function (`FunctionDef`). -/
structure Definition where
  /-- The name of the function. -/
  name : String
  /-- The statements that compute its results. -/
  body : List Statement
  /-- The names of its results. -/
  returns : ReturnSpec
  /-- Where it was defined. -/
  location : Option Location

namespace Statement

/-- The name of the form of a statement, as failures tell it. -/
def form : Statement → String
  | .assignment .. => "Assignment"
  | .invocation .. => "FunctionInvocation"
  | .returns _ => "ReturnSpec"
  | .definition .. => "FunctionDef"
  | .bare => "Statement"

/-- Where a statement was read. -/
def location : Statement → Option Location
  | .assignment _ _ location => location
  | .invocation _ _ location => location
  | .returns spec => spec.location
  | .definition _ _ _ location => location
  | .bare => none

end Statement

/-- A program (`Program`). -/
structure Program where
  /-- The statements, in order. -/
  statements : List Statement
  /-- The path of the source, if it came from a file. -/
  path : Option String

end Extraction
