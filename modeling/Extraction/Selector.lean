/-!
# Selectors

Which elements of a page are meant. A selector has alternatives; each of them is a compound of
tests on one element, and may go on to the elements around it.

* `Selector.Test` are the tests, `Selector.Complex` the alternatives, and `Selector` a list of
  alternatives.
* `Selector.Path` leads from an element to others, as a test may ask for.
-/

namespace Extraction.Selector

/-- How the element of a compound stands to that of the compound before it. -/
inductive Combinator where
  /-- Somewhere within it. -/
  | descendant
  /-- Directly within it. -/
  | child
  /-- Right after it. -/
  | next
  /-- Somewhere after it, within the same element. -/
  | later
deriving DecidableEq, Repr

/-- How the value of an attribute is compared. -/
inductive Comparison where
  /-- It is the given text. -/
  | equal
  /-- It starts with the given text, which is not empty. -/
  | starts
  /-- It ends with the given text, which is not empty. -/
  | ends
  /-- It holds the given text, which is not empty. -/
  | holds
  /-- The given text is one of its words. -/
  | word
  /-- It is the given text, or goes on with a hyphen behind it. -/
  | hyphened
deriving DecidableEq, Repr

/-- Numbers in steps: `offset` and, if there is a step, all that lie whole steps above it. -/
structure Steps where
  /-- The step, if there is one. -/
  step : Option Int
  /-- The number to start from. -/
  offset : Int
deriving DecidableEq, Repr

/-- How the siblings of an element are counted. -/
structure Counting where
  /-- Whether they are counted from the last one on. -/
  fromLast : Bool
  /-- Whether only those of the same name are counted. -/
  ofName : Bool
deriving DecidableEq, Repr

mutual

/-- A test of one element. -/
inductive Test where
  /-- Any element. -/
  | any
  /-- No element. -/
  | none
  /-- Its name. -/
  | name (name : String)
  /-- Its identifier. -/
  | id (id : String)
  /-- One of its classes. -/
  | inClass (name : String)
  /-- An attribute that it has. -/
  | has (attr : String)
  /-- The value of an attribute, with regard to case or without. -/
  | compare (attr : String) (comparison : Comparison) (value : String) (cased : Bool)
  /-- Its number among its siblings, counted from one. Where alternatives are given, only what they
  mean is counted. -/
  | nth (steps : Steps) (counting : Counting) (among : List Complex)
  /-- It contains no element, and no text but white space. -/
  | empty
  /-- There is nothing beside it but white space, and nothing around it. -/
  | root
  /-- It is the first element of the page. -/
  | first
  /-- It has no name of its own making. -/
  | defined
  /-- One of some texts stands within it, or directly within it. -/
  | contains (directly : Bool) (texts : List String)
  /-- One of these alternatives means it. -/
  | either (alternatives : List Complex)
  /-- None of these alternatives means it. -/
  | neither (alternatives : List Complex)
  /-- One of these paths leads from it to an element. -/
  | leads (paths : List Path)

/-- Tests of an element and, behind it, of the elements around it. -/
inductive Complex where
  /-- Tests of one element. -/
  | compound (tests : List Test)
  /-- Tests of an element that stands in a relation to another. -/
  | combined (other : Complex) (combinator : Combinator) (tests : List Test)

/-- A path from an element to others. -/
inductive Path where
  /-- The end of a path. -/
  | arrived
  /-- A step to an element that passes some tests, and a path from there. -/
  | step (combinator : Combinator) (tests : List Test) (later : Path)

end

/-- The test of the first element by a way of counting. -/
def Test.atFront (counting : Counting) : Test := .nth ⟨Option.none, 1⟩ counting []

/-- Why a text is no selector. -/
inductive Fault where
  /-- It does not have the form of one. -/
  | malformed
  /-- It asks for a part of an element or for a rule, and there are only elements here. -/
  | noElement
deriving DecidableEq, Repr

end Extraction.Selector

namespace Extraction

/-- A selector: the alternatives that an element may match. -/
structure Selector where
  /-- The alternatives. -/
  alternatives : List Selector.Complex

end Extraction
