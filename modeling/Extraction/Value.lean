import Extraction.Program

/-!
# Values

What a selection yields. An element of a document is seen through four views of it, and a value
is an element, a text, nothing, or a list of values.

* `Node` is the interface of elements.
* `Value` are the values.
* `project` takes the wanted attributes from an element.
* `Range.pick` are the matches that a range means.
-/

namespace Extraction

/-- Lists within lists, down to leaves. -/
inductive Nested (α : Type) where
  /-- A leaf. -/
  | leaf (a : α)
  /-- A list. -/
  | list (items : List (Nested α))

namespace Nested

variable {α β : Type}

instance : Inhabited (Nested α) := ⟨.list []⟩

mutual

/-- Replaces every leaf. -/
def map (f : α → β) : Nested α → Nested β
  | .leaf a => .leaf (f a)
  | .list items => .list (mapAll f items)

/-- Replaces every leaf of every item. -/
def mapAll (f : α → β) : List (Nested α) → List (Nested β)
  | [] => []
  | item :: items => map f item :: mapAll f items

end

mutual

/-- The leaves, from left to right. -/
def leaves : Nested α → List α
  | .leaf a => [a]
  | .list items => leavesOfAll items

/-- The leaves of all items, from left to right. -/
def leavesOfAll : List (Nested α) → List α
  | [] => []
  | item :: items => leaves item ++ leavesOfAll items

end

end Nested

/-- The views of an element of a document. -/
class Node (ν : Type) where
  /-- The value of an attribute, if the element has it. -/
  attr : ν → String → Option String
  /-- The text within the element. -/
  text : ν → String
  /-- The markup within the element. -/
  inner : ν → String
  /-- The markup of the element itself. -/
  outer : ν → String
  /-- Whether the value of an attribute declares the encoding of the document. -/
  declaresEncoding : ν → String → Bool

/-- What stands at the leaves of a value. -/
inductive Datum (ν : Type) where
  /-- Nothing: there was no match, or no such attribute. -/
  | absent
  /-- A text. -/
  | text (text : String)
  /-- The declaration of an encoding, as it stands in the document. -/
  | encoding (text : String)
  /-- An element. -/
  | node (node : ν)
deriving DecidableEq, Repr

/-- A value (`Value`): an element, a text, nothing, or a list of values. -/
abbrev Value (ν : Type) := Nested (Datum ν)

/-- A value as it is written out (`to_plain`): every element becomes its markup. -/
abbrev Plain := Nested (Option String)

namespace Datum

variable {ν : Type}

/-- A text or nothing; an element becomes its markup. -/
def plain [Node ν] : Datum ν → Option String
  | .absent => none
  | .text s => some s
  | .encoding s => some s
  | .node n => some (Node.outer n)

/-- Whether it is the declaration of an encoding. -/
def isEncoding : Datum ν → Bool
  | .encoding _ => true
  | _ => false

/-- The element, if it is one. -/
def node? : Datum ν → Option ν
  | .node n => some n
  | _ => none

end Datum

section

variable {ν : Type} [Node ν]

/-- A value as it is written out. -/
def Value.plain (value : Value ν) : Plain := Nested.map Datum.plain value

/-- The attribute `name` of the element `node` (`_attribute`). Three names stand for the views of
the element and hide attributes of the same name. -/
def Node.view (node : ν) (name : String) : Datum ν :=
  if name = "text" then .text (text node)
  else if name = "html" then .text (inner node)
  else if name = "outer" then .text (outer node)
  else match attr node name with
    | some value => if declaresEncoding node name then .encoding value else .text value
    | none => .absent

/-- What is wanted of the element `node` (`project`). Without `attributes` it is the element itself,
with one it is that attribute, and with several it is the list of them in the order of the request.
-/
def project (attributes : Option (List String)) (node : ν) : Value ν :=
  match attributes with
  | none => .leaf (.node node)
  | some [] => .leaf (.node node)
  | some [name] => .leaf (Node.view node name)
  | some names => .list (names.map fun name => .leaf (Node.view node name))

/-- What is wanted of an element that may be missing: without it there is nothing, whatever the
`attributes`. -/
def projectFirst (attributes : Option (List String)) : Option ν → Value ν
  | some node => project attributes node
  | none => .leaf .absent

end

namespace Range

/-- The number of elements in front of `bound` in a list of the given `length`: a bound that is
negative counts from the end, and none goes beyond the list. -/
def clamp (bound : Int) (length : Nat) : Nat :=
  if bound < 0 then (bound + length).toNat else min bound.toNat length

/-- The elements of `as` from `start` on. -/
def sliceFrom {α : Type} (start : Int) (as : List α) : List α := as.drop (clamp start as.length)

/-- The elements of `as` from `start` up to, but without, the one at `stop`. -/
def slice {α : Type} (start stop : Int) (as : List α) : List α :=
  (as.take (clamp stop as.length)).drop (clamp start as.length)

/-- A number that counts from the end beyond the front of the list. -/
structure OutOfRange where

/-- The element of `as` at `index`; a negative number counts from the end. A number beyond the end
gives none, and one beyond the front is refused. -/
def element {α : Type} (index : Int) (as : List α) : Except OutOfRange (Option α) :=
  if index < as.length then
    if 0 ≤ index then .ok as[index.toNat]?
    else if 0 ≤ index + as.length then .ok as[(index + as.length).toNat]?
    else .error ⟨⟩
  else .ok none

end Range

section

variable {ν : Type} [Node ν]

/-- The value of a selection whose selector has the matches `nodes`, by the mode of its `range`. -/
def Selection.ofMatches (range : Range) (attributes : Option (List String)) (nodes : List ν) :
    Except Range.OutOfRange (Value ν) :=
  match range with
  | .whole => .ok (projectFirst attributes nodes.head?)
  | .openSlice start => .ok (.list ((Range.sliceFrom start nodes).map (project attributes)))
  | .bounded start stop =>
    if stop = start then (Range.element start nodes).map (projectFirst attributes)
    else .ok (.list ((Range.slice start stop nodes).map (project attributes)))

end

end Extraction
