import Extraction.Markup.Element
import Extraction.Selector
import Extraction.Text.Blank
import Extraction.Text.Case

/-!
# Matching selectors

An element is matched together with its surroundings. The page counts as an element that contains
the elements of its top level.

* `Selector.Spot` is an element with its surroundings.
* `Selector.Test.holdsOf`, `Selector.Complex.holdsOf` and `Selector.Path.leadsFrom` decide what an
  element matches.
* `Selector.select` are the elements of a page that a selector means, in the order of the page.
-/

namespace Extraction.Selector

open Markup (Element Tree)

/-! ## Elements with their surroundings -/

/-- An element with its surroundings. -/
inductive Spot where
  /-- The element, the siblings before it, the last one first, those after it, and the element that
  contains them. -/
  | mk (element : Element) (elder younger : List Element) (parent : Option Spot)

namespace Spot

/-- The element. -/
def element : Spot → Element
  | .mk element _ _ _ => element

/-- The siblings before it, the last one first. -/
def elder : Spot → List Element
  | .mk _ elder _ _ => elder

/-- The siblings after it. -/
def younger : Spot → List Element
  | .mk _ _ younger _ => younger

/-- What contains it. -/
def parent? : Spot → Option Spot
  | .mk _ _ _ parent => parent

/-- The elements that contain it, the innermost first. -/
def ancestors : Spot → List Spot
  | .mk _ _ _ none => []
  | .mk _ _ _ (some parent) => parent :: parent.ancestors

/-- The spots of siblings, given the spot of one and those before it. -/
def elderSpotsFrom (parent : Option Spot) : Element → List Element → List Element → List Spot
  | _, [], _ => []
  | element, sibling :: elder, younger =>
    .mk sibling elder (element :: younger) parent ::
      elderSpotsFrom parent sibling elder (element :: younger)

/-- The siblings before it with their surroundings, the last one first. -/
def elderSpots : Spot → List Spot
  | .mk element elder younger parent => elderSpotsFrom parent element elder younger

/-- The spots of elements that stand next to each other. -/
def row (parent : Option Spot) : List Element → List Element → List Spot
  | _, [] => []
  | elder, element :: younger =>
    .mk element elder younger parent :: row parent (element :: elder) younger

/-- The siblings after it with their surroundings. -/
def youngerSpots : Spot → List Spot
  | .mk element elder younger parent => row parent (element :: elder) younger

/-- The elements directly within it with their surroundings. -/
def children (spot : Spot) : List Spot := row (some spot) [] spot.element.children

end Spot

mutual

/-- The spots of the elements below a tree, in the order of the page, given those of its row. -/
def spotsOf (elder younger : List Element) (parent : Spot) : Tree → List Spot
  | .element name attributes content =>
    let spot := Spot.mk ⟨name, attributes, content⟩ elder younger (some parent)
    spot :: spotsOfAll [] spot content
  | _ => []

/-- The spots of the elements below a row of trees, in the order of the page. The elements of the
row before them are given, the last one first. -/
def spotsOfAll (elder : List Element) (parent : Spot) : List Tree → List Spot
  | [] => []
  | tree :: trees =>
    let younger := trees.filterMap Tree.element?
    spotsOf elder younger parent tree ++
      spotsOfAll (tree.element?.toList ++ elder) parent trees

end

/-- The elements within an element with their surroundings, in the order of the page. -/
def Spot.descendants (spot : Spot) : List Spot := spotsOfAll [] spot spot.element.content

/-- The spots of all elements of a page, in the order of the page. -/
def spots (page : List Tree) : List Spot :=
  Spot.descendants (.mk ⟨"[document]", [], page⟩ [] [] none)

/-- The elements around an element to which it stands as a combinator says. -/
def Combinator.around (combinator : Combinator) (spot : Spot) : List Spot :=
  match combinator with
  | .descendant => spot.ancestors
  | .child => spot.parent?.toList
  | .next => spot.elderSpots.take 1
  | .later => spot.elderSpots

/-- The elements that stand to an element as a combinator says. -/
def Combinator.beyond (combinator : Combinator) (spot : Spot) : List Spot :=
  match combinator with
  | .descendant => spot.descendants
  | .child => spot.children
  | .next => spot.youngerSpots.take 1
  | .later => spot.youngerSpots

/-! ## Tests of an element by itself -/

/-- The words of a value. -/
def valueWords (value : List Char) : List (List Char) := Text.wordsBy Markup.isSpace value

/-- A value, and what it is without a line break at its end. -/
def endings (value : List Char) : List (List Char) :=
  match value.getLast? with
  | some '\n' => [value, value.dropLast]
  | _ => [value]

/-- Whether a text occurs within another. -/
def occursIn (part : List Char) : List Char → Bool
  | [] => part.isEmpty
  | c :: rest => part.isPrefixOf (c :: rest) || occursIn part rest

/-- Whether the value of an attribute compares to a text as wanted. The end of a value may be in
front of a last line break. -/
def Comparison.holdsOf (comparison : Comparison) (text value : List Char) : Bool :=
  match comparison with
  | .equal => (endings value).contains text
  | .starts => !text.isEmpty && text.isPrefixOf value
  | .ends => !text.isEmpty && (endings value).any text.isSuffixOf
  | .holds => !text.isEmpty && occursIn text value
  | .word => (valueWords value).contains text
  | .hyphened => (endings value).contains text || (text ++ ['-']).isPrefixOf value

/-- A text as it is compared, with regard to case or without. -/
def comparable (cased : Bool) (text : String) : List Char :=
  if cased then text.toList else text.toList.map Text.caseless

/-- Whether a number is among the numbers in steps. -/
def Steps.contains (steps : Steps) (n : Int) : Bool :=
  match steps.step with
  | none => n == steps.offset
  | some step =>
    if step = 0 then n == steps.offset
    else (n - steps.offset) % step == 0 && 0 ≤ (n - steps.offset) / step

/-- The name of an element that shows another page within it. -/
def frameName : String := "iframe"

/-- Whether an element contains no element, and no text but white space. -/
def isEmpty (element : Element) : Bool :=
  element.name == frameName || element.content.all fun tree => match tree with
    | .text _ cs => cs.all Markup.isSpace
    | .element .. => false
    | _ => true

/-- Whether there is nothing beside an element but white space, and nothing around it but the
page. -/
def Spot.isRoot (spot : Spot) : Bool :=
  spot.elder.isEmpty && spot.younger.isEmpty && spot.parent?.any fun parent =>
    (parent.parent?.isNone || parent.element.name == frameName) &&
      parent.element.content.all fun tree => match tree with
        | .text _ cs => cs.all Text.isBlank
        | .cdata _ => false
        | _ => true

/-- Whether an element is the first one of the page. -/
def Spot.isFirst (spot : Spot) : Bool :=
  spot.elder.isEmpty && spot.parent?.any fun parent => parent.parent?.isNone

/-- Whether an element has no name of its own making, which has a hyphen. -/
def isDefined (element : Element) : Bool :=
  let name := element.name.toList
  !name.contains '-' || name.contains ':'

mutual

/-- The texts below a tree, in order. -/
def textsBelow : Tree → List (List Char)
  | .text _ cs => [cs]
  | .element _ _ content => textsBelowAll content
  | _ => []

/-- The texts below some trees, in order. -/
def textsBelowAll : List Tree → List (List Char)
  | [] => []
  | tree :: trees => textsBelow tree ++ textsBelowAll trees

end

/-- The texts in which a text is looked for: each one directly within an element, or all that are
within it as one. -/
def searched (directly : Bool) (element : Element) : List (List Char) :=
  if directly then
    element.content.filterMap fun tree => match tree with
      | .text _ cs => some cs
      | _ => none
  else [(textsBelowAll element.content).flatten]

/-! ## Tests of an element in its surroundings -/

mutual

/-- Whether an element passes a test. -/
def Test.holdsOf (spot : Spot) : Test → Bool
  | .any => true
  | .none => false
  | .name name => spot.element.name == name
  | .id id => spot.element.attribute? "id" == some id
  | .inClass name =>
    match spot.element.attribute? "class" with
    | some value => (valueWords value.toList).contains name.toList
    | none => false
  | .has attr => (spot.element.attribute? attr).isSome
  | .compare attr comparison text cased =>
    match spot.element.attribute? attr with
    | some value => comparison.holdsOf (comparable cased text) (comparable cased value)
    | none => false
  | .nth steps counting among =>
    let counts (other : Spot) : Bool :=
      (!counting.ofName || other.element.name == spot.element.name) &&
        (among.isEmpty || Complex.anyHoldsOf other among)
    let before := if counting.fromLast then spot.youngerSpots else spot.elderSpots
    counts spot && steps.contains (before.countP counts + 1)
  | .empty => isEmpty spot.element
  | .root => spot.isRoot
  | .first => spot.isFirst
  | .defined => isDefined spot.element
  | .contains directly texts =>
    texts.any fun text => (searched directly spot.element).any (occursIn text.toList)
  | .either alternatives => Complex.anyHoldsOf spot alternatives
  | .neither alternatives => !Complex.anyHoldsOf spot alternatives
  | .leads paths => Path.anyLeadsFrom spot paths

/-- Whether an element passes all tests. -/
def Test.allHoldOf (spot : Spot) : List Test → Bool
  | [] => true
  | test :: tests => Test.holdsOf spot test && Test.allHoldOf spot tests

/-- Whether an element matches an alternative. -/
def Complex.holdsOf (spot : Spot) : Complex → Bool
  | .compound tests => Test.allHoldOf spot tests
  | .combined other combinator tests =>
    Test.allHoldOf spot tests &&
      (combinator.around spot).any fun spot => Complex.holdsOf spot other

/-- Whether an element matches one of some alternatives. -/
def Complex.anyHoldsOf (spot : Spot) : List Complex → Bool
  | [] => false
  | alternative :: alternatives =>
    Complex.holdsOf spot alternative || Complex.anyHoldsOf spot alternatives

/-- Whether a path leads from an element to another. -/
def Path.leadsFrom (spot : Spot) : Path → Bool
  | .arrived => true
  | .step combinator tests later =>
    (combinator.beyond spot).any fun spot =>
      Test.allHoldOf spot tests && Path.leadsFrom spot later

/-- Whether one of some paths leads from an element to another. -/
def Path.anyLeadsFrom (spot : Spot) : List Path → Bool
  | [] => false
  | path :: paths => Path.leadsFrom spot path || Path.anyLeadsFrom spot paths

end

/-- The elements of a page that a selector means, in the order of the page. -/
def select (selector : Selector) (page : List Tree) : List Element :=
  ((spots page).filter fun spot => Complex.anyHoldsOf spot selector.alternatives).map Spot.element

end Extraction.Selector
