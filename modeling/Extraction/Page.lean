import Extraction.Document
import Extraction.Markup.Page
import Extraction.Markup.Writer
import Extraction.Selector.Matching
import Extraction.Selector.Reader

/-!
# Pages as documents

A page of markup answers queries: a selector is read, and the elements that it means are found.

* `Page.Match` is an element that was found, and by which query. Two queries find different
  matches, even where they find the same element.
* `Page.document` is the document that a page gives. It refuses what is no selector.
-/

namespace Extraction

namespace Page

/-- An element that was found on a page. -/
structure Match where
  /-- The number of queries before the one that found it. -/
  query : Nat
  /-- Its number among the matches of that query. -/
  number : Nat
  /-- The element. -/
  element : Markup.Element

/-- How a match is shown when it is listed: by the name of its element. -/
def Match.shown (found : Match) : String := "HtmlNode(<" ++ found.element.name ++ ">)"

/-- Whether two matches are one and the same. -/
def Match.same (a b : Match) : Bool := a.query == b.query && a.number == b.number

/-- A text that is no selector. -/
structure BadSelector where
  /-- The text. -/
  text : String
  /-- Why it is none. -/
  fault : Selector.Fault
deriving DecidableEq, Repr

/-- The matches of a selector on a page, for a query after the given number of others. -/
def find (page : List Markup.Tree) (earlier : Nat) (selector : String) :
    Except BadSelector (List Match) :=
  match Selector.read selector with
  | .ok selector =>
    .ok <| (Selector.select selector page).mapIdx fun number element => ⟨earlier, number, element⟩
  | .error fault => .error ⟨selector, fault⟩

/-- The document that a page gives. -/
def document (page : List Markup.Tree) : Document Match BadSelector where
  first earlier selector := (find page earlier.length selector).map List.head?
  all earlier selector := find page earlier.length selector

end Page

instance : Node Page.Match where
  attr found := found.element.attribute?
  text found := found.element.text
  inner found := found.element.inner
  outer found := found.element.outer
  declaresEncoding found := found.element.declaresEncodingIn

end Extraction
