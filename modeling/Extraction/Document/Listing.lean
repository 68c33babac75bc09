import Extraction.Bindings
import Extraction.Document

/-!
# Listed documents

A document that is given by listing the matches of each selector, without any markup to search
in. A selector that is not listed matches nothing, and some selectors can be refused.
-/

namespace Extraction

/-- An element with its views written down. -/
structure Listing.Item where
  /-- What tells the element apart. -/
  id : String
  /-- The text within it. -/
  text : String
  /-- The markup within it. -/
  inner : String
  /-- Its own markup. -/
  outer : String
  /-- Its attributes; one that is listed without a value counts as missing. -/
  attributes : Bindings (Option String)

instance : Node Listing.Item where
  attr item name := (item.attributes.get? name).join
  text := Listing.Item.text
  inner := Listing.Item.inner
  outer := Listing.Item.outer
  declaresEncoding _ _ := false

/-- The matches of each selector, and the selectors that are refused. -/
structure Listing where
  /-- The matches of each selector. -/
  found : Bindings (List Listing.Item)
  /-- The selectors that are refused. -/
  refused : List String

/-- The refusal of a selector. -/
structure Listing.Refusal where
  /-- The selector. -/
  selector : String
deriving DecidableEq, Repr

namespace Listing

/-- A refusal in words. -/
def Refusal.message (refusal : Refusal) : String := "document failed: " ++ refusal.selector

/-- The matches of a selector, unless it is refused. -/
def answer (listing : Listing) (selector : String) : Except Refusal (List Item) :=
  if listing.refused.contains selector then .error ⟨selector⟩
  else .ok ((listing.found.get? selector).getD [])

/-- The document that a listing gives. -/
def document (listing : Listing) : Document Item Refusal where
  first _ selector := (listing.answer selector).map List.head?
  all _ selector := listing.answer selector

end Listing

end Extraction
