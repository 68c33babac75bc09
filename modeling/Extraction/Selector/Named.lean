import Extraction.Selector

/-!
# Tests with a name

The tests that a selector asks for by a name behind a colon.

* `Selector.testsOf?` are the tests of a name.

Some of them ask for what only a person at a page brings about, as a link being visited. Here no
element passes these.
-/

namespace Extraction.Selector

/-! ## Elements of forms -/

/-- The test for one of some names. -/
def named (names : List String) : Test := .either (names.map fun name => .compound [.name name])

/-- The test for one of some types. -/
def typed (types : List String) : Test :=
  .either (types.map fun type => .compound [.compare "type" .equal type false])

/-- The test for an element that fails some tests. -/
def lacking (tests : List Test) : Test := .neither [.compound tests]

/-- The tests of an input that is shown. -/
def shownInput : List Test := [.name "input", lacking [typed ["hidden"]]]

/-- The elements of a form that a group of them may switch off. -/
def controls : Test :=
  .either [.compound shownInput,
    .compound [named ["button", "select", "textarea", "fieldset"]]]

/-- The elements of a form that may be switched off. -/
def switchable : Test :=
  .either [.compound [controls], .compound [named ["optgroup", "option"]]]

/-- The test for an element that is switched off, by itself or by a group around it. What stands in
the first legend of a group is not switched off by it. -/
def disabled : Test :=
  let off (name : String) : Complex := .compound [.name name, .has "disabled"]
  let firstLegend : List Test := [.name "legend", .atFront ⟨false, true⟩]
  .either [.compound [switchable, .has "disabled"],
    .combined (off "optgroup") .child [.name "option"],
    .combined (off "fieldset") .child [controls],
    .combined (.combined (off "fieldset") .child [lacking firstLegend]) .descendant [controls]]

/-- The types of inputs into which a text is written. -/
def writtenTypes : List String :=
  ["", "date", "datetime-local", "email", "month", "number", "password", "search", "tel", "text",
    "time", "url", "week"]

/-- The test for an element whose content can be changed. -/
def editable : Test :=
  let written : Test := .either [.compound [lacking [.has "type"]], .compound [typed writtenTypes]]
  let wanted (value : String) : Complex :=
    .compound [.compare "contenteditable" .equal value false]
  .either [
    .compound [.either [.compound [.name "textarea"], .compound [.name "input", written]],
      .neither [.compound [.has "readonly"], .compound [disabled]]],
    .compound [.either [wanted "", wanted "true"]]]

/-- The elements of a form that may have to be filled in. -/
def fillable : Test := named ["input", "select", "textarea"]

/-! ## The names -/

/-- The tests of a place among the siblings. -/
def placeTests : List (String × List Test) :=
  [("first-child", [.atFront ⟨false, false⟩]), ("last-child", [.atFront ⟨true, false⟩]),
    ("only-child", [.atFront ⟨false, false⟩, .atFront ⟨true, false⟩]),
    ("first-of-type", [.atFront ⟨false, true⟩]), ("last-of-type", [.atFront ⟨true, true⟩]),
    ("only-of-type", [.atFront ⟨false, true⟩, .atFront ⟨true, true⟩]),
    ("root", [.root]), ("scope", [.first]), ("empty", [.empty]), ("defined", [.defined])]

/-- The tests of what an element is for. -/
def purposeTests : List (String × List Test) :=
  let link : List Test := [named ["a", "area"], .has "href"]
  [("link", link), ("any-link", link),
    ("checked", [.either [
      .compound [.name "input", typed ["checkbox", "radio"], .has "checked"],
      .compound [.name "option", .has "selected"]]]),
    ("disabled", [disabled]), ("enabled", [switchable, lacking [disabled]]),
    ("required", [fillable, .has "required"]),
    ("optional", [fillable, lacking [.has "required"]]),
    ("read-write", [editable]), ("read-only", [lacking [editable]]),
    ("open", [named ["details", "dialog"], .has "open"]),
    ("muted", [named ["audio", "video"], .has "muted"])]

/-- The names of the tests that no element passes. -/
def emptyNames : List String :=
  ["active", "autofill", "buffering", "current", "focus", "focus-visible", "focus-within",
    "fullscreen", "future", "host", "hover", "local-link", "modal", "past", "paused",
    "picture-in-picture", "playing", "popover-open", "seeking", "stalled", "target",
    "target-within", "user-invalid", "user-valid", "visited", "volume-locked"]

/-- The tests of a name, if it has any. -/
def testsOf? (name : String) : Option (List Test) :=
  if emptyNames.contains name then some [.none]
  else (placeTests ++ purposeTests).lookup name

end Extraction.Selector
