import Extraction.Bindings

/-!
# Markup trees

A page is a list of trees: elements with attributes and content, and texts, comments and
declarations between them.

* `Markup.Tree` and `Markup.Element` are the trees.
* `Markup.Element.attribute?` is the value of an attribute.
* `Markup.Element.text` is the text within an element.

The text of some elements is no part of the text around them: scripts, styles, templates, and the
notes above a line. Each text bears the name of the innermost such element around it.
-/

namespace Extraction.Markup

/-- White space of markup. -/
def isSpace (c : Char) : Bool :=
  c == ' ' || c == '\t' || c == '\n' || c == '\r' || c == '\x0c'

/-- A part of a page. -/
inductive Tree where
  /-- Text between the tags, and the name of the innermost element around it whose text stands
  apart, if there is one. -/
  | text (apart : Option String) (text : List Char)
  /-- Text that is marked not to hold any tags. -/
  | cdata (text : List Char)
  /-- A comment. -/
  | comment (text : List Char)
  /-- A declaration of the type of the page. -/
  | doctype (text : List Char)
  /-- Another declaration. -/
  | declaration (text : List Char)
  /-- An instruction to a program. -/
  | instruction (text : List Char)
  /-- An element with its attributes and its content. -/
  | element (name : String) (attributes : List (String × String)) (content : List Tree)
deriving Inhabited

/-- An element. -/
structure Element where
  /-- Its name. -/
  name : String
  /-- Its attributes. -/
  attributes : List (String × String)
  /-- What it contains. -/
  content : List Tree
deriving Inhabited

/-- The element that a tree is, if it is one. -/
def Tree.element? : Tree → Option Element
  | .element name attributes content => some ⟨name, attributes, content⟩
  | _ => none

/-- The names of the elements whose content is text without any markup. -/
def rawNames : List String := ["script", "style"]

/-- The names of the elements that have a start tag only. -/
def voidNames : List String :=
  ["area", "base", "basefont", "bgsound", "br", "col", "command", "embed", "frame", "hr", "image",
    "img", "input", "isindex", "keygen", "link", "menuitem", "meta", "nextid", "param", "source",
    "spacer", "track", "wbr"]

/-- The names of the elements in which white space counts. -/
def preservingNames : List String := ["pre", "textarea"]

/-- The names of the elements whose text stands apart. -/
def apartNames : List String := ["script", "style", "template", "rp", "rt"]

mutual

/-- The text below a tree that stands apart as given. -/
def Tree.texts (apart : Option String) : Tree → List Char
  | .text own cs => if own == apart then cs else []
  | .cdata cs => if apart.isNone then cs else []
  | .element _ _ content => Tree.textsOfAll apart content
  | _ => []

/-- The text below some trees that stands apart as given, one after the other. -/
def Tree.textsOfAll (apart : Option String) : List Tree → List Char
  | [] => []
  | tree :: trees => Tree.texts apart tree ++ Tree.textsOfAll apart trees

end

namespace Element

/-- The value of an attribute, if the element has it. -/
def attribute? (element : Element) (name : String) : Option String :=
  element.attributes.lookup name

/-- The elements directly within an element. -/
def children (element : Element) : List Element := element.content.filterMap Tree.element?

/-- The text within an element. An element whose text stands apart has this text only, and any other
one the text that does not stand apart. -/
def text (element : Element) : String :=
  let apart := if apartNames.contains element.name then some element.name else none
  String.ofList (Tree.textsOfAll apart element.content)

end Element

end Extraction.Markup
