import Extraction.Markup.Encoding

/-!
# Writing markup

Trees as markup. Attributes are written in the order of their names, and the characters that
have a meaning in markup as references.

* `Markup.Element.inner` is the markup within an element, and `Markup.Element.outer` its own.
-/

namespace Extraction.Markup

/-- A character of a text in markup. -/
def escapeChar (c : Char) : List Char :=
  if c = '&' then "&amp;".toList
  else if c = '<' then "&lt;".toList
  else if c = '>' then "&gt;".toList
  else [c]

/-- A text in markup. -/
def escape (cs : List Char) : List Char := cs.flatMap escapeChar

/-- A value in quotes: double ones, unless it holds them and no single ones. -/
def quoteValue (value : List Char) : List Char :=
  if !value.contains '"' then '"' :: value ++ ['"']
  else if !value.contains '\'' then '\'' :: value ++ ['\'']
  else '"' :: (value.flatMap fun c => if c = '"' then "&quot;".toList else [c]) ++ ['"']

/-- An attribute in a start tag. -/
def writeAttribute (attr : String × List Char) : List Char :=
  ' ' :: attr.1.toList ++ '=' :: quoteValue (escape attr.2)

/-- The attributes in a start tag, in the order of their names. -/
def writeAttributes (name : String) (attributes : List (String × String)) : List Char :=
  ((writtenAttributes name attributes).mergeSort fun a b => a.1 ≤ b.1).flatMap writeAttribute

mutual

/-- A tree as markup. Text is escaped unless it is the content of an element without markup. -/
def Tree.write (raw : Bool) : Tree → List Char
  | .text _ cs => if raw then cs else escape cs
  | .cdata cs => "<![CDATA[".toList ++ cs ++ "]]>".toList
  | .comment cs => "<!--".toList ++ cs ++ "-->".toList
  | .doctype cs => "<!DOCTYPE ".toList ++ cs ++ ">\n".toList
  | .declaration cs => "<?".toList ++ cs ++ "?>".toList
  | .instruction cs => "<?".toList ++ cs ++ ">".toList
  | .element name attributes content =>
    let start := '<' :: name.toList ++ writeAttributes name attributes
    if content.isEmpty && voidNames.contains name then start ++ "/>".toList
    else
      start ++ ">".toList ++ Tree.writeAll (rawNames.contains name) content ++ "</".toList ++
        name.toList ++ ">".toList

/-- Some trees as markup, one after the other. -/
def Tree.writeAll (raw : Bool) : List Tree → List Char
  | [] => []
  | tree :: trees => Tree.write raw tree ++ Tree.writeAll raw trees

end

namespace Element

/-- The markup within an element. -/
def inner (element : Element) : String :=
  String.ofList (Tree.writeAll (rawNames.contains element.name) element.content)

/-- The markup of an element. -/
def outer (element : Element) : String :=
  String.ofList (Tree.write false (.element element.name element.attributes element.content))

end Element

end Extraction.Markup
