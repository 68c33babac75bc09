import Extraction.Markup.Element
import Extraction.Text.Blank

/-!
# Declarations of the encoding

A page may declare the encoding of its characters in an attribute of a `meta` element. Markup is
written in UTF-8, so such an attribute is written with the name of this encoding in place of its
own.

* `Markup.declaringAttribute?` is the attribute in which an element declares the encoding.
* `Markup.writtenAttributes` are the attributes of an element as they are written.
-/

namespace Extraction.Markup

/-- The name of the encoding in which markup is written. -/
def encodingName : List Char := "utf-8".toList

/-- The sign in front of the name of an encoding within a value. -/
def encodingSign : List Char := "charset=".toList

/-- Whether the name of an encoding may be declared within a value behind the given character: at
the front of the value or of a line, or behind a blank or a semicolon. -/
def mayDeclareBehind : Option Char → Bool
  | none => true
  | some c => Text.isBlank c || c == ';'

/-- A value in which every name of an encoding is replaced, from behind a given character on, and
whether there was one. -/
def replaceEncodingFrom (behind : Option Char) (cs : List Char) : List Char × Bool :=
  match cs with
  | [] => ([], false)
  | c :: rest =>
    if _h : mayDeclareBehind behind ∧ encodingSign.isPrefixOf (c :: rest) then
      let later := (rest.drop (encodingSign.length - 1)).dropWhile (· != ';')
      (encodingSign ++ encodingName ++ (replaceEncodingFrom none later).1, true)
    else
      let (replaced, found) := replaceEncodingFrom (some c) rest
      (c :: replaced, found)
termination_by cs.length
decreasing_by
  · have h1 : ((rest.drop (encodingSign.length - 1)).dropWhile (· != ';')).length ≤
        (rest.drop (encodingSign.length - 1)).length :=
      (List.dropWhile_sublist _).length_le
    simp only [List.length_drop, List.length_cons] at h1 ⊢
    omega
  · simp

/-- The attribute in which an element with some attributes declares the encoding, and the value that
is written for it. -/
def declaringAttribute? (name : String) (attributes : List (String × String)) :
    Option (String × List Char) :=
  if name = "meta" then
    match attributes.lookup "charset", attributes.lookup "content",
        attributes.lookup "http-equiv" with
    | some _, _, _ => some ("charset", encodingName)
    | none, some content, some purpose =>
      if purpose.toLower = "content-type" then
        match replaceEncodingFrom none content.toList with
        | (replaced, true) => some ("content", replaced)
        | (_, false) => none
      else none
    | none, _, _ => none
  else none

/-- The attributes of an element as they are written. -/
def writtenAttributes (name : String) (attributes : List (String × String)) :
    List (String × List Char) :=
  attributes.map fun (attr, value) =>
    match declaringAttribute? name attributes with
    | some (declaring, replaced) => (attr, if attr = declaring then replaced else value.toList)
    | none => (attr, value.toList)

/-- Whether an element declares the encoding in an attribute. -/
def Element.declaresEncodingIn (element : Element) (attr : String) : Bool :=
  (declaringAttribute? element.name element.attributes).any fun declaring => declaring.1 == attr

end Extraction.Markup
