import Extraction.Text.Scanner

/-!
# Tokens of YAML

A YAML text as a row of tokens. The columns of a text are gone from its tokens: where a
collection is laid out by indentation, tokens of their own mark its start and its end.

* `Yaml.Token` are the tokens.
* `Yaml.isBreak`, `Yaml.isBlank` and `Yaml.atGap` are the characters between them.
-/

namespace Extraction.Yaml

/-- A token. -/
inductive Token where
  /-- The version that a document says it is written in. -/
  | version (major : Nat)
  /-- A handle, and the start of the names of types for which it stands. -/
  | handle (handle meaning : String)
  /-- Another instruction in front of a document. -/
  | instruction
  /-- The mark in front of a document. -/
  | documentStart
  /-- The mark behind a document. -/
  | documentEnd
  /-- The start of a sequence that is laid out by indentation. -/
  | sequenceStart
  /-- The start of a mapping that is laid out by indentation. -/
  | mappingStart
  /-- The end of a collection that is laid out by indentation. -/
  | blockEnd
  /-- The start of a sequence in brackets. -/
  | sequenceOpen
  /-- The end of a sequence in brackets. -/
  | sequenceClose
  /-- The start of a mapping in braces. -/
  | mappingOpen
  /-- The end of a mapping in braces. -/
  | mappingClose
  /-- The mark in front of an item. -/
  | item
  /-- The mark between the parts of a collection in brackets or braces. -/
  | comma
  /-- The start of a key. -/
  | key
  /-- The mark between a key and its value. -/
  | value
  /-- A name that stands for the node that bears it. -/
  | reference (name : String)
  /-- The name of the next node. -/
  | anchor (name : String)
  /-- The name of the type of the next node, behind a handle if it has one. -/
  | tag (handle : Option String) (name : String)
  /-- A scalar, and whether it stands there without quotes. -/
  | scalar (text : String) (plain : Bool)
deriving DecidableEq, Repr

/-- A character that ends a line. -/
def isBreak (c : Char) : Bool := c == '\n' || c == '\u2028' || c == '\u2029'

/-- A character within a line that separates words. -/
def isBlank (c : Char) : Bool := c == ' ' || c == '\t'

/-- Whether a text starts with a blank or a break, or is at its end. -/
def atGap : List Char → Bool
  | [] => true
  | c :: _ => isBlank c || isBreak c

/-- Whether a text starts with a space or a break, or is at its end. -/
def atSpace : List Char → Bool
  | [] => true
  | c :: _ => c == ' ' || isBreak c

/-- Whether a line starts with the mark in front of a document. -/
def atDocumentStart (cs : List Char) : Bool :=
  "---".toList.isPrefixOf cs && atGap (cs.drop 3)

/-- Whether a line starts with the mark behind a document. -/
def atDocumentEnd (cs : List Char) : Bool :=
  "...".toList.isPrefixOf cs && atGap (cs.drop 3)

/-- Whether a line starts with a mark between documents. -/
def atSeparator (cs : List Char) : Bool := atDocumentStart cs || atDocumentEnd cs

end Extraction.Yaml
