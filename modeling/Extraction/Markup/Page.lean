import Extraction.Markup.Piece

/-!
# Reading pages

Builds the trees of a page from the pieces of its source. An element is closed by an end tag of
its name, which also closes all that was opened within it; an end tag that closes nothing is
passed over, and what is open at the end is closed there.

An element that has a start tag only is closed by it, as is one with a slash at the end of its
start tag.

* `Markup.Builder` is a page that is being built, and `Markup.Builder.add` adds a piece to it.
* `Markup.read?` reads a page, which fails where its source cannot be read.

Adjacent texts are one. A text of white space only is a line break if it holds one, and a space
otherwise, except where white space counts.
-/

namespace Extraction.Markup

/-- How the values of attributes are kept. -/
inductive AttributeStyle where
  /-- As they are written. -/
  | verbatim
  /-- Those that hold a list of words with one space between the words. -/
  | wordLists
deriving DecidableEq, Repr

/-- Whether an attribute of an element holds a list of words. -/
def holdsWords (element attr : String) : Bool :=
  let everywhere := ["class", "accesskey", "dropzone"]
  let particular := [("a", "rel"), ("a", "rev"), ("link", "rel"), ("link", "rev"),
    ("td", "headers"), ("th", "headers"), ("form", "accept-charset"), ("object", "archive"),
    ("area", "rel"), ("icon", "sizes"), ("iframe", "sandbox"), ("output", "for")]
  everywhere.contains attr || particular.contains (element, attr)

/-- The value of an attribute as it is kept. -/
def AttributeStyle.value (style : AttributeStyle) (element attr value : String) : String :=
  if style = .wordLists && holdsWords element attr then
    String.intercalate " " ((Text.words value.toList).map String.ofList)
  else value

/-- The attributes of a start tag as they are kept; of several with one name the last counts. -/
def AttributeStyle.keep (style : AttributeStyle) (name : String)
    (attributes : List (String × String)) : List (String × String) :=
  let values := attributes.map fun (attr, value) => (attr, style.value name attr value)
  ((Bindings.empty : Bindings String).setAll values).entries

/-- An element that is open. -/
structure Frame where
  /-- Its name. -/
  name : String
  /-- Its attributes. -/
  attributes : List (String × String)
  /-- What it contains so far, the last part first. -/
  content : List Tree

/-- A frame as a tree. -/
def Frame.close (frame : Frame) : Tree :=
  .element frame.name frame.attributes frame.content.reverse

/-- A page that is being built. -/
structure Builder where
  /-- The elements that are open, the innermost first. -/
  frames : List Frame
  /-- What the page contains outside of them, the last part first. -/
  content : List Tree
  /-- The text since the last other piece. -/
  pending : List Char
  /-- The names of the elements that were closed by their start tags, and whose end tags, if they
  follow, are passed over. -/
  surplus : List String

namespace Builder

/-- The page before the first piece. -/
def empty : Builder := ⟨[], [], [], []⟩

/-- Adds a tree to the innermost open element. -/
def push (builder : Builder) (tree : Tree) : Builder :=
  match builder.frames with
  | frame :: frames =>
    { builder with frames := { frame with content := tree :: frame.content } :: frames }
  | [] => { builder with content := tree :: builder.content }

/-- A text as it is kept: one of white space only becomes a line break or a space. -/
def condense (builder : Builder) (cs : List Char) : List Char :=
  if builder.frames.any fun frame => preservingNames.contains frame.name then cs
  else if cs.all isSpace then if cs.contains '\n' then ['\n'] else [' ']
  else cs

/-- The name of the innermost open element whose text stands apart, if there is one. -/
def apart (builder : Builder) : Option String :=
  (builder.frames.map Frame.name).find? apartNames.contains

/-- Ends the text since the last other piece. -/
def flush (builder : Builder) : Builder :=
  match builder.pending with
  | [] => builder
  | cs => { builder with pending := [] }.push (.text builder.apart (builder.condense cs))

/-- Closes the innermost open element. -/
def closeInnermost (builder : Builder) : Builder :=
  match builder.frames with
  | frame :: frames => { builder with frames := frames }.push frame.close
  | [] => builder

/-- Closes as many elements as given. -/
def closeMany : Nat → Builder → Builder
  | 0, builder => builder
  | count + 1, builder => closeMany count builder.closeInnermost

/-- Closes the innermost open element of a name and all within it, if there is one. -/
def close (builder : Builder) (name : String) : Builder :=
  match builder.frames.findIdx? fun frame => frame.name == name with
  | some depth => builder.closeMany (depth + 1)
  | none => builder

/-- Meets an end tag. -/
def meetEnd (builder : Builder) (name : String) : Builder :=
  if builder.surplus.contains name then { builder with surplus := builder.surplus.erase name }
  else builder.flush.close name

/-- Meets a start tag. -/
def meetStart (builder : Builder) (name : String) (attributes : List (String × String))
    (closed : Bool) : Builder :=
  let builder := builder.flush
  let builder := { builder with frames := ⟨name, attributes, []⟩ :: builder.frames }
  if closed then builder.closeInnermost
  else if voidNames.contains name then
    -- The end tag that may follow has nothing left to close.
    { builder.closeInnermost with surplus := name :: builder.surplus }
  else builder

/-- Meets something else than text and tags. -/
def meetOther (builder : Builder) (tree : List Char → Tree) (cs : List Char) : Builder :=
  let builder := builder.flush
  builder.push (tree (builder.condense cs))

/-- Adds a piece. -/
def add (style : AttributeStyle) (builder : Builder) : Piece → Builder
  | .text cs => { builder with pending := builder.pending ++ cs }
  | .cdata cs => builder.meetOther .cdata cs
  | .comment cs => builder.meetOther .comment cs
  | .doctype cs => builder.meetOther .doctype cs
  | .declaration cs => builder.meetOther .declaration cs
  | .instruction cs => builder.meetOther .instruction cs
  | .closing name => builder.meetEnd name
  | .opening name attributes closed => builder.meetStart name (style.keep name attributes) closed

/-- The trees of the page, with all closed. -/
def finish (builder : Builder) : List Tree :=
  let builder := builder.flush
  (builder.closeMany builder.frames.length).content.reverse

end Builder

/-- The trees of a page, if its source can be read. -/
def read? (style : AttributeStyle) (source : String) : Option (List Tree) :=
  (pieces? source).map fun pieces => (pieces.foldl (Builder.add style) .empty).finish

end Extraction.Markup
