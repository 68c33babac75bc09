import Extraction.Text.Blank
import Extraction.Yaml.Scalar

/-!
# The layout of YAML

From the characters of a text to its tokens. Indentation opens and closes collections: an item or
a key further to the right than the open collection opens one, and a token further to the left
closes it.

A key is known as such only by the mark behind it. So each place where a key may start is
remembered, and when the mark is met on the same line, the token for the key is put in there.

* `Yaml.Layout` is how far a text has been read.
* `Yaml.Layout.next` reads the next token.
* `Yaml.tokens?` are the tokens of a text.
-/

namespace Extraction.Yaml

/-- A place in a text. -/
structure Mark where
  /-- The number of characters in front of it. -/
  index : Nat
  /-- The number of lines in front of its own. -/
  line : Nat
  /-- The column, from zero. -/
  column : Nat
deriving DecidableEq, Repr

/-- The place behind a character. -/
def Mark.after (mark : Mark) (c : Char) : Mark :=
  if isBreak c then ⟨mark.index + 1, mark.line + 1, 0⟩
  else ⟨mark.index + 1, mark.line, if c = '\ufeff' then mark.column else mark.column + 1⟩

/-- A place where a key may start. -/
structure KeyPlace where
  /-- The number of tokens in front of it. -/
  token : Nat
  /-- Whether nothing else than a key can start there. -/
  required : Bool
  /-- Where it is. -/
  mark : Mark
deriving DecidableEq, Repr

/-- Whether a place is too far behind for a key that starts there: the mark behind a key stands on
the line of the key, and not too far to the right. -/
def KeyPlace.isOver (place : KeyPlace) (mark : Mark) : Bool :=
  place.mark.line != mark.line || place.mark.index + 1024 < mark.index

/-- How far a text has been read. -/
structure Layout where
  /-- The text that is left. -/
  rest : List Char
  /-- The place where it starts. -/
  mark : Mark
  /-- The tokens so far. -/
  tokens : Array Token
  /-- The columns of the open collections that are laid out by indentation, the innermost
  first. -/
  indents : List Nat
  /-- The place where the next key may have started. -/
  place : Option KeyPlace
  /-- Such a place for each of the open brackets and braces, from the time before it was opened,
  the innermost first. -/
  outer : List (Option KeyPlace)
  /-- Whether a key may start at the next token. -/
  keyAllowed : Bool

/-- A step of the reading of a layout. -/
abbrev LayoutStep := StateT Layout Option

namespace Layout

/-- A text of which nothing has been read. -/
def start (cs : List Char) : Layout := ⟨cs, ⟨0, 0, 0⟩, #[], [], none, [], true⟩

/-- Whether a bracket or brace is open. -/
def enclosed (layout : Layout) : Bool := !layout.outer.isEmpty

/-- Whether a column is further to the right than the innermost open collection. -/
def isDeeper (layout : Layout) (column : Nat) : Bool := layout.indents.head?.all (· < column)

/-- The least column within the innermost open collection. -/
def innerColumn (layout : Layout) : Nat := (layout.indents.head?.map (· + 1)).getD 0

/-- Takes what a scanner takes. -/
def take {α : Type} (scanner : Scanner α) : LayoutStep α := do
  let layout ← get
  let (a, rest) ← scanner layout.rest
  let taken := layout.rest.take (layout.rest.length - rest.length)
  set { layout with rest := rest, mark := taken.foldl Mark.after layout.mark }
  pure a

/-- Adds a token. -/
def push (token : Token) : LayoutStep Unit :=
  modify fun layout => { layout with tokens := layout.tokens.push token }

/-- Adds a token in the place of an earlier one, in front of it. -/
def insert (token : Token) (index : Nat) : LayoutStep Unit :=
  modify fun layout => { layout with tokens := layout.tokens.insertIdxIfInBounds index token }

/-- Says whether a key may start at the next token. -/
def allowKey (allowed : Bool) : LayoutStep Unit :=
  modify fun layout => { layout with keyAllowed := allowed }

/-! ## Places of keys -/

/-- Forgets a place where a key may have started, which fails if a key had to. -/
def dropPlace : LayoutStep Unit := do
  if (← get).place.any KeyPlace.required then failure
  modify fun layout => { layout with place := none }

/-- Remembers that a key may start at the next token. -/
def savePlace : LayoutStep Unit := do
  let layout ← get
  if layout.keyAllowed then
    dropPlace
    -- In the column of an open collection by indentation nothing else than a key can start.
    let required := !layout.enclosed && layout.indents.head? == some layout.mark.column
    modify fun layout =>
      { layout with place := some ⟨layout.tokens.size, required, layout.mark⟩ }

/-- Forgets the places that are too far behind, which fails if a key had to start at one. -/
def dropOverPlaces : LayoutStep Unit := do
  let layout ← get
  let isOver (place : KeyPlace) : Bool := place.isOver layout.mark
  if (layout.place :: layout.outer).any (·.any fun place => isOver place && place.required) then
    failure
  let fresh (place : Option KeyPlace) : Option KeyPlace := place.filter fun place => !isOver place
  set { layout with place := fresh layout.place, outer := layout.outer.map fresh }

/-! ## Indentation -/

/-- Opens a collection at a column if it is further to the right than the open one. The answer is
whether one was opened. -/
def indent (column : Nat) : LayoutStep Bool := do
  if (← get).isDeeper column then
    modify fun layout => { layout with indents := column :: layout.indents }
    pure true
  else pure false

/-- Closes the collections that are not kept, the innermost first. -/
def unwind (keeps : Nat → Bool) : LayoutStep Unit :=
  modify fun layout =>
    -- Within brackets and braces indentation has no meaning.
    if layout.enclosed then layout
    else
      let closed := layout.indents.takeWhile fun column => !keeps column
      { layout with
        indents := layout.indents.drop closed.length
        tokens := layout.tokens ++ closed.map fun _ => Token.blockEnd }

/-! ## The single tokens -/

/-- Reads a mark of some characters. -/
def takeMark (length : Nat) (token : Token) : LayoutStep Unit := do
  take (Scanner.skip length)
  push token

/-- Ends all collections, as in front of what stands between documents. -/
def leaveDocument : LayoutStep Unit := do
  unwind fun _ => false
  dropPlace
  allowKey false

/-- A character of a name or of a handle. -/
def isNameCharacter (c : Char) : Bool := c.isAlphanum || c == '-' || c == '_'

/-- A character of the name of a type. -/
def isTypeCharacter (c : Char) : Bool := c.isAlphanum || "-;/?:@&=+$,_.!~*'()[]".toList.contains c

/-- Takes characters that are written by their bytes, each one as two hexadecimal digits. -/
def writtenBytes : Scanner (List Char) := do
  let bytes ← Scanner.many do
    Scanner.char '%'
    pure (Text.hexadecimal (← hexDigits 2))
  match String.fromUTF8? ⟨(bytes.map UInt8.ofNat).toArray⟩ with
  | some text => if bytes.isEmpty then failure else pure text.toList
  | none => failure

/-- Takes the name of a type. -/
def typeName : Scanner String := do
  let parts ← Scanner.many (Scanner.takeSome isTypeCharacter <|> writtenBytes)
  if parts.isEmpty then failure
  pure (String.ofList parts.flatten)

/-- Fails unless a space or a break follows, or nothing. -/
def spaceAhead : Scanner Unit := do
  if !atSpace (← Scanner.remaining) then failure

/-- Takes a handle for the names of types. -/
def typeHandle : Scanner String := do
  Scanner.char '!'
  if (← Scanner.peek?) == some ' ' then pure "!"
  else
    let name ← Scanner.takeWhile isNameCharacter
    Scanner.char '!'
    pure (String.ofList ('!' :: name ++ ['!']))

/-- Takes what an instruction with the given name says. Only the first number of a version decides
whether a text can be read. -/
def instructionOf (name : String) : Scanner Token :=
  match name with
  | "YAML" => do
    let _ ← Scanner.takeWhile (· == ' ')
    let major ← Scanner.takeSome Char.isDigit
    Scanner.char '.'
    let _ ← Scanner.takeSome Char.isDigit
    spaceAhead
    pure (.version (Text.decimal major))
  | "TAG" => do
    let _ ← Scanner.takeWhile (· == ' ')
    let handle ← typeHandle
    Scanner.char ' '
    let _ ← Scanner.takeWhile (· == ' ')
    let meaning ← typeName
    spaceAhead
    pure (.handle handle meaning)
  | _ => do
    let _ ← Scanner.takeWhile fun c => !isBreak c
    pure .instruction

/-- Reads an instruction in front of a document. -/
def instruction : LayoutStep Unit := do
  leaveDocument
  let token ← take do
    Scanner.char '%'
    let name ← Scanner.takeSome isNameCharacter
    spaceAhead
    let token ← instructionOf (String.ofList name)
    restOfLine
    pure token
  push token

/-- Reads an opening bracket or brace. -/
def opening (token : Token) : LayoutStep Unit := do
  savePlace
  modify fun layout => { layout with place := none, outer := layout.place :: layout.outer }
  allowKey true
  takeMark 1 token

/-- Reads a closing bracket or brace. -/
def closing (token : Token) : LayoutStep Unit := do
  dropPlace
  match (← get).outer with
  | [] => failure
  | place :: outer => modify fun layout => { layout with place := place, outer := outer }
  allowKey false
  takeMark 1 token

/-- Reads the mark between the parts of a collection. -/
def comma : LayoutStep Unit := do
  allowKey true
  dropPlace
  takeMark 1 .comma

/-- Opens a collection at the next token where one may start. -/
def openAt (token : Token) : LayoutStep Unit := do
  let layout ← get
  if !layout.enclosed then
    if !layout.keyAllowed then failure
    if ← indent layout.mark.column then push token

/-- Reads the mark in front of an item. -/
def item : LayoutStep Unit := do
  openAt .sequenceStart
  allowKey true
  dropPlace
  takeMark 1 .item

/-- Reads the mark in front of a key. -/
def key : LayoutStep Unit := do
  openAt .mappingStart
  allowKey !(← get).enclosed
  dropPlace
  takeMark 1 .key

/-- Reads the mark between a key and its value. If a key may have started before it, it did. -/
def value : LayoutStep Unit := do
  let layout ← get
  match layout.place with
  | some place =>
    modify fun layout => { layout with place := none }
    -- The key was taken for a scalar so far. The mark in front of it and, if it is the first of a
    -- mapping, the start of that mapping are put in where the key started.
    insert .key place.token
    if !layout.enclosed then
      if ← indent place.mark.column then insert .mappingStart place.token
    allowKey false
  | none =>
    -- A value without a key in front of it.
    openAt .mappingStart
    allowKey !layout.enclosed
  takeMark 1 .value

/-- Takes the name of a node behind its sign. -/
def nodeName : Scanner String := do
  let name ← Scanner.takeSome isNameCharacter
  let rest ← Scanner.remaining
  if atGap rest || rest.head?.any fun c => "?:,]\x7d%@`".toList.contains c then
    pure (String.ofList name)
  else failure

/-- Takes the type of a node. A name has a handle in front of it if it has a second exclamation
mark. -/
def nodeType : Scanner Token := do
  let behind := (← Scanner.remaining).drop 1
  let token ←
    if atGap behind then do
      Scanner.char '!'
      pure (Token.tag none "!")
    else if behind.head? = some '<' then do
      Scanner.literal ['!', '<']
      let name ← typeName
      Scanner.char '>'
      pure (Token.tag none name)
    else do
      let word := behind.takeWhile fun c => c != ' ' && !isBreak c
      let handle ← if word.contains '!' then typeHandle else do
        Scanner.char '!'
        pure "!"
      pure (Token.tag (some handle) (← typeName))
  spaceAhead
  pure token

/-- Reads a token at which a key may start, and none behind it. -/
def keyPart (scanner : Scanner Token) : LayoutStep Unit := do
  savePlace
  allowKey false
  push (← take scanner)

/-- Reads a plain scalar. Where it ends behind a line break, a key may start. -/
def plainScalar : LayoutStep Unit := do
  savePlace
  let layout ← get
  let (text, crossed) ← take (plain layout.enclosed layout.innerColumn)
  allowKey crossed
  push (.scalar (String.ofList text) true)

/-- Reads a block of lines. -/
def blockScalar (folds : Bool) : LayoutStep Unit := do
  allowKey true
  dropPlace
  let layout ← get
  let text ← take do
    Scanner.skip 1
    block folds (max 1 layout.innerColumn)
  push (.scalar (String.ofList text) false)

/-- A quoted scalar as a token. -/
def quotedToken (scanner : Scanner (List Char)) : Scanner Token :=
  (fun text => Token.scalar (String.ofList text) false) <$> scanner

/-- Whether a plain scalar starts with a character in front of the given rest. -/
def startsPlain (enclosed : Bool) (c : Char) (rest : List Char) : Bool :=
  !(isBlank c || isBreak c || "-?:,[]\x7b\x7d#&*!|>'\"%@`".toList.contains c) ||
    (!atGap rest && (c == '-' || (!enclosed && (c == '?' || c == ':'))))

/-- Reads the token that starts with a character in front of the given rest. -/
def tokenAt (c : Char) (rest : List Char) : LayoutStep Unit := do
  let layout ← get
  let lineStart := layout.mark.column == 0
  let enclosed := layout.enclosed
  if c == '%' && lineStart then instruction
  else if lineStart && atDocumentStart (c :: rest) then
    leaveDocument
    takeMark 3 .documentStart
  else if lineStart && atDocumentEnd (c :: rest) then
    leaveDocument
    takeMark 3 .documentEnd
  -- The marks that mean the same wherever they stand come before those that need a gap.
  else if c == '[' then opening .sequenceOpen
  else if c == '\x7b' then opening .mappingOpen
  else if c == ']' then closing .sequenceClose
  else if c == '\x7d' then closing .mappingClose
  else if c == ',' then comma
  else if c == '-' && atGap rest then item
  else if c == '?' && (enclosed || atGap rest) then key
  else if c == ':' && (enclosed || atGap rest) then value
  else if c == '*' then keyPart do
    Scanner.skip 1
    Token.reference <$> nodeName
  else if c == '&' then keyPart do
    Scanner.skip 1
    Token.anchor <$> nodeName
  else if c == '!' then keyPart nodeType
  -- A block needs lines of its own, which there are none of within brackets and braces.
  else if c == '|' && !enclosed then blockScalar false
  else if c == '>' && !enclosed then blockScalar true
  else if c == '\'' then keyPart (quotedToken singleQuoted)
  else if c == '"' then keyPart (quotedToken doubleQuoted)
  else if startsPlain enclosed c rest then plainScalar
  else failure

/-! ## The whole text -/

/-- Takes a comment, up to the end of its line. -/
def comment : Scanner Unit := do
  Scanner.char '#'
  let _ ← Scanner.takeWhile fun c => !isBreak c

/-- Passes what stands between tokens. A key may start on each new line outside of brackets and
braces. -/
def passGap : LayoutStep Unit := do
  let lines ← take <| Scanner.many do
    let _ ← Scanner.takeWhile (· == ' ')
    let _ ← Scanner.optional comment
    Scanner.optional (Scanner.satisfy isBreak)
  if !(← get).enclosed && lines.any Option.isSome then allowKey true

/-- Reads the next token. The answer is whether there was one. -/
def next : LayoutStep Bool := do
  passGap
  dropOverPlaces
  match (← get).rest with
  | [] =>
    leaveDocument
    pure false
  | c :: rest =>
    let column := (← get).mark.column
    -- A token further to the left ends the collections that are indented further.
    unwind (· ≤ column)
    tokenAt c rest
    pure true

/-- The tokens of a text that has been read so far, up to its end. -/
def finish? (layout : Layout) : Option (List Token) :=
  match next layout with
  | none => none
  | some (false, last) => some last.tokens.toList
  | some (true, later) =>
    if later.rest.length < layout.rest.length then finish? later else none
termination_by layout.rest.length

end Layout

/-- A character that a text may contain. -/
def isAdmitted (c : Char) : Bool :=
  let n := c.toNat
  n == 0x9 || n == 0xa || n == 0xd || (0x20 ≤ n && n ≤ 0x7e) || n == 0x85 ||
    (0xa0 ≤ n && n ≤ 0xd7ff) || (0xe000 ≤ n && n ≤ 0xfffd) || 0x10000 ≤ n

/-- The characters of a text with one kind of mark at the ends of its lines, apart from the two
that are characters of their own. A mark of the byte order in front is dropped. -/
def prepare (text : String) : List Char :=
  let cs := (Text.unifyLines text.toList).map fun c => if c = '\u0085' then '\n' else c
  if cs.head? = some '\ufeff' then cs.drop 1 else cs

/-- The tokens of a text. -/
def tokens? (text : String) : Option (List Token) :=
  if text.toList.all isAdmitted then (Layout.start (prepare text)).finish? else none

end Extraction.Yaml
