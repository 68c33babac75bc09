import Extraction.Yaml.Layout

/-!
# Nodes of YAML

The tree that a row of tokens describes. A node is a scalar, a sequence or a mapping, or a name
that stands for another node.

* `Yaml.Node` are the nodes.
* `Yaml.Node.ofTokens?` is the one node of a text, and `Yaml.Node.read?` reads it from the
  characters.
-/

namespace Extraction.Yaml

/-- What the type of a node is said to be. -/
inductive Tag where
  /-- Nothing is said. -/
  | unspecified
  /-- Whatever the node would be without quotes. -/
  | plain
  /-- The type of the given name. -/
  | named (name : String)
deriving DecidableEq, Repr

/-- The type of a full name. -/
def Tag.ofName (name : String) : Tag := if name = "!" then .plain else .named name

/-- The handles of a document, and the starts of names for which they stand. -/
abbrev Handles := List (String × String)

/-- The start of the names of the standard types. -/
def standardFamily : String := "tag:yaml.org,2002:"

/-- The handles that every document has unless it says otherwise. -/
def standardHandles : Handles := [("!", "!"), ("!!", standardFamily)]

/-- The type of a name behind a handle, if the handle stands for anything. -/
def Handles.tag? (handles : Handles) (handle : Option String) (name : String) : Option Tag :=
  match handle with
  | none => some (.ofName name)
  | some handle => (handles.lookup handle).map fun start => .ofName (start ++ name)

/-- What is said about a node in front of it. -/
structure Properties where
  /-- Its name. -/
  anchor : Option String
  /-- Its type. -/
  tag : Tag
deriving DecidableEq, Repr

/-- A node. -/
inductive Node where
  /-- A name that stands for another node. -/
  | reference (name : String)
  /-- A scalar, and whether it stands there without quotes. -/
  | scalar (properties : Properties) (text : String) (plain : Bool)
  /-- A sequence. -/
  | sequence (properties : Properties) (items : List Node)
  /-- A mapping. -/
  | mapping (properties : Properties) (entries : List (Node × Node))

/-- A reader of tokens. -/
abbrev TokenScanner := Scanner.Over Token

namespace Node

/-- The properties of a node about which nothing is said. -/
def noProperties : Properties := ⟨none, .unspecified⟩

/-- The node that stands where none is written. -/
def missing : Node := .scalar noProperties "" true

/-- Takes a given token. -/
def expect (token : Token) : TokenScanner Unit := do
  let _ ← Scanner.satisfy (· == token)

/-- Whether the next token has a property. -/
def isAhead (p : Token → Bool) : TokenScanner Bool := do
  pure ((← Scanner.peek?).any p)

/-- Whether a token of a list is the next one. -/
def isNext (tokens : List Token) : TokenScanner Bool := do
  pure ((← Scanner.peek?).any tokens.contains)

/-- Takes the name of a node. -/
def anchor : TokenScanner String := fun
  | .anchor name :: rest => some (name, rest)
  | _ => none

/-- Takes the type of a node. -/
def tag (handles : Handles) : TokenScanner Tag := fun
  | .tag handle name :: rest => (handles.tag? handle name).map fun tag => (tag, rest)
  | _ => none

/-- Takes what is said about a node, in either order, or `none` if nothing is. -/
def properties? (handles : Handles) : TokenScanner (Option Properties) := do
  let before ← Scanner.optional (tag handles)
  let name ← Scanner.optional anchor
  let tag ← if before.isSome then pure before else Scanner.optional (tag handles)
  pure (if name.isNone && tag.isNone then none else some ⟨name, tag.getD .unspecified⟩)

section

-- How a node within another one is taken. It may be a sequence that is not indented further only
-- where the argument says so.
variable (inner : Bool → TokenScanner Node)

/-- Takes the node in front of a token of a list, which may be missing there. -/
def before (tokens : List Token) (loose : Bool) : TokenScanner Node := do
  if ← isNext tokens then pure missing else inner loose

/-- Takes the value behind a key, which may be missing with its mark. -/
def valueBefore (tokens : List Token) (loose : Bool) : TokenScanner Node := do
  if ← isNext [.value] then
    expect .value
    before inner tokens loose
  else pure missing

/-- Takes the items of a sequence that is laid out by indentation. -/
def items (ends : List Token) : TokenScanner (List Node) :=
  Scanner.many do
    expect .item
    before inner (.item :: ends) false

/-- Takes the entries of a mapping that is laid out by indentation. -/
def entries : TokenScanner (List (Node × Node)) :=
  Scanner.many do
    expect .key
    let key ← before inner [.key, .value, .blockEnd] true
    let value ← valueBefore inner [.key, .value, .blockEnd] true
    pure (key, value)

/-- Takes the parts of a collection in brackets or braces, and its end. -/
def parts {α : Type} (close : Token) (part : TokenScanner α) : TokenScanner (List α) := do
  let parts ← Scanner.many do
    let part ← part
    if !(← isNext [close]) then expect .comma
    pure part
  expect close
  pure parts

/-- Takes an item of a sequence in brackets. A key with its value is a mapping of one entry. -/
def enclosedItem : TokenScanner Node := do
  if ← isNext [.key] then
    expect .key
    let key ← before inner [.value, .comma, .sequenceClose] false
    let value ← valueBefore inner [.comma, .sequenceClose] false
    pure (.mapping noProperties [(key, value)])
  else inner false

/-- Takes an entry of a mapping in braces. -/
def enclosedEntry : TokenScanner (Node × Node) := do
  if ← isNext [.key] then
    expect .key
    let key ← before inner [.value, .comma, .mappingClose] false
    let value ← valueBefore inner [.comma, .mappingClose] false
    pure (key, value)
  else pure (← inner false, missing)

/-- Takes the content of a node, or nothing where something is said about a node that is
missing. -/
def content (said : Option Properties) (loose : Bool) : TokenScanner Node := do
  let properties := said.getD noProperties
  let nothing : TokenScanner Node :=
    if said.isSome then pure (.scalar properties "" true) else failure
  match ← Scanner.peek? with
  | some (.scalar text plain) =>
    Scanner.skip 1
    pure (.scalar properties text plain)
  | some .item =>
    -- Items in the column of the key in front of them: no token stands for their start or end.
    if loose then return .sequence properties (← items inner [.key, .value, .blockEnd])
    else nothing
  | some .sequenceStart =>
    Scanner.skip 1
    let items ← items inner [.blockEnd]
    expect .blockEnd
    pure (.sequence properties items)
  | some .mappingStart =>
    Scanner.skip 1
    let entries ← entries inner
    expect .blockEnd
    pure (.mapping properties entries)
  | some .sequenceOpen =>
    Scanner.skip 1
    return .sequence properties (← parts .sequenceClose (enclosedItem inner))
  | some .mappingOpen =>
    Scanner.skip 1
    return .mapping properties (← parts .mappingClose (enclosedEntry inner))
  | _ => nothing

end

/-- Takes a node that is nested at most as deep as given. -/
def nested (handles : Handles) : Nat → Bool → TokenScanner Node
  | 0, _ => failure
  | depth + 1, loose => do
    match ← Scanner.peek? with
    | some (.reference name) =>
      Scanner.skip 1
      pure (.reference name)
    | _ => content (nested handles depth) (← properties? handles) loose

/-- Takes a node. It is not nested deeper than there are tokens. -/
def node (handles : Handles) : TokenScanner Node := fun tokens =>
  nested handles (tokens.length + 1) false tokens

/-- Whether a token is an instruction in front of a document. -/
def isInstruction : Token → Bool
  | .version _ => true
  | .handle _ _ => true
  | .instruction => true
  | _ => false

/-- The handles that some instructions give, each of them once. -/
def handlesOf? (instructions : List Token) : Option Handles :=
  let given := instructions.filterMap fun
    | .handle handle meaning => some (handle, meaning)
    | _ => none
  if (given.map Prod.fst).Nodup then some (given ++ standardHandles) else none

/-- Whether some instructions give the version at most once, and one that can be read. -/
def versionFits (instructions : List Token) : Bool :=
  let versions := instructions.filterMap fun
    | .version major => some major
    | _ => none
  versions == [] || versions == [1]

/-- Takes the instructions in front of a document and the mark behind them, if there is either. The
answer are the handles of the document. -/
def preamble : TokenScanner Handles := do
  let instructions ← Scanner.many (Scanner.satisfy isInstruction)
  if !versionFits instructions then failure
  expect .documentStart
  match handlesOf? instructions with
  | some handles => pure handles
  | none => failure

/-- Whether a token can only start or end a document. -/
def isOutside (token : Token) : Bool :=
  isInstruction token || token == .documentStart || token == .documentEnd

/-- Takes the node of a document. It may be missing behind the mark in front of it. -/
def document : TokenScanner Node := do
  if ← isAhead fun token => isInstruction token || token == .documentStart then
    let handles ← preamble
    -- Behind its mark a document may be as empty as the rest of the text.
    let rest ← Scanner.remaining
    if rest.head?.all isOutside then pure missing else node handles
  else node standardHandles

/-- The node that the tokens of a text describe, if there is one and no second one. No tokens
describe a missing node. -/
def ofTokens? (tokens : List Token) : Option Node := do
  if tokens.isEmpty then return missing
  let (node, rest) ← document tokens
  guard (rest.all (· == .documentEnd))
  pure node

/-- The node that a text describes. -/
def read? (text : String) : Option Node := do ofTokens? (← tokens? text)

end Node

end Extraction.Yaml
