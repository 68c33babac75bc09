import Extraction.Yaml.Node
import Extraction.Yaml.Value

/-!
# Meanings of nodes

The value of a node, unless something is wrong within it.

A text whose names do not fit has no meaning: one that refers to a name that no node in front of it
bears, or gives a name to two nodes. All other faults are found level by level: what stands
directly within a collection is looked at before what stands deeper, and each level from the front
to the end. So a meaning holds the first fault at each depth.

* `Yaml.Meaning` is what a node comes to, and `Yaml.Meaning.ofNode` finds it.
* `Yaml.Value.read` is the value that a text denotes.
-/

namespace Extraction.Yaml

/-! ## Faults by their depth -/

/-- The first fault at each depth within a node, from the node itself on. -/
abbrev Faults := List (Option Fault)

namespace Faults

/-- The faults of two parts, of which one comes in front of the other. -/
def beside : Faults → Faults → Faults
  | [], later => later
  | former, [] => former
  | fault :: former, fault' :: later => (fault <|> fault') :: beside former later

/-- The faults of some parts, one after the other. -/
def ofAll (parts : List Faults) : Faults := parts.foldr beside []

/-- A fault of a node itself. -/
def own (fault : Fault) : Faults := [some fault]

/-- The faults of a collection with the given faults of its parts. -/
def within (parts : Faults) : Faults := none :: parts

/-- The fault that is found first. -/
def first? (faults : Faults) : Option Fault := faults.findSome? id

end Faults

/-! ## Types -/

/-- What the type of a node makes of it. -/
inductive Role where
  /-- A scalar of a kind. -/
  | scalar (kind : Kind)
  /-- A sequence. -/
  | sequence
  /-- A sequence of pairs, each of which is written as a mapping of one entry. -/
  | pairs
  /-- A mapping. -/
  | mapping
  /-- The set of the keys of a mapping. -/
  | set
  /-- Nothing: there is no such type. -/
  | unknown
deriving DecidableEq, Repr

/-- The roles of the standard types. -/
def standardRoles : List (String × Role) :=
  [("null", .scalar .absent), ("bool", .scalar .truth), ("int", .scalar .integer),
    ("float", .scalar .fraction), ("timestamp", .scalar .date), ("str", .scalar .text),
    ("binary", .scalar .binary), ("merge", .scalar .merge), ("value", .scalar .default),
    ("seq", .sequence), ("omap", .pairs), ("pairs", .pairs), ("map", .mapping), ("set", .set)]

/-- The role of a node of a type, given its role by its form. -/
def Tag.role (tag : Tag) (byForm : Role) : Role :=
  match tag with
  | .named name =>
    let family := standardFamily.toList
    if family.isPrefixOf name.toList then
      (standardRoles.lookup (String.ofList (name.toList.drop family.length))).getD .unknown
    else .unknown
  | _ => byForm

/-- The role of a scalar. -/
def scalarRole (tag : Tag) (text : String) (plain : Bool) : Role :=
  let byForm := match tag with
    | .plain => Kind.ofPlainLine text
    | _ => if plain then Kind.ofPlain text else .text
  tag.role (.scalar byForm)

/-- The kind of scalars that a role is for. -/
def Role.kind? : Role → Option Kind
  | .scalar kind => some kind
  | _ => none

/-! ## Entries of mappings -/

/-- What a mapping consists of, or what is merged into one. -/
structure Entries where
  /-- The entries, of which the last one of a key counts. -/
  entries : List (Scalar × Value)
  /-- Whether only mappings are merged. -/
  fits : Bool
  /-- The faults of the entries. -/
  faults : Faults

namespace Entries

/-- What stands where only a mapping can be merged and there is none. -/
def misfit : Entries := ⟨[], false, []⟩

/-- The entries of some parts, one after the other. -/
def ofAll (parts : List Entries) : Entries :=
  ⟨parts.flatMap entries, parts.all fits, .ofAll (parts.map faults)⟩

/-- The faults of a mapping. What is merged is looked at before any entry. -/
def faultsWithin (entries : Entries) : Faults :=
  .within (if entries.fits then entries.faults else .own .malformed)

end Entries

/-! ## Meanings -/

/-- What a node comes to. -/
structure Meaning where
  /-- The value, which counts if nothing is wrong. -/
  value : Value
  /-- What is wrong. -/
  faults : Faults
  /-- The kind of scalars that the type of the node names, if it names one. -/
  kind : Option Kind
  /-- The text for which the node can stand: its own, or that of the default of a mapping. -/
  written : Option String
  /-- The pair of a key and its value for which a mapping of one entry can stand. -/
  pair : Option (Value × Faults)
  /-- The entries of a mapping. -/
  entries : Option Entries
  /-- What a mapping takes from the node where it merges it. -/
  merged : Entries

namespace Meaning

/-- What a node comes to as a key. A default is an ordinary text there. -/
def asKey (meaning : Meaning) : Meaning :=
  match meaning.kind, meaning.written with
  | some .default, some text => { meaning with value := .scalar (.text text), faults := [] }
  | _, _ => meaning

/-- The part of a mapping that a key and its value are. A key is a scalar. -/
def entry (key value : Meaning) : Entries :=
  let key := key.asKey
  match key.value with
  | .scalar scalar => ⟨[(scalar, value.value)], true, key.faults.beside value.faults⟩
  | _ => ⟨[], true, .ofAll [key.faults, .own .malformed, value.faults]⟩

/-- What a mapping of the given keys and values consists of. What it merges comes in front of its
own entries, which therefore count more. -/
def entriesOf (pairs : List (Meaning × Meaning)) : Entries :=
  let (merging, own) := pairs.partition fun pair => pair.1.kind == some .merge
  .ofAll (merging.map (fun pair => pair.2.merged) ++ own.map fun pair => entry pair.1 pair.2)

/-- What is written as a node. -/
inductive Content where
  /-- A scalar. -/
  | scalar (text : String)
  /-- A sequence. -/
  | sequence (items : List Meaning)
  /-- A mapping. -/
  | mapping (pairs : List (Meaning × Meaning))

namespace Content

/-- The text for which a content can stand. -/
def written : Content → Option String
  | .scalar text => some text
  | .sequence _ => none
  | .mapping pairs => do
    let pair ← pairs.find? fun pair => pair.1.kind == some .default
    pair.2.written

/-- The pair for which a content can stand. -/
def pair : Content → Option (Value × Faults)
  | .mapping [(key, value)] =>
    some (.sequence [key.value, value.value], key.faults.beside value.faults)
  | _ => none

/-- What a content consists of if it is a mapping. -/
def entries : Content → Option Entries
  | .mapping pairs => some (entriesOf pairs)
  | _ => none

/-- What a mapping takes from a content where it merges it. Of a sequence of mappings the earlier
ones count more. -/
def merged : Content → Entries
  | .scalar _ => .misfit
  | .sequence items => .ofAll (items.map fun item => item.entries.getD .misfit).reverse
  | .mapping pairs => entriesOf pairs

/-- A scalar as a value, and what is wrong with it. -/
def scalarValue (content : Content) (kind : Kind) : Value × Faults :=
  let refused (fault : Fault) : Value × Faults := (.scalar .absent, .own fault)
  match content, content.written with
  | _, none => refused .malformed
  | .mapping _, some text =>
    if kind = .date then refused .dateOfMapping
    else match Scalar.ofKind kind text with
      | .ok denoted => (.scalar denoted, [])
      | .error fault => refused fault
  | _, some text =>
    match Scalar.ofKind kind text with
    | .ok denoted => (.scalar denoted, [])
    | .error fault => refused fault

/-- The value of a content in a role, and what is wrong with it. A collection of another form than
its type is found to be wrong only when one looks within it. -/
def value (content : Content) (role : Role) : Value × Faults :=
  match role, content with
  | .scalar kind, content => content.scalarValue kind
  | .sequence, .sequence items =>
    (.sequence (items.map Meaning.value), .within (.ofAll (items.map Meaning.faults)))
  | .pairs, .sequence items =>
    let faults (item : Meaning) : Faults := (item.pair.map Prod.snd).getD (.own .malformed)
    (.sequence (items.filterMap fun item => item.pair.map Prod.fst),
      .within (.ofAll (items.map faults)))
  | .mapping, .mapping pairs =>
    let entries := entriesOf pairs
    (.mapping (Value.putAll entries.entries), entries.faultsWithin)
  | .set, .mapping pairs =>
    let entries := entriesOf pairs
    (.set ((Value.putAll entries.entries).map Prod.fst), entries.faultsWithin)
  | .unknown, _ => (.scalar .absent, .own .malformed)
  | _, _ => (.scalar .absent, .within (.own .malformed))

end Content

/-- What a node with some content comes to in a role. -/
def ofContent (role : Role) (content : Content) : Meaning :=
  let (value, faults) := content.value role
  ⟨value, faults, role.kind?, content.written, content.pair, content.entries, content.merged⟩

/-- What a name comes to within the node that bears it. Nothing can be merged from there that is not
there already. -/
def within : Meaning :=
  let nothing : Entries := ⟨[], true, []⟩
  ⟨.loop, [], none, none, none, some nothing, nothing⟩

/-! ## Meanings of nodes -/

/-- The names of nodes so far with what the nodes come to, as far as they are complete. -/
abbrev Names := List (String × Option Meaning)

/-- The names within a node that may bear one. -/
def Names.open? (names : Names) (properties : Properties) : Option Names :=
  match properties.anchor with
  | none => some names
  | some name => if (names.lookup name).isSome then none else some ((name, none) :: names)

/-- The names behind a node that may bear one. -/
def Names.close (names : Names) (properties : Properties) (meaning : Meaning) : Names :=
  match properties.anchor with
  | none => names
  | some name => (name, some meaning) :: names

mutual

/-- What a node comes to, and the names behind it. -/
def ofNode (node : Node) (names : Names) : Option (Meaning × Names) :=
  match node with
  | .reference name => do
    let meaning ← names.lookup name
    pure (meaning.getD within, names)
  | .scalar properties text plain => do
    let names ← names.open? properties
    let meaning := ofContent (scalarRole properties.tag text plain) (.scalar text)
    pure (meaning, names.close properties meaning)
  | .sequence properties items => do
    let (items, names) ← ofItems items (← names.open? properties)
    let meaning := ofContent (properties.tag.role .sequence) (.sequence items)
    pure (meaning, names.close properties meaning)
  | .mapping properties entries => do
    let (pairs, names) ← ofPairs entries (← names.open? properties)
    let meaning := ofContent (properties.tag.role .mapping) (.mapping pairs)
    pure (meaning, names.close properties meaning)

/-- What some nodes come to, in order. -/
def ofItems (items : List Node) (names : Names) : Option (List Meaning × Names) :=
  match items with
  | [] => some ([], names)
  | item :: items => do
    let (item, names) ← ofNode item names
    let (items, names) ← ofItems items names
    pure (item :: items, names)

/-- What some keys and values come to, in order. -/
def ofPairs (pairs : List (Node × Node)) (names : Names) :
    Option (List (Meaning × Meaning) × Names) :=
  match pairs with
  | [] => some ([], names)
  | (key, value) :: pairs => do
    let (key, names) ← ofNode key names
    let (value, names) ← ofNode value names
    let (pairs, names) ← ofPairs pairs names
    pure ((key, value) :: pairs, names)

end

end Meaning

/-- The value of a node. -/
def Value.ofNode (node : Node) : Except Fault Value :=
  match Meaning.ofNode node [] with
  | none => .error .malformed
  | some (meaning, _) =>
    match meaning.faults.first? with
    | some fault => .error fault
    | none => .ok meaning.value

/-- The value that a text denotes. -/
def Value.read (text : String) : Except Fault Value :=
  match Node.read? text with
  | some node => ofNode node
  | none => .error .malformed

end Extraction.Yaml
