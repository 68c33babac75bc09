import Extraction.Selector.Token

/-!
# Reading selectors

A selector is read token by token, with the groups that are open on a stack.

* `Selector.Reading` are the alternatives of a selector or of a group as far as they are read, and
  `Selector.Readings` those of a selector and its open groups.
* `Selector.read` is the selector that a text denotes, if it denotes one.

Of two faults the one further left is found.
-/

namespace Extraction.Selector

/-- A compound that is complete. -/
structure Link where
  /-- How its element stands to that of the compound before it. -/
  combinator : Combinator
  /-- Its tests. -/
  tests : List Test

/-- The alternative of some compounds, the last one first. -/
def Complex.ofLinks : List Link → Complex
  | [] => .compound []
  | [link] => .compound link.tests
  | link :: links => .combined (ofLinks links) link.combinator link.tests

/-- The path through some compounds. -/
def Path.ofLinks : List Link → Path
  | [] => .arrived
  | link :: links => .step link.combinator link.tests (ofLinks links)

/-- Some alternatives that are being read. -/
structure Reading where
  /-- The group whose alternatives they are, if it is one. -/
  group : Option Group
  /-- The alternatives that are complete, the last one first, each with the last compound first. -/
  complete : List (List Link)
  /-- The compounds of the current alternative that are complete, the last one first. -/
  links : List Link
  /-- How the current compound stands to the one before it. -/
  combinator : Combinator
  /-- The tests of the current compound. -/
  tests : List Test

namespace Reading

/-- The reading before the first token. -/
def start (group : Option Group) : Reading := ⟨group, [], [], .descendant, []⟩

/-- Whether an alternative may be missing. -/
def mayMiss (reading : Reading) : Bool := reading.group == some (.either true)

/-- Whether an alternative may start with a relation. -/
def isRelative (reading : Reading) : Bool := reading.group == some .leads

/-- The reading after some tests. -/
def addTests (reading : Reading) (tests : List Test) : Reading :=
  { reading with tests := reading.tests ++ tests }

/-- The compounds of the current alternative with the current one, which must have a test. -/
def current? (reading : Reading) : Option (List Link) :=
  if reading.tests.isEmpty then none
  else some (⟨reading.combinator, reading.tests⟩ :: reading.links)

/-- The reading after an alternative. -/
def addAlternative (reading : Reading) (links : List Link) : Reading :=
  { start reading.group with complete := links :: reading.complete }

/-- An alternative that no element matches. -/
def missing : List Link := [⟨.descendant, [.none]⟩]

/-- The reading after a comma. -/
def comma? (reading : Reading) : Option Reading :=
  match reading.current? with
  | some links => some (reading.addAlternative links)
  | none => if reading.mayMiss then some (reading.addAlternative missing) else none

/-- The reading after a relation. -/
def relate? (reading : Reading) (combinator : Combinator) : Option Reading :=
  match reading.current? with
  | some links => some { reading with links := links, combinator := combinator, tests := [] }
  | none =>
    if reading.isRelative && reading.combinator == .descendant then
      some { reading with combinator := combinator }
    else none

/-- The alternatives when all that was read is complete, each with the last compound first. -/
def finish? (reading : Reading) : Option (List (List Link)) :=
  match reading.current? with
  | some links => some (links :: reading.complete).reverse
  | none =>
    if reading.mayMiss && (reading.complete.isEmpty || reading.links.isEmpty) then
      some (missing :: reading.complete).reverse
    else none

end Reading

/-- The test of a group with the given alternatives. -/
def Group.test (group : Group) (alternatives : List (List Link)) : Test :=
  let complexes := alternatives.map Complex.ofLinks
  match group with
  | .either _ => .either complexes
  | .neither => .neither complexes
  | .leads => .leads (alternatives.map fun links => Path.ofLinks links.reverse)
  | .nothing => .none
  | .counted steps fromLast => .nth steps ⟨fromLast, false⟩ complexes

/-- A selector that is being read. -/
structure Readings where
  /-- The alternatives of the innermost open group, or of the selector if none is open. -/
  inner : Reading
  /-- Those around it, the innermost first. -/
  outer : List Reading

/-- Reads a token. -/
def Readings.add (readings : Readings) (token : Token) : Except Fault Readings :=
  let goOn (reading? : Option Reading) : Except Fault Readings :=
    match reading? with
    | some reading => .ok { readings with inner := reading }
    | none => .error .malformed
  let reading := readings.inner
  match token with
  | .tests tests => goOn (reading.addTests tests)
  -- A name cannot follow another test of its compound.
  | .leading test => goOn (if reading.tests.isEmpty then some (reading.addTests [test]) else none)
  | .relation combinator => goOn (reading.relate? combinator)
  | .comma => goOn reading.comma?
  | .opening group => .ok ⟨.start (some group), reading :: readings.outer⟩
  | .closing =>
    -- The group is complete, and is a test of the compound around it.
    match reading.group, reading.finish?, readings.outer with
    | some group, some alternatives, around :: outer =>
      .ok ⟨around.addTests [group.test alternatives], outer⟩
    | _, _, _ => .error .malformed
  | .noElement => .error .noElement

/-- The selector when all that was read is complete. -/
def Readings.finish (readings : Readings) : Except Fault Selector :=
  match readings.outer, readings.inner.finish? with
  | [], some alternatives => .ok ⟨alternatives.map Complex.ofLinks⟩
  | _, _ => .error .malformed

/-- Whether a text is nothing but white space and comments. -/
def isGap (cs : List Char) : Bool := Scanner.accepts (do let _ ← gap; Scanner.atEnd) cs

/-- The number of characters in the white space and the comments at the end of a text. -/
def gapLength : List Char → Nat
  | [] => 0
  | c :: rest => if isGap (c :: rest) then rest.length + 1 else gapLength rest

/-- Reads the rest of a selector, apart from the given number of characters at its end. -/
def readFrom (apart : Nat) (readings : Readings) (cs : List Char) : Except Fault Selector :=
  if cs.length ≤ apart then readings.finish
  else match nextToken cs with
    | none => .error .malformed
    | some (token, rest) =>
      match readings.add token with
      | .error fault => .error fault
      | .ok readings =>
        if rest.length < cs.length then readFrom apart readings rest else .error .malformed
termination_by cs.length

/-- The selector that a text denotes. -/
def read (text : String) : Except Fault Selector :=
  let cs := text.toList.map fun c => if c = '\x00' then '\ufffd' else c
  -- White space in front does not relate the first compound to anything, nor does it at the end.
  match gap cs with
  | some (_, rest) => readFrom (gapLength rest) ⟨.start none, []⟩ rest
  | none => .error .malformed

end Extraction.Selector
