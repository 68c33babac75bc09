import Extraction.Selector.Named
import Extraction.Selector.Word

/-!
# Tokens of selectors

A selector as a row of tokens: tests, the signs between compounds and alternatives, and the groups
that hold selectors of their own.

* `Selector.Token` are the tokens, and `Selector.nextToken` takes the next one.
-/

namespace Extraction.Selector

/-- A group of alternatives within a selector. -/
inductive Group where
  /-- Elements that match one of them. An alternative may be missing where the argument says so. -/
  | either (mayMiss : Bool)
  /-- Elements that match none of them. -/
  | neither
  /-- Elements from which one of them leads to another element. -/
  | leads
  /-- No elements. -/
  | nothing
  /-- Elements with a number among those that match one of them. -/
  | counted (steps : Steps) (fromLast : Bool)
deriving DecidableEq, Repr

/-- A token of a selector. -/
inductive Token where
  /-- Some tests. -/
  | tests (tests : List Test)
  /-- A test by name, which only starts a compound. -/
  | leading (test : Test)
  /-- A relation to the compound before it. -/
  | relation (combinator : Combinator)
  /-- The border between alternatives. -/
  | comma
  /-- The start of a group. -/
  | opening (group : Group)
  /-- The end of a group. -/
  | closing
  /-- A part of an element, or a rule. -/
  | noElement

/-! ## Attributes -/

/-- Takes the sign of a comparison, and says whether the comparison must fail. -/
def comparison : Scanner (Comparison × Bool) :=
  (do Scanner.literal ['=']; pure (.equal, false)) <|>
  (do Scanner.literal ['!', '=']; pure (.equal, true)) <|>
  (do Scanner.literal ['^', '=']; pure (.starts, false)) <|>
  (do Scanner.literal ['$', '=']; pure (.ends, false)) <|>
  (do Scanner.literal ['*', '=']; pure (.holds, false)) <|>
  (do Scanner.literal ['~', '=']; pure (.word, false)) <|>
  (do Scanner.literal ['|', '=']; pure (.hyphened, false))

/-- Takes the letter that says whether case counts, if there is one. -/
def caseLetter : Scanner (Option Bool) :=
  Scanner.optional do
    let _ ← gap
    (do Scanner.literalNoCase ['i']; pure false) <|> (do Scanner.literalNoCase ['s']; pure true)

/-- Takes a test of an attribute. Of types case does not count. -/
def attributeTest : Scanner Test := do
  Scanner.char '['
  let _ ← gap
  let (_, attr) ← qualified name
  let attr := small attr
  let test ←
    (do
      let _ ← gap
      let (sign, fails) ← comparison
      let _ ← gap
      let value ← value
      let cased := (← caseLetter).getD (attr != "type")
      let test := Test.compare attr sign (String.ofList value) cased
      pure (if fails then lacking [test] else test)) <|>
    pure (.has attr)
  let _ ← gap
  Scanner.char ']'
  pure test

/-! ## Numbers in steps -/

/-- Takes digits as a number, behind a sign of the given kind. -/
def signed (negative : Bool) (digits : List Char) : Int :=
  if negative then -(Text.decimal digits : Int) else Text.decimal digits

/-- Takes a sign, and says whether it is a minus. -/
def sign : Scanner Bool := do
  let c ← Scanner.satisfy fun c => c == '+' || c == '-'
  pure (c == '-')

/-- Takes the offset behind a step, if there is one. -/
def offset : Scanner Int :=
  (do
    let _ ← gap
    let negative ← sign
    let _ ← gap
    let digits ← Scanner.takeSome Markup.isDecimal
    pure (signed negative digits)) <|> pure 0

/-- Takes numbers in steps: a word for the even or the odd ones, a step with an optional offset, or
a single number. -/
def steps : Scanner Steps :=
  (do Scanner.literalNoCase "even".toList; pure ⟨some 2, 0⟩) <|>
  (do Scanner.literalNoCase "odd".toList; pure ⟨some 2, 1⟩) <|>
  (do
    let negative := (← Scanner.optional sign).getD false
    let digits ← Scanner.takeWhile Markup.isDecimal
    (do
      Scanner.literalNoCase ['n']
      -- A step without a number is one.
      pure ⟨some (signed negative (if digits.isEmpty then ['1'] else digits)), ← offset⟩) <|>
    (do
      if digits.isEmpty then failure
      pure ⟨none, signed negative digits⟩))

/-! ## Tests behind a colon -/

/-- Takes the end of a group. -/
def closing : Scanner Unit := do
  let _ ← gap
  Scanner.char ')'

/-- Takes the numbers of a test by number and its end, or the start of the group of what is
counted. -/
def countedToken (fromLast : Bool) : Scanner Token := do
  let steps ← steps
  (do
    closing
    pure (.tests [.nth steps ⟨fromLast, false⟩ []])) <|>
  (do
    wideGap
    Scanner.literalNoCase "of".toList
    wideGap
    pure (.opening (.counted steps fromLast)))

/-- Takes the numbers of a test by number among the siblings of the same name, and its end. -/
def countedOfNameToken (fromLast : Bool) : Scanner Token := do
  let steps ← steps
  closing
  pure (.tests [.nth steps ⟨fromLast, true⟩ []])

/-- Takes the texts of a test for texts, and its end. What is no text starts a group. -/
def containsToken (directly : Bool) : Scanner Token :=
  (do
    let texts ← values
    closing
    pure (.tests [.contains directly texts])) <|> pure (.opening (.either false))

/-- Takes what stands behind a name with a bracket. -/
def openedToken (name : String) : Scanner Token :=
  match name with
  | "is" => pure (.opening (.either true))
  | "where" => pure (.opening (.either true))
  | "matches" => pure (.opening (.either false))
  | "not" => pure (.opening .neither)
  | "has" => pure (.opening .leads)
  | "current" => pure (.opening .nothing)
  | "host" => pure (.opening .nothing)
  | "host-context" => pure (.opening .nothing)
  | "nth-child" => countedToken false
  | "nth-last-child" => countedToken true
  | "nth-of-type" => countedOfNameToken false
  | "nth-last-of-type" => countedOfNameToken true
  | "contains" => containsToken false
  | "-soup-contains" => containsToken false
  | "-soup-contains-own" => containsToken true
  | _ => failure

/-- Takes a test behind a colon, or a part of an element behind two of them. -/
def colonToken : Scanner Token := do
  Scanner.char ':'
  (do
    let word := small (← name)
    match ← Scanner.optional (Scanner.char '(') with
    | some () =>
      let _ ← gap
      openedToken word
    | none =>
      match testsOf? word with
      | some tests => pure (.tests tests)
      | none => failure) <|>
  (do
    Scanner.char ':'
    let _ ← name
    pure .noElement)

/-! ## Other tokens -/

/-- Takes a test by name. A name that comes from somewhere in particular means no element here. -/
def nameToken : Scanner Token := do
  let (origin, word) ← qualified nameOrStar
  let test : Test :=
    if origin.any (· != ['*']) then .none
    else if word = ['*'] then .any
    else .name (small word)
  pure (.leading test)

/-- Takes the border between two compounds or two alternatives. -/
def border : Scanner Token := do
  let blanks ← gap
  let token ←
    (do Scanner.char ','; pure Token.comma) <|>
    (do Scanner.char '>'; pure (.relation .child)) <|>
    (do Scanner.char '+'; pure (.relation .next)) <|>
    (do Scanner.char '~'; pure (.relation .later)) <|>
    (do
      if !blanks then failure
      pure (.relation .descendant))
  let _ ← gap
  pure token

/-- Takes the next token. -/
def nextToken : Scanner Token :=
  (do closing; pure .closing) <|>
  colonToken <|>
  (do Scanner.char '&'; pure (.tests [.first])) <|>
  (do
    Scanner.char '@'
    Scanner.literalNoCase ['p']
    let _ ← name
    pure .noElement) <|>
  (do
    Scanner.char '#'
    pure (.tests [.id (String.ofList (← name))])) <|>
  (do
    Scanner.char '.'
    pure (.tests [.inClass (String.ofList (← name))])) <|>
  nameToken <|>
  (do pure (.tests [← attributeTest])) <|>
  border

end Extraction.Selector
