/-!
# Scanners

Readers of characters, as they are needed for the small formats. A scanner takes some characters
from the front of a text or fails, and what fails has taken nothing. Scanners over other symbols
than characters work alike.

* `Scanner.satisfy`, `Scanner.literal` and `Scanner.takeWhile` take characters.
* `Scanner.many` repeats a scanner until it fails or takes nothing.
-/

namespace Extraction

/-- A reader that takes symbols from the front of a list. -/
abbrev Scanner.Over (σ : Type) := StateT (List σ) Option

/-- A reader that takes characters from the front of a text. -/
abbrev Scanner := Scanner.Over Char

namespace Scanner

variable {α σ : Type}

/-- Takes one symbol with a property. -/
def satisfy (p : σ → Bool) : Over σ σ := fun
  | [] => none
  | c :: rest => if p c then some (c, rest) else none

/-- Takes the given character. -/
def char (c : Char) : Scanner Unit := do
  let _ ← satisfy (· == c)

/-- Takes the given characters. -/
def literal (word : List Char) : Scanner Unit := fun cs =>
  if word.isPrefixOf cs then some ((), cs.drop word.length) else none

/-- Takes the given word without regard to the case of the basic Latin letters. -/
def literalNoCase (word : List Char) : Scanner Unit := fun cs =>
  if (word.map Char.toLower).isPrefixOf (cs.map Char.toLower) then
    some ((), cs.drop word.length)
  else none

/-- Takes characters as long as they have a property. -/
def takeWhile (p : Char → Bool) : Scanner (List Char) := fun cs =>
  some (cs.takeWhile p, cs.dropWhile p)

/-- Takes characters as long as they have a property, but at least one. -/
def takeSome (p : Char → Bool) : Scanner (List Char) := do
  let c ← satisfy p
  let cs ← Scanner.takeWhile p
  pure (c :: cs)

/-- What is left; nothing is taken. -/
def remaining : Over σ (List σ) := fun cs => some (cs, cs)

/-- The next symbol, if there is one; nothing is taken. -/
def peek? : Over σ (Option σ) := fun cs => some (cs.head?, cs)

/-- Succeeds at the end of the list only. -/
def atEnd : Over σ Unit := fun cs => if cs.isEmpty then some ((), cs) else none

/-- What a scanner takes, or nothing when it fails. -/
def optional (p : Over σ α) : Over σ (Option α) := (some <$> p) <|> pure none

/-- Takes a number of symbols. -/
def skip (count : Nat) : Over σ Unit := fun cs => some ((), cs.drop count)

/-- The answers of a scanner, one after the other, until it fails; an answer that took nothing is
the last one. -/
def manyFrom (p : Over σ α) (cs : List σ) : List α × List σ :=
  match p cs with
  | none => ([], cs)
  | some (a, rest) =>
    if rest.length < cs.length then
      let (as, rest) := manyFrom p rest
      (a :: as, rest)
    else ([a], rest)
termination_by cs.length

/-- Repeats a scanner until it fails or takes nothing. -/
def many (p : Over σ α) : Over σ (List α) := fun cs => some (manyFrom p cs)

/-- The text in front of the first place where a property of what is left holds, and what is left
there; nothing if there is no such place. -/
def splitWhere (found : List Char → Bool) : List Char → Option (List Char × List Char)
  | [] => none
  | c :: rest =>
    if found (c :: rest) then some ([], c :: rest)
    else match splitWhere found rest with
      | some (before, after) => some (c :: before, after)
      | none => none

/-- Takes the text in front of the first place where a property of what is left holds. -/
def takeUntil (found : List Char → Bool) : Scanner (List Char) := splitWhere found

/-- Whether a scanner succeeds on a list. -/
def accepts (p : Over σ α) (cs : List σ) : Bool := (p cs).isSome

end Scanner

end Extraction
