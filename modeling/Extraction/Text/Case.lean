import Extraction.Text.Letter

/-!
# Capitals and small letters

* `capitals` is a text in capitals, as far as they are basic Latin letters.
* `smallLetters` is a text in small letters.
* `caseless` is one character for all that differ by case only.
-/

namespace Extraction.Text

/-- The capital of a letter if it is a basic Latin one, and any other character itself. Two letters
beyond the basic ones have such capitals. -/
def capital (c : Char) : Char :=
  if c = '\u0131' then 'I'
  else if c = '\u017f' then 'S'
  else c.toUpper

/-- A text in capitals. -/
def capitals (text : String) : String := String.ofList (text.toList.map capital)

/-- Whether a code point is in one of some ranges. -/
def inRanges (ranges : List (Nat × Nat)) (c : Char) : Bool :=
  ranges.any fun (first, last) => first ≤ c.toNat && c.toNat ≤ last

/-- The small letter of a capital, and any other character itself. -/
def smallLetter (c : Char) : Char :=
  let n := c.toNat
  if n < 0x80 then c.toLower
  else if c = '\u0130' then 'i'
  else match capitalRanges.find? fun (first, last, step, _) =>
      first ≤ n && n ≤ last && (n - first) % step == 0 with
    | some (_, _, _, distance) => Char.ofNat (n + distance).toNat
    | none => c

/-- A character that is passed over when the letters around a letter are looked for. -/
def isCaseIgnorable (c : Char) : Bool := inRanges caseIgnorableRanges c

/-- A letter with case that is not passed over. -/
def isCased (c : Char) : Bool := inRanges casedRanges c

/-- Whether the next letter of a text, if there is one, follows without a gap. -/
def continuesWord (cs : List Char) : Bool := (cs.dropWhile isCaseIgnorable).head?.any isCased

/-- A text in small letters, behind a letter or not. A sigma at the end of a word has a form of its
own, and the capital I with a dot keeps the dot as a mark. -/
def smallLettersFrom (behindLetter : Bool) : List Char → List Char
  | [] => []
  | c :: rest =>
    let small :=
      if c = '\u03a3' then [if behindLetter && !continuesWord rest then '\u03c2' else '\u03c3']
      else if c = '\u0130' then ['i', '\u0307']
      else [smallLetter c]
    small ++ smallLettersFrom (if isCaseIgnorable c then behindLetter else isCased c) rest

/-- A text in small letters. -/
def smallLetters (cs : List Char) : List Char :=
  if cs.all fun c => c.toNat < 0x80 then cs.map Char.toLower else smallLettersFrom false cs

/-- One character for all that are the same without regard to case. -/
def caseless (c : Char) : Char :=
  let small := smallLetter c
  match caseVariants.find? fun forms => forms.contains small.toNat with
  | some (form :: _) => Char.ofNat form
  | _ => small

/-- Whether two characters are the same without regard to case. -/
def sameLetter (c d : Char) : Bool := caseless c == caseless d

/-- Whether a text starts with another without regard to case. -/
def startsWithLetters : List Char → List Char → Bool
  | [], _ => true
  | _, [] => false
  | c :: cs, d :: ds => sameLetter c d && startsWithLetters cs ds

end Extraction.Text
