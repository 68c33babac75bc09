import Extraction.Text.Blank
import Extraction.Text.Digit
import Extraction.Yaml.Token

/-!
# Scalars of YAML

How the text of a scalar is written: plainly, in quotes, or as a block of lines.

* `Yaml.plain` takes a plain scalar, which ends where it could be mistaken for something else.
* `Yaml.singleQuoted` and `Yaml.doubleQuoted` take a scalar in quotes; the double ones have
  escapes.
* `Yaml.block` takes a block of lines.

A line break within a plain or quoted scalar stands for a space, and further ones for
themselves.
-/

namespace Extraction.Yaml

/-- What the breaks in a row within a scalar stand for. -/
def folded : List Char → List Char
  | [] => []
  | first :: later =>
    if first != '\n' then first :: later
    else if later.isEmpty then [' ']
    else later

/-! ## Plain scalars -/

/-- Whether a plain scalar ends in front of a character with the given rest. Within brackets and
braces more characters end it. -/
def endsPlain (enclosed : Bool) (c : Char) (rest : List Char) : Bool :=
  isBlank c || isBreak c || (c == ':' && atGap rest) ||
    (enclosed && (",?[]\x7b\x7d".toList.contains c ||
      (c == ':' && rest.head?.any fun next => ",[]\x7b\x7d".toList.contains next)))

/-- The characters up to the first blank or the end of a plain scalar, and what follows. -/
def plainWord (enclosed : Bool) : List Char → List Char × List Char
  | [] => ([], [])
  | c :: rest =>
    if endsPlain enclosed c rest then ([], c :: rest)
    else
      let (word, rest) := plainWord enclosed rest
      (c :: word, rest)

/-- What stands between two words of a plain scalar. -/
structure PlainGap where
  /-- What it stands for. Nothing if the scalar cannot go on behind it. -/
  meaning : Option (List Char)
  /-- The column behind it, if there is a line break in it. -/
  column : Option Nat
  /-- The text behind it. -/
  rest : List Char

/-- The breaks at the front of a text among spaces, the column and the text behind them, and
whether they end in front of a mark between documents. -/
def breaksAhead (column : Nat) : List Char → List Char × Nat × List Char × Bool
  | [] => ([], column, [], false)
  | c :: rest =>
    if isBreak c then
      -- A mark between documents ends the scalar, also where more breaks would follow.
      if atSeparator rest then ([c], 0, rest, true)
      else
        let (breaks, behind) := breaksAhead 0 rest
        (c :: breaks, behind)
    else if c == ' ' then breaksAhead (column + 1) rest
    else ([], column, c :: rest, false)

/-- The gap at the front of a text. -/
def plainGap (cs : List Char) : PlainGap :=
  let spaces := cs.takeWhile (· == ' ')
  let rest := cs.dropWhile (· == ' ')
  match rest with
  | c :: _ =>
    if isBreak c then
      let (breaks, column, rest, separated) := breaksAhead 0 rest
      ⟨if separated then none else some (folded breaks), some column, rest⟩
    else ⟨if spaces.isEmpty then none else some spaces, none, rest⟩
  | [] => ⟨none, none, []⟩

/-- The words of a plain scalar from a given text on, whether a line break follows the last one
that was taken, and what is left. The next lines of the scalar start at the given column or
further on. -/
def plainWords (enclosed : Bool) (column : Nat) (crossed : Bool) (cs : List Char) :
    List Char × Bool × List Char :=
  match plainWord enclosed cs with
  | ([], _) => ([], crossed, cs)
  | (word, rest) =>
    let gap := plainGap rest
    let crossed := gap.column.isSome
    match gap.meaning with
    | none => (word, crossed, gap.rest)
    | some between =>
      -- A comment ends the scalar, and so does a line that is not indented far enough.
      if gap.rest.head? == some '#' || (!enclosed && gap.column.any (· < column)) then
        (word, crossed, gap.rest)
      else if gap.rest.length < cs.length then
        match plainWords enclosed column crossed gap.rest with
        -- Nothing is left of the scalar, so the gap in front does not belong to it.
        | ([], behind) => (word, behind)
        | (words, behind) => (word ++ between ++ words, behind)
      else (word, crossed, gap.rest)
termination_by cs.length

/-- Takes a plain scalar. The answer also says whether a line break was taken behind its last
word. -/
def plain (enclosed : Bool) (column : Nat) : Scanner (List Char × Bool) := fun cs =>
  let (text, crossed, rest) := plainWords enclosed column false cs
  some ((text, crossed), rest)

/-! ## Quoted scalars -/

/-- Takes a line break within quotes and the blanks behind it. -/
def quotedBreak : Scanner Char := do
  let c ← Scanner.satisfy isBreak
  if atSeparator (← Scanner.remaining) then failure
  let _ ← Scanner.takeWhile isBlank
  pure c

/-- Takes blanks within quotes, or the breaks behind them. -/
def quotedGap : Scanner (List Char) := do
  let blanks ← Scanner.takeWhile isBlank
  match ← Scanner.optional quotedBreak with
  | some first =>
    let later ← Scanner.many quotedBreak
    pure (folded (first :: later))
  | none => pure blanks

/-- Takes the text up to the closing quote, piece by piece. -/
def quotedWith (quote : Char) (piece : Scanner (List Char)) : Scanner (List Char) := do
  Scanner.char quote
  let pieces ← Scanner.many (piece <|> quotedGap)
  Scanner.char quote
  pure pieces.flatten

/-- Takes a scalar in single quotes. A quote within it is written twice. -/
def singleQuoted : Scanner (List Char) :=
  quotedWith '\'' <|
    (Scanner.takeSome fun c => c != '\'' && !isBlank c && !isBreak c) <|>
    (do
      Scanner.literal ['\'', '\'']
      pure ['\''])

/-- The character of an escape by a letter. -/
def letterEscape? (c : Char) : Option Char :=
  [('0', '\x00'), ('a', '\x07'), ('b', '\x08'), ('t', '\t'), ('\t', '\t'), ('n', '\n'),
    ('v', '\x0b'), ('f', '\x0c'), ('r', '\r'), ('e', '\x1b'), (' ', ' '), ('"', '"'),
    ('\\', '\\'), ('/', '/'), ('N', '\u0085'), ('_', '\u00a0'), ('L', '\u2028'),
    ('P', '\u2029')].lookup c

/-- The number of digits of an escape by the code of a character. -/
def codeEscapeLength? (c : Char) : Option Nat :=
  [('x', 2), ('u', 4), ('U', 8)].lookup c

/-- Takes a number of hexadecimal digits. -/
def hexDigits : Nat → Scanner (List Char)
  | 0 => pure []
  | count + 1 => do
    let c ← Scanner.satisfy Text.isHexDigit
    let cs ← hexDigits count
    pure (c :: cs)

/-- Takes an escape behind its backslash. A break that is escaped stands for nothing. -/
def escapeSequence : Scanner (List Char) :=
  (do
    let _ ← quotedBreak
    Scanner.many quotedBreak) <|>
  (do
    let c ← Scanner.satisfy fun _ => true
    match letterEscape? c, codeEscapeLength? c with
    | some c, _ => pure [c]
    | none, some length =>
      let code := Text.hexadecimal (← hexDigits length)
      if code.isValidChar then pure [Char.ofNat code] else failure
    | none, none => failure)

/-- Takes a scalar in double quotes. -/
def doubleQuoted : Scanner (List Char) :=
  quotedWith '"' <|
    (Scanner.takeSome fun c => c != '"' && c != '\\' && !isBlank c && !isBreak c) <|>
    (do
      Scanner.char '\\'
      escapeSequence)

/-! ## Blocks of lines -/

/-- What is done with the line breaks at the end of a block. -/
inductive Chomping where
  /-- None is kept. -/
  | strip
  /-- The first is kept. -/
  | clip
  /-- All are kept. -/
  | keep
deriving DecidableEq, Repr

/-- Takes the sign for what is done with the breaks at the end. -/
def chompingSign : Scanner Chomping := do
  let c ← Scanner.satisfy fun c => c == '+' || c == '-'
  pure (if c == '+' then .keep else .strip)

/-- Takes the digit for the indentation of a block. -/
def indentationDigit : Scanner Nat := do
  let c ← Scanner.satisfy fun c => '1' ≤ c && c ≤ '9'
  pure (Text.digitValue c)

/-- Takes the rest of a line: spaces, a comment, and the break. -/
def restOfLine : Scanner Unit := do
  let _ ← Scanner.takeWhile (· == ' ')
  if (← Scanner.peek?) == some '#' then
    let _ ← Scanner.takeWhile fun c => !isBreak c
  match ← Scanner.optional (Scanner.satisfy isBreak) with
  | some _ => pure ()
  | none => Scanner.atEnd

/-- Takes the line in front of a block: the two signs in either order, and nothing else. -/
def blockHeader : Scanner (Chomping × Option Nat) := do
  let signFirst ← Scanner.optional chompingSign
  let digit ← Scanner.optional indentationDigit
  let signLast ← if signFirst.isNone && digit.isSome then Scanner.optional chompingSign
    else pure none
  match ← Scanner.peek? with
  | some c => if c != ' ' && !isBreak c then failure
  | none => pure ()
  restOfLine
  pure ((signFirst <|> signLast).getD .clip, digit)

/-- The breaks in front of the next line of a block with the given indentation, the column
behind them, and what follows. -/
def blockBreaks (indent column : Nat) : List Char → List Char × Nat × List Char
  | [] => ([], column, [])
  | c :: rest =>
    if c == ' ' && column < indent then blockBreaks indent (column + 1) rest
    else if isBreak c then
      let (breaks, behind) := blockBreaks indent 0 rest
      (c :: breaks, behind)
    else ([], column, c :: rest)

/-- The breaks in front of the first line of a block, and the indentation that this line and the
empty ones in front of it give the block. -/
def blockMargin (cs : List Char) : List Char × Nat × Nat × List Char :=
  let ahead := cs.takeWhile fun c => c == ' ' || isBreak c
  let widths := (Text.pieces isBreak ahead).map List.length
  (ahead.filter isBreak, widths.foldl max 0, widths.getLast?.getD 0, cs.drop ahead.length)

/-- What the break between two lines of a block stands for. Where a block is folded, a line feed
between two lines that are not indented further is a space, or nothing if empty lines follow. -/
def blockJoint (folds : Bool) (line : List Char) (lineBreak : Char) (breaks next : List Char) :
    List Char :=
  if folds && lineBreak == '\n' && !line.head?.any isBlank && !next.head?.any isBlank then
    if breaks.isEmpty then [' '] else []
  else [lineBreak]

/-- The lines of a block from the given breaks and column on, and what follows the block. -/
def blockLines (folds : Bool) (chomping : Chomping) (indent : Nat) (breaks : List Char)
    (column : Nat) (cs : List Char) : List Char × List Char :=
  let line := cs.takeWhile fun c => !isBreak c
  match cs.dropWhile fun c => !isBreak c with
  | [] =>
    -- The last line of the text has no break at its end.
    if column == indent && !cs.isEmpty then (breaks ++ line, [])
    else (if chomping = .keep then breaks else [], cs)
  | lineBreak :: rest =>
    if column == indent then
      let (later, next, behind) := blockBreaks indent 0 rest
      -- A line of the same indentation goes on with the block, and any other one ends it.
      if _h : next = indent ∧ 0 < behind.length ∧ behind.length < cs.length then
        let joint := blockJoint folds line lineBreak later behind
        let (text, behind) := blockLines folds chomping indent later next behind
        (breaks ++ line ++ joint ++ text, behind)
      else
        let ending := match chomping with
          | .strip => []
          | .clip => [lineBreak]
          | .keep => lineBreak :: later
        (breaks ++ line ++ ending, behind)
    else (if chomping = .keep then breaks else [], cs)
termination_by cs.length
decreasing_by exact _h.2.2

/-- Takes a block of lines behind its first character. Its indentation is the given one at
least. -/
def block (folds : Bool) (least : Nat) : Scanner (List Char) := do
  let (chomping, digit) ← blockHeader
  let cs ← Scanner.remaining
  let (text, rest) := match digit with
    | some digit =>
      -- The digit counts from the column of what contains the block, one to the left of the least.
      let indent := least + digit - 1
      let (breaks, column, rest) := blockBreaks indent 0 cs
      blockLines folds chomping indent breaks column rest
    | none =>
      let (breaks, indent, column, rest) := blockMargin cs
      blockLines folds chomping (max least indent) breaks column rest
  set rest
  pure text

end Extraction.Yaml
