import Extraction.Identifier
import Extraction.SyntaxFault

/-!
# Reading tokens

A cursor is a place in a source together with the text that is still to be read from there.
Tokens are pulled from it one at a time.

* `Cursor.next` reads one token. At the end of the input it delivers the end again and again.
* `Cursor.scan` reads all tokens up to the end, or up to a character that starts no token.

A cursor that meets such a character stops in front of it and stays there.
-/

namespace Extraction

/-- What a text starts with: a token without its place. -/
structure Lexeme where
  /-- The kind of the token. -/
  kind : Token.Kind
  /-- The text of the token. -/
  text : List Char
  /-- The number of characters that it takes up, spaces after a name included. -/
  width : Nat

namespace Lexeme

/-- The digits that the text `cs` starts with. -/
def integer (cs : List Char) : Lexeme :=
  let digits := cs.takeWhile Identifier.isDigit
  ⟨.integer, digits, digits.length⟩

/-- The name that the text `cs` starts with; blanks at its end are taken up but are no part of it.
-/
def name (cs : List Char) : Lexeme :=
  let name := Identifier.extent [] cs
  ⟨.name, Text.trimEnd name, name.length⟩

/-- The token that a text starts with, unless it is empty or its first character starts none. This
is the choice that `Lexer.next_token` makes. -/
def ofChars? : List Char → Option Lexeme
  | [] => none
  | c :: rest =>
    if Identifier.isDigit c then some (integer (c :: rest))
    else match Identifier.keywordAt (c :: rest) with
      | some keyword => some ⟨keyword.kind, keyword.text.toList, keyword.text.length⟩
      | none =>
        match Token.Kind.ofSymbol? c with
        | some kind => some ⟨kind, [c], 1⟩
        | none =>
          if Identifier.isIdentifierChar c then some (name (c :: rest)) else none

/-- The text of a number is the digits. -/
@[simp]
theorem text_integer (cs : List Char) : (integer cs).text = cs.takeWhile Identifier.isDigit := rfl

/-- The text of a name is without the blanks at its end. -/
@[simp]
theorem text_name (cs : List Char) : (name cs).text = Text.trimEnd (Identifier.extent [] cs) := rfl

/-- A token takes up at least one character. -/
theorem width_pos {cs : List Char} {lexeme : Lexeme} (h : ofChars? cs = some lexeme) :
    0 < lexeme.width := by
  -- One case for each kind of lexeme, in the order in which they are tried.
  unfold ofChars? at h
  split at h
  · simp at h
  · rename_i c rest
    split at h
    · rename_i hc
      simp only [Option.some.injEq] at h
      subst h
      simp [integer, hc]
    · split at h
      · rename_i keyword _
        simp only [Option.some.injEq] at h
        subst h
        cases keyword <;> decide
      · split at h
        · simp only [Option.some.injEq] at h
          subst h
          exact Nat.one_pos
        · split at h
          · rename_i hc
            simp only [Option.some.injEq] at h
            subst h
            simp [name, Identifier.extent, Identifier.continues, hc]
          · simp at h

end Lexeme

/-- A place in a source, with the text from there on: what a `Lexer` knows of where it is. -/
structure Cursor where
  /-- The text that is still to be read. -/
  rest : List Char
  /-- The number of characters that were read. -/
  offset : Nat
  /-- The line of the next character, counted from one. -/
  line : Nat
  /-- The number of characters before it on its line. -/
  column : Nat
  /-- The path of the source, if it came from a file. -/
  path : Option String
deriving DecidableEq, Repr

namespace Cursor

/-- The cursor in front of `source`, which was read from `path`. -/
def start (source : String) (path : Option String) : Cursor := ⟨source.toList, 0, 1, 0, path⟩

/-- Where the next character of `cursor` stands. -/
def location (cursor : Cursor) : Location := ⟨cursor.line, cursor.column, cursor.path⟩

/-- `cursor` behind its next character; at the end of the input it stays. -/
def step (cursor : Cursor) : Cursor :=
  match cursor.rest with
  | [] => cursor
  | c :: rest =>
    if c = '\n' then ⟨rest, cursor.offset + 1, cursor.line + 1, 0, cursor.path⟩
    else ⟨rest, cursor.offset + 1, cursor.line, cursor.column + 1, cursor.path⟩

/-- The cursor a number of characters further on (`Lexer._advance`), but no further than the end of
the input. -/
def advance : Nat → Cursor → Cursor
  | 0, cursor => cursor
  | count + 1, cursor => if cursor.rest = [] then cursor else advance count cursor.step

/-- `cursor` behind the spaces that stand next. -/
def skipSpaces (cursor : Cursor) : Cursor :=
  cursor.advance (cursor.rest.takeWhile Identifier.isSpace).length

/-- Reads `lexeme`, which stands next: its text, and the cursor behind all that it takes up. -/
def read (cursor : Cursor) (lexeme : Lexeme) : String × Cursor :=
  (String.ofList lexeme.text, cursor.advance lexeme.width)

/-- Reads the digits in front of `cursor` (`Lexer._read_integer`). -/
def readInteger (cursor : Cursor) : String × Cursor := cursor.read (.integer cursor.rest)

/-- Reads what continues a name in front of `cursor` (`Lexer._read_identifier`); blanks at its end
are read but not delivered. -/
def readName (cursor : Cursor) : String × Cursor := cursor.read (.name cursor.rest)

/-- Reads the token in front of `cursor`, which moves behind it (`Lexer.next_token`). A character
that starts no token is an error, and `cursor` moves no further than in front of it. -/
def next (cursor : Cursor) : Except (Failure SyntaxFault) Token × Cursor :=
  let here := cursor.skipSpaces
  match here.rest with
  | [] => (.ok ⟨.endOfInput, "", here.line, here.column⟩, here)
  | c :: _ =>
    match Lexeme.ofChars? here.rest with
    | some lexeme =>
      (.ok ⟨lexeme.kind, String.ofList lexeme.text, here.line, here.column⟩,
        here.advance lexeme.width)
    | none => (.error ⟨.unreadable c, here.location.place⟩, here)

/-! ## Progress -/

/-- A step leaves the text without its first character. -/
@[simp]
theorem rest_step (cursor : Cursor) : cursor.step.rest = cursor.rest.tail := by
  unfold step
  split
  · rename_i h
    simp [h]
  · rename_i h
    split <;> simp [h]

/-- Advancing leaves the text without that many characters. -/
@[simp]
theorem rest_advance (count : Nat) (cursor : Cursor) :
    (cursor.advance count).rest = cursor.rest.drop count := by
  induction count generalizing cursor with
  | zero => rfl
  | succ count ih =>
    unfold advance
    split
    · rename_i h
      simp [h]
    · rw [ih, rest_step, List.drop_tail]

/-- Dropping as many elements as a property holds of in a row is dropping while it holds. -/
theorem drop_length_takeWhile (p : Char → Bool) (cs : List Char) :
    cs.drop (cs.takeWhile p).length = cs.dropWhile p := by
  induction cs with
  | nil => rfl
  | cons c cs ih => by_cases h : p c <;> simp [h, ih]

/-- Skipping spaces leaves the text from its first other character on. -/
@[simp]
theorem rest_skipSpaces (cursor : Cursor) :
    cursor.skipSpaces.rest = cursor.rest.dropWhile Identifier.isSpace := by
  rw [skipSpaces, rest_advance, drop_length_takeWhile]

/-- No token is longer than the text that it is read from. -/
theorem length_rest_next_le (cursor : Cursor) :
    cursor.next.2.rest.length ≤ cursor.rest.length := by
  have hskip : cursor.skipSpaces.rest.length ≤ cursor.rest.length := by
    rw [rest_skipSpaces]
    exact (List.dropWhile_suffix _).length_le
  unfold next
  dsimp only
  split
  · exact hskip
  · split
    · rw [rest_advance, List.length_drop]
      omega
    · exact hskip

/-- Every token but the end of the input takes up some of the text. -/
theorem length_rest_next_lt {cursor : Cursor} {token : Token}
    (h : cursor.next.1 = .ok token) (hkind : token.kind ≠ .endOfInput) :
    cursor.next.2.rest.length < cursor.rest.length := by
  have hskip : cursor.skipSpaces.rest.length ≤ cursor.rest.length := by
    rw [rest_skipSpaces]
    exact (List.dropWhile_suffix _).length_le
  unfold next at h ⊢
  dsimp only at h ⊢
  split at h
  · simp only [Except.ok.injEq] at h
    subst h
    simp at hkind
  · rename_i c rest hrest
    split at h
    · rename_i lexeme hlexeme
      have hpos := Lexeme.width_pos hlexeme
      simp only [hrest] at hlexeme hskip ⊢
      simp only [rest_advance, hrest, List.length_drop, List.length_cons] at hskip ⊢
      omega
    · simp at h

/-! ## Whole sources -/

/-- The tokens of a source, and how reading them ended. -/
structure Scan where
  /-- The tokens, in order; the end of the input is the last one if it was reached. -/
  tokens : List Token
  /-- The failure at a character that starts no token, if there is one. -/
  failure : Option (Failure SyntaxFault)
  /-- The cursor behind the last token, or in front of the character that starts none. -/
  cursor : Cursor

/-- Reads all tokens in front of `cursor`, up to the end of the input or to a character that starts
none. -/
def scan (cursor : Cursor) : Scan :=
  match _h : cursor.next.1 with
  | .error failure => ⟨[], some failure, cursor.next.2⟩
  | .ok token =>
    if _hkind : token.kind = .endOfInput then ⟨[token], none, cursor.next.2⟩
    else
      let later := cursor.next.2.scan
      { later with tokens := token :: later.tokens }
termination_by cursor.rest.length
decreasing_by exact length_rest_next_lt _h _hkind

end Cursor

/-- The tokens of `source`, which was read from `path` (`tokenize`). -/
def tokenize (source : String) (path : Option String) : Cursor.Scan :=
  (Cursor.start source path).scan

end Extraction
