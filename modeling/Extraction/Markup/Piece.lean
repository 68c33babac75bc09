import Extraction.Markup.Element
import Extraction.Markup.Tag

/-!
# Pieces of markup

Markup as a row of pieces: tags, texts, comments and declarations. What does not have the form of
a tag is text.

* `Markup.Piece` are the pieces.
* `Markup.next` reads the next pieces.
* `Markup.pieces?` are those of a source.

Where the source may break off, as at a comment that is not closed, reading stops. It goes on from
there knowing that no more text follows: then what breaks off is text. Where it stops once more,
all the rest is text.
-/

namespace Extraction.Markup

/-- A piece of markup. -/
inductive Piece where
  /-- A start tag, and whether it closes its element as well. -/
  | opening (name : String) (attributes : List (String × String)) (closed : Bool)
  /-- An end tag. -/
  | closing (name : String)
  /-- Text. -/
  | text (text : List Char)
  /-- Text that is marked not to hold any tags. -/
  | cdata (text : List Char)
  /-- A comment. -/
  | comment (text : List Char)
  /-- A declaration of the type of the page. -/
  | doctype (text : List Char)
  /-- Another declaration. -/
  | declaration (text : List Char)
  /-- An instruction to a program. -/
  | instruction (text : List Char)

/-- What the reading of the next pieces comes to. -/
inductive Progress where
  /-- Some pieces, and what follows. -/
  | taken (pieces : List Piece) (rest : List Char)
  /-- Some pieces in front of something that may break off. -/
  | stopped (pieces : List Piece) (rest : List Char)
  /-- Something that breaks off, or would go on if more text followed. -/
  | cut
  /-- Something that cannot be read. -/
  | refused

/-! ## Elements without markup -/

/-- The text behind an end tag for an element of the given name without markup, and whether the tag
is one. What differs from one by a letter that is another form of the right one is none. -/
def rawEnd? (name cs : List Char) : Option (Bool × List Char) :=
  match cs with
  | '<' :: '/' :: cs =>
    let cs := cs.dropWhile Text.isBlank
    let found := cs.take name.length
    match (cs.drop name.length).dropWhile Text.isBlank with
    | '>' :: rest =>
      if Text.startsWithLetters name cs then some (found.all fun c => c.toNat < 0x80, rest)
      else none
    | _ => none
  | _ => none

/-- The content of an element without markup up to its end tag, and what follows from there on.
Without an end tag what stands behind the last text that resembles one is dropped. -/
def rawContent (name : List Char) (cs : List Char) : List Char × List Char :=
  match Scanner.splitWhere (fun cs => (rawEnd? name cs).isSome) cs with
  | none => ([], [])
  | some (text, rest) =>
    match rawEnd? name rest with
    | some (true, _) => (text, rest)
    | some (false, behind) =>
      let seeming := rest.take (rest.length - behind.length)
      if behind.length < cs.length then
        let (later, rest) := rawContent name behind
        (text ++ seeming ++ later, rest)
      else (text ++ seeming, behind)
    | none => (text, rest)
termination_by cs.length

/-! ## Comments and declarations -/

/-- The text behind the end of a comment. -/
def commentEnd? : List Char → Option (List Char)
  | '-' :: '-' :: cs =>
    match cs.dropWhile Text.isBlank with
    | '>' :: rest => some rest
    | _ => none
  | _ => none

/-- The text behind the end of a marked section, with one bracket or with two. -/
def sectionEnd? (double : Bool) : List Char → Option (List Char)
  | ']' :: cs =>
    match double, cs.dropWhile Text.isBlank with
    | false, '>' :: rest => some rest
    | true, ']' :: cs =>
      match cs.dropWhile Text.isBlank with
      | '>' :: rest => some rest
      | _ => none
    | _, _ => none
  | _ => none

/-- A piece with the text up to where it ends. -/
def upTo (end? : List Char → Option (List Char)) (piece : List Char → Piece) (cs : List Char) :
    Progress :=
  match Scanner.splitWhere (fun cs => (end? cs).isSome) cs with
  | some (text, rest) => .taken [piece text] ((end? rest).getD [])
  | none => .cut

/-- The text behind a closing bracket. -/
def bracketEnd? : List Char → Option (List Char)
  | '>' :: rest => some rest
  | _ => none

/-- The piece of a marked section with the given content. -/
def markedPiece (content : List Char) : Piece :=
  let sign := "CDATA[".toList
  if sign == (content.take sign.length).map Char.toUpper then .cdata (content.drop sign.length)
  else .declaration content

/-- Reads a marked section behind its first three characters. Only some kinds of them are known. -/
def markedSection (cs : List Char) : Progress :=
  match cs with
  | [] => .cut
  | c :: rest =>
    if !isLetter c then .refused
    else
      let word := c :: rest.takeWhile fun c => isLetter c || isDecimal c || "-_.".toList.contains c
      let kind := word.map Char.toLower
      if ((cs.drop word.length).dropWhile Text.isBlank).isEmpty then .cut
      else if ["temp", "cdata", "ignore", "include", "rcdata"].contains (String.ofList kind) then
        upTo (sectionEnd? true) markedPiece cs
      else if ["if", "else", "endif"].contains (String.ofList kind) then
        upTo (sectionEnd? false) markedPiece cs
      else .refused

/-- Reads what stands behind a bracket and an exclamation mark: a comment, or a declaration. -/
def declaration (cs : List Char) : Progress :=
  let kind := "doctype".toList
  match cs with
  | '-' :: '-' :: cs => upTo commentEnd? .comment cs
  | '[' :: cs => markedSection cs
  | _ =>
    if kind == (cs.take kind.length).map Char.toLower then
      upTo bracketEnd? (fun text => .doctype (text.drop 1)) (cs.drop kind.length)
    else upTo bracketEnd? .comment cs

/-! ## The single constructs -/

/-- Reads a start tag behind its bracket, and all its element if it is one without markup. -/
def element (cs : List Char) : Progress :=
  match startTag cs with
  | .complete name attributes closed rest =>
    let tag := Piece.opening name attributes closed
    if !closed && rawNames.contains name then
      let (content, rest) := rawContent name.toList rest
      .taken [tag, .text content] rest
    else .taken [tag] rest
  | .plain text rest => .taken [.text ('<' :: text)] rest
  | .cut => .cut

/-- Reads what a bracket opens, behind it. -/
def bracketed (cs : List Char) : Progress :=
  match cs with
  | [] => .cut
  | '/' :: cs =>
    match endTag cs with
    | .complete name rest => .taken [.closing name] rest
    | .nameless rest => .taken [] rest
    | .comment text rest => .taken [.comment text] rest
    | .cut => .cut
  | '?' :: cs => upTo bracketEnd? .instruction cs
  | '!' :: cs => declaration cs
  | c :: _ => if isLetter c then element cs else .taken [.text ['<']] cs

/-- Reads a bracket whose construct breaks off where no more text follows. The text goes up to the
next closing bracket, or else up to the next opening one. -/
def brokenOff (cs : List Char) : Progress :=
  if cs.isEmpty then .stopped [] ['<']
  else if cs.contains '>' then
    .taken [.text ('<' :: cs.takeWhile (· != '>') ++ ['>'])] ((cs.dropWhile (· != '>')).drop 1)
  else if cs.contains '<' then
    .taken [.text ('<' :: cs.takeWhile (· != '<'))] (cs.dropWhile (· != '<'))
  else .taken [.text ['<']] cs

/-- The text behind a reference, without the semicolon that may end it. -/
def behindReference : List Char → List Char
  | ';' :: rest => rest
  | rest => rest

/-- Reads a reference by number behind its two signs. One that is none is text as far as its signs
if a semicolon is still to come. -/
def numberedReference (cs : List Char) : Progress :=
  let broken : Progress := if cs.contains ';' then .stopped [.text ['&', '#']] cs else .cut
  match number cs with
  | some (n, c :: rest) =>
    if Text.isHexDigit c then broken
    else .taken [.text [numberedCharacter n]] (behindReference (c :: rest))
  | _ => broken

/-- The name of a reference at the front of a text, and what follows. The text must go on behind it.
Where it does not, the name ends in front of its last mark. -/
def referenceName? (cs : List Char) : Option (List Char × List Char) :=
  let isMark (c : Char) : Bool := c == '-' || c == '.'
  let run := cs.takeWhile fun c => isLetter c || isDecimal c || isMark c
  let rest := cs.drop run.length
  if !rest.isEmpty then some (run, rest)
  else
    let length := run.length - (run.reverse.takeWhile fun c => !isMark c).length
    if length < 2 then none else some (run.take (length - 1), run.drop (length - 1))

/-- Reads a reference by name behind its sign. -/
def namedReference (last : Bool) (cs : List Char) : Progress :=
  match cs with
  | [] => .cut
  | c :: rest =>
    if !isLetter c then .taken [.text ['&']] cs
    else match referenceName? cs with
      | some (name, rest) => .taken [.text (nameInText name)] (behindReference rest)
      | none =>
        -- The sign in front of a single letter is dropped where no more text follows.
        if last && rest.isEmpty then .stopped [] cs else .cut

/-! ## The whole source -/

/-- Reads the next pieces of a text. -/
def next (last : Bool) (cs : List Char) : Progress :=
  match cs with
  | [] => .taken [] []
  | '<' :: rest =>
    match bracketed rest with
    | .cut => if last then brokenOff rest else .stopped [] cs
    | progress => progress
  | '&' :: rest =>
    let progress := match rest with
      | '#' :: rest => numberedReference rest
      | rest => namedReference last rest
    match progress with
    | .cut => .stopped [] cs
    | progress => progress
  | cs =>
    let isText (c : Char) : Bool := c != '<' && c != '&'
    .taken [.text (cs.takeWhile isText)] (cs.dropWhile isText)

/-- The pieces of a text, if they can be read. No more text is to follow where the argument says
so. -/
def piecesFrom? (last : Bool) (cs : List Char) : Option (List Piece) :=
  match next last cs with
  | .taken pieces rest =>
    if rest.length < cs.length then (piecesFrom? last rest).map (pieces ++ ·) else some pieces
  | .stopped pieces rest =>
    if _h : last = false ∧ rest.length ≤ cs.length then
      (piecesFrom? true rest).map (pieces ++ ·)
    else some (pieces ++ [.text rest])
  | .cut => some [.text cs]
  | .refused => none
termination_by (cs.length, if last then 0 else 1)
decreasing_by
  · exact Prod.Lex.left _ _ (by assumption)
  · rw [_h.1]
    rcases Nat.lt_or_eq_of_le _h.2 with h | h
    · exact Prod.Lex.left _ _ h
    · rw [h]
      exact Prod.Lex.right _ (by simp)

/-- The pieces of a source, if they can be read. -/
def pieces? (source : String) : Option (List Piece) := piecesFrom? false source.toList

end Extraction.Markup
