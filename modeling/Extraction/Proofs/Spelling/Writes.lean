import Extraction.Proofs.Grammar.Language
import Extraction.Proofs.Lexing.Scan

/-!
# Texts that are read as tokens

What a piece of text is read as depends on what follows it. A piece is put together with a
condition on what follows, and with a property of the tokens that are read then.

* `Cursor.Passes` are the tokens that are read from one cursor to another.
* `Writes` is the judgement on pieces of text; `Writes.append` puts two of them together, and
  `writes_word` is a piece with one token.
* `Writes.front_eq` says what a whole source is read as.
-/

namespace Extraction

open Extraction.Derivation (Leaf)

/-! ## Cursors -/

namespace Cursor

open Identifier (isSpace)

/-- `cursor` stands in front of `text`, but for spaces. -/
def InFront (cursor : Cursor) (text : List Char) : Prop :=
  cursor.rest.dropWhile isSpace = text.dropWhile isSpace

/-- A space in front of a text makes no difference. -/
theorem InFront.of_space {cursor : Cursor} {text : List Char} (h : cursor.InFront (' ' :: text)) :
    cursor.InFront text := h

/-- Tokens that are read from one cursor to another. -/
inductive Passes : Cursor → List Token → Cursor → Prop
  /-- No token is read. -/
  | refl (cursor : Cursor) : Passes cursor [] cursor
  /-- A token is read, and others behind it. -/
  | cons {cursor later final : Cursor} {token : Token} {tokens : List Token}
      (hnext : cursor.next = (.ok token, later)) (hkind : token.kind ≠ .endOfInput)
      (hrest : Passes later tokens final) : Passes cursor (token :: tokens) final

theorem Passes.trans {cursor later final : Cursor} {tokens more : List Token}
    (h : Passes cursor tokens later) (h' : Passes later more final) :
    Passes cursor (tokens ++ more) final := by
  induction h with
  | refl cursor => exact h'
  | cons hnext hkind hrest ih => exact .cons hnext hkind (ih h')

/-- Tokens that are read first are in front of those that are read from there on. -/
theorem Passes.scan_eq {cursor final : Cursor} {tokens : List Token}
    (h : Passes cursor tokens final) (hend : final.scan.failure = none) :
    cursor.scan.failure = none ∧ cursor.scan.front = tokens ++ final.scan.front := by
  induction h with
  | refl cursor => exact ⟨hend, rfl⟩
  | cons hnext hkind hrest ih =>
    obtain ⟨hfailure, hfront⟩ := ih hend
    rw [scan_of_ok hnext hkind, Scan.front_cons fun h => scan_tokens_ne_nil h, hfront]
    exact ⟨hfailure, rfl⟩

/-- Where nothing is left but spaces, the input ends. -/
theorem InFront.scan_eq {cursor : Cursor} (h : cursor.InFront []) :
    cursor.scan.failure = none ∧ cursor.scan.front = [] := by
  have hspaces : ∀ c ∈ cursor.rest, isSpace c := List.dropWhile_eq_nil_iff.1 h
  have hrest : (cursor.advance cursor.rest.length).rest = [] := by
    rw [rest_advance, List.drop_length]
  have hscan := scan_advance_spaces (List.append_nil cursor.rest).symm hspaces
  rw [← hscan, scan_of_nil hrest]
  exact ⟨rfl, rfl⟩

end Cursor

/-! ## Pieces of text -/

/-- In front of what `Fits`, a `text` is read as tokens that are `Good`, without a number among them
that is too long. -/
def Writes (text : List Char) (Fits : List Char → Prop) (Good : List Token → Prop) : Prop :=
  ∀ (cursor : Cursor) (rest : List Char), cursor.InFront (text ++ rest) → Fits rest →
    ∃ tokens final, cursor.Passes tokens final ∧ final.InFront rest ∧
      (∀ token ∈ tokens, ¬token.Overlong) ∧ Good tokens

variable {text text' : List Char} {Fits Fits' : List Char → Prop} {Good Good' : List Token → Prop}

theorem writes_nil : Writes [] Fits fun tokens => tokens = [] := fun cursor _ hfront _ =>
  ⟨[], cursor, .refl cursor, hfront, nofun, rfl⟩

/-- What is read somewhere is read in fewer places, and is good in a weaker sense. -/
theorem Writes.mono (h : Writes text Fits Good) (hfits : ∀ rest, Fits' rest → Fits rest)
    (hgood : ∀ tokens, Good tokens → Good' tokens) : Writes text Fits' Good' := by
  intro cursor rest hfront hrest
  obtain ⟨tokens, final, hpasses, hfinal, hshort, htokens⟩ :=
    h cursor rest hfront (hfits rest hrest)
  exact ⟨tokens, final, hpasses, hfinal, hshort, hgood tokens htokens⟩

/-- A space in front of a text is not read as anything. -/
theorem Writes.space (h : Writes text Fits Good) : Writes (' ' :: text) Fits Good := by
  intro cursor rest hfront hrest
  exact h cursor rest hfront.of_space hrest

/-- Two texts are read one after the other, if the second one fits behind the first. -/
theorem Writes.append (h : Writes text Fits Good) (h' : Writes text' Fits' Good')
    (hfits : ∀ rest, Fits' rest → Fits (text' ++ rest)) :
    Writes (text ++ text') Fits' fun tokens =>
      ∃ before after, Good before ∧ Good' after ∧ tokens = before ++ after := by
  intro cursor rest hfront hrest
  -- What follows the first text is the second one, and what follows that.
  rw [List.append_assoc] at hfront
  obtain ⟨before, later, hbefore, hlater, hshort, hgood⟩ := h cursor _ hfront (hfits rest hrest)
  obtain ⟨after, final, hafter, hfinal, hshort', hgood'⟩ := h' later rest hlater hrest
  exact ⟨before ++ after, final, hbefore.trans hafter, hfinal,
    List.forall_mem_append.2 ⟨hshort, hshort'⟩, before, after, hgood, hgood', rfl⟩

/-- A source is read to its end as the tokens that its text is read as. -/
theorem Writes.front_eq (h : Writes text Fits Good) (hfits : Fits []) (path : Option String) :
    (tokenize (String.ofList text) path).failure = none ∧
      (∀ token ∈ (tokenize (String.ofList text) path).front, ¬token.Overlong) ∧
      Good (tokenize (String.ofList text) path).front := by
  have hfront : (Cursor.start (String.ofList text) path).InFront (text ++ []) := by
    rw [List.append_nil, Cursor.InFront, Cursor.start, String.toList_ofList]
  obtain ⟨tokens, final, hpasses, hfinal, hshort, hgood⟩ := h _ [] hfront hfits
  obtain ⟨hend, hnone⟩ := hfinal.scan_eq
  obtain ⟨hfailure, htokens⟩ := hpasses.scan_eq hend
  rw [hnone, List.append_nil] at htokens
  rw [tokenize, htokens]
  exact ⟨hfailure, hshort, hgood⟩

/-! ## Single tokens -/

open Identifier
open Lexeme (Word)

/-- A cursor in front of a word reads it as one token, and stands in front of the `rest` then. -/
theorem Cursor.InFront.exists_passes {cursor : Cursor} {kind : Token.Kind} {rest : List Char}
    (hfront : cursor.InFront (text ++ rest)) (hword : Word kind text rest) :
    ∃ (leaf : Leaf kind) (final : Cursor), cursor.Passes [leaf.token] final ∧ final.InFront rest ∧
      leaf.token.text = String.ofList text := by
  obtain ⟨c, later, rfl, hc⟩ := hword.exists_cons_of_not_isSpace
  obtain ⟨spaces, ⟨behind, rfl⟩, hspaces, hlexeme⟩ := hword.exists_ofChars?_eq
  -- Behind the spaces in front of it, the cursor stands at the text itself.
  have hskip : cursor.skipSpaces.rest = (c :: later) ++ (spaces ++ behind) := by
    rw [Cursor.rest_skipSpaces, hfront, List.cons_append,
      List.dropWhile_cons_of_neg (by simp [hc])]
  refine ⟨⟨⟨kind, String.ofList (c :: later), cursor.skipSpaces.line,
      cursor.skipSpaces.column⟩, rfl⟩,
    cursor.skipSpaces.advance ((c :: later).length + spaces.length), ?_, ?_, rfl⟩
  · refine .cons ?_ hword.kind_ne_endOfInput (.refl _)
    rw [Cursor.next]
    simp only [hskip, List.cons_append] at hlexeme ⊢
    simp only [hlexeme]
  · rw [Cursor.InFront, Cursor.rest_advance, hskip, ← List.drop_drop, List.drop_left,
      List.drop_left,
      List.dropWhile_append_of_pos hspaces]

/-- A symbol in front is read as the token of its kind. -/
theorem Cursor.InFront.exists_passes_symbol {cursor : Cursor} {c : Char} {kind : Token.Kind}
    {rest : List Char} (hfront : cursor.InFront (c :: rest))
    (hsymbol : Token.Kind.ofSymbol? c = some kind) :
    ∃ (leaf : Leaf kind) (final : Cursor), cursor.Passes [leaf.token] final ∧
      final.InFront rest := by
  have hword : Word kind [c] rest := .symbol rest hsymbol
  obtain ⟨leaf, final, hpasses, hfinal, -⟩ := Cursor.InFront.exists_passes hfront hword
  exact ⟨leaf, final, hpasses, hfinal⟩

/-- The `tokens` are one, of the given `kind` and `text`. -/
def IsLeaf (kind : Token.Kind) (text : String) (tokens : List Token) : Prop :=
  ∃ leaf : Leaf kind, tokens = [leaf.token] ∧ leaf.token.text = text

/-- A text that is a word in front of whatever fits is one token there, unless it is a number that
is too long. -/
theorem writes_word {kind : Token.Kind} (h : ∀ rest, Fits rest → Word kind text rest)
    (hshort : kind = .integer → text.length ≤ Text.mostDigits) :
    Writes text Fits (IsLeaf kind (String.ofList text)) := by
  intro cursor rest hfront hrest
  obtain ⟨leaf, final, hpasses, hfinal, htext⟩ := hfront.exists_passes (h rest hrest)
  refine ⟨[leaf.token], final, hpasses, hfinal, ?_, leaf, rfl, htext⟩
  rintro token hmem ⟨hkind, hlong⟩
  obtain rfl := List.mem_singleton.1 hmem
  rw [htext, String.length_ofList] at hlong
  exact absurd (hshort (leaf.kind_eq.symm.trans hkind)) (Nat.not_le.2 hlong)

/-- A name is a word in front of what continues no name. -/
theorem Identifier.IsName.word {rest : List Char} (h : IsName text) (hstops : StopsNames rest) :
    Word .name text rest := by
  refine .name h hstops.endsWord ?_
  rw [extent_eq_nil (hstops _)]
  exact nofun

/-- A name is read as one token, where no name goes on behind it. -/
theorem writes_name {name : String} (h : IsName name.toList) :
    Writes name.toList StopsNames (IsLeaf .name name) := by
  have hname : Writes name.toList StopsNames (IsLeaf .name (String.ofList name.toList)) :=
    writes_word (fun _ hstops => h.word hstops) nofun
  rwa [String.ofList_toList] at hname

/-- A symbol is one token, whatever follows it. -/
theorem writes_symbol {c : Char} {kind : Token.Kind} (h : Token.Kind.ofSymbol? c = some kind) :
    Writes [c] (fun _ => True) (IsLeaf kind (String.ofList [c])) :=
  writes_word (fun rest _ => .symbol rest h) fun hkind => absurd hkind (kind_ne_of_ofSymbol? h).2.1

/-- A keyword is one token in front of what continues no word. -/
theorem writes_keyword (keyword : Keyword) :
    Writes keyword.text.toList (fun rest => endsWord rest)
      (IsLeaf keyword.kind (String.ofList keyword.text.toList)) :=
  writes_word (fun _ hends => .keyword keyword hends) fun hkind => by cases keyword <;> cases hkind

/-- Digits that are not too many are one token in front of what does not start with one. -/
theorem writes_integer (hne : text ≠ []) (hdigits : ∀ c ∈ text, isDigit c)
    (hshort : text.length ≤ Text.mostDigits) :
    Writes text (fun rest => rest.takeWhile isDigit = []) (IsLeaf .integer (String.ofList text)) :=
  writes_word (fun _ hrest => .integer hne hdigits hrest) fun _ => hshort

end Extraction
