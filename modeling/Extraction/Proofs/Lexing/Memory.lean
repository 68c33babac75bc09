import Extraction.Proofs.Lexing.Access
import Extraction.Proofs.Lexing.Position

/-!
# Names and memory

Whether a name goes on seems to depend on all that was read of it, since a space asks for the last
word. But no name is read up to a keyword: its first word is none, or the name would not have been
started, and every later one was looked at across the space in front of it. So the last character
is all that has to be kept.

* `Identifier.Apart` says that the word which is being read is no keyword. `Identifier.Apart.step`
  keeps it from one place of a name to the next, and `Identifier.Apart.at` finds it at all of them.
* `Brief` is the reading of tokens with a memory of one character; `Brief.next_eq` and
  `Brief.tokenize_eq` say that it reads the same tokens.
* `one_character_memory` is the result.
-/

namespace Extraction

/-! ## The word that is being read -/

namespace Identifier

variable {seen rest text : List Char} {c : Char}

/-- The word that is being read when `seen` was read is no keyword, however it goes on in `rest`. -/
def Apart (seen rest : List Char) : Prop := keywordAt (wordInProgress seen ++ rest) = none

/-- In front of a space, the last word is no keyword. -/
theorem Apart.ofChars?_lastWord (h : Apart seen (c :: rest)) (hc : isSpace c)
    (hends : endsInIdentifier seen) : Keyword.ofChars? (lastWord seen) = none := by
  match hword : Keyword.ofChars? (lastWord seen) with
  | none => rfl
  | some keyword =>
    -- The word would end at the space, and be a keyword there.
    have hkeyword := keywordAt_text_append keyword
      (endsWord_cons (isIdentifierChar_eq_false_of_isSpace hc) rest)
    rw [Keyword.toList_text_of_ofChars? hword, lastWord_eq_wordInProgress hends] at hkeyword
    rw [Apart, hkeyword] at h
    cases h

/-- What a space continues a name to is no keyword. -/
theorem keywordAt_eq_none_of_space (hc : isSpace c) (h : continues seen (c :: rest)) :
    keywordAt rest = none := by
  rw [continues_cons_iff, isIdentifierChar_eq_false_of_isSpace hc] at h
  have hreserved : startsReserved (rest.dropWhile isSpace) = false := by
    simpa [not_mem_of_isSpace hc, hc, and_assoc] using (h.resolve_left nofun).2.resolve_left
      (not_mem_of_isSpace hc) |>.2.1
  cases rest with
  | nil => rfl
  | cons d rest =>
    by_cases hd : isSpace d
    -- No keyword starts with a space.
    · have hidentifier := isIdentifierChar_eq_false_of_isSpace hd
      exact keywordAt_eq_none_of_endsWord (endsWord_cons hidentifier rest)
    · rw [List.dropWhile_cons_of_neg hd, startsReserved] at hreserved
      simp only [Bool.or_eq_false_iff] at hreserved
      simpa using hreserved.2

/-- A character that continues a name joins the word that is being read, or it is a space and the
word behind it is no keyword. -/
theorem Apart.step (h : Apart seen (c :: rest)) (hc : continues seen (c :: rest)) :
    Apart (c :: seen) rest := by
  by_cases hblank : Text.isBlank c
  · have hword : wordInProgress (c :: seen) = [] := by
      rw [wordInProgress, List.takeWhile_cons_of_neg (by simp [hblank]), List.reverse_nil]
    have hspace : isSpace c := by
      refine isSpace_of_isBlank_of_cases ?_ hblank
      rcases continues_cons_iff.1 hc with hidentifier | ⟨-, hsymbol | ⟨hspace, -⟩⟩
      · exact .inl hidentifier
      · exact .inr (.inl hsymbol)
      · exact .inr (.inr hspace)
    rw [Apart, hword]
    exact keywordAt_eq_none_of_space hspace hc
  · have hword : wordInProgress (c :: seen) = wordInProgress seen ++ [c] := by
      rw [wordInProgress, List.takeWhile_cons_of_pos (by simpa using hblank), List.reverse_cons]
      rfl
    rw [Apart, hword, List.append_assoc]
    exact h

/-! ## Places of a name -/

/-- A name goes on at each of its places but the one behind it. -/
theorem continues_at {count : Nat} (hcount : count ≤ (extent seen text).length) :
    continues ((text.take count).reverse ++ seen) (text.drop count) =
      decide (count < (extent seen text).length) := by
  induction text generalizing seen count with
  | nil =>
    obtain rfl := Nat.le_zero.1 hcount
    rfl
  | cons c text ih =>
    rw [extent] at hcount ⊢
    cases hc : continues seen (c :: text) with
    | false =>
      rw [hc] at hcount
      obtain rfl := Nat.le_zero.1 hcount
      exact hc
    | true =>
      simp only [hc, if_true, List.length_cons] at hcount ⊢
      cases count with
      | zero => simpa using hc
      | succ count =>
        have hlater := ih (Nat.le_of_succ_le_succ hcount)
        simpa using hlater

/-- At no place of a name is the word that is being read a keyword. -/
theorem Apart.at {count : Nat} (h : Apart [] text) (hcount : count ≤ (extent [] text).length) :
    Apart (text.take count).reverse (text.drop count) := by
  induction count with
  | zero => exact h
  | succ count ih =>
    have hbefore := ih (Nat.le_of_succ_le hcount)
    have hcontinues := continues_at (Nat.le_of_succ_le hcount)
    rw [List.append_nil, decide_eq_true (Nat.lt_of_succ_le hcount)] at hcontinues
    match hrest : text.drop count with
    | [] =>
      rw [hrest] at hcontinues
      cases hcontinues
    | c :: rest =>
      have htake : text.take (count + 1) = text.take count ++ [c] := Text.IsAt.take_succ hrest
      have hdrop : text.drop (count + 1) = rest := by
        rw [← List.drop_drop, hrest, List.drop_one, List.tail_cons]
      rw [hrest] at hbefore hcontinues
      rw [htake, hdrop, List.reverse_append, List.reverse_singleton, List.singleton_append]
      exact hbefore.step hcontinues

end Identifier

/-! ## Reading with a memory of one character -/

namespace Brief

open Identifier (isDigit isSpace isIdentifierChar keywordAt startsReserved Apart)

/-- Whether the first character of a text continues a name whose last character is `last`. No word
is looked at but the next one. -/
def continues (last : Option Char) : List Char → Bool
  | [] => false
  | c :: rest =>
    if isIdentifierChar c then true
    else if !last.any isIdentifierChar then false
    else if c == '=' || c == '(' || c == ')' then true
    else if isSpace c then !startsReserved (rest.dropWhile isSpace)
    else false

/-- The characters of a text that continue a name whose last character is `last`. -/
def extent (last : Option Char) : List Char → List Char
  | [] => []
  | c :: rest => if continues last (c :: rest) then c :: extent (some c) rest else []

/-- The token that a text starts with. -/
def ofChars? : List Char → Option Lexeme
  | [] => none
  | c :: rest =>
    if isDigit c then some (.integer (c :: rest))
    else match keywordAt (c :: rest) with
      | some keyword => some ⟨keyword.kind, keyword.text.toList, keyword.text.length⟩
      | none =>
        match Token.Kind.ofSymbol? c with
        | some kind => some ⟨kind, [c], 1⟩
        | none =>
          if isIdentifierChar c then
            let name := extent none (c :: rest)
            some ⟨.name, Text.trimEnd name, name.length⟩
          else none

/-- Reads the next token of `cursor`. -/
def next (cursor : Cursor) : Except (Failure SyntaxFault) Token × Cursor :=
  let here := cursor.skipSpaces
  match here.rest with
  | [] => (.ok ⟨.endOfInput, "", here.line, here.column⟩, here)
  | c :: _ =>
    match ofChars? here.rest with
    | some lexeme =>
      (.ok ⟨lexeme.kind, String.ofList lexeme.text, here.line, here.column⟩,
        here.advance lexeme.width)
    | none => (.error ⟨.unreadable c, here.location.place⟩, here)

/-- Whether what was seen ends in an identifier is told by its last character. -/
theorem endsInIdentifier_eq (seen : List Char) :
    Identifier.endsInIdentifier seen = seen.head?.any isIdentifierChar := by
  cases seen <;> rfl

/-- As long as the word that is being read is no keyword, the last character decides. -/
theorem continues_eq {seen rest : List Char} (h : Apart seen rest) :
    Identifier.continues seen rest = continues seen.head? rest := by
  cases rest with
  | nil => rfl
  | cons c rest =>
    rw [Identifier.continues, continues, ← endsInIdentifier_eq]
    cases hends : Identifier.endsInIdentifier seen with
    | false => rfl
    | true =>
      cases hc : isSpace c with
      | false => rfl
      | true => rw [h.ofChars?_lastWord hc hends, Option.isNone_none, Bool.and_true]

/-- While the last word is no keyword, to remember the last character is enough to find the end of a
name. -/
theorem extent_eq {seen text : List Char} (h : Apart seen text) :
    Identifier.extent seen text = extent seen.head? text := by
  induction text generalizing seen with
  | nil => rfl
  | cons c text ih =>
    rw [Identifier.extent, extent, ← continues_eq h]
    split
    · rename_i hc
      rw [ih (h.step hc)]
      rfl
    · rfl

/-- The lexeme at the front of a text is found with one character of memory. -/
theorem ofChars?_eq (cs : List Char) : ofChars? cs = Lexeme.ofChars? cs := by
  cases cs with
  | nil => rfl
  | cons c rest =>
    rw [ofChars?, Lexeme.ofChars?, Lexeme.name]
    -- A name is started only where no keyword stands.
    cases hkeyword : keywordAt (c :: rest) with
    | some keyword => rfl
    | none =>
      have hapart : Apart [] (c :: rest) := hkeyword
      rw [extent_eq hapart]
      rfl

/-- The next token is found with one character of memory. -/
theorem next_eq (cursor : Cursor) : next cursor = cursor.next := by
  have hread : ofChars? = Lexeme.ofChars? := funext ofChars?_eq
  unfold next Cursor.next
  rewrite [hread]
  rfl

/-- Reads all tokens of `cursor`, up to the end of the input or to a character that starts none. -/
def scan (cursor : Cursor) : Cursor.Scan :=
  match _h : (next cursor).1 with
  | .error failure => ⟨[], some failure, (next cursor).2⟩
  | .ok token =>
    if _hkind : token.kind = .endOfInput then ⟨[token], none, (next cursor).2⟩
    else
      let later := scan (next cursor).2
      { later with tokens := token :: later.tokens }
termination_by cursor.rest.length
decreasing_by
  rw [next_eq] at _h ⊢
  exact Cursor.length_rest_next_lt _h _hkind

/-- The tokens of `source`. -/
def tokenize (source : String) (path : Option String) : Cursor.Scan := scan (.start source path)

/-- A source is read with one character of memory. -/
theorem scan_eq (cursor : Cursor) : scan cursor = cursor.scan := by
  fun_induction scan cursor with
  | case1 cursor failure hnext =>
    rw [next_eq] at hnext ⊢
    rw [Cursor.scan_of_error hnext]
  | case2 cursor token hnext hkind =>
    rw [next_eq] at hnext ⊢
    rw [Cursor.scan_of_endOfInput (Prod.ext hnext rfl) hkind]
  | case3 cursor token hnext hkind later ih =>
    rw [next_eq] at hnext ih
    rw [Cursor.scan_of_ok (Prod.ext hnext rfl) hkind, ← ih, ← next_eq]

theorem tokenize_eq (source : String) (path : Option String) :
    tokenize source path = Extraction.tokenize source path :=
  scan_eq _

end Brief

/-! ## Sources -/

namespace Cursor

/-- Where a name is read, there stands no keyword. -/
theorem apart_of_next {cursor : Cursor} {token : Token} (h : cursor.next.1 = .ok token)
    (hkind : token.kind = .name) : Identifier.Apart [] cursor.skipSpaces.rest := by
  rw [next] at h
  split at h
  · rename_i hrest
    rw [hrest]
    rfl
  · split at h
    · rename_i lexeme hlexeme
      obtain rfl := Except.ok.inj h
      -- A number, or a keyword, is no name; all else is read only where no keyword stands.
      unfold Lexeme.ofChars? at hlexeme
      split at hlexeme
      · cases hlexeme
      · rename_i hcs
        rw [hcs]
        split at hlexeme
        · obtain rfl := Option.some.inj hlexeme
          cases hkind
        · split at hlexeme
          · rename_i keyword _
            obtain rfl := Option.some.inj hlexeme
            cases keyword <;> cases hkind
          · assumption
    · cases h

end Cursor

/-- Whether a name goes on is always decided: no place outside of the source is looked at, and where
the last word is asked for there is one, as no character that continues a name is a blank. At every
place of a name that is read as the next token, the last word is no keyword in front of a space, and
so the text ahead and the last character decide; the name goes on at each place but the one behind
it. A reading that keeps no more than the last character reads the same tokens. -/
theorem one_character_memory :
    (∀ c, Identifier.isIdentifierChar c → Text.isBlank c = false) ∧
    (∀ collected : List Char, Identifier.endsInIdentifier collected.reverse →
      (Text.words collected).getLast? = some (Identifier.lastWord collected.reverse)) ∧
    (∀ source index collected, Identifier.continuesAt? source index collected =
      some (Identifier.continues collected.reverse (source.drop index))) ∧
    (∀ (cursor : Cursor) (token : Token), cursor.next.1 = .ok token → token.kind = .name →
      let text := cursor.skipSpaces.rest
      let width := (Identifier.extent [] text).length
      ∀ count ≤ width,
        let seen := (text.take count).reverse
        let ahead := text.drop count
        Identifier.continues seen ahead = decide (count < width) ∧
        Identifier.continues seen ahead = Brief.continues seen.head? ahead ∧
        ∀ c later, ahead = c :: later → Identifier.isSpace c →
          Identifier.endsInIdentifier seen →
            Keyword.ofChars? (Identifier.lastWord seen) = none) ∧
    (∀ cursor, Brief.next cursor = cursor.next) ∧
    ∀ source path, Brief.tokenize source path = tokenize source path := by
  refine ⟨fun c => Identifier.isBlank_eq_false_of_isIdentifierChar,
    fun collected => Identifier.getLast?_words, Identifier.continuesAt?_eq, ?_, Brief.next_eq,
    Brief.tokenize_eq⟩
  intro cursor token hnext hkind text width count hcount seen ahead
  -- Wherever the name is cut, the word that is being read there is no keyword.
  have hapart : Identifier.Apart seen ahead := (Cursor.apart_of_next hnext hkind).at hcount
  have hcontinues := Identifier.continues_at hcount
  rw [List.append_nil] at hcontinues
  refine ⟨hcontinues, Brief.continues_eq hapart, ?_⟩
  intro c later hahead hc hends
  rw [hahead] at hapart
  exact hapart.ofChars?_lastWord hc hends

/-- A name of two words. The first one ends in the letters of a keyword, but it is none itself. -/
theorem one_character_memory_of_two_words :
    let cursor : Cursor := .start "  a(do b = c" none
    ∃ token, cursor.next.1 = .ok token ∧ token.kind = .name ∧ token.text = "a(do b" ∧
      Identifier.continues "od(a".toList " b = c".toList =
        Brief.continues (some 'o') " b = c".toList ∧
      Keyword.ofChars? (Identifier.lastWord "od(a".toList) = none := by
  intro cursor
  obtain ⟨-, -, -, hplaces, -, -⟩ := one_character_memory
  have hnext : cursor.next.1 = .ok ⟨.name, "a(do b", 1, 2⟩ := by decide +kernel
  obtain ⟨-, hbrief, hword⟩ := hplaces cursor _ hnext rfl 4 (by decide +kernel)
  exact ⟨_, hnext, rfl, rfl, hbrief, hword ' ' _ rfl rfl rfl⟩

end Extraction
