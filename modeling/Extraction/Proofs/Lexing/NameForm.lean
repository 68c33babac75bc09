import Extraction.Proofs.Lexing.Scan
import Mathlib.Tactic.TFAE

/-!
# The form of names

Which texts are names. Where a name ends depends on what stands behind it, but which texts are names
can be told from the texts alone, by each character and its neighbours.

* `Identifier.NameForm` are the rules for the characters of a name.
* `Identifier.isName_iff_nameForm` says that they are the rules for the names by themselves.
* `name_language` says that a text is the text of a name in some source exactly if it is read as a
  name by itself, and exactly if it has the form of a name.
-/

namespace Extraction

/-! ## Pieces of a text -/

namespace Text

/-- The text `rest` ends, or goes on with a character that `separates`. -/
def Breaks (separates : Char → Bool) (rest : List Char) : Prop :=
  rest = [] ∨ ∃ c later, rest = c :: later ∧ separates c

/-- The first piece of a text starts with it, and every later one stands behind a character that
separates. Each ends where the text ends or where it is separated. -/
theorem exists_pieces_eq (separates : Char → Bool) (cs : List Char) :
    ∃ first others, pieces separates cs = first :: others ∧
      (∃ after, cs = first ++ after ∧ Breaks separates after) ∧
      ∀ piece ∈ others, ∃ before c after, cs = before ++ c :: (piece ++ after) ∧ separates c ∧
        Breaks separates after := by
  induction cs with
  | nil => exact ⟨[], [], rfl, ⟨[], rfl, .inl rfl⟩, nofun⟩
  | cons c cs ih =>
    obtain ⟨first, others, hpieces, ⟨after, hfirst, hbreaks⟩, hothers⟩ := ih
    have hlater : ∀ piece ∈ others, ∃ before c' after, c :: cs = before ++ c' :: (piece ++ after) ∧
        separates c' ∧ Breaks separates after := by
      intro piece hmem
      obtain ⟨before, c', after, hcs, hc', hafter⟩ := hothers piece hmem
      exact ⟨c :: before, c', after, by rw [hcs]; rfl, hc', hafter⟩
    -- A character that separates starts with an empty piece; any other one joins the first piece.
    by_cases hc : separates c
    · refine ⟨[], first :: others, ?_, ⟨c :: cs, rfl, .inr ⟨c, cs, rfl, hc⟩⟩, ?_⟩
      · simp [pieces, hc, hpieces]
      · intro piece hmem
        rcases List.mem_cons.1 hmem with rfl | hmem
        · exact ⟨[], c, after, by rw [← hfirst]; rfl, hc, hbreaks⟩
        · exact hlater piece hmem
    · refine ⟨c :: first, others, ?_, ⟨after, by rw [hfirst]; rfl, hbreaks⟩, hlater⟩
      simp [pieces, hc, hpieces]

end Text

namespace Keyword

/-- A keyword has the text of the word that it is found for. -/
theorem toList_text_of_ofChars? {word : List Char} {keyword : Keyword}
    (h : ofChars? word = some keyword) : keyword.text.toList = word := by
  have hfound := List.find?_some h
  simpa using hfound

end Keyword

namespace Identifier

/-! ## Continuing a name -/

/-- When a character continues a name. -/
theorem continues_cons_iff {seen rest : List Char} {c : Char} :
    continues seen (c :: rest) ↔ isIdentifierChar c ∨ endsInIdentifier seen ∧
      (c ∈ ['=', '(', ')'] ∨ isSpace c ∧ startsReserved (rest.dropWhile isSpace) = false ∧
        Keyword.ofChars? (lastWord seen) = none) := by
  by_cases hidentifier : isIdentifierChar c
  · simp [continues, hidentifier]
  · cases hends : endsInIdentifier seen with
    | false => simp [continues, hidentifier, hends]
    | true =>
      by_cases hsymbol : c ∈ ['=', '(', ')']
      · have hcases : (c == '=' || c == '(' || c == ')') = true := by simpa [or_assoc] using hsymbol
        simp only [continues, hidentifier, hends, hcases, hsymbol]
        simp
      · have hcases : (c == '=' || c == '(' || c == ')') = false := by
          simpa [and_assoc] using hsymbol
        by_cases hspace : isSpace c
        · simp [continues, hidentifier, hends, hcases, hsymbol, hspace]
        · simp [continues, hidentifier, hends, hcases, hsymbol, hspace]

/-- A space in front of a word continues a name if neither the word in front of it nor the one
behind it is a keyword. -/
theorem continues_space_iff {seen rest : List Char} {c : Char} (hc : isSpace c)
    (hrest : ¬endsWord rest) : continues seen (c :: rest) ↔
      endsInIdentifier seen ∧ keywordAt rest = none ∧ Keyword.ofChars? (lastWord seen) = none := by
  cases rest with
  | nil => exact absurd rfl hrest
  | cons d rest =>
    have hd : isIdentifierChar d := by simpa [endsWord] using hrest
    have hsymbol : isSymbol d = false := by
      rw [isSymbol, ofSymbol?_eq_none_of_isIdentifierChar hd]
      rfl
    rw [continues_cons_iff, isIdentifierChar_eq_false_of_isSpace hc,
      List.dropWhile_cons_of_neg (by simp [isSpace_eq_false_of_isIdentifierChar hd]),
      startsReserved, hsymbol]
    simp [not_mem_of_isSpace hc, hc]

/-- All of a text continues a name if each of its characters does at its place. -/
theorem extent_eq_self_iff {seen text : List Char} :
    extent seen text = text ↔ ∀ before c after, text = before ++ c :: after →
      continues (before.reverse ++ seen) (c :: after) := by
  induction text generalizing seen with
  | nil => simp [extent]
  | cons first text ih =>
    rw [extent]
    constructor
    · intro h before c after htext
      split at h
      · rename_i hfirst
        cases before with
        | nil =>
          obtain ⟨rfl, rfl⟩ := List.cons.inj htext
          exact hfirst
        | cons b before =>
          obtain ⟨rfl, rfl⟩ := List.cons.inj htext
          have hlater := ih.1 (List.cons.inj h).2 before c after rfl
          rwa [List.reverse_cons, List.append_assoc]
      · cases h
    · intro h
      have hfirst : continues seen (first :: text) := h [] first text rfl
      have hlater : extent (first :: seen) text = text := by
        refine ih.2 fun before c after htext => ?_
        have hc := h (first :: before) c after (by rw [htext]; rfl)
        rwa [List.reverse_cons, List.append_assoc] at hc
      rw [if_pos hfirst, hlater]

/-- A text ends in a character that always continues a name. -/
theorem endsInIdentifier_reverse_iff {before : List Char} :
    endsInIdentifier before.reverse ↔
      ∃ earlier c, before = earlier ++ [c] ∧ isIdentifierChar c := by
  cases before using List.reverseRecOn with
  | nil => simp [endsInIdentifier]
  | append_singleton earlier c =>
    rw [List.reverse_append, List.reverse_singleton, List.singleton_append, endsInIdentifier]
    constructor
    · exact fun hc => ⟨earlier, c, rfl, hc⟩
    · rintro ⟨_, d, heq, hd⟩
      obtain rfl : c = d := by simpa using List.append_inj_right' heq rfl
      exact hd

/-! ## The form of a name -/

/-- The rules for the characters of a name `text`. -/
structure NameForm (text : List Char) : Prop where
  /-- It starts with a character that continues a name and is no digit. -/
  head : ∃ c rest, text = c :: rest ∧ isIdentifierChar c ∧ isDigit c = false
  /-- It holds characters that continue a name, equals signs, parentheses and spaces. -/
  char : ∀ c ∈ text, isIdentifierChar c ∨ c ∈ ['=', '(', ')'] ∨ isSpace c
  /-- Equals signs, parentheses and spaces stand right behind a character that continues a name. -/
  behind : ∀ before c after, text = before ++ c :: after → c ∈ ['=', '(', ')'] ∨ isSpace c →
    ∃ earlier d, before = earlier ++ [d] ∧ isIdentifierChar d
  /-- Spaces stand right in front of one, too. -/
  inFront : ∀ before c after, text = before ++ c :: after → isSpace c →
    ∃ d later, after = d :: later ∧ isIdentifierChar d
  /-- It does not start with a keyword. -/
  keywordAt_eq : keywordAt text = none
  /-- No keyword stands behind a space. -/
  keywordAt_behind : ∀ before c after, text = before ++ c :: after → isSpace c →
    keywordAt after = none

namespace IsName

variable {text : List Char}

/-- A space of a name stands in front of a character that continues the name, and of no keyword. -/
theorem behind_space (h : IsName text) {before after : List Char} {c : Char}
    (htext : text = before ++ c :: after) (hc : isSpace c) :
    (∃ d later, after = d :: later ∧ isIdentifierChar d) ∧ keywordAt after = none := by
  have hcontinues := extent_eq_self_iff.1 h.extent_eq
  have hidentifier := isIdentifierChar_eq_false_of_isSpace hc
  have hspace := hcontinues before c after htext
  cases after with
  | nil =>
    rw [continues_cons_iff, hidentifier] at hspace
    simp [not_mem_of_isSpace hc, startsReserved] at hspace
  | cons d later =>
    -- Behind a space nothing but such a character goes on with the name.
    have hnext := continues_cons_iff.1 (hcontinues (before ++ [c]) d later (by simp [htext]))
    rw [List.append_nil, List.reverse_append, List.reverse_singleton, List.singleton_append,
      endsInIdentifier, hidentifier] at hnext
    have hd : isIdentifierChar d := by simpa using hnext
    obtain ⟨-, hkeyword, -⟩ := (continues_space_iff hc (by simp [endsWord, hd])).1 hspace
    exact ⟨⟨d, later, rfl, hd⟩, hkeyword⟩

/-- Every name that is read has the form that `NameForm` describes. -/
theorem nameForm (h : IsName text) : NameForm text where
  head := h.head
  char c hmem := by
    rw [← h.extent_eq] at hmem
    exact mem_extent_cases hmem
  behind before c after htext hc := by
    have hcontinues := extent_eq_self_iff.1 h.extent_eq before c after htext
    have hidentifier : isIdentifierChar c = false := by
      rcases hc with hsymbol | hspace
      · simp only [List.mem_cons, List.not_mem_nil, or_false] at hsymbol
        rcases hsymbol with rfl | rfl | rfl <;> rfl
      · exact isIdentifierChar_eq_false_of_isSpace hspace
    rw [continues_cons_iff, List.append_nil, hidentifier] at hcontinues
    have hends : endsInIdentifier before.reverse := by
      rcases hcontinues with hfalse | ⟨hends, -⟩
      · cases hfalse
      · exact hends
    exact endsInIdentifier_reverse_iff.1 hends
  inFront before c after htext hc := (h.behind_space htext hc).1
  keywordAt_eq := h.keywordAt_eq
  keywordAt_behind before c after htext hc := (h.behind_space htext hc).2

end IsName

namespace NameForm

variable {text : List Char}

/-- The only blanks of a name are spaces. -/
theorem isSpace_of_isBlank (h : NameForm text) {c : Char} (hmem : c ∈ text)
    (hblank : Text.isBlank c) : isSpace c :=
  isSpace_of_isBlank_of_cases (h.char c hmem) hblank

/-- A part of a name that starts with the name or behind a blank, and stands in front of what
continues no word, is no keyword. -/
theorem ofChars?_eq_none (h : NameForm text) (before : List Char) {word after : List Char}
    (htext : text = before ++ (word ++ after))
    (hbefore : before = [] ∨ ∃ earlier c, before = earlier ++ [c] ∧ Text.isBlank c)
    (hafter : endsWord after) : Keyword.ofChars? word = none := by
  have hkeyword : keywordAt (word ++ after) = none := by
    rcases hbefore with rfl | ⟨earlier, c, rfl, hblank⟩
    · rw [← h.keywordAt_eq, htext, List.nil_append]
    · rw [List.append_assoc, List.singleton_append] at htext
      have hmem : c ∈ text := by simp [htext]
      exact h.keywordAt_behind earlier c _ htext (h.isSpace_of_isBlank hmem hblank)
  match hword : Keyword.ofChars? word with
  | none => rfl
  | some keyword =>
    rw [← Keyword.toList_text_of_ofChars? hword, keywordAt_text_append keyword hafter] at hkeyword
    cases hkeyword

/-- In front of a space of a name no keyword ends. -/
theorem ofChars?_lastWord_eq_none (h : NameForm text) {before after : List Char} {c : Char}
    (htext : text = before ++ c :: after) (hc : isSpace c)
    (hends : endsInIdentifier before.reverse) :
    Keyword.ofChars? (lastWord before.reverse) = none := by
  obtain ⟨earlier, d, rfl, hd⟩ := endsInIdentifier_reverse_iff.1 hends
  have hnotBlank : Text.isBlank d = false := by
    by_contra hblank
    rw [isIdentifierChar_eq_false_of_isBlank (by simpa using hblank)] at hd
    cases hd
  have hlastWord : lastWord (earlier ++ [d]).reverse =
      (earlier ++ [d]).rtakeWhile fun c => !Text.isBlank c := by
    rw [lastWord, List.rtakeWhile, List.reverse_append, List.reverse_singleton,
      List.singleton_append, List.dropWhile_cons_of_neg (by simp [hnotBlank])]
  have hsplit : (earlier ++ [d]).rdropWhile (fun c => !Text.isBlank c) ++
      (earlier ++ [d]).rtakeWhile (fun c => !Text.isBlank c) = earlier ++ [d] :=
    List.rdropWhile_append_rtakeWhile
  rw [hlastWord]
  refine h.ofChars?_eq_none _ (by rw [htext, ← List.append_assoc, hsplit]) ?_ ?_
  -- What is in front of the last word ends in a blank.
  · rcases List.eq_nil_or_concat' ((earlier ++ [d]).rdropWhile fun c => !Text.isBlank c) with
      hnil | ⟨front, last, hfront⟩
    · exact .inl hnil
    · refine .inr ⟨front, last, hfront, ?_⟩
      have hne : ((earlier ++ [d]).rdropWhile fun c => !Text.isBlank c) ≠ [] := by simp [hfront]
      have hlast := List.rdropWhile_last_not (fun c => !Text.isBlank c) _ hne
      simpa [hfront] using hlast
  · exact endsWord_cons (isIdentifierChar_eq_false_of_isSpace hc) _

/-- A text of that form is read as one name to its end. -/
theorem extent_eq (h : NameForm text) : extent [] text = text := by
  refine extent_eq_self_iff.2 fun before c after htext => ?_
  rw [List.append_nil]
  have hmem : c ∈ text := by simp [htext]
  rcases h.char c hmem with hidentifier | hsymbol | hspace
  · exact continues_cons_iff.2 (.inl hidentifier)
  · have hends := endsInIdentifier_reverse_iff.2 (h.behind before c after htext (.inl hsymbol))
    exact continues_cons_iff.2 (.inr ⟨hends, .inl hsymbol⟩)
  · have hends := endsInIdentifier_reverse_iff.2 (h.behind before c after htext (.inr hspace))
    obtain ⟨d, later, rfl, hd⟩ := h.inFront before c after htext hspace
    have hkeyword := h.keywordAt_behind before c _ htext hspace
    exact (continues_space_iff hspace (by simp [endsWord, hd])).2
      ⟨hends, hkeyword, h.ofChars?_lastWord_eq_none htext hspace hends⟩

/-- A text of that form ends in no space. -/
theorem trimEnd_eq (h : NameForm text) : Text.trimEnd text = text := by
  refine List.rdropWhile_eq_self_iff.2 fun hne hblank => ?_
  -- A blank at the end would be a space with nothing behind it.
  have htext := (List.dropLast_concat_getLast hne).symm
  have hspace := h.isSpace_of_isBlank (List.getLast_mem hne) hblank
  obtain ⟨d, later, hnil, -⟩ := h.inFront _ _ [] htext hspace
  cases hnil

end NameForm

/-- The texts that are names by themselves are those with the form of a name. -/
theorem isName_iff_nameForm {text : List Char} : IsName text ↔ NameForm text :=
  ⟨IsName.nameForm, fun h => ⟨h.head, h.keywordAt_eq, h.extent_eq, h.trimEnd_eq⟩⟩

/-- No word of a name is a keyword. -/
theorem NameForm.ofChars?_of_mem_words {text word : List Char} (h : NameForm text)
    (hmem : word ∈ Text.words text) : Keyword.ofChars? word = none := by
  obtain ⟨first, others, hpieces, ⟨after, hfirst, hafter⟩, hothers⟩ :=
    Text.exists_pieces_eq Text.isBlank text
  have hends : ∀ {after}, Text.Breaks Text.isBlank after → endsWord after := by
    rintro after (rfl | ⟨c, later, rfl, hc⟩)
    · rfl
    · exact endsWord_cons (isIdentifierChar_eq_false_of_isBlank hc) later
  rw [Text.words, Text.wordsBy, hpieces] at hmem
  rcases List.mem_cons.1 (List.mem_of_mem_filter hmem) with rfl | hmem
  · exact h.ofChars?_eq_none [] hfirst (.inl rfl) (hends hafter)
  · obtain ⟨before, c, after, htext, hc, hafter⟩ := hothers word hmem
    refine h.ofChars?_eq_none (before ++ [c]) ?_ (.inr ⟨before, c, rfl, hc⟩) (hends hafter)
    rw [htext, List.append_assoc, List.singleton_append]

end Identifier

/-! ## The names of sources -/

/-- A name is read as one token, and then the input ends. -/
theorem scan_of_isName {v : String} (h : Identifier.IsName v.toList) (path : Option String) :
    (tokenize v path).failure = none ∧ (tokenize v path).tokens.map (fun token =>
      (token.kind, token.text)) = [(.name, v), (.endOfInput, "")] := by
  have hrest : (Cursor.start v path).rest = v.toList ++ [] := (List.append_nil _).symm
  have hword : Lexeme.Word .name v.toList [] := .name h rfl nofun
  have hend := Cursor.rest_advance_of_append hrest
  rw [tokenize, Cursor.scan_of_word hrest hword, Cursor.scan_of_nil hend]
  exact ⟨rfl, by simp [String.ofList_toList]⟩

/-- A text is the text of a name among the tokens of some source, or of a name that is read next
somewhere, exactly if it is read as this name alone, and exactly if it has the form of a name. No
word of a name in a source is a keyword. -/
theorem name_language (v : String) (path : Option String) :
    [∃ source path, ∃ token ∈ (tokenize source path).tokens, token.kind = .name ∧ token.text = v,
      ∃ (cursor : Cursor) (token : Token), cursor.next.1 = .ok token ∧ token.kind = .name ∧
        token.text = v,
      (tokenize v path).failure = none ∧ (tokenize v path).tokens.map (fun token =>
        (token.kind, token.text)) = [(.name, v), (.endOfInput, "")],
      Identifier.NameForm v.toList].TFAE ∧
    ∀ source path, ∀ token ∈ (tokenize source path).tokens, token.kind = .name →
      ∀ word ∈ Text.words token.text.toList, Keyword.ofChars? word = none := by
  constructor
  -- A name of some source is read by some cursor, so it has the form of names, so the source that
  -- consists of it has no other token.
  · tfae_have 1 → 2 := by
      rintro ⟨source, path, token, hmem, hkind, htext⟩
      obtain ⟨cursor, hnext⟩ := Cursor.exists_next_of_mem_scan hmem
      exact ⟨cursor, token, hnext, hkind, htext⟩
    tfae_have 2 → 4 := by
      rintro ⟨cursor, token, hnext, hkind, rfl⟩
      exact (Cursor.isName_of_next hnext hkind).nameForm
    tfae_have 4 → 3 := fun h => scan_of_isName (Identifier.isName_iff_nameForm.2 h) path
    tfae_have 3 → 1 := by
      rintro ⟨-, htokens⟩
      have hmem : (Token.Kind.name, v) ∈
          (tokenize v path).tokens.map fun token => (token.kind, token.text) := by
        rw [htokens]
        exact List.mem_cons_self
      obtain ⟨token, htoken, heq⟩ := List.mem_map.1 hmem
      exact ⟨v, path, token, htoken, congrArg Prod.fst heq, congrArg Prod.snd heq⟩
    tfae_finish
  · intro source path token hmem hkind word hword
    obtain ⟨cursor, hnext⟩ := Cursor.exists_next_of_mem_scan hmem
    exact (Cursor.isName_of_next hnext hkind).nameForm.ofChars?_of_mem_words hword

/-- A keyword may stand in a name behind a parenthesis. -/
example : Identifier.NameForm "a(do b=c".toList :=
  Identifier.isName_iff_nameForm.1
    ⟨⟨'a', "(do b=c".toList, rfl, rfl, rfl⟩, by decide, by decide, by decide⟩

end Extraction
