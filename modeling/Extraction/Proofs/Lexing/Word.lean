import Extraction.Proofs.Spelling.Name

/-!
# Words

A token is a number, a keyword, a symbol or a name. Each kind of token is told by its own text and
by little of what follows it, which is why the text behind a token may change without the token.

* `Lexeme.Word` says that a text is read as a token in front of another text.
* `Lexeme.Word.exists_ofChars?_eq` and `Lexeme.exists_word_of_ofChars?` relate it to the reading of
  tokens. A name may take up a space behind it that is no part of its text.
* `Lexeme.text_induction` is the induction on a text along its tokens.
-/

namespace Extraction

namespace Identifier

/-! ## Characters -/

theorem isIdentifierChar_of_isDigit {c : Char} (h : isDigit c) : isIdentifierChar c := by
  have hrange : 48 ≤ c.toNat ∧ c.toNat ≤ 57 := by
    simpa [isDigit, Char.le_def, UInt32.le_iff_toNat_le] using h
  have hne : ∀ k : Char, k.toNat < 48 ∨ 57 < k.toNat → c ≠ k := by
    rintro k hk rfl
    omega
  have hspace : isSpace c = false := by
    simp [isSpace, hne ' ' (by decide), hne '\t' (by decide), hne '\r' (by decide)]
  have hsymbol : isSymbol c = false := by
    simp [isSymbol, Token.Kind.ofSymbol?, hne '(' (by decide), hne ')' (by decide),
      hne ',' (by decide), hne '=' (by decide), hne '\n' (by decide), hne '\x7b' (by decide),
      hne '\x7d' (by decide)]
  have hprintable : Text.isPrintable c = true := by
    rw [Text.isPrintable, if_pos (by omega)]
    simp only [decide_eq_true_eq]
    omega
  simp [isIdentifierChar, hspace, hsymbol, hprintable]

/-- No character of an identifier is a space. -/
theorem isSpace_eq_false_of_isIdentifierChar {c : Char} (h : isIdentifierChar c) :
    isSpace c = false := by
  by_contra hspace
  rw [isIdentifierChar_eq_false_of_isSpace (by simpa using hspace)] at h
  cases h

theorem isSpace_eq_false_of_isSymbol {c : Char} (h : isSymbol c) : isSpace c = false := by
  unfold isSymbol Token.Kind.ofSymbol? at h
  split_ifs at h <;> first | (subst_vars; rfl) | cases h

theorem isSymbol_of_ofSymbol? {c : Char} {kind : Token.Kind}
    (h : Token.Kind.ofSymbol? c = some kind) : isSymbol c := by
  rw [isSymbol, h]
  rfl

theorem not_mem_of_isSpace {c : Char} (h : isSpace c) : c ∉ ['=', '(', ')'] := by
  simp only [isSpace, Bool.or_eq_true, beq_iff_eq] at h
  rcases h with (rfl | rfl) | rfl <;> decide

theorem isDigit_eq_false_of_isIdentifierChar {c : Char} (h : isIdentifierChar c = false) :
    isDigit c = false := by
  by_contra hdigit
  rw [isIdentifierChar_of_isDigit (by simpa using hdigit)] at h
  cases h

/-- A word ends in front of a character that is in no identifier. -/
theorem endsWord_cons {c : Char} (h : isIdentifierChar c = false) (rest : List Char) :
    endsWord (c :: rest) := by
  rw [endsWord, h]
  rfl

/-- A character of an identifier is no token by itself. -/
theorem ofSymbol?_eq_none_of_isIdentifierChar {c : Char} (h : isIdentifierChar c) :
    Token.Kind.ofSymbol? c = none := by
  rw [← Option.not_isSome_iff_eq_none]
  intro hsymbol
  rw [isIdentifierChar_eq_false_of_isSymbol hsymbol] at h
  cases h

/-- No keyword starts with a character that continues no word. -/
theorem keywordAt_eq_none_of_endsWord {rest : List Char} (h : endsWord rest) :
    keywordAt rest = none := by
  have happend := keywordAt_append [] h
  rw [List.nil_append] at happend
  rw [happend]
  decide

/-- A keyword at the start of a text is what the text starts with. -/
theorem exists_eq_of_keywordAt {cs : List Char} {keyword : Keyword}
    (h : keywordAt cs = some keyword) :
    ∃ rest, cs = keyword.text.toList ++ rest ∧ endsWord rest := by
  have hfound := List.find?_some h
  simp only [Bool.and_eq_true, List.isPrefixOf_iff_prefix] at hfound
  obtain ⟨⟨rest, rfl⟩, hends⟩ := hfound
  rw [← String.length_toList, List.drop_left] at hends
  exact ⟨rest, rfl, hends⟩

/-- A keyword is found where it stands, if the word ends behind it. -/
theorem keywordAt_text_append (keyword : Keyword) {rest : List Char} (h : endsWord rest) :
    keywordAt (keyword.text.toList ++ rest) = some keyword := by
  rw [keywordAt_append _ h]
  cases keyword <;> decide

/-- A keyword starts with a letter. -/
theorem exists_keyword_text_eq (keyword : Keyword) :
    ∃ c later, keyword.text.toList = c :: later ∧ isIdentifierChar c ∧ isDigit c = false := by
  cases keyword <;> exact ⟨_, _, rfl, rfl, rfl⟩

/-! ## Extents -/

/-- Only some of the characters ever continue a name. -/
theorem mem_extent_cases {seen cs : List Char} {c : Char} (h : c ∈ extent seen cs) :
    isIdentifierChar c ∨ c ∈ ['=', '(', ')'] ∨ isSpace c := by
  induction cs generalizing seen with
  | nil => cases h
  | cons first cs ih =>
    rw [extent] at h
    split at h
    · rename_i hcontinues
      rcases List.mem_cons.1 h with rfl | hmem
      · by_cases hidentifier : isIdentifierChar c
        · exact .inl hidentifier
        · simp only [continues, hidentifier, Bool.false_eq_true, if_false] at hcontinues
          split_ifs at hcontinues with hends hsymbol hspace
          · exact .inr (.inl (by simpa [or_assoc] using hsymbol))
          · exact .inr (.inr hspace)
      · exact ih hmem
    · cases h

/-- Among the characters of a name no blank is anything but a space. -/
theorem isSpace_of_isBlank_of_cases {c : Char}
    (h : isIdentifierChar c ∨ c ∈ ['=', '(', ')'] ∨ isSpace c) (hblank : Text.isBlank c) :
    isSpace c := by
  rcases h with hidentifier | hsymbol | hspace
  · rw [isIdentifierChar_eq_false_of_isBlank hblank] at hidentifier
    cases hidentifier
  · simp only [List.mem_cons, List.not_mem_nil, or_false] at hsymbol
    rcases hsymbol with rfl | rfl | rfl <;> cases hblank
  · exact hspace

/-- Blanks at the end are trimmed. -/
theorem trimEnd_append_of_isBlank {text spaces : List Char} (h : ∀ c ∈ spaces, Text.isBlank c) :
    Text.trimEnd (text ++ spaces) = Text.trimEnd text := by
  rw [Text.trimEnd, Text.trimEnd, List.reverse_append, List.dropWhile_append_of_pos]
  exact fun c hmem => h c (List.mem_reverse.1 hmem)

end Identifier

namespace Lexeme

open Identifier

/-! ## Words -/

/-- A text is read as a token of a kind in front of another text. -/
inductive Word : Token.Kind → List Char → List Char → Prop
  /-- Digits, with no further one behind them. -/
  | integer {digits rest : List Char} (hne : digits ≠ []) (hdigits : ∀ c ∈ digits, isDigit c)
      (hrest : rest.takeWhile isDigit = []) : Word .integer digits rest
  /-- A keyword that ends there. -/
  | keyword (keyword : Keyword) {rest : List Char} (hends : endsWord rest) :
      Word keyword.kind keyword.text.toList rest
  /-- A symbol, whatever is behind it. -/
  | symbol {c : Char} {kind : Token.Kind} (rest : List Char)
      (hsymbol : Token.Kind.ofSymbol? c = some kind) : Word kind [c] rest
  /-- A name, with nothing behind it that continues it, spaces apart. -/
  | name {text rest : List Char} (hname : IsName text) (hends : endsWord rest)
      (hspaces : ∀ c ∈ extent text.reverse rest, isSpace c) : Word .name text rest

/-- The character `c` starts no token. -/
structure Unreadable (c : Char) : Prop where
  /-- It is no space. -/
  isSpace_eq : isSpace c = false
  /-- It is no symbol. -/
  ofSymbol?_eq : Token.Kind.ofSymbol? c = none
  /-- It continues no name. -/
  isIdentifierChar_eq : isIdentifierChar c = false

namespace Word

variable {kind : Token.Kind} {text rest : List Char}

/-- A word starts with a symbol or with a character that continues a name. -/
theorem exists_cons (h : Word kind text rest) :
    ∃ c later, text = c :: later ∧ (isIdentifierChar c ∨ later = [] ∧ isSymbol c) := by
  cases h with
  | integer hne hdigits _ =>
    obtain ⟨c, later, rfl⟩ := List.exists_cons_of_ne_nil hne
    exact ⟨c, later, rfl, .inl (isIdentifierChar_of_isDigit (hdigits c List.mem_cons_self))⟩
  | keyword keyword _ =>
    obtain ⟨c, later, htext, hc, -⟩ := exists_keyword_text_eq keyword
    exact ⟨c, later, htext, .inl hc⟩
  | @symbol c _ _ hsymbol => exact ⟨c, [], rfl, .inr ⟨rfl, isSymbol_of_ofSymbol? hsymbol⟩⟩
  | name hname _ _ =>
    obtain ⟨c, later, htext, hc, -⟩ := hname.head
    exact ⟨c, later, htext, .inl hc⟩

theorem ne_nil (h : Word kind text rest) : text ≠ [] := by
  obtain ⟨c, later, rfl, -⟩ := h.exists_cons
  exact List.cons_ne_nil c later

/-- No word starts with a space. -/
theorem exists_cons_of_not_isSpace (h : Word kind text rest) :
    ∃ c later, text = c :: later ∧ isSpace c = false := by
  obtain ⟨c, later, htext, hc | ⟨-, hc⟩⟩ := h.exists_cons
  · exact ⟨c, later, htext, isSpace_eq_false_of_isIdentifierChar hc⟩
  · exact ⟨c, later, htext, isSpace_eq_false_of_isSymbol hc⟩

theorem kind_ne_endOfInput (h : Word kind text rest) : kind ≠ .endOfInput := by
  cases h with
  | integer => decide
  | keyword keyword _ => cases keyword <;> decide
  | symbol _ hsymbol => exact (kind_ne_of_ofSymbol? hsymbol).2.2
  | name => decide

/-- A number is a row of digits. -/
theorem isDigit_of_mem (h : Word kind text rest) (hkind : kind = .integer) {c : Char}
    (hmem : c ∈ text) : isDigit c := by
  cases h with
  | integer _ hdigits _ => exact hdigits c hmem
  | keyword keyword _ => cases keyword <;> cases hkind
  | symbol _ hsymbol => exact absurd hkind (kind_ne_of_ofSymbol? hsymbol).2.1
  | name => cases hkind

/-- A name is a name by itself. -/
theorem isName (h : Word kind text rest) (hkind : kind = .name) : IsName text := by
  cases h with
  | integer => cases hkind
  | keyword keyword _ => cases keyword <;> cases hkind
  | symbol _ hsymbol => exact absurd hkind (kind_ne_of_ofSymbol? hsymbol).1
  | name hname _ _ => exact hname

/-- The line break is the only word that holds one. -/
theorem eq_of_newline_mem (h : Word kind text rest) (hmem : '\n' ∈ text) : text = ['\n'] := by
  have hnewline : isIdentifierChar '\n' = false := rfl
  cases h with
  | integer _ hdigits _ => cases hdigits _ hmem
  | keyword keyword _ =>
    rw [keyword_isIdentifierChar keyword _ hmem] at hnewline
    cases hnewline
  | symbol => rw [List.mem_singleton.1 hmem]
  | name hname => exact absurd hmem hname.newline_not_mem

end Word

/-! ## Words and the reading of tokens -/

/-- What is read of a word is its text; a name may take up spaces behind it. -/
theorem Word.exists_ofChars?_eq {kind : Token.Kind} {text rest : List Char}
    (h : Word kind text rest) : ∃ spaces, spaces <+: rest ∧ (∀ c ∈ spaces, isSpace c) ∧
      ofChars? (text ++ rest) = some ⟨kind, text, text.length + spaces.length⟩ := by
  cases h with
  | integer hne hdigits hrest =>
    refine ⟨[], List.nil_prefix, nofun, ?_⟩
    have htake : (text ++ rest).takeWhile isDigit = text := by
      rw [List.takeWhile_append_of_pos hdigits, hrest, List.append_nil]
    obtain ⟨c, later, rfl⟩ := List.exists_cons_of_ne_nil hne
    rw [List.cons_append] at htake ⊢
    simp [ofChars?, Lexeme.integer, hdigits c List.mem_cons_self, htake]
  | keyword keyword hends =>
    refine ⟨[], List.nil_prefix, nofun, ?_⟩
    have hkeyword := keywordAt_text_append keyword hends
    obtain ⟨c, later, htext, -, hdigit⟩ := exists_keyword_text_eq keyword
    rw [htext, List.cons_append] at hkeyword ⊢
    simp [ofChars?, hdigit, hkeyword, ← htext, String.length_toList]
  | @symbol c _ _ hsymbol =>
    refine ⟨[], List.nil_prefix, nofun, ?_⟩
    have hidentifier : isIdentifierChar c = false :=
      isIdentifierChar_eq_false_of_isSymbol (isSymbol_of_ofSymbol? hsymbol)
    have hdigit := isDigit_eq_false_of_isIdentifierChar hidentifier
    have hkeyword := keywordAt_eq_none_of_endsWord (endsWord_cons hidentifier rest)
    simp [ofChars?, hdigit, hkeyword, hsymbol]
  | name hname hends hspaces =>
    refine ⟨extent text.reverse rest, extent_prefix _ _, hspaces, ?_⟩
    -- The extent goes over the name and the spaces behind it, and these are trimmed off.
    have hextent : extent [] (text ++ rest) = text ++ extent text.reverse rest := by
      rw [extent_append_of_endsWord hends hname.extent_eq, List.append_nil]
    have htrim : Text.trimEnd (text ++ extent text.reverse rest) = text := by
      rw [trimEnd_append_of_isBlank fun c hmem => isBlank_of_isSpace (hspaces c hmem),
        hname.trimEnd_eq]
    have hkeyword : keywordAt (text ++ rest) = none := by
      rw [keywordAt_append _ hends, hname.keywordAt_eq]
    obtain ⟨c, later, rfl, hc, hdigit⟩ := hname.head
    rw [← List.length_append]
    rw [List.cons_append] at hextent hkeyword ⊢
    simp only [ofChars?, hdigit, hkeyword, ofSymbol?_eq_none_of_isIdentifierChar hc, hc,
      Lexeme.name, hextent]
    simp only [htrim, Bool.false_eq_true, if_false, if_true]

/-- What is read as a token is a word in front of what is left. -/
theorem exists_word_of_ofChars? {cs : List Char} {lexeme : Lexeme}
    (h : ofChars? cs = some lexeme) :
    ∃ rest, cs = lexeme.text ++ rest ∧ Word lexeme.kind lexeme.text rest := by
  have hname := isName_of_ofChars? h
  unfold ofChars? at h
  split at h
  · cases h
  · rename_i c rest
    split at h
    · rename_i hdigit
      obtain rfl := Option.some.inj h
      refine ⟨(c :: rest).dropWhile isDigit, List.takeWhile_append_dropWhile.symm, ?_⟩
      refine .integer (by simp [hdigit]) (fun c hmem => List.mem_takeWhile_imp hmem) ?_
      rw [List.takeWhile_eq_nil_iff]
      intro hpos
      simpa using List.dropWhile_get_zero_not isDigit (c :: rest) hpos
    · split at h
      · rename_i keyword hkeyword
        obtain rfl := Option.some.inj h
        obtain ⟨later, htext, hends⟩ := exists_eq_of_keywordAt hkeyword
        exact ⟨later, htext, .keyword keyword hends⟩
      · split at h
        · rename_i kind hsymbol
          obtain rfl := Option.some.inj h
          exact ⟨rest, rfl, .symbol rest hsymbol⟩
        · split at h
          · obtain rfl := Option.some.inj h
            obtain ⟨blanks, behind, hsource, hextent, hblank, hends⟩ :=
              exists_trimEnd_extent (c :: rest)
            -- What was trimmed off is now what continues the name behind its text.
            have hspaces :
                extent (Text.trimEnd (extent [] (c :: rest))).reverse (blanks ++ behind) =
                blanks := by
              have happend := extent_append_of_endsWord hends (hname rfl).extent_eq
              rw [text_name, List.append_nil, ← hsource] at happend
              exact (List.append_cancel_left (hextent.symm.trans happend)).symm
            refine ⟨blanks ++ behind, hsource, .name (hname rfl) hends fun k hmem => ?_⟩
            rw [text_name, hspaces] at hmem
            have hread : k ∈ extent [] (c :: rest) := by
              rw [hextent]
              exact List.mem_append_right _ hmem
            exact isSpace_of_isBlank_of_cases (mem_extent_cases hread) (hblank k hmem)
          · cases h

/-- A text that is read as no token, and is not empty, starts with a space or with a character that
starts no token. -/
theorem isSpace_or_unreadable_of_ofChars? {c : Char} {rest : List Char}
    (h : ofChars? (c :: rest) = none) : isSpace c ∨ Unreadable c := by
  by_cases hspace : isSpace c
  · exact .inl hspace
  · unfold ofChars? at h
    dsimp only at h
    split at h
    · cases h
    · split at h
      · cases h
      · split at h
        · cases h
        · rename_i hsymbol
          split at h
          · cases h
          · rename_i hidentifier
            exact .inr ⟨by simpa using hspace, hsymbol, by simpa using hidentifier⟩

/-- There is no lexeme at a character that starts no token. -/
theorem ofChars?_eq_none_of_unreadable {c : Char} (h : Unreadable c) (rest : List Char) :
    ofChars? (c :: rest) = none := by
  have hdigit := isDigit_eq_false_of_isIdentifierChar h.isIdentifierChar_eq
  have hkeyword := keywordAt_eq_none_of_endsWord (endsWord_cons h.isIdentifierChar_eq rest)
  simp [ofChars?, hdigit, hkeyword, h.ofSymbol?_eq, h.isIdentifierChar_eq]

/-- A text ends, or it starts with a space, with a word, or with a character that starts no token.
Behind a space or a word there is less of it. -/
@[elab_as_elim]
theorem text_induction {motive : List Char → Prop} (nil : motive [])
    (space : ∀ c cs, isSpace c → motive cs → motive (c :: cs))
    (word : ∀ kind text rest, Word kind text rest → motive rest → motive (text ++ rest))
    (unreadable : ∀ c cs, Unreadable c → motive (c :: cs)) (cs : List Char) : motive cs := by
  match hcs : cs with
  | [] => exact nil
  | c :: rest =>
    match hlexeme : ofChars? (c :: rest) with
    | none =>
      rcases isSpace_or_unreadable_of_ofChars? hlexeme with hspace | hunreadable
      · exact space c rest hspace (text_induction nil space word unreadable rest)
      · exact unreadable c rest hunreadable
    | some lexeme =>
      -- No word is empty, so there is less behind it.
      obtain ⟨behind, htext, hword⟩ := exists_word_of_ofChars? hlexeme
      have hpos := List.length_pos_iff.2 hword.ne_nil
      have hlength : behind.length < (c :: rest).length := by
        rw [htext, List.length_append]
        omega
      rw [htext]
      exact word _ _ _ hword (text_induction nil space word unreadable behind)
termination_by cs.length
decreasing_by
  · simp
  · exact hlength

end Lexeme

end Extraction
