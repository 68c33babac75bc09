import Extraction.Cursor
import Mathlib.Data.List.DropRight

/-!
# Names by themselves

Where a name ends depends on what stands behind it. When a name is written down again, something
else stands there. Yet it is read back, because a name is the longest one in its own text, and
what is written behind it continues no name.

* `Identifier.IsName` are the texts that are names by themselves.
* `Identifier.isName_of_ofChars?` says that the text of every name in a source is one.
* `Identifier.StopsNames` are the texts that continue no name, and
  `Identifier.extent_append_of_endsWord` goes over a name to what is behind it.
-/

namespace Extraction.Identifier

/-! ## Characters -/

theorem isIdentifierChar_eq_false_of_isSpace {c : Char} (h : isSpace c) :
    isIdentifierChar c = false := by
  rw [isIdentifierChar, h]
  rfl

theorem isIdentifierChar_eq_false_of_isSymbol {c : Char} (h : isSymbol c) :
    isIdentifierChar c = false := by
  rw [isIdentifierChar, h, Bool.not_true, Bool.and_false, Bool.false_and]

theorem isBlank_of_isSpace {c : Char} (h : isSpace c) : Text.isBlank c := by
  simp only [isSpace, Bool.or_eq_true, beq_iff_eq] at h
  rcases h with (rfl | rfl) | rfl <;> decide

/-- A character in a range that is listed as unprintable continues no name. -/
theorem isIdentifierChar_eq_false_of_unprintable {c : Char} {first last : Nat}
    (hmem : (first, last) ∈ Text.unprintable) (hlow : 0x7f ≤ first)
    (h : first ≤ c.toNat ∧ c.toNat ≤ last) : isIdentifierChar c = false := by
  have hany : (Text.unprintable.any fun range => range.1 ≤ c.toNat && c.toNat ≤ range.2) = true :=
    List.any_eq_true.2 ⟨_, hmem, by simp [h]⟩
  have hprintable : Text.isPrintable c = false := by
    rw [Text.isPrintable, if_neg (by omega), hany]
    rfl
  rw [isIdentifierChar, hprintable, Bool.and_false]

/-- Of the blanks only the ordinary space prints, and none continues a name by itself. -/
theorem isIdentifierChar_eq_false_of_isBlank {c : Char} (h : Text.isBlank c) :
    isIdentifierChar c = false := by
  simp only [Text.isBlank, Bool.or_eq_true, Bool.and_eq_true, decide_eq_true_eq, beq_iff_eq] at h
  -- Each blank lies in a range that is listed as unprintable, but for the space.
  have hcases : c.toNat < 0x20 ∨ c.toNat = 0x20 ∨ (0x7f ≤ c.toNat ∧ c.toNat ≤ 0xa0) ∨
      (0x1680 ≤ c.toNat ∧ c.toNat ≤ 0x1680) ∨ (0x1fff ≤ c.toNat ∧ c.toNat ≤ 0x200f) ∨
      (0x2028 ≤ c.toNat ∧ c.toNat ≤ 0x202f) ∨ (0x205f ≤ c.toNat ∧ c.toNat ≤ 0x206f) ∨
      (0x2ffc ≤ c.toNat ∧ c.toNat ≤ 0x3000) := by omega
  rcases hcases with hcontrol | hspace | hrange | hrange | hrange | hrange | hrange | hrange
  · have hprintable : Text.isPrintable c = false := by
      rw [Text.isPrintable, if_pos (by omega)]
      simpa using hcontrol
    rw [isIdentifierChar, hprintable, Bool.and_false]
  · obtain rfl : c = ' ' := Char.toNat_inj.1 hspace
    rfl
  all_goals exact isIdentifierChar_eq_false_of_unprintable (by decide +kernel) (by decide) hrange

/-! ## Keywords -/

/-- Whether a text starts with a word as a whole does not depend on what follows the text, if that
continues no word. -/
theorem isPrefixOf_append_and_endsWord {rest : List Char} (h : endsWord rest) (text : List Char)
    {word : List Char} (hword : ∀ c ∈ word, isIdentifierChar c) :
    (word.isPrefixOf (text ++ rest) && endsWord ((text ++ rest).drop word.length)) =
      (word.isPrefixOf text && endsWord (text.drop word.length)) := by
  induction text generalizing word with
  | nil =>
    cases word with
    | nil => simpa [endsWord] using h
    | cons k word =>
      cases rest with
      | nil => rfl
      | cons c rest =>
        -- A word that went on behind the text would continue there.
        have hk := hword k List.mem_cons_self
        have hne : (k == c) = false := by
          refine beq_eq_false_iff_ne.2 ?_
          rintro rfl
          rw [endsWord, hk] at h
          cases h
        simp [List.isPrefixOf, hne]
  | cons c text ih =>
    cases word with
    | nil => rfl
    | cons k word =>
      -- The first characters are compared, and then the others.
      have hrest := ih fun c hmem => hword c (List.mem_cons_of_mem _ hmem)
      simp only [List.cons_append, List.isPrefixOf, List.length_cons, List.drop_succ_cons,
        Bool.and_assoc, hrest]

/-- Keywords are spelled with characters of identifiers. -/
theorem keyword_isIdentifierChar (keyword : Keyword) :
    ∀ c ∈ keyword.text.toList, isIdentifierChar c := by
  have hall : keyword.text.toList.all isIdentifierChar = true := by
    cases keyword <;> rfl
  exact List.all_eq_true.1 hall

/-- What follows a text, and continues no word, makes no keyword at its start. -/
theorem keywordAt_append (text : List Char) {rest : List Char} (h : endsWord rest) :
    keywordAt (text ++ rest) = keywordAt text := by
  unfold keywordAt
  congr 1
  funext keyword
  have := isPrefixOf_append_and_endsWord h text (keyword_isIdentifierChar keyword)
  rwa [String.length_toList] at this

/-- Nor does it make the start of the text reserved. -/
theorem startsReserved_append {text rest : List Char} (htext : text ≠ []) (h : endsWord rest) :
    startsReserved (text ++ rest) = startsReserved text := by
  cases text with
  | nil => exact absurd rfl htext
  | cons c text =>
    rw [List.cons_append, startsReserved, startsReserved, ← List.cons_append,
      keywordAt_append _ h]

/-! ## Extents -/

/-- The text `rest` continues no name, whatever was read before it. -/
def StopsNames (rest : List Char) : Prop := ∀ seen, continues seen rest = false

theorem stopsNames_nil : StopsNames [] := fun _ => rfl

/-- Where no name goes on, a word ends. -/
theorem StopsNames.endsWord {rest : List Char} (h : StopsNames rest) : endsWord rest := by
  cases rest with
  | nil => rfl
  | cons c rest =>
    have hc := h []
    rw [continues] at hc
    by_cases hidentifier : isIdentifierChar c
    · simp [hidentifier] at hc
    · simpa [Identifier.endsWord] using hidentifier

/-- Whether a character continues a name does not depend on what follows the text behind it, if
that continues no word. Only a space looks at the text behind it, and it has to find a word there
to do so. -/
theorem continues_append {text rest : List Char} (h : endsWord rest) (seen : List Char) (c : Char)
    (htext : isSpace c → text.dropWhile isSpace ≠ []) :
    continues seen (c :: (text ++ rest)) = continues seen (c :: text) := by
  by_cases hspace : isSpace c
  · have hdrop : (text ++ rest).dropWhile isSpace = text.dropWhile isSpace ++ rest := by
      rw [List.dropWhile_append, if_neg (by simpa using htext hspace)]
    rw [continues, continues, hdrop, startsReserved_append (htext hspace) h]
  · simp only [continues, hspace, Bool.false_eq_true, if_false]

/-- What belongs to a name stands at the front of the text. -/
theorem extent_prefix (seen cs : List Char) : extent seen cs <+: cs := by
  induction cs generalizing seen with
  | nil => exact List.prefix_rfl
  | cons c cs ih =>
    rw [extent]
    split
    · exact (List.prefix_cons_inj c).2 (ih _)
    · exact List.nil_prefix

/-- Where a name does not go on, nothing more belongs to it. -/
theorem extent_eq_nil {seen rest : List Char} (h : continues seen rest = false) :
    extent seen rest = [] := by
  cases rest with
  | nil => rfl
  | cons c rest => rw [extent, if_neg (by rw [h]; exact Bool.false_ne_true)]

/-- Behind the longest text that continues a name no word is continued. -/
theorem endsWord_of_extent_eq {seen text rest : List Char}
    (h : extent seen (text ++ rest) = text) : endsWord rest := by
  induction text generalizing seen with
  | nil =>
    cases rest with
    | nil => rfl
    | cons c rest =>
      rw [List.nil_append, extent] at h
      by_cases hidentifier : isIdentifierChar c
      · rw [continues, if_pos hidentifier] at h
        cases h
      · simpa [endsWord] using hidentifier
  | cons c text ih =>
    rw [List.cons_append, extent] at h
    split at h
    · exact ih (List.cons.inj h).2
    · cases h

/-- No name goes on behind the end of its line. -/
theorem newline_not_mem_extent (seen cs : List Char) : '\n' ∉ extent seen cs := by
  induction cs generalizing seen with
  | nil => exact List.not_mem_nil
  | cons c cs ih =>
    rw [extent]
    split
    · rename_i h
      rintro (_ | ⟨_, hmem⟩)
      · have hidentifier : isIdentifierChar '\n' = false := rfl
        have hspace : isSpace '\n' = false := rfl
        simp [continues, hidentifier, hspace] at h
      · exact ih _ hmem
    · exact List.not_mem_nil

/-- What continues a name in front of a text continues it by itself, unless it ends in a space. -/
theorem extent_eq_of_append {seen text tail more : List Char} (h : endsWord tail)
    (hlast : ∀ hne : text ≠ [], ¬isSpace (text.getLast hne))
    (hextent : extent seen (text ++ tail) = text ++ more) : extent seen text = text := by
  -- With each character `seen` grows, so the induction is for every `seen`.
  induction text generalizing seen with
  | nil => rfl
  | cons c text ih =>
    have htext : isSpace c → text.dropWhile isSpace ≠ [] := by
      intro hspace hdrop
      -- Nothing but spaces behind a space would leave a space at the end.
      rw [List.dropWhile_eq_nil_iff] at hdrop
      refine hlast (List.cons_ne_nil c text) ?_
      rcases List.mem_cons.1 (List.getLast_mem (List.cons_ne_nil c text)) with heq | hmem
      · rw [heq]
        exact hspace
      · exact hdrop _ hmem
    rw [List.cons_append, extent, continues_append h seen c htext] at hextent
    split at hextent
    · rename_i hcontinues
      rw [extent, if_pos hcontinues, ih ?_ (List.cons.inj hextent).2]
      intro hne
      simpa [List.getLast_cons hne] using hlast (List.cons_ne_nil c text)
    · cases hextent

/-- What continues a name by itself does so in front of a text that continues no word, and then it
depends on this text how the name goes on. -/
theorem extent_append_of_endsWord {seen text rest : List Char} (h : endsWord rest)
    (hextent : extent seen text = text) :
    extent seen (text ++ rest) = text ++ extent (text.reverse ++ seen) rest := by
  induction text generalizing seen with
  | nil => rfl
  | cons c text ih =>
    rw [extent] at hextent
    split at hextent
    · rename_i hcontinues
      have htext : isSpace c → text.dropWhile isSpace ≠ [] := by
        intro hspace hdrop
        -- A space at the end of its text is in front of the end of the input.
        rw [continues, isIdentifierChar_eq_false_of_isSpace hspace, hdrop] at hcontinues
        simp only [isSpace, Bool.or_eq_true, beq_iff_eq] at hspace
        rcases hspace with (rfl | rfl) | rfl <;>
          simp [isSpace, startsReserved] at hcontinues
      rw [List.cons_append, extent, continues_append h seen c htext, if_pos hcontinues,
        ih (List.cons.inj hextent).2, List.reverse_cons, List.append_assoc]
      rfl
    · cases hextent

/-! ## Names -/

/-- The `text` is a name by itself. -/
structure IsName (text : List Char) : Prop where
  /-- It starts with a character that continues a name and is no digit. -/
  head : ∃ c rest, text = c :: rest ∧ isIdentifierChar c ∧ isDigit c = false
  /-- It does not start with a keyword. -/
  keywordAt_eq : keywordAt text = none
  /-- All of it is the name. -/
  extent_eq : extent [] text = text
  /-- It does not end in a blank. -/
  trimEnd_eq : Text.trimEnd text = text

/-- No line break is in a name. -/
theorem IsName.newline_not_mem {text : List Char} (h : IsName text) : '\n' ∉ text := by
  rw [← h.extent_eq]
  exact newline_not_mem_extent [] text

/-- A text is what is left when the blanks at its end are dropped, and these. -/
theorem exists_trimEnd_append (cs : List Char) :
    ∃ blanks, cs = Text.trimEnd cs ++ blanks ∧ ∀ c ∈ blanks, Text.isBlank c := by
  refine ⟨cs.rtakeWhile Text.isBlank, ?_, fun c hmem => ?_⟩
  · rw [← List.reverse_inj, Text.trimEnd, List.rtakeWhile, List.reverse_append,
      List.reverse_reverse, List.reverse_reverse, List.takeWhile_append_dropWhile]
  · exact List.mem_takeWhile_imp (List.mem_reverse.1 hmem)

/-- A source is the name in front of it, the blanks that are dropped behind this, and what the name
leaves. No word goes on behind the name. -/
theorem exists_trimEnd_extent (cs : List Char) :
    ∃ blanks behind, cs = Text.trimEnd (extent [] cs) ++ (blanks ++ behind) ∧
      extent [] cs = Text.trimEnd (extent [] cs) ++ blanks ∧ (∀ c ∈ blanks, Text.isBlank c) ∧
        endsWord (blanks ++ behind) := by
  obtain ⟨behind, hbehind⟩ := extent_prefix [] cs
  obtain ⟨blanks, hblanks, hisBlank⟩ := exists_trimEnd_append (extent [] cs)
  refine ⟨blanks, behind, ?_, hblanks, hisBlank, ?_⟩
  · rw [← List.append_assoc, ← hblanks, hbehind]
  · cases blanks with
    | nil =>
      have hextent : extent [] (extent [] cs ++ behind) = extent [] cs := by rw [hbehind]
      exact endsWord_of_extent_eq hextent
    | cons blank blanks =>
      have hblank := isIdentifierChar_eq_false_of_isBlank (hisBlank blank List.mem_cons_self)
      simp [endsWord, hblank]

/-- The name in front of some text, without the blanks at its end, is a name by itself. -/
theorem isName_trimEnd_extent {c : Char} {rest : List Char} (hc : isIdentifierChar c)
    (hdigit : isDigit c = false) (hkeyword : keywordAt (c :: rest) = none) :
    IsName (Text.trimEnd (extent [] (c :: rest))) := by
  obtain ⟨blanks, behind, hsource, hblanks, -, hends⟩ := exists_trimEnd_extent (c :: rest)
  generalize hname : Text.trimEnd (extent [] (c :: rest)) = name at *
  -- The first character is no blank, so it is not dropped.
  have hne : name ≠ [] := by
    rintro rfl
    have hblank : Text.isBlank c := by
      refine List.rdropWhile_eq_nil_iff.1 hname c ?_
      rw [extent, continues, if_pos hc, if_pos rfl]
      exact List.mem_cons_self
    rw [isIdentifierChar_eq_false_of_isBlank hblank] at hc
    cases hc
  have hhead : ∃ later, name = c :: later := by
    cases name with
    | nil => exact absurd rfl hne
    | cons first later => exact ⟨later, by rw [(List.cons.inj hsource).1]⟩
  obtain ⟨later, hlater⟩ := hhead
  refine ⟨⟨c, later, hlater, hc, hdigit⟩, ?_, ?_, ?_⟩
  · rw [← keywordAt_append name hends, ← hsource]
    exact hkeyword
  · have hextent : extent [] (name ++ (blanks ++ behind)) = name ++ blanks := by
      rw [← hsource, ← hblanks]
    refine extent_eq_of_append hends (fun hne hspace => ?_) hextent
    subst hname
    exact List.rdropWhile_last_not _ _ hne (isBlank_of_isSpace hspace)
  · rw [← hname]
    exact List.rdropWhile_idempotent _ _

/-- A symbol is no name, no number, and not the end of the input. -/
theorem kind_ne_of_ofSymbol? {c : Char} {kind : Token.Kind}
    (h : Token.Kind.ofSymbol? c = some kind) :
    kind ≠ .name ∧ kind ≠ .integer ∧ kind ≠ .endOfInput := by
  unfold Token.Kind.ofSymbol? at h
  split_ifs at h <;> cases h <;> decide

/-- The text of a name in a source is a name by itself. -/
theorem isName_of_ofChars? {cs : List Char} {lexeme : Lexeme}
    (h : Lexeme.ofChars? cs = some lexeme) (hkind : lexeme.kind = .name) :
    IsName lexeme.text := by
  -- The lexer tries numbers, keywords and symbols before names.
  unfold Lexeme.ofChars? at h
  split at h
  · cases h
  · rename_i c rest
    split at h
    · obtain rfl := Option.some.inj h
      cases hkind
    · rename_i hdigit
      split at h
      · rename_i keyword _
        obtain rfl := Option.some.inj h
        cases keyword <;> cases hkind
      · rename_i hkeyword
        split at h
        · rename_i kind hsymbol
          obtain rfl := Option.some.inj h
          exact absurd hkind (kind_ne_of_ofSymbol? hsymbol).1
        · split at h
          · rename_i hc
            obtain rfl := Option.some.inj h
            exact isName_trimEnd_extent hc (by simpa using hdigit) hkeyword
          · cases h

end Extraction.Identifier
