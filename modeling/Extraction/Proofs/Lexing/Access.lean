import Extraction.Proofs.Lexing.NameForm

/-!
# Names by index

A source can be looked at by index, where a place may lie outside of it, and what was collected of a
name by its last character and its last word, of which there may be none. Whether a name goes on is
decided without ever asking for what is not there.

* `Identifier.continuesAt?` decides it by index, and comes to nothing where a place is outside.
* `Text.getLast?_words` says that a text that ends in no blank has a last word.
* `Identifier.continuesAt?_eq` says that there is always an answer: that of `Identifier.continues`.
-/

namespace Extraction

/-! ## Words -/

namespace Text

variable {separates : Char → Bool} {word : List Char}

/-- A text without a character that separates is one piece. -/
theorem pieces_of_forall (h : ∀ c ∈ word, separates c = false) :
    pieces separates word = [word] := by
  induction word with
  | nil => rfl
  | cons c word ih =>
    have hword := ih fun d hmem => h d (List.mem_cons_of_mem _ hmem)
    simp [pieces, h c List.mem_cons_self, hword]

/-- A character that separates stands between the pieces in front of it and those behind it. -/
theorem pieces_append_cons {c : Char} (hc : separates c) (before after : List Char) :
    pieces separates (before ++ c :: after) =
      pieces separates before ++ pieces separates after := by
  induction before with
  | nil => simp [pieces, hc]
  | cons b before ih =>
    by_cases hb : separates b
    · simp [pieces, hb, ih]
    · obtain ⟨first, others, hpieces, -⟩ := exists_pieces_eq separates before
      simp [pieces, hb, ih, hpieces]

/-- What stands behind the last blank is the last word, if it is not empty. -/
theorem getLast?_words_append {before : List Char} (hne : word ≠ [])
    (hword : ∀ c ∈ word, isBlank c = false)
    (hbefore : before = [] ∨ ∃ earlier c, before = earlier ++ [c] ∧ isBlank c) :
    (words (before ++ word)).getLast? = some word := by
  have hpieces : pieces isBlank word = [word] := pieces_of_forall hword
  have hfilter : [word].filter (fun piece => !piece.isEmpty) = [word] := by simp [hne]
  rcases hbefore with rfl | ⟨earlier, c, rfl, hc⟩
  · rw [List.nil_append, words, wordsBy, hpieces, hfilter, List.getLast?_singleton]
  · rw [List.append_assoc, List.singleton_append, words, wordsBy, pieces_append_cons hc, hpieces,
      List.filter_append, hfilter, List.getLast?_concat]

end Text

namespace Identifier

variable {collected seen source : List Char}

/-- No character of an identifier is blank. -/
theorem isBlank_eq_false_of_isIdentifierChar {c : Char} (h : isIdentifierChar c) :
    Text.isBlank c = false := by
  by_contra hblank
  rw [isIdentifierChar_eq_false_of_isBlank (by simpa using hblank)] at h
  cases h

/-- The word that is being read when `seen` was read, its last character first: what stands behind
the last blank. -/
def wordInProgress (seen : List Char) : List Char :=
  (seen.takeWhile fun c => !Text.isBlank c).reverse

/-- Behind a character that continues a name, the last word is the one that is being read. -/
theorem lastWord_eq_wordInProgress (h : endsInIdentifier seen) :
    lastWord seen = wordInProgress seen := by
  cases seen with
  | nil => cases h
  | cons d seen =>
    have hd : Text.isBlank d = false := isBlank_eq_false_of_isIdentifierChar h
    rw [lastWord, wordInProgress, List.dropWhile_cons_of_neg (by simp [hd])]

/-- What ends in a character that continues a name has a last word. -/
theorem getLast?_words (h : endsInIdentifier collected.reverse) :
    (Text.words collected).getLast? = some (lastWord collected.reverse) := by
  obtain ⟨earlier, d, rfl, hd⟩ := endsInIdentifier_reverse_iff.1 h
  let p : Char → Bool := fun c => !Text.isBlank c
  have hsplit : (earlier ++ [d]).rdropWhile p ++ (earlier ++ [d]).rtakeWhile p = earlier ++ [d] :=
    List.rdropWhile_append_rtakeWhile
  have hword : lastWord (earlier ++ [d]).reverse = (earlier ++ [d]).rtakeWhile p :=
    lastWord_eq_wordInProgress h
  rw [hword]
  conv_lhs => rw [← hsplit]
  refine Text.getLast?_words_append ?_ ?_ ?_
  · have hp : p d = true := by simp [p, isBlank_eq_false_of_isIdentifierChar hd]
    rw [List.rtakeWhile_concat_pos _ _ _ hp]
    simp
  · intro c hmem
    simpa [p] using List.mem_rtakeWhile_imp hmem
  -- What is in front of the last word ends in a blank.
  · rcases List.eq_nil_or_concat' ((earlier ++ [d]).rdropWhile p) with hnil | ⟨front, last, hfront⟩
    · exact .inl hnil
    · have hne : (earlier ++ [d]).rdropWhile p ≠ [] := by simp [hfront]
      have hlast := List.rdropWhile_last_not p _ hne
      exact .inr ⟨front, last, hfront, by simpa [hfront, p] using hlast⟩

/-! ## Places of a source -/

/-- The first place in `source` from `index` on with another character than a space, or the end. -/
def skipSpacesAt? (source : List Char) (index : Nat) : Option Nat :=
  if index < source.length then do
    let c ← source[index]?
    if isSpace c then skipSpacesAt? source (index + 1) else some index
  else some index
termination_by source.length - index

/-- Whether `keyword` stands at `index` as a whole word. -/
def standsAt? (source : List Char) (index : Nat) (keyword : Keyword) : Option Bool :=
  if keyword.text.toList.isPrefixOf (source.drop index) then
    let stop := index + keyword.text.length
    if source.length ≤ stop then some true
    else do
      let c ← source[stop]?
      some !isIdentifierChar c
  else some false

/-- The keyword that stands at `index` as a whole word (`keyword_at`). -/
def keywordAt? (source : List Char) (index : Nat) : Option (Option Keyword) :=
  Keyword.all.findM? (standsAt? source index)

/-- Whether a symbol or a keyword stands at `index`, or the source ends there (`starts_reserved`).
-/
def startsReservedAt? (source : List Char) (index : Nat) : Option Bool :=
  if source.length ≤ index then some true
  else do
    let c ← source[index]?
    if isSymbol c then some true
    else do
      let keyword ← keywordAt? source index
      some keyword.isSome

/-- Whether a space at `index` continues the name that was `collected`: what is ahead is not
reserved, and the last word is no keyword. -/
def spaceContinuesAt? (source : List Char) (index : Nat) (collected : List Char) :
    Option Bool := do
  let ahead ← skipSpacesAt? source index
  let reserved ← startsReservedAt? source ahead
  if reserved then some false
  else do
    let word ← (Text.words collected).getLast?
    some (Keyword.ofChars? word).isNone

/-- Whether the character at `index` continues the name that was `collected`
(`continues_identifier`), by the rules of `continues`. Each character and each word that the rules
ask for may be missing. -/
def continuesAt? (source : List Char) (index : Nat) (collected : List Char) : Option Bool :=
  if source.length ≤ index then some false
  else do
    let c ← source[index]?
    if isIdentifierChar c then some true
    else if collected.isEmpty then some false
    else do
      let last ← collected.getLast?
      if !isIdentifierChar last then some false
      else if c == '=' || c == '(' || c == ')' then some true
      else if isSpace c then spaceContinuesAt? source index collected
      else some false

/-- A source is empty behind its last place, and has a character in front of it. -/
theorem drop_cases (source : List Char) (index : Nat) :
    (source.length ≤ index ∧ source.drop index = []) ∨
      ∃ c rest, index < source.length ∧ source[index]? = some c ∧ source.drop index = c :: rest ∧
        source.drop (index + 1) = rest := by
  rcases Nat.lt_or_ge index source.length with hlt | hle
  · refine .inr ⟨source[index], source.drop (index + 1), hlt, List.getElem?_eq_getElem hlt, ?_, rfl⟩
    exact List.drop_eq_getElem_cons hlt
  · exact .inl ⟨hle, List.drop_eq_nil_of_le hle⟩

/-- `skipSpacesAt?` reads within the source, and comes to the first character that is no space. -/
theorem skipSpacesAt?_eq (source : List Char) (index : Nat) :
    ∃ ahead, skipSpacesAt? source index = some ahead ∧
      source.drop ahead = (source.drop index).dropWhile isSpace := by
  fun_induction skipSpacesAt? source index with
  | case1 index hlt ih =>
    rcases drop_cases source index with ⟨hle, -⟩ | ⟨c, rest, -, hget, hdrop, hlater⟩
    · omega
    · rw [hget, hdrop]
      by_cases hc : isSpace c
      · obtain ⟨ahead, hahead, hrest⟩ := ih
        refine ⟨ahead, by simpa [hc] using hahead, ?_⟩
        rw [hrest, hlater, List.dropWhile_cons_of_pos hc]
      · refine ⟨index, by simp [hc], ?_⟩
        rw [hdrop, List.dropWhile_cons_of_neg hc]
  | case2 index hge =>
    refine ⟨index, rfl, ?_⟩
    rw [List.drop_eq_nil_of_le (by omega), List.dropWhile_nil]

/-- `standsAt?` reads within the source, and tells whether `keyword` stands at `index` as a word of
its own. -/
theorem standsAt?_eq (source : List Char) (index : Nat) (keyword : Keyword) :
    standsAt? source index keyword = some (keyword.text.toList.isPrefixOf (source.drop index) &&
      endsWord ((source.drop index).drop keyword.text.length)) := by
  unfold standsAt?
  split
  · rename_i hstands
    rw [hstands, Bool.true_and, List.drop_drop]
    rcases drop_cases source (index + keyword.text.length) with
      ⟨hle, hdrop⟩ | ⟨c, rest, hlt, hget, hdrop, -⟩
    · simp [hle, hdrop, endsWord]
    · simp [Nat.not_le.2 hlt, hget, hdrop, endsWord]
  · rename_i hstands
    simp [hstands]

/-- `keywordAt?` reads within the source, and finds what `keywordAt` finds in the rest of it. -/
theorem keywordAt?_eq (source : List Char) (index : Nat) :
    keywordAt? source index = some (keywordAt (source.drop index)) := by
  rw [keywordAt?, funext (standsAt?_eq source index), keywordAt]
  exact List.findM?_pure _ _

/-- `startsReservedAt?` reads within the source, and tells what `startsReserved` tells of the rest
of it. -/
theorem startsReservedAt?_eq (source : List Char) (index : Nat) :
    startsReservedAt? source index = some (startsReserved (source.drop index)) := by
  unfold startsReservedAt?
  rw [keywordAt?_eq]
  rcases drop_cases source index with ⟨hle, hdrop⟩ | ⟨c, rest, hlt, hget, hdrop, -⟩
  · simp [hle, hdrop, startsReserved]
  · cases hc : isSymbol c <;> simp [Nat.not_le.2 hlt, hget, hdrop, startsReserved, hc]

/-- Behind a character that continues a name there is a last word. -/
theorem spaceContinuesAt?_eq {index : Nat} (h : endsInIdentifier collected.reverse) :
    spaceContinuesAt? source index collected =
      some (!startsReserved ((source.drop index).dropWhile isSpace) &&
        (Keyword.ofChars? (lastWord collected.reverse)).isNone) := by
  obtain ⟨ahead, hahead, hrest⟩ := skipSpacesAt?_eq source index
  have hreserved := startsReservedAt?_eq source ahead
  rw [hrest] at hreserved
  rw [spaceContinuesAt?, hahead, Option.bind_eq_bind, Option.bind_some, hreserved,
    getLast?_words h]
  cases startsReserved ((source.drop index).dropWhile isSpace) <;> rfl

/-- Whether the character at an index continues a name is always decided, for every text that may
have been collected. -/
theorem continuesAt?_eq (source : List Char) (index : Nat) (collected : List Char) :
    continuesAt? source index collected =
      some (continues collected.reverse (source.drop index)) := by
  unfold continuesAt?
  rcases drop_cases source index with ⟨hle, hdrop⟩ | ⟨c, rest, hlt, hget, hdrop, -⟩
  · simp [hle, hdrop, continues]
  · rw [if_neg (Nat.not_le.2 hlt), hget, hdrop, continues]
    rcases List.eq_nil_or_concat' collected with rfl | ⟨earlier, last, rfl⟩
    · cases hc : isIdentifierChar c <;> simp [hc, endsInIdentifier]
    · have hends : endsInIdentifier (earlier ++ [last]).reverse = isIdentifierChar last := by
        rw [List.reverse_append, List.reverse_singleton, List.singleton_append, endsInIdentifier]
      have hne : (earlier ++ [last]).isEmpty = false := by simp
      simp only [List.getLast?_concat, hne, hends, Option.bind_eq_bind, Option.bind_some]
      cases hlast : isIdentifierChar last with
      | false => cases isIdentifierChar c <;> rfl
      | true =>
        cases hspace : isSpace c with
        | false =>
          cases isIdentifierChar c <;> cases (c == '=' || c == '(' || c == ')') <;> rfl
        -- Only a space asks for the last word.
        | true =>
          rw [spaceContinuesAt?_eq (hends.trans hlast), hdrop, List.dropWhile_cons_of_pos hspace]
          cases isIdentifierChar c <;> cases (c == '=' || c == '(' || c == ')') <;> rfl

end Identifier

end Extraction
