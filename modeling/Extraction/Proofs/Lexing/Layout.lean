import Extraction.Proofs.Lexing.NameForm
import Extraction.Proofs.Lexing.Position
import Extraction.Proofs.Spelling.Line

/-!
# Layout

Spaces between the tokens of a source do not matter. Within a name they do, so what has to be shown
is that no token is told by how many spaces stand behind it.

* `Lexeme.Relaid` relates a text to the same text with more spaces between its tokens, and possibly
  with further text behind it. `Lexeme.Word.relaid` says that words stay words.
* `Lexeme.Splits` are the places that no token reaches across. `Lexeme.splits_of_lineEnds` finds
  them in front of line breaks, `Cursor.splits_of_outside` wherever no token of a source stands.
* `Text.SameLines` compares texts line by line, but for the spaces around the lines.
* `Cursor.Scan.unlocated` leaves out where the tokens stand, and `Cursor.unlocated_scan_of_relaid`
  says that texts with different layouts are read alike up to that.
-/

namespace Extraction

namespace Lexeme

open Identifier

variable {tail rest rest' : List Char} {kind : Token.Kind} {text : List Char}

/-! ## Texts with more spaces -/

/-- The second text has more spaces between the tokens of the first one, and `tail` behind it.
Behind a character that starts no token anything goes. -/
inductive Relaid (tail : List Char) : List Char → List Char → Prop
  /-- The one text ends. -/
  | finish : Relaid tail [] tail
  /-- The other text has a space more. -/
  | more {c : Char} {cs cs' : List Char} (hc : isSpace c) (hrest : Relaid tail cs cs') :
      Relaid tail cs (c :: cs')
  /-- Both have a space. -/
  | space {c : Char} {cs cs' : List Char} (hc : isSpace c) (hrest : Relaid tail cs cs') :
      Relaid tail (c :: cs) (c :: cs')
  /-- Both have a word, which is one in the first text. -/
  | word {kind : Token.Kind} {text rest rest' : List Char} (hword : Word kind text rest)
      (hrest : Relaid tail rest rest') : Relaid tail (text ++ rest) (text ++ rest')
  /-- Both have a character that starts no token. -/
  | unreadable {c : Char} (hc : Unreadable c) (rest rest' : List Char) :
      Relaid tail (c :: rest) (c :: rest')

/-- The other text may have any number of spaces in front. -/
theorem Relaid.spaces {spaces cs cs' : List Char} (h : Relaid tail cs cs')
    (hspaces : ∀ c ∈ spaces, isSpace c) : Relaid tail cs (spaces ++ cs') := by
  induction spaces with
  | nil => exact h
  | cons c spaces ih =>
    have hlater := ih fun k hmem => hspaces k (List.mem_cons_of_mem _ hmem)
    exact .more (hspaces c List.mem_cons_self) hlater

/-! ## What a word sees -/

/-- A word ends in front of a text iff that starts with no character of an identifier. -/
theorem endsWord_iff {rest : List Char} :
    endsWord rest ↔ rest.takeWhile isIdentifierChar = [] := by
  cases rest with
  | nil => simp [endsWord]
  | cons c rest => by_cases hc : isIdentifierChar c <;> simp [endsWord, hc]

/-- Where no character with a property comes first, none does behind more spaces, if only characters
that continue names have the property. -/
theorem Relaid.takeWhile_eq_nil {p : Char → Bool} (h : Relaid tail rest rest')
    (htail : StopsNames tail) (hp : ∀ c, p c → isIdentifierChar c)
    (hrest : rest.takeWhile p = []) : rest'.takeWhile p = [] := by
  -- A character that continues no name does not have the property.
  have hstops : ∀ {c}, isIdentifierChar c = false → p c = false := by
    intro c hc
    by_contra hpc
    rw [hp c (by simpa using hpc)] at hc
    cases hc
  cases h with
  | finish =>
    cases tail with
    | nil => rfl
    | cons c later =>
      have hc : isIdentifierChar c = false := by simpa [Identifier.endsWord] using htail.endsWord
      rw [List.takeWhile_cons_of_neg (by simp [hstops hc])]
  | more hc _ =>
    rw [List.takeWhile_cons_of_neg (by simp [hstops (isIdentifierChar_eq_false_of_isSpace hc)])]
  | space hc _ =>
    rw [List.takeWhile_cons_of_neg (by simp [hstops (isIdentifierChar_eq_false_of_isSpace hc)])]
  | word hword _ =>
    obtain ⟨c, later, rfl, -⟩ := hword.exists_cons
    by_cases hc : p c
    · rw [List.cons_append, List.takeWhile_cons_of_pos hc] at hrest
      cases hrest
    · rw [List.cons_append, List.takeWhile_cons_of_neg hc]
  | @unreadable c hc rest rest' =>
    rw [List.takeWhile_cons_of_neg (by simp [hstops hc.isIdentifierChar_eq])]

/-- Where a word ends in front of the one text, it does so in front of the other. -/
theorem Relaid.endsWord (h : Relaid tail rest rest') (htail : StopsNames tail)
    (hrest : endsWord rest) : endsWord rest' := by
  rw [endsWord_iff] at hrest ⊢
  exact h.takeWhile_eq_nil htail (fun _ => id) hrest

/-- A keyword stays one in front of what continues no word. -/
theorem Word.isSome_keywordAt (h : Word kind text rest) (hrest : endsWord rest → endsWord rest')
    (hkeyword : (keywordAt (text ++ rest)).isSome) : (keywordAt (text ++ rest')).isSome := by
  cases h with
  | integer hne hdigits _ =>
    obtain ⟨c, later, rfl⟩ := List.exists_cons_of_ne_nil hne
    have hdigit := hdigits c List.mem_cons_self
    -- No keyword starts with a digit.
    obtain ⟨keyword, hsome⟩ := Option.isSome_iff_exists.1 hkeyword
    obtain ⟨behind, htext, -⟩ := exists_eq_of_keywordAt hsome
    obtain ⟨d, word, hword, -, hd⟩ := exists_keyword_text_eq keyword
    rw [hword, List.cons_append, List.cons_append] at htext
    rw [(List.cons.inj htext).1, hd] at hdigit
    cases hdigit
  | keyword keyword hends =>
    rw [keywordAt_text_append keyword (hrest hends)]
    rfl
  | @symbol c _ _ hsymbol =>
    have hends : Identifier.endsWord ([c] ++ rest) :=
      endsWord_cons (isIdentifierChar_eq_false_of_isSymbol (isSymbol_of_ofSymbol? hsymbol)) rest
    rw [keywordAt_eq_none_of_endsWord hends] at hkeyword
    cases hkeyword
  | name hname hends _ =>
    rw [keywordAt_append _ hends, hname.keywordAt_eq] at hkeyword
    cases hkeyword

/-- A character that neither continues names nor is a space continues one by what was read only. -/
theorem continues_cons_congr {seen : List Char} {c : Char} (hc : isSpace c = false)
    (rest rest' : List Char) : continues seen (c :: rest) = continues seen (c :: rest') := by
  rw [Bool.eq_iff_iff, continues_cons_iff, continues_cons_iff, hc]
  simp

/-- Where only spaces continue a name, no other character does. -/
theorem continues_eq_false_of_extent {seen : List Char} {c : Char} (hc : isSpace c = false)
    (hrest : ∀ k ∈ extent seen (c :: rest), isSpace k) (rest' : List Char) :
    continues seen (c :: rest') = false := by
  rw [continues_cons_congr hc rest' rest]
  by_contra hcontinues
  rw [Bool.not_eq_false] at hcontinues
  have hmem : c ∈ extent seen (c :: rest) := by
    rw [extent, if_pos hcontinues]
    exact List.mem_cons_self
  rw [hrest c hmem] at hc
  cases hc

/-- Where only spaces continue a name, no word goes on. -/
theorem endsWord_of_extent {seen : List Char} (h : ∀ c ∈ extent seen rest, isSpace c) :
    endsWord rest := by
  cases rest with
  | nil => rfl
  | cons c rest =>
    rw [endsWord, Bool.not_eq_true']
    by_contra hc
    rw [Bool.not_eq_false] at hc
    have hstops := continues_eq_false_of_extent (isSpace_eq_false_of_isIdentifierChar hc) h rest
    rw [continues_cons_iff.2 (.inl hc)] at hstops
    cases hstops

/-- A space in front of what continues no word is the last character that continues a name. -/
theorem isSpace_of_mem_extent {seen : List Char} {c : Char} (hc : isSpace c)
    (hrest : endsWord rest) :
    ∀ k ∈ extent seen (c :: rest), isSpace k := by
  intro k hmem
  rw [extent] at hmem
  split at hmem
  · have hnil : extent (c :: seen) rest = [] := by
      cases rest with
      | nil => rfl
      | cons d rest =>
        have hd : isIdentifierChar d = false := by simpa [endsWord] using hrest
        have hstops : continues (c :: seen) (d :: rest) = false := by
          rw [← Bool.not_eq_true, continues_cons_iff, endsInIdentifier,
            isIdentifierChar_eq_false_of_isSpace hc, hd]
          simp
        exact extent_eq_nil hstops
    rw [hnil] at hmem
    rw [List.mem_singleton.1 hmem]
    exact hc
  · cases hmem

/-- A text that starts with a keyword still does with more spaces, unless they are in front. -/
theorem Relaid.isSome_keywordAt (h : Relaid tail rest rest') (htail : StopsNames tail)
    (hends : ¬Identifier.endsWord rest') (hkeyword : (keywordAt rest).isSome) :
    (keywordAt rest').isSome := by
  cases h with
  | finish => cases hkeyword
  | more hc _ => exact absurd (endsWord_cons (isIdentifierChar_eq_false_of_isSpace hc) _) hends
  | space hc _ => exact absurd (endsWord_cons (isIdentifierChar_eq_false_of_isSpace hc) _) hends
  | word hword hlater => exact hword.isSome_keywordAt (hlater.endsWord htail) hkeyword
  | unreadable hc _ _ => exact absurd (endsWord_cons hc.isIdentifierChar_eq _) hends

/-- Where only spaces continue a name, only spaces do behind more spaces. -/
theorem Relaid.extent {seen : List Char} (h : Relaid tail rest rest') (htail : StopsNames tail)
    (hrest : ∀ c ∈ extent seen rest, isSpace c) : ∀ c ∈ extent seen rest', isSpace c := by
  have hends := endsWord_of_extent hrest
  cases h with
  | finish =>
    rw [extent_eq_nil (htail seen)]
    exact nofun
  | more hc hlater => exact isSpace_of_mem_extent hc (hlater.endsWord htail hends)
  | @space c cs cs' hc hlater =>
    by_cases hcs' : Identifier.endsWord cs'
    · exact isSpace_of_mem_extent hc hcs'
    -- The space is the only one, and a word stands behind it that is no part of the name: what
    -- keeps the space out keeps it out with more spaces behind the word.
    · have hcs : ¬Identifier.endsWord cs := fun hcs => hcs' (hlater.endsWord htail hcs)
      have hstops : ¬continues seen (c :: cs) := by
        intro hcontinues
        have hbehind : ∀ k ∈ Identifier.extent (c :: seen) cs, isSpace k := by
          intro k hmem
          refine hrest k ?_
          rw [Identifier.extent, if_pos hcontinues]
          exact List.mem_cons_of_mem _ hmem
        exact hcs (endsWord_of_extent hbehind)
      have hstops' : continues seen (c :: cs') = false := by
        rw [← Bool.not_eq_true, continues_space_iff hc hcs']
        rintro ⟨hseen, hkeyword, hword⟩
        refine hstops ((continues_space_iff hc hcs).2 ⟨hseen, ?_, hword⟩)
        rw [← Option.not_isSome_iff_eq_none]
        intro hsome
        have hsome' := hlater.isSome_keywordAt htail hcs' hsome
        rw [hkeyword] at hsome'
        cases hsome'
      rw [extent_eq_nil hstops']
      exact nofun
  | @word kind text rest rest' hword hlater =>
    obtain ⟨c, later, rfl, hc⟩ := hword.exists_cons_of_not_isSpace
    rw [List.cons_append] at hrest ⊢
    rw [extent_eq_nil (continues_eq_false_of_extent hc hrest _)]
    exact nofun
  | @unreadable c hc rest rest' =>
    rw [extent_eq_nil (continues_eq_false_of_extent hc.isSpace_eq hrest _)]
    exact nofun

/-- What is read as a word still is with more spaces behind it. -/
theorem Word.relaid (h : Word kind text rest) (hrest : Relaid tail rest rest')
    (htail : StopsNames tail) : Word kind text rest' := by
  cases h with
  | integer hne hdigits hends =>
    have hdigit : ∀ c, isDigit c → isIdentifierChar c := fun _ => isIdentifierChar_of_isDigit
    exact .integer hne hdigits (hrest.takeWhile_eq_nil htail hdigit hends)
  | keyword keyword hends => exact .keyword keyword (hrest.endsWord htail hends)
  | symbol _ hsymbol => exact .symbol rest' hsymbol
  | name hname hends hspaces =>
    exact .name hname (hrest.endsWord htail hends) (hrest.extent htail hspaces)

/-! ## Between two tokens -/

/-- The second text stands behind the first one, and no token reaches from the one into the other.
-/
inductive Splits : List Char → List Char → Prop
  /-- The first text ends. -/
  | nil (after : List Char) : Splits [] after
  /-- A space comes first. -/
  | space {c : Char} {before after : List Char} (hc : isSpace c) (hrest : Splits before after) :
      Splits (c :: before) after
  /-- A word comes first. -/
  | word {kind : Token.Kind} {text before after : List Char}
      (hword : Word kind text (before ++ after)) (hrest : Splits before after) :
      Splits (text ++ before) after
  /-- A character that starts no token comes first, so there is no token behind it. -/
  | unreadable {c : Char} (hc : Unreadable c) (before after : List Char) :
      Splits (c :: before) after

/-- What is behind a place that no token reaches across may have more spaces. -/
theorem Splits.relaid {before after after' : List Char} (h : Splits before after)
    (hafter : Relaid tail after after') : Relaid tail (before ++ after) (before ++ after') := by
  induction h with
  | nil => exact hafter
  | space hc _ ih => exact .space hc (ih hafter)
  | word hword _ ih =>
    rw [List.append_assoc, List.append_assoc]
    exact .word hword (ih hafter)
  | unreadable hc before _ => exact .unreadable hc _ _

/-- A word that starts at such a place, or ends in front of it, does not reach across it. -/
theorem Word.splits {before after : List Char} (h : Word kind text rest)
    (heq : before ++ after = text ++ rest) (hplace : before = [] ∨ text.length ≤ before.length)
    (hrest : ∀ later, before = text ++ later → later ++ after = rest → Splits later after) :
    Splits before after := by
  rcases hplace with rfl | hle
  · exact .nil after
  · obtain ⟨later, rfl⟩ := List.prefix_of_prefix_length_le (heq ▸ List.prefix_append text rest)
      (List.prefix_append before after) hle
    rw [List.append_assoc] at heq
    obtain rfl := List.append_cancel_left heq
    exact .word h (hrest later rfl rfl)

/-- No token reaches across the end of a line. -/
theorem splits_of_lineEnds (before : List Char) {after : List Char} (h : LineEnds after) :
    Splits before after := by
  induction hcs : before ++ after using text_induction generalizing before with
  | nil =>
    rw [(List.append_eq_nil_iff.1 hcs).1]
    exact .nil after
  | space c cs hc ih =>
    cases before with
    | nil => exact .nil after
    | cons b before =>
      obtain ⟨rfl, hrest⟩ := List.cons.inj hcs
      exact .space hc (ih before hrest)
  | word kind text rest hword ih =>
    refine hword.splits hcs ?_ fun later _ hlater => ih later hlater
    by_contra hacross
    obtain ⟨hne, hlt⟩ := not_or.1 hacross
    obtain ⟨across, htext⟩ := List.prefix_of_prefix_length_le (List.prefix_append before after)
      (hcs ▸ List.prefix_append text rest) (Nat.le_of_not_le hlt)
    rw [← htext, List.append_assoc] at hcs
    have hafter := List.append_cancel_left hcs
    cases across with
    | nil => exact hlt (by rw [← htext, List.append_nil])
    | cons c across =>
      rcases h with rfl | ⟨later, rfl⟩
      · cases hafter
      -- A line break within a word is all of it.
      · obtain rfl := (List.cons.inj hafter).1
        have hlength := congrArg List.length (hword.eq_of_newline_mem (by simp [← htext]))
        have hpos := List.length_pos_iff.2 hne
        simp [← htext] at hlength
        omega
  | unreadable c cs hc =>
    cases before with
    | nil => exact .nil after
    | cons b before =>
      obtain ⟨rfl, -⟩ := List.cons.inj hcs
      exact .unreadable hc before after

/-- A text may have another one behind it that starts with a line break. -/
theorem relaid_append (tail cs : List Char) : Relaid tail cs (cs ++ tail) := by
  have hfinish : Relaid tail [] tail := .finish
  have hrelaid := (splits_of_lineEnds cs (.inl rfl)).relaid hfinish
  rwa [List.append_nil] at hrelaid

theorem relaid_refl (cs : List Char) : Relaid [] cs cs := by
  have happend := relaid_append [] cs
  rwa [List.append_nil] at happend

end Lexeme

/-! ## Lines -/

namespace Text

open Identifier (isSpace)

/-- The text `cs` without the spaces at its ends. -/
def stripSpaces (cs : List Char) : List Char := (cs.dropWhile isSpace).rdropWhile isSpace

/-- The texts `cs` and `cs'` have the same lines, but for the spaces around each. -/
def SameLines (cs cs' : List Char) : Prop :=
  (cs.splitOn '\n').map stripSpaces = (cs'.splitOn '\n').map stripSpaces

/-- The text `cs` with a carriage return in front of each line break. -/
def returnLines (cs : List Char) : List Char :=
  cs.flatMap fun c => if c = '\n' then ['\r', '\n'] else [c]

/-- `stripSpaces` takes spaces away at either end, and nothing else. -/
theorem exists_stripSpaces_eq (cs : List Char) : ∃ before after,
    cs = before ++ (stripSpaces cs ++ after) ∧ (∀ c ∈ before, isSpace c) ∧
      ∀ c ∈ after, isSpace c := by
  refine ⟨cs.takeWhile isSpace, (cs.dropWhile isSpace).rtakeWhile isSpace, ?_,
    fun c hmem => List.mem_takeWhile_imp hmem, fun c hmem => List.mem_rtakeWhile_imp hmem⟩
  rw [stripSpaces, List.rdropWhile_append_rtakeWhile, List.takeWhile_append_dropWhile]

/-- A text without line breaks gets no carriage returns. -/
theorem returnLines_eq_self {cs : List Char} (h : '\n' ∉ cs) : returnLines cs = cs := by
  induction cs with
  | nil => rfl
  | cons c cs ih =>
    rw [List.mem_cons, not_or] at h
    obtain ⟨hc, hcs⟩ := h
    rw [returnLines, List.flatMap_cons, if_neg (Ne.symm hc)]
    exact congrArg (List.cons c) (ih hcs)

end Text

namespace Lexeme

open Identifier (isSpace)

variable {tail rest rest' : List Char}

/-- A line may have spaces around it, if a line ends there. -/
theorem Relaid.line (line : List Char) (hends : LineEnds rest) (h : Relaid tail rest rest') :
    Relaid tail (Text.stripSpaces line ++ rest) (line ++ rest') := by
  obtain ⟨before, after, hline, hbefore, hafter⟩ := Text.exists_stripSpaces_eq line
  have hrelaid := ((splits_of_lineEnds (Text.stripSpaces line) hends).relaid
    (h.spaces hafter)).spaces
    hbefore
  rw [← List.append_assoc, ← List.append_assoc, List.append_assoc before, ← hline] at hrelaid
  exact hrelaid

/-- Lines may have spaces around them. -/
theorem relaid_lines (lines : List (List Char)) :
    Relaid [] (['\n'].intercalate (lines.map Text.stripSpaces)) (['\n'].intercalate lines) := by
  induction lines with
  | nil => exact .finish
  | cons line lines ih =>
    cases lines with
    | nil =>
      have hfinish : Relaid [] [] [] := .finish
      have hline := hfinish.line line (.inl rfl)
      simpa [List.intercalate] using hline
    | cons next lines =>
      have hnewline : Word .newline ['\n']
          (['\n'].intercalate ((next :: lines).map Text.stripSpaces)) := .symbol _ rfl
      have hlines := (Relaid.word hnewline ih).line line (.inr ⟨_, rfl⟩)
      simpa [List.intercalate] using hlines

/-- A line break may have a carriage return in front. -/
theorem relaid_returnLines (cs : List Char) : Relaid [] cs (Text.returnLines cs) := by
  induction cs using text_induction with
  | nil => exact .finish
  | space c cs hc ih =>
    have hne : c ≠ '\n' := by
      rintro rfl
      cases hc
    rw [Text.returnLines, List.flatMap_cons, if_neg hne]
    exact .space hc ih
  | word kind text rest hword ih =>
    rw [Text.returnLines, List.flatMap_append]
    by_cases hmem : '\n' ∈ text
    -- The line break is a word, and the carriage return a space in front of it.
    · obtain rfl := hword.eq_of_newline_mem hmem
      exact .more (by decide) (.word hword ih)
    · have htext := Text.returnLines_eq_self hmem
      rw [Text.returnLines] at htext
      rw [htext]
      exact .word hword ih
  | unreadable c cs hc =>
    have hne : c ≠ '\n' := by
      rintro rfl
      cases hc.ofSymbol?_eq
    rw [Text.returnLines, List.flatMap_cons, if_neg hne]
    exact .unreadable hc _ _

end Lexeme

/-! ## Tokens without their places -/

namespace Cursor

open Lexeme (Relaid Splits)

/-- The kinds and the texts of the tokens of `scan`, and the fault that ends the reading, without
places. -/
def Scan.unlocated (scan : Scan) : List (Token.Kind × String) × Option SyntaxFault :=
  (scan.tokens.map fun token => (token.kind, token.text), scan.failure.map Failure.fault)

variable {cursor cursor' : Cursor}

/-- Texts with different spaces between their tokens are read alike. -/
theorem unlocated_scan_of_relaid (h : Relaid [] cursor.rest cursor'.rest) :
    cursor.scan.unlocated = cursor'.scan.unlocated := by
  generalize hrest : cursor.rest = cs, hrest' : cursor'.rest = cs' at h
  -- Along the relation, for any two cursors: they stand at different places once a space was added.
  induction h generalizing cursor cursor' with
  | finish =>
    rw [scan_of_nil hrest, scan_of_nil hrest']
    rfl
  | more hc _ ih =>
    rw [scan_of_space hrest' hc]
    exact ih hrest (by rw [rest_step, hrest']; rfl)
  | space hc _ ih =>
    rw [scan_of_space hrest hc, scan_of_space hrest' hc]
    exact ih (by rw [rest_step, hrest]; rfl) (by rw [rest_step, hrest']; rfl)
  | word hword hlater ih =>
    have hscan := ih (rest_advance_of_append hrest) (rest_advance_of_append hrest')
    obtain ⟨htokens, hfailure⟩ := Prod.ext_iff.1 hscan
    rw [scan_of_word hrest hword,
      scan_of_word hrest' (hword.relaid hlater Identifier.stopsNames_nil)]
    exact Prod.ext (congrArg (List.cons _) htokens) hfailure
  | unreadable hc _ _ =>
    rw [scan_of_unreadable hrest hc, scan_of_unreadable hrest' hc]
    rfl

/-- A place that is no token's is one that no token reaches across. -/
theorem splits_of_outside {cs before after : List Char} (h : cursor.Within cs)
    (hrest : cursor.rest = before ++ after)
    (houtside : ∀ token ∈ cursor.scan.tokens,
      let start := Text.offset cs token.line token.column
      cursor.offset + before.length ≤ start ∨
        start + token.text.length ≤ cursor.offset + before.length) : Splits before after := by
  induction cursor using token_induction generalizing before with
  | nil cursor hnil =>
    rw [hnil] at hrest
    rw [(List.append_eq_nil_iff.1 hrest.symm).1]
    exact .nil after
  | space cursor c cs hcs hc ih =>
    cases before with
    | nil => exact .nil after
    | cons b before =>
      obtain ⟨rfl, rfl⟩ := List.cons.inj (hrest.symm.trans hcs)
      refine .space hc (ih h.step (by rw [rest_step, hrest]; rfl) fun token hmem => ?_)
      rw [scan_of_space hcs hc] at houtside
      have htoken := houtside token hmem
      rw [List.length_cons] at htoken
      rw [offset_step hcs]
      dsimp only at htoken ⊢
      omega
  | word cursor kind text rest hcs hword ih =>
    rw [scan_of_word hcs hword] at houtside
    have hfirst := houtside _ List.mem_cons_self
    rw [h.isAt.offset_eq, String.length_ofList] at hfirst
    -- The place is not within the word: it is where the word starts, or behind it.
    refine hword.splits (hrest.symm.trans hcs) ?_ fun later hbefore hlater => ?_
    · rw [← List.length_eq_zero_iff]
      dsimp only at hfirst
      omega
    · have hbehind := (rest_advance_of_append hcs).trans hlater.symm
      refine ih (h.advance _) hbehind fun token hmem => ?_
      have htoken := houtside token (List.mem_cons_of_mem _ hmem)
      rw [hbefore, List.length_append] at htoken
      rw [offset_advance hcs]
      dsimp only at htoken ⊢
      omega
  | unreadable cursor c cs hcs hc =>
    cases before with
    | nil => exact .nil after
    | cons b before =>
      obtain ⟨rfl, -⟩ := List.cons.inj (hrest.symm.trans hcs)
      exact .unreadable hc before after

end Cursor

end Extraction
