import Extraction.Proofs.Lexing.Scan

/-!
# Positions

Where the tokens of a source stand. The line and the column of a token tell an offset, at which the
source holds the text of the token, and what lies between two tokens is spaces.

* `Text.offset` is the offset that a line and a column tell, and `Text.IsAt` says what they are at
  an offset; `Text.IsAt.offset_eq` relates the two.
* `Cursor.Within` are the cursors in a text, and `Cursor.Tiles` the rows of tokens that cover a part
  of it, spaces apart.
* `positions_of_tokens` is the result for the tokens of a source.
-/

namespace Extraction

/-! ## Lines and columns -/

namespace Text

/-- The number of characters up to and including a number of line breaks. -/
def lineStart : Nat → List Char → Nat
  | 0, _ => 0
  | _ + 1, [] => 0
  | breaks + 1, c :: cs => lineStart (if c = '\n' then breaks else breaks + 1) cs + 1

/-- The number of characters in `cs` in front of a `column` of a `line`, where lines are counted
from one. -/
def offset (cs : List Char) (line column : Nat) : Nat := lineStart (line - 1) cs + column

/-- At `offset` in the text `cs` there are `line` and `column`: the line is one more than the line
breaks in front of it, and the column is the number of characters behind the last of these. -/
structure IsAt (cs : List Char) (line column offset : Nat) : Prop where
  /-- The offset is not behind the end of the text. -/
  le_length : offset ≤ cs.length
  /-- The line. -/
  line_eq : line = (cs.take offset).count '\n' + 1
  /-- The column. -/
  column_eq : column = ((cs.take offset).rtakeWhile (· != '\n')).length

/-- The line behind the last of some line breaks starts right behind it. -/
theorem lineStart_count_append (before after : List Char) :
    lineStart (before.count '\n' + 1) (before ++ '\n' :: after) = before.length + 1 := by
  induction before with
  | nil => simp [lineStart]
  | cons c before ih =>
    by_cases hc : c = '\n'
    · subst hc
      simp [lineStart, ih]
    · simp [lineStart, hc, ih]

/-- The line and the column behind a part of a text tell the length of that part. -/
theorem offset_append (before after : List Char) :
    offset (before ++ after) (before.count '\n' + 1)
      (before.rtakeWhile (· != '\n')).length = before.length := by
  -- The last character of the part either starts a line, or makes the column one more.
  induction before using List.reverseRecOn generalizing after with
  | nil => simp [offset, lineStart]
  | append_singleton before c ih =>
    by_cases hc : c = '\n'
    · subst hc
      have hcount : (before ++ ['\n']).count '\n' = before.count '\n' + 1 := by simp
      have htake : (before ++ ['\n']).rtakeWhile (· != '\n') = [] :=
        List.rtakeWhile_concat_neg _ _ _ (by decide)
      rw [hcount, htake, List.append_assoc, List.singleton_append, offset,
        Nat.add_sub_cancel, lineStart_count_append]
      simp
    · have hcount : (before ++ [c]).count '\n' = before.count '\n' := by simp [hc]
      have htake : (before ++ [c]).rtakeWhile (· != '\n') =
          before.rtakeWhile (· != '\n') ++ [c] :=
        List.rtakeWhile_concat_pos _ _ _ (by simpa using hc)
      have hbefore := ih ([c] ++ after)
      rw [offset] at hbefore
      rw [hcount, htake, List.append_assoc, offset, List.length_append, List.length_append,
        ← Nat.add_assoc, hbefore]

namespace IsAt

variable {cs : List Char} {line column k : Nat} {c : Char} {rest : List Char}

/-- The offset is the one that the line and the column tell. -/
theorem offset_eq (h : IsAt cs line column k) : offset cs line column = k := by
  have hoffset := offset_append (cs.take k) (cs.drop k)
  rw [List.take_append_drop, ← h.line_eq, ← h.column_eq, List.length_take,
    Nat.min_eq_left h.le_length] at hoffset
  exact hoffset

theorem zero (cs : List Char) : IsAt cs 1 0 0 := ⟨Nat.zero_le _, by simp, by simp⟩

theorem take_succ (hrest : cs.drop k = c :: rest) : cs.take (k + 1) = cs.take k ++ [c] := by
  have hget : cs[k]? = some c := by rw [← List.head?_drop, hrest, List.head?_cons]
  rw [List.take_add_one, hget, Option.toList_some]

theorem succ_le_length (hrest : cs.drop k = c :: rest) : k + 1 ≤ cs.length := by
  have hlength := congrArg List.length hrest
  rw [List.length_drop, List.length_cons] at hlength
  omega

/-- Behind a line break a line starts. -/
theorem newline (h : IsAt cs line column k) (hrest : cs.drop k = '\n' :: rest) :
    IsAt cs (line + 1) 0 (k + 1) := by
  refine ⟨succ_le_length hrest, ?_, ?_⟩
  · rw [take_succ hrest, List.count_append, h.line_eq]
    rfl
  · rw [take_succ hrest, List.rtakeWhile_concat_neg _ _ _ (by decide), List.length_nil]

/-- Behind another character the line goes on. -/
theorem succ (h : IsAt cs line column k) (hrest : cs.drop k = c :: rest) (hc : c ≠ '\n') :
    IsAt cs line (column + 1) (k + 1) := by
  refine ⟨succ_le_length hrest, ?_, ?_⟩
  · rw [take_succ hrest, List.count_append, h.line_eq]
    simp [hc]
  · rw [take_succ hrest, List.rtakeWhile_concat_pos _ _ _ (by simpa using hc),
      List.length_append, h.column_eq]
    rfl

end IsAt

end Text

namespace Cursor

open Identifier (isSpace)
open Lexeme (Word Unreadable)

variable {cs : List Char} {cursor : Cursor} {tokens : List Token} {offset stop : Nat}

/-! ## Cursors in a text -/

/-- `cursor` stands in the text `cs` where its offset, its line and its column say. -/
structure Within (cs : List Char) (cursor : Cursor) : Prop where
  /-- What is left is the text from the offset on. -/
  rest_eq : cs.drop cursor.offset = cursor.rest
  /-- The line and the column are those at the offset. -/
  isAt : Text.IsAt cs cursor.line cursor.column cursor.offset

namespace Within

theorem start (source : String) (path : Option String) :
    (Cursor.start source path).Within source.toList :=
  ⟨rfl, .zero _⟩

/-- A cursor that stands in `cs` does so one character further. -/
theorem step (h : cursor.Within cs) : cursor.step.Within cs := by
  obtain ⟨hrest, hisAt⟩ := h
  unfold Cursor.step
  match hcursor : cursor.rest with
  | [] => exact ⟨hrest, hisAt⟩
  | c :: rest =>
    rw [hcursor] at hrest
    have hdrop : cs.drop (cursor.offset + 1) = rest := by
      rw [← List.drop_drop, hrest, List.drop_one, List.tail_cons]
    by_cases hc : c = '\n'
    · subst hc
      exact ⟨hdrop, hisAt.newline hrest⟩
    · simp only [hc, if_false]
      exact ⟨hdrop, hisAt.succ hrest hc⟩

/-- A cursor that stands in `cs` does so any number of characters further. -/
theorem advance (count : Nat) (h : cursor.Within cs) : (cursor.advance count).Within cs := by
  induction count generalizing cursor with
  | zero => exact h
  | succ count ih =>
    rw [Cursor.advance]
    split
    · exact h
    · exact ih h.step

end Within

/-- A character that is read moves the offset by one. -/
theorem offset_step {c : Char} {rest : List Char} (hrest : cursor.rest = c :: rest) :
    cursor.step.offset = cursor.offset + 1 := by
  unfold step
  simp only [hrest]
  split <;> rfl

/-- A cursor that goes over a text has read as many characters more. -/
theorem offset_advance {text rest : List Char} (hrest : cursor.rest = text ++ rest) :
    (cursor.advance text.length).offset = cursor.offset + text.length := by
  induction text generalizing cursor with
  | nil => rfl
  | cons c text ih =>
    have hstep : cursor.step.rest = text ++ rest := by
      rw [rest_step, hrest]
      rfl
    rw [List.length_cons, advance_succ hrest, ih hstep, offset_step hrest]
    omega

/-! ## Tiles -/

/-- Tokens cover the text `cs` from one offset to another, spaces apart. Only the last one may be
empty. -/
inductive Tiles (cs : List Char) : Nat → List Token → Nat → Prop
  /-- Nothing is covered. -/
  | nil (offset : Nat) : Tiles cs offset [] offset
  /-- A space comes first. -/
  | space {offset stop : Nat} {tokens : List Token} {c : Char} (hget : cs[offset]? = some c)
      (hc : isSpace c) (hrest : Tiles cs (offset + 1) tokens stop) : Tiles cs offset tokens stop
  /-- A token comes first. -/
  | token {offset stop : Nat} {token : Token} {tokens : List Token}
      (hisAt : Text.IsAt cs token.line token.column offset)
      (htext : token.text.toList <+: cs.drop offset) (hempty : token.text.length = 0 → tokens = [])
      (hrest : Tiles cs (offset + token.text.length) tokens stop) :
      Tiles cs offset (token :: tokens) stop

/-- The tokens that are read from a cursor in a text cover the text from there on, up to where the
reading ends. -/
theorem tiles_scan (h : cursor.Within cs) :
    Tiles cs cursor.offset cursor.scan.tokens cursor.scan.cursor.offset := by
  induction cursor using token_induction with
  | nil cursor hrest =>
    -- The end of the input is a token without a text.
    rw [scan_of_nil hrest]
    refine .token h.isAt List.nil_prefix (fun _ => rfl) ?_
    exact .nil _
  | space cursor c rest hrest hc ih =>
    have hget : cs[cursor.offset]? = some c := by
      rw [← List.head?_drop, h.rest_eq, hrest, List.head?_cons]
    rw [scan_of_space hrest hc]
    refine .space hget hc ?_
    rw [← offset_step hrest]
    exact ih h.step
  | word cursor kind text rest hrest hword ih =>
    have hlater := ih (h.advance text.length)
    rw [offset_advance hrest] at hlater
    rw [scan_of_word hrest hword]
    refine .token h.isAt ?_ ?_ ?_
    · rw [String.toList_ofList, h.rest_eq, hrest]
      exact List.prefix_append ..
    · intro hlength
      rw [String.length_ofList] at hlength
      exact absurd (List.length_eq_zero_iff.1 hlength) hword.ne_nil
    · rw [String.length_ofList]
      exact hlater
  | unreadable cursor c rest hrest hc =>
    rw [scan_of_unreadable hrest hc]
    exact .nil _

namespace Tiles

theorem le (h : Tiles cs offset tokens stop) : offset ≤ stop := by
  induction h with
  | nil offset => exact Nat.le_refl _
  | space _ _ _ ih => omega
  | token _ _ _ _ ih => omega

/-- Each token stands at the offset that its line and its column tell. -/
theorem of_mem (h : Tiles cs offset tokens stop) {token : Token} (hmem : token ∈ tokens) :
    let start := Text.offset cs token.line token.column
    Text.IsAt cs token.line token.column start ∧ token.text.toList <+: cs.drop start ∧
      offset ≤ start ∧ start + token.text.length ≤ stop := by
  induction h with
  | nil => cases hmem
  | space _ _ _ ih =>
    obtain ⟨hisAt, htext, hle, hstop⟩ := ih hmem
    exact ⟨hisAt, htext, by omega, hstop⟩
  | token hisAt htext _ hrest ih =>
    rcases List.mem_cons.1 hmem with rfl | hmem
    · rw [hisAt.offset_eq]
      exact ⟨hisAt, htext, Nat.le_refl _, hrest.le⟩
    · obtain ⟨hisAt', htext', hle, hstop⟩ := ih hmem
      exact ⟨hisAt', htext', by omega, hstop⟩

/-- A token ends where a later one starts, or in front of it, and does not start there. -/
theorem pairwise (h : Tiles cs offset tokens stop) :
    tokens.Pairwise fun token later =>
      let start (token : Token) := Text.offset cs token.line token.column
      start token < start later ∧ start token + token.text.length ≤ start later := by
  induction h with
  | nil => exact .nil
  | space _ _ _ ih => exact ih
  | token hisAt _ hempty hrest ih =>
    refine .cons (fun later hmem => ?_) ih
    obtain ⟨-, -, hle, -⟩ := hrest.of_mem hmem
    have hpos := mt hempty (List.ne_nil_of_mem hmem)
    have hstart := hisAt.offset_eq
    dsimp only
    omega

/-- What no token covers is a space. -/
theorem exists_isSpace (h : Tiles cs offset tokens stop) {k : Nat} (hoffset : offset ≤ k)
    (hstop : k < stop)
    (houtside : ∀ token ∈ tokens,
      let start := Text.offset cs token.line token.column
      ¬(start ≤ k ∧ k < start + token.text.length)) :
    ∃ c, cs[k]? = some c ∧ isSpace c := by
  induction h with
  | nil => omega
  | space hget hc _ ih =>
    rcases Nat.eq_or_lt_of_le hoffset with rfl | hlt
    · exact ⟨_, hget, hc⟩
    · exact ih hlt hstop houtside
  | token hisAt _ _ _ ih =>
    -- What is not in the first token is behind it.
    have hfirst := houtside _ List.mem_cons_self
    rw [hisAt.offset_eq] at hfirst
    exact ih (by omega) hstop fun token hmem => houtside token (List.mem_cons_of_mem _ hmem)

end Tiles

/-! ## The end -/

/-- Reading ends at the end of the input, which is then the last token. -/
theorem scan_ends (h : cursor.scan.failure = none) :
    cursor.scan.cursor.rest = [] ∧ ∃ front, cursor.scan.tokens =
      front ++ [⟨.endOfInput, "", cursor.scan.cursor.line, cursor.scan.cursor.column⟩] := by
  induction cursor using token_induction with
  | nil cursor hrest =>
    rw [scan_of_nil hrest]
    exact ⟨hrest, [], rfl⟩
  | space cursor c rest hrest hc ih =>
    rw [scan_of_space hrest hc] at h ⊢
    exact ih h
  | word cursor kind text rest hrest hword ih =>
    rw [scan_of_word hrest hword] at h ⊢
    obtain ⟨hend, front, htokens⟩ := ih h
    exact ⟨hend, _ :: front, congrArg (List.cons _) htokens⟩
  | unreadable cursor c rest hrest hc =>
    rw [scan_of_unreadable hrest hc] at h
    cases h

/-- Or else it ends in front of a character that starts no token. -/
theorem scan_fails {failure : Failure SyntaxFault} (h : cursor.scan.failure = some failure) :
    ∃ c rest, Unreadable c ∧ cursor.scan.cursor.rest = c :: rest ∧
      failure = ⟨.unreadable c, cursor.scan.cursor.location.place⟩ := by
  induction cursor using token_induction with
  | nil cursor hrest =>
    rw [scan_of_nil hrest] at h
    cases h
  | space cursor c rest hrest hc ih =>
    rw [scan_of_space hrest hc] at h ⊢
    exact ih h
  | word cursor kind text rest hrest hword ih =>
    rw [scan_of_word hrest hword] at h ⊢
    exact ih h
  | unreadable cursor c rest hrest hc =>
    rw [scan_of_unreadable hrest hc] at h ⊢
    exact ⟨c, rest, hc, hrest, (Option.some.inj h).symm⟩

/-- Reading ends in the text that it started in, and names the same path. -/
theorem scan_cursor (h : cursor.Within cs) :
    cursor.scan.cursor.Within cs ∧ cursor.scan.cursor.path = cursor.path := by
  induction cursor using token_induction with
  | nil cursor hrest =>
    rw [scan_of_nil hrest]
    exact ⟨h, rfl⟩
  | space cursor c rest hrest hc ih =>
    rw [scan_of_space hrest hc, ← path_step cursor]
    exact ih h.step
  | word cursor kind text rest hrest hword ih =>
    rw [scan_of_word hrest hword, ← path_advance text.length cursor]
    exact ih (h.advance _)
  | unreadable cursor c rest hrest hc =>
    rw [scan_of_unreadable hrest hc]
    exact ⟨h, rfl⟩

end Cursor

/-! ## The tokens of a source -/

/-- A source has no token twice, as each one starts behind those in front of it. -/
theorem nodup_tokens (source : String) (path : Option String) :
    (tokenize source path).tokens.Nodup := by
  refine (Cursor.tiles_scan (Cursor.Within.start source path)).pairwise.imp ?_
  rintro token later ⟨hlt, -⟩ rfl
  exact Nat.lt_irrefl _ hlt

/-- The line and the column of each token of a source tell an offset, at which the source holds the
text of the token. The offsets increase, no two tokens overlap, and every other character in front
of where the reading ends is a space. It ends at the end of the source, where the end of the input
stands, or at a character that starts no token, which the failure names with its line and its
column. -/
theorem positions_of_tokens (source : String) (path : Option String) :
    let cs := source.toList
    let scan := tokenize source path
    let start (token : Token) := Text.offset cs token.line token.column
    let stop := scan.cursor.offset
    (∀ token ∈ scan.tokens, Text.IsAt cs token.line token.column (start token) ∧
      token.text.toList <+: cs.drop (start token) ∧ start token + token.text.length ≤ stop) ∧
    (scan.tokens.Pairwise fun token later =>
      start token < start later ∧ start token + token.text.length ≤ start later) ∧
    (∀ k < stop, (∀ token ∈ scan.tokens,
        ¬(start token ≤ k ∧ k < start token + token.text.length)) →
      ∃ c, cs[k]? = some c ∧ Identifier.isSpace c) ∧
    (scan.failure = none → stop = cs.length ∧ ∃ front last, scan.tokens = front ++ [last] ∧
      last.kind = .endOfInput ∧ last.text = "" ∧
      Text.IsAt cs last.line last.column cs.length) ∧
    ∀ failure, scan.failure = some failure → ∃ (c : Char) (location : Location),
      failure = ⟨.unreadable c, location.place⟩ ∧ cs[stop]? = some c ∧ location.path = path ∧
      Text.IsAt cs location.line location.column stop := by
  intro cs scan start stop
  have hstart := Cursor.Within.start source path
  have htiles := Cursor.tiles_scan hstart
  obtain ⟨hwithin, hpath⟩ := Cursor.scan_cursor hstart
  refine ⟨?_, htiles.pairwise, ?_, ?_, ?_⟩
  · intro token hmem
    obtain ⟨hisAt, htext, -, hle⟩ := htiles.of_mem hmem
    exact ⟨hisAt, htext, hle⟩
  · intro k hk houtside
    exact htiles.exists_isSpace (Nat.zero_le k) hk houtside
  · intro hfailure
    obtain ⟨hend, front, htokens⟩ := Cursor.scan_ends hfailure
    -- Nothing is left behind the offset, and it is not behind the end.
    have hstop : stop = cs.length := by
      have hdrop : cs.drop stop = [] := hwithin.rest_eq.trans hend
      exact Nat.le_antisymm hwithin.isAt.le_length (List.drop_eq_nil_iff.1 hdrop)
    refine ⟨hstop, front, _, htokens, rfl, rfl, ?_⟩
    rw [← hstop]
    exact hwithin.isAt
  · intro failure hfailure
    obtain ⟨c, rest, -, hrest, rfl⟩ := Cursor.scan_fails hfailure
    have hdrop : cs.drop stop = c :: rest := hwithin.rest_eq.trans hrest
    refine ⟨c, scan.cursor.location, rfl, ?_, hpath, hwithin.isAt⟩
    rw [← List.head?_drop, hdrop, List.head?_cons]

end Extraction
