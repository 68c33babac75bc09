import Extraction.Proofs.Lexing.Word

/-!
# Reading all tokens

What reading all tokens from a cursor comes to, by what the text at the cursor starts with.

* `Cursor.scan_cases` goes by the next token.
* `Cursor.after` is the cursor that a number of tokens were pulled from.
* `Cursor.scan_of_nil`, `Cursor.scan_of_space`, `Cursor.scan_of_word` and
  `Cursor.scan_of_unreadable` go by the text, and `Cursor.token_induction` is the induction on a
  cursor with these four cases.
-/

namespace Extraction.Cursor

open Identifier (isSpace)
open Lexeme (Word Unreadable)

variable {cursor cursor' later : Cursor} {token : Token} {kind : Token.Kind}
  {text rest spaces : List Char} {c : Char}

/-! ## Moving on -/

theorem advance_succ (hrest : cursor.rest = c :: rest) (count : Nat) :
    cursor.advance (count + 1) = cursor.step.advance count := by
  rw [advance, if_neg (by simp [hrest])]

theorem advance_one (hrest : cursor.rest = c :: rest) : cursor.advance 1 = cursor.step :=
  advance_succ hrest 0

/-- To go over two numbers of characters is to go over their sum. -/
theorem advance_add (count more : Nat) (cursor : Cursor) :
    cursor.advance (count + more) = (cursor.advance count).advance more := by
  induction count generalizing cursor with
  | zero => rw [Nat.zero_add, advance]
  | succ count ih =>
    match hrest : cursor.rest with
    -- At the end of the input nothing moves.
    | [] =>
      have hstays : ∀ count, cursor.advance count = cursor := by
        intro count
        cases count with
        | zero => rfl
        | succ count => rw [advance, if_pos hrest]
      rw [hstays, hstays, hstays]
    | c :: rest => rw [Nat.add_right_comm, advance_succ hrest, advance_succ hrest, ih]

@[simp]
theorem path_step (cursor : Cursor) : cursor.step.path = cursor.path := by
  unfold step
  split
  · rfl
  · split <;> rfl

/-- No number of characters changes the path of a cursor. -/
@[simp]
theorem path_advance (count : Nat) (cursor : Cursor) :
    (cursor.advance count).path = cursor.path := by
  induction count generalizing cursor with
  | zero => rfl
  | succ count ih =>
    rw [advance]
    split
    · rfl
    · rw [ih, path_step]

/-- Behind a text that stands next, what follows it stands next. -/
theorem rest_advance_of_append (hrest : cursor.rest = text ++ rest) :
    (cursor.advance text.length).rest = rest := by
  rw [rest_advance, hrest, List.drop_left]

/-! ## Spaces -/

/-- A space in front is skipped with those behind it. -/
theorem skipSpaces_of_space (hrest : cursor.rest = c :: rest) (hc : isSpace c) :
    cursor.skipSpaces = cursor.step.skipSpaces := by
  rw [skipSpaces, skipSpaces, hrest, List.takeWhile_cons_of_pos hc, List.length_cons,
    advance_succ hrest, rest_step, hrest]
  rfl

/-- A cursor in front of anything else stays. -/
theorem skipSpaces_eq_self (h : cursor.rest.takeWhile isSpace = []) :
    cursor.skipSpaces = cursor := by
  rw [skipSpaces, h]
  rfl

/-! ## The next token -/

/-- A reading ends with the first call that fails. -/
theorem scan_of_error {failure : Failure SyntaxFault} (h : cursor.next.1 = .error failure) :
    cursor.scan = ⟨[], some failure, cursor.next.2⟩ := by
  rw [scan]
  split <;> simp_all

/-- A token that is not the end of the input stands in front of what is read behind it. -/
theorem scan_of_ok (hnext : cursor.next = (.ok token, later)) (hkind : token.kind ≠ .endOfInput) :
    cursor.scan = { later.scan with tokens := token :: later.scan.tokens } := by
  rw [scan]
  split
  · rename_i failure h
    rw [hnext] at h
    cases h
  · rename_i token' h
    rw [hnext] at h
    cases h
    rw [dif_neg hkind, hnext]

theorem scan_of_endOfInput (hnext : cursor.next = (.ok token, later))
    (hkind : token.kind = .endOfInput) : cursor.scan = ⟨[token], none, later⟩ := by
  rw [scan]
  split
  · rename_i failure h
    rw [hnext] at h
    cases h
  · rename_i token' h
    rw [hnext] at h
    cases h
    rw [dif_pos hkind, hnext]

/-- Behind the end of the input it ends again. -/
theorem next_of_endOfInput (hnext : cursor.next = (.ok token, later))
    (hkind : token.kind = .endOfInput) : later.next = (.ok token, later) := by
  unfold next at hnext
  dsimp only at hnext
  split at hnext
  · rename_i hrest
    have hskip : cursor.skipSpaces.skipSpaces = cursor.skipSpaces :=
      skipSpaces_eq_self (by rw [hrest]; rfl)
    cases hnext
    rw [next]
    simp only [hskip, hrest]
  · split at hnext
    · rename_i lexeme hlexeme
      obtain ⟨rest, -, hword⟩ := Lexeme.exists_word_of_ofChars? hlexeme
      cases hnext
      exact absurd hkind hword.kind_ne_endOfInput
    · cases hnext

/-- The cursor after a number of tokens were pulled. -/
def after : Nat → Cursor → Cursor
  | 0, cursor => cursor
  | count + 1, cursor => after count cursor.next.2

/-- A cursor that stays where it is does so however many tokens are pulled. -/
theorem after_eq_self (h : cursor.next.2 = cursor) (count : Nat) : cursor.after count = cursor := by
  induction count with
  | zero => rfl
  | succ count ih => rw [after, h, ih]

/-- The next token tells how reading all tokens goes: it fails, the input ends, or there is a token
in front of those behind it. -/
theorem scan_cases (cursor : Cursor) :
    (∃ failure later, cursor.next = (.error failure, later) ∧
      cursor.scan = ⟨[], some failure, later⟩) ∨
    (∃ token later, cursor.next = (.ok token, later) ∧ token.kind = .endOfInput ∧
      cursor.scan = ⟨[token], none, later⟩ ∧ later.scan = ⟨[token], none, later⟩) ∨
    ∃ token later, cursor.next = (.ok token, later) ∧ token.kind ≠ .endOfInput ∧
      cursor.scan = { later.scan with tokens := token :: later.scan.tokens } := by
  match hnext : cursor.next with
  | (.error failure, later) =>
    exact .inl ⟨failure, later, rfl, by rw [scan_of_error (by rw [hnext]), hnext]⟩
  | (.ok token, later) =>
    by_cases hkind : token.kind = .endOfInput
    · exact .inr (.inl ⟨token, later, rfl, hkind, scan_of_endOfInput hnext hkind,
        scan_of_endOfInput (next_of_endOfInput hnext hkind) hkind⟩)
    · exact .inr (.inr ⟨token, later, rfl, hkind, scan_of_ok hnext hkind⟩)

/-- Where the next token is the same, all are. -/
theorem scan_eq_of_next_eq (h : cursor.next = cursor'.next) : cursor.scan = cursor'.scan := by
  match hnext : cursor.next with
  | (.error failure, later) =>
    rw [scan_of_error (by rw [hnext]), scan_of_error (by rw [← h, hnext]), h]
  | (.ok token, later) =>
    have hnext' : cursor'.next = (.ok token, later) := h.symm.trans hnext
    by_cases hkind : token.kind = .endOfInput
    · rw [scan_of_endOfInput hnext hkind, scan_of_endOfInput hnext' hkind]
    · rw [scan_of_ok hnext hkind, scan_of_ok hnext' hkind]

/-- The text of the token that is read next is a word. -/
theorem exists_word_of_next (h : cursor.next.1 = .ok token) (hkind : token.kind ≠ .endOfInput) :
    ∃ rest, Word token.kind token.text.toList rest := by
  rw [next] at h
  split at h
  · obtain rfl := Except.ok.inj h
    exact absurd rfl hkind
  · split at h
    · rename_i lexeme hlexeme
      obtain rfl := Except.ok.inj h
      obtain ⟨rest, -, hword⟩ := Lexeme.exists_word_of_ofChars? hlexeme
      exact ⟨rest, by rwa [String.toList_ofList]⟩
    · cases h

/-- The name that is read next is a name by itself. -/
theorem isName_of_next (h : cursor.next.1 = .ok token) (hkind : token.kind = .name) :
    Identifier.IsName token.text.toList := by
  obtain ⟨rest, hword⟩ := exists_word_of_next h (by rw [hkind]; decide)
  exact hword.isName hkind

/-- Every token is the next one somewhere. -/
theorem exists_next_of_mem_scan (hmem : token ∈ cursor.scan.tokens) :
    ∃ here : Cursor, here.next.1 = .ok token := by
  fun_induction scan cursor with
  | case1 => cases hmem
  | case2 cursor first hnext hend =>
    obtain rfl := List.mem_singleton.1 hmem
    exact ⟨cursor, hnext⟩
  | case3 cursor first hnext hkind later ih =>
    rcases List.mem_cons.1 hmem with rfl | hmem
    · exact ⟨cursor, hnext⟩
    · exact ih hmem

/-! ## All tokens -/

/-- At the end of the input there is nothing but the end. -/
theorem scan_of_nil (hrest : cursor.rest = []) :
    cursor.scan = ⟨[⟨.endOfInput, "", cursor.line, cursor.column⟩], none, cursor⟩ := by
  have hskip : cursor.skipSpaces = cursor := skipSpaces_eq_self (by rw [hrest]; rfl)
  refine scan_of_endOfInput ?_ rfl
  rw [next]
  simp only [hskip, hrest]

/-- A space is passed over. -/
theorem scan_of_space (hrest : cursor.rest = c :: rest) (hc : isSpace c) :
    cursor.scan = cursor.step.scan := by
  refine scan_eq_of_next_eq ?_
  rw [next, next, skipSpaces_of_space hrest hc]

/-- So are any number of spaces. -/
theorem scan_advance_spaces (hrest : cursor.rest = spaces ++ rest) (h : ∀ c ∈ spaces, isSpace c) :
    (cursor.advance spaces.length).scan = cursor.scan := by
  induction spaces generalizing cursor with
  | nil => rfl
  | cons c spaces ih =>
    have hstep : cursor.step.rest = spaces ++ rest := by
      rw [rest_step, hrest]
      rfl
    rw [List.length_cons, advance_succ hrest,
      ih hstep fun c hmem => h c (List.mem_cons_of_mem _ hmem),
      scan_of_space hrest (h c List.mem_cons_self)]

/-- A word is a token in front of those behind its text. -/
theorem scan_of_word (hrest : cursor.rest = text ++ rest) (h : Word kind text rest) :
    cursor.scan =
      { (cursor.advance text.length).scan with
        tokens := ⟨kind, String.ofList text, cursor.line, cursor.column⟩ ::
          (cursor.advance text.length).scan.tokens } := by
  obtain ⟨spaces, ⟨behind, rfl⟩, hspaces, hlexeme⟩ := h.exists_ofChars?_eq
  obtain ⟨c, later, rfl, hc⟩ := h.exists_cons_of_not_isSpace
  have hskip : cursor.skipSpaces = cursor := by
    refine skipSpaces_eq_self ?_
    rw [hrest, List.cons_append, List.takeWhile_cons_of_neg (by simp [hc])]
  have hnext : cursor.next = (.ok ⟨kind, String.ofList (c :: later), cursor.line, cursor.column⟩,
      cursor.advance ((c :: later).length + spaces.length)) := by
    rw [next]
    simp only [hskip, hrest, hlexeme]
    rfl
  -- The spaces that a name takes up behind its text would be passed over all the same.
  rw [scan_of_ok hnext h.kind_ne_endOfInput, advance_add,
    scan_advance_spaces (rest_advance_of_append hrest) hspaces]

/-- A character that starts no token is a failure, in front of which the cursor stays. -/
theorem next_of_unreadable (hrest : cursor.rest = c :: rest) (hc : Unreadable c) :
    cursor.next = (.error ⟨.unreadable c, cursor.location.place⟩, cursor) := by
  have hskip : cursor.skipSpaces = cursor := by
    refine skipSpaces_eq_self ?_
    rw [hrest, List.takeWhile_cons_of_neg (by simp [hc.isSpace_eq])]
  rw [next]
  simp only [hskip, hrest, Lexeme.ofChars?_eq_none_of_unreadable hc]

/-- A character that starts no token is what the reading fails with, at its place. -/
theorem scan_of_unreadable (hrest : cursor.rest = c :: rest) (hc : Unreadable c) :
    cursor.scan = ⟨[], some ⟨.unreadable c, cursor.location.place⟩, cursor⟩ := by
  have hnext := next_of_unreadable hrest hc
  rw [scan_of_error (by rw [hnext]), hnext]

/-- A cursor stands at the end of the input, in front of a space or of a word, or in front of a
character that starts no token. Behind a space or a word there is less left. -/
@[elab_as_elim]
theorem token_induction {motive : Cursor → Prop}
    (nil : ∀ cursor : Cursor, cursor.rest = [] → motive cursor)
    (space : ∀ (cursor : Cursor) (c : Char) (rest : List Char), cursor.rest = c :: rest →
      isSpace c → motive cursor.step → motive cursor)
    (word : ∀ (cursor : Cursor) (kind : Token.Kind) (text rest : List Char),
      cursor.rest = text ++ rest → Word kind text rest → motive (cursor.advance text.length) →
        motive cursor)
    (unreadable : ∀ (cursor : Cursor) (c : Char) (rest : List Char), cursor.rest = c :: rest →
      Unreadable c → motive cursor) (cursor : Cursor) : motive cursor := by
  induction hrest : cursor.rest using Lexeme.text_induction generalizing cursor with
  | nil => exact nil cursor hrest
  | space c rest hc ih =>
    exact space cursor c rest hrest hc (ih _ (by rw [rest_step, hrest]; rfl))
  | word kind text rest hword ih =>
    exact word cursor kind text rest hrest hword (ih _ (rest_advance_of_append hrest))
  | unreadable c rest hc => exact unreadable cursor c rest hrest hc

end Extraction.Cursor
