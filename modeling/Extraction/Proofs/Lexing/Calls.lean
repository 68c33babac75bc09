import Extraction.Proofs.Lexing.Scan

/-!
# Calls for tokens

To read a source is to ask for one token after another, up to the end of the input or a character
that starts no token. No more tokens are asked for than the source has characters, and the end of
the input.

* `Cursor.calls` are the cursors that are asked for a token.
* `Cursor.length_calls_le` bounds their number, and `Cursor.map_next_calls` tells their answers.
-/

namespace Extraction.Cursor

/-! ## Calls and answers -/

/-- The cursors that are asked for a token from `cursor` on when all tokens are read, in order. -/
def calls (cursor : Cursor) : List Cursor :=
  match _h : cursor.next.1 with
  | .error _ => [cursor]
  | .ok token =>
    if _hkind : token.kind = .endOfInput then [cursor] else cursor :: cursor.next.2.calls
termination_by cursor.rest.length
decreasing_by exact length_rest_next_lt _h _hkind

/-- The answers that `scan` has met. -/
def Scan.answers (scan : Scan) : List (Except (Failure SyntaxFault) Token) :=
  scan.tokens.map .ok ++ scan.failure.toList.map .error

/-- The tokens are the answers that are no failure. -/
theorem Scan.filterMap_answers (scan : Scan) :
    scan.answers.filterMap Except.toOption = scan.tokens := by
  rw [answers, List.filterMap_append, List.filterMap_map, List.filterMap_map]
  simp [Function.comp_def, Except.toOption]

/-- A reading whose answers are all tokens has not failed. -/
theorem Scan.failure_eq_none {scan : Scan} {tokens : List Token}
    (h : scan.answers = tokens.map .ok) : scan.failure = none := by
  rw [answers] at h
  cases hfailure : scan.failure with
  | none => rfl
  | some failure =>
    have hmem : Except.error failure ∈ tokens.map .ok := by
      rw [← h, hfailure]
      simp
    simp at hmem

/-- The answers of a reading that has not failed are its tokens. -/
theorem Scan.answers_eq {scan : Scan} (h : scan.failure = none) :
    scan.answers = scan.tokens.map .ok := by
  rw [answers, h]
  exact List.append_nil _

/-- A failure among the answers of a reading is what it has failed with. -/
theorem Scan.failure_eq_some {scan : Scan} {failure : Failure SyntaxFault}
    (h : .error failure ∈ scan.answers) : scan.failure = some failure := by
  simpa [answers] using h

variable {cursor later : Cursor} {token : Token} {failure : Failure SyntaxFault}

/-! ## By the next token -/

/-- What cannot be read is a character. -/
theorem exists_fault_eq (h : cursor.next = (.error failure, later)) :
    ∃ c, failure.fault = .unreadable c := by
  rw [next] at h
  split at h
  · cases h
  · rename_i c _ _
    split at h
    · cases h
    · cases h
      exact ⟨c, rfl⟩

theorem calls_of_error (h : cursor.next = (.error failure, later)) : cursor.calls = [cursor] := by
  rw [calls]
  split
  · rfl
  · rename_i hnext
    rw [h] at hnext
    cases hnext

/-- No call follows one that is answered with the end of the input. -/
theorem calls_of_endOfInput (h : cursor.next = (.ok token, later))
    (hkind : token.kind = .endOfInput) : cursor.calls = [cursor] := by
  rw [calls]
  split
  · rfl
  · rename_i hnext
    rw [h] at hnext
    cases hnext
    rw [dif_pos hkind]

/-- Behind any other token the calls go on. -/
theorem calls_of_ok (h : cursor.next = (.ok token, later)) (hkind : token.kind ≠ .endOfInput) :
    cursor.calls = cursor :: later.calls := by
  rw [calls]
  split
  · rename_i hnext
    rw [h] at hnext
    cases hnext
  · rename_i hnext
    rw [h] at hnext ⊢
    cases hnext
    rw [dif_neg hkind]

theorem calls_ne_nil (cursor : Cursor) : cursor.calls ≠ [] := by
  unfold calls
  split
  · exact List.cons_ne_nil _ _
  · split <;> exact List.cons_ne_nil _ _

/-! ## All calls -/

/-- The calls are answered with the tokens that are read, and with the failure, if there is one. -/
theorem map_next_calls (cursor : Cursor) :
    (cursor.calls.map fun call => call.next.1) = cursor.scan.answers := by
  fun_induction calls cursor with
  | case1 cursor failure hnext =>
    rw [scan_of_error hnext, Scan.answers, List.map_singleton, hnext]
    rfl
  | case2 cursor token hnext hkind =>
    rw [scan_of_endOfInput (Prod.ext hnext rfl) hkind, Scan.answers, List.map_singleton, hnext]
    rfl
  | case3 cursor token hnext hkind ih =>
    rw [scan_of_ok (Prod.ext hnext rfl) hkind, List.map_cons, ih, hnext]
    rfl

/-- Each call is made where the one before has left the cursor. -/
theorem calls_eq_map_after (cursor : Cursor) :
    cursor.calls = (List.range cursor.calls.length).map fun count => cursor.after count := by
  fun_induction calls cursor with
  | case1 => rfl
  | case2 => rfl
  | case3 cursor token hnext hkind ih =>
    -- Behind the first call the others are counted from the cursor that it leaves.
    rw [List.length_cons, List.range_succ_eq_map, List.map_cons, List.map_map]
    exact congrArg (List.cons cursor) ih

/-- A call takes up some of the text, or it is answered with the end of the input, or with a
failure. -/
theorem length_rest_next_lt_or (cursor : Cursor) :
    cursor.next.2.rest.length < cursor.rest.length ∨
      (∃ token, cursor.next.1 = .ok token ∧ token.kind = .endOfInput) ∨
      ∃ failure, cursor.next.1 = .error failure := by
  match hnext : cursor.next.1 with
  | .error failure => exact .inr (.inr ⟨failure, rfl⟩)
  | .ok token =>
    by_cases hkind : token.kind = .endOfInput
    · exact .inr (.inl ⟨token, rfl, hkind⟩)
    · exact .inl (length_rest_next_lt hnext hkind)

/-- The end of the input is the answer to the last call only, and so is a failure. -/
theorem exists_next_of_mem_dropLast {call : Cursor} (h : call ∈ cursor.calls.dropLast) :
    ∃ token, call.next.1 = .ok token ∧ token.kind ≠ .endOfInput := by
  fun_induction calls cursor with
  | case1 => cases h
  | case2 => cases h
  | case3 cursor token hnext hkind ih =>
    rw [List.dropLast_cons_of_ne_nil (calls_ne_nil _)] at h
    rcases List.mem_cons.1 h with rfl | h
    · exact ⟨token, hnext, hkind⟩
    · exact ih h

/-- No more tokens are asked for than there are characters, and the end of the input. -/
theorem length_calls_le (cursor : Cursor) : cursor.calls.length ≤ cursor.rest.length + 1 := by
  fun_induction calls cursor with
  | case1 => simp
  | case2 => simp
  | case3 cursor token hnext hkind ih =>
    have hlt := length_rest_next_lt hnext hkind
    rw [List.length_cons]
    omega

end Extraction.Cursor
