import Extraction.Proofs.Grammar.Prefix
import Extraction.Proofs.Spelling.Line

/-!
# The sources that are accepted

A source whose tokens can all be read is accepted exactly if they have a derivation and no number
among them is too long. Any other one is refused at a token that is not expected, or at its first
number that is too long, if a program begins with the tokens up to that one.

* `overlongRange digits` is a source with a derivation, and `parse_overlongRange` says that it is
  refused where there are too many `digits`.
* `parse_eq_ok_iff_derivation` is the result.
-/

namespace Extraction

open Extraction.Derivation (Leaf)
open Identifier (IsName)

variable {source : String} {path : Option String}

/-! ## Ranges that are too long -/

/-- An assignment with a row of `digits` as its range. -/
def overlongRange (digits : List Char) : String := "a = b (" ++ String.ofList digits ++ ")"

/-- The tokens of `overlongRange digits` have a derivation, and the only number among them has these
digits. -/
theorem exists_derivation_of_digits {digits : List Char} (hne : digits ≠ [])
    (hdigits : ∀ c ∈ digits, Identifier.isDigit c) (path : Option String) :
    (tokenize (overlongRange digits) path).failure = none ∧
      ∃ (form : Derivation.Program) (before : List Token) (number : Leaf .integer)
        (behind : List Token), form.tokens = (tokenize (overlongRange digits) path).front ∧
        form.tokens = before ++ number.token :: behind ∧ (∀ token ∈ before, token.kind ≠ .integer) ∧
        number.token.text = String.ofList digits := by
  have hstart : (Cursor.start (overlongRange digits) path).InFront
      (['a'] ++ ' ' :: '=' :: ' ' :: 'b' :: ' ' :: '(' :: (digits ++ [')'])) := by
    simp [Cursor.InFront, Cursor.start, overlongRange]
  have htarget : IsName ['a'] := ⟨⟨'a', [], rfl, rfl, rfl⟩, by decide, by decide, by decide⟩
  have hselector : IsName ['b'] := ⟨⟨'b', [], rfl, rfl, rfl⟩, by decide, by decide, by decide⟩
  -- The spaces in front of the symbols end the names.
  obtain ⟨target, cursor, hfirst, hcursor, -⟩ :=
    hstart.exists_passes (htarget.word (stopsNames_space rfl rfl _))
  obtain ⟨equals, cursor, hsecond, hcursor⟩ := hcursor.of_space.exists_passes_symbol rfl
  obtain ⟨selector, cursor, hthird, hcursor, -⟩ :=
    Cursor.InFront.exists_passes hcursor.of_space (hselector.word (stopsNames_space rfl rfl _))
  obtain ⟨opening, cursor, hfourth, hcursor⟩ := hcursor.of_space.exists_passes_symbol rfl
  obtain ⟨number, cursor, hfifth, hcursor, htext⟩ :=
    hcursor.exists_passes (.integer hne hdigits rfl)
  obtain ⟨closing, cursor, hsixth, hcursor⟩ := hcursor.exists_passes_symbol rfl
  obtain ⟨hend, hnone⟩ := hcursor.scan_eq
  obtain ⟨hfailure, hfront⟩ := (hfirst.trans (hsecond.trans (hthird.trans
    (hfourth.trans (hfifth.trans hsixth))))).scan_eq hend
  let range : Derivation.Range := ⟨opening, number, none, closing⟩
  refine ⟨hfailure,
    .lines [] (.binding (.assignment target equals selector none (some range))) [] [],
    [target.token, equals.token, selector.token, opening.token], number, [closing.token], ?_, rfl,
    ?_, htext⟩
  · rw [tokenize, hfront, hnone]
    rfl
  · simp [target.kind_eq, equals.kind_eq, selector.kind_eq, opening.kind_eq]

/-- A range with too many `digits` is refused, though the source has a derivation, and not for a
token. -/
theorem parse_overlongRange {digits : List Char} (hdigits : ∀ c ∈ digits, Identifier.isDigit c)
    (hlong : Text.mostDigits < digits.length) (path : Option String) :
    (tokenize (overlongRange digits) path).failure = none ∧
      (∃ form : Derivation.Program,
        form.tokens = (tokenize (overlongRange digits) path).front) ∧
      parse (overlongRange digits) path = .error ⟨.tooLong digits.length, .unknown⟩ := by
  have hne : digits ≠ [] := List.ne_nil_of_length_pos (Nat.zero_lt_of_lt hlong)
  obtain ⟨hfailure, form, before, number, behind, hform, htokens, hbefore, htext⟩ :=
    exists_derivation_of_digits hne hdigits path
  obtain ⟨stop, hall, -⟩ := Cursor.scan_tokens_eq hfailure
  rw [← tokenize, ← hform, htokens, List.append_assoc, List.cons_append] at hall
  have hoverlong : number.token.Overlong := by
    rwa [number.overlong_iff, htext, String.toList_ofList]
  have hparse := (parse_eq_tooLong_iff hall (by simp) hoverlong
    fun token hmem => Token.not_overlong_of_kind_ne (hbefore token hmem)).2
      ⟨form, behind, by simp [htokens]⟩
  rw [Token.tooLong, htext, String.length_ofList] at hparse
  exact ⟨hfailure, ⟨form, hform⟩, hparse⟩

/-! ## Acceptance -/

/-- A source without a number that is too long is refused at a token that is not expected, if it can
be read to its end. -/
theorem unexpected_of_parse_error (h : (tokenize source path).failure = none)
    (hshort : ∀ token ∈ (tokenize source path).tokens, ¬token.Overlong)
    {failure : Failure SyntaxFault} (hparse : parse source path = .error failure) :
    failure.fault.kind? = some .unexpectedToken := by
  rcases parse_error_cases hparse with
    ⟨_, _, _, _, rfl, -⟩ | ⟨hscan, -⟩ | ⟨number, k, -, hnumber, hlong, -⟩
  · rfl
  · cases h.symm.trans hscan
  · exact absurd hlong (hshort number (List.mem_of_getElem? hnumber))

/-- A source with a number that is too long is refused. If no program begins with the tokens up to
its first such `number`, this is for a token that is not expected. -/
theorem unexpected_of_overlong {before behind : List Token} {number : Token}
    (h : (tokenize source path).failure = none)
    (htokens : (tokenize source path).tokens = before ++ number :: behind)
    (hlong : number.Overlong) (hshort : ∀ token ∈ before, ¬token.Overlong)
    (hnone : ¬∃ form : Derivation.Program, before ++ [number] <+: form.tokens) :
    ∃ failure, parse source path = .error failure ∧
      failure.fault.kind? = some .unexpectedToken := by
  match hparse : parse source path with
  | .ok program =>
    exact absurd hlong (not_overlong_of_parse hparse number (by simp [htokens]))
  | .error failure =>
    refine ⟨failure, rfl, ?_⟩
    rcases parse_error_cases hparse with
      ⟨_, _, _, _, rfl, -⟩ | ⟨hscan, -⟩ | ⟨other, k, -, hother, hlong', form, hform⟩
    · rfl
    · cases h.symm.trans hscan
    -- A program that begins with more begins with the tokens up to the first such number.
    · obtain ⟨-, hbefore, -⟩ := getElem?_and_take_of_eq_append htokens
      have hle := le_of_overlong hother hlong' (hbefore.symm ▸ hshort)
      have htake : before ++ [number] <+: (tokenize source path).tokens.take (k + 1) := by
        rw [List.prefix_take_iff, htokens, List.length_append, List.length_singleton]
        exact ⟨by simp, by omega⟩
      exact absurd ⟨form, htake.trans hform⟩ hnone

/-- Where no number is too long, the parser accepts exactly the sources whose tokens in front of the
end of the input have a derivation, of which there is at most one, and answers with its meaning. Any
other source that can be read as tokens is refused at an unexpected one. Where a `number` is too
long, nothing is accepted: the first one is what the source is refused for, with no token as the
fault, if a program begins with the tokens up to it, and otherwise the fault is an unexpected
token. -/
theorem parse_eq_ok_iff_derivation (h : (tokenize source path).failure = none) :
    ∃ (front : List Token) (stop : Token),
      (tokenize source path).tokens = front ++ [stop] ∧ stop.kind = .endOfInput ∧
      (∀ form form' : Derivation.Program, form.tokens = form'.tokens → form = form') ∧
      ((∀ token ∈ front, ¬token.Overlong) →
        (∀ program, parse source path = .ok program ↔
          ∃ form : Derivation.Program, form.tokens = front ∧ program = form.program path) ∧
        ((¬∃ form : Derivation.Program, form.tokens = front) →
          ∃ failure, parse source path = .error failure ∧
            failure.fault.kind? = some .unexpectedToken)) ∧
      ∀ before number behind, front = before ++ number :: behind → number.Overlong →
        (∀ token ∈ before, ¬token.Overlong) →
          ((∃ form : Derivation.Program, before ++ [number] <+: form.tokens) →
            parse source path = .error number.tooLong) ∧
          ((¬∃ form : Derivation.Program, before ++ [number] <+: form.tokens) →
            ∃ failure, parse source path = .error failure ∧
              failure.fault.kind? = some .unexpectedToken) := by
  obtain ⟨stop, htokens, hstop⟩ := Cursor.scan_tokens_eq h
  rw [← tokenize] at htokens
  refine ⟨(tokenize source path).front, stop, htokens, hstop,
    fun form form' => Derivation.Program.eq_of_tokens_eq, fun hshort => ⟨?_, ?_⟩, ?_⟩
  · intro program
    refine ⟨fun hparse => (exists_derivation_of_parse hparse).2, ?_⟩
    rintro ⟨form, hform, rfl⟩
    exact parse_of_derivation h hform (hform ▸ hshort)
  · intro hnone
    rcases hparse : parse source path with failure | program
    · refine ⟨failure, rfl, unexpected_of_parse_error h ?_ hparse⟩
      rw [htokens]
      refine List.forall_mem_append.2 ⟨hshort, List.forall_mem_singleton.2 ?_⟩
      exact Token.not_overlong_of_kind_ne (by rw [hstop]; decide)
    · obtain ⟨-, form, hform, -⟩ := exists_derivation_of_parse hparse
      exact absurd ⟨form, hform⟩ hnone
  -- With a number that is too long, the first such one decides.
  · intro before number behind hfront hlong hshort
    rw [hfront, List.append_assoc, List.cons_append] at htokens
    refine ⟨fun hbegins => ?_, unexpected_of_overlong h htokens hlong hshort⟩
    exact (parse_eq_tooLong_iff htokens (by simp) hlong hshort).2 hbegins

/-- A source with a definition, a list of attributes, a range and an invocation is the meaning of a
derivation of its tokens. -/
theorem derivation_of_definition_and_invocation :
    let source := "def f\n  a = b \x7bc\x7d (1,)\nreturn \x7ba\x7d\n\nx = do f"
    (tokenize source none).failure = none ∧
      ∃ (front : List Token) (stop : Token) (form : Derivation.Program),
        (tokenize source none).tokens = front ++ [stop] ∧ stop.kind = .endOfInput ∧
          form.tokens = front ∧ (∀ token ∈ front, ¬token.Overlong) ∧
            parse source none = .ok (form.program none) := by
  intro source
  have h : (tokenize source none).failure = none := by decide +kernel
  have hshort : ∀ token ∈ (tokenize source none).tokens, ¬token.Overlong := by decide +kernel
  obtain ⟨front, stop, htokens, hstop, -, hiff, -⟩ := parse_eq_ok_iff_derivation h
  rw [htokens] at hshort
  have hfront := (List.forall_mem_append.1 hshort).1
  have hparse : (parse source none).toBool = true := by decide +kernel
  match hresult : parse source none with
  | .ok program =>
    obtain ⟨form, hform, rfl⟩ := ((hiff hfront).1 program).1 hresult
    exact ⟨h, front, stop, form, htokens, hstop, hform, hfront, rfl⟩
  | .error failure =>
    rw [hresult] at hparse
    cases hparse

/-- With one digit more than can be read, a source that has a derivation is neither accepted nor
refused at an unexpected token. -/
theorem parse_range_of_overlong_number :
    let source := overlongRange (List.replicate 4301 '1')
    (tokenize source none).failure = none ∧
      (∃ form : Derivation.Program, form.tokens = (tokenize source none).front) ∧
      ∃ failure, parse source none = .error failure ∧
        failure.fault.kind? ≠ some .unexpectedToken := by
  intro source
  have hdigits : ∀ c ∈ List.replicate 4301 '1', Identifier.isDigit c := by
    intro c hmem
    obtain rfl := List.eq_of_mem_replicate hmem
    rfl
  have hlong : Text.mostDigits < (List.replicate 4301 '1').length := by
    rw [List.length_replicate]
    decide
  obtain ⟨hfailure, hform, hparse⟩ := parse_overlongRange hdigits hlong none
  exact ⟨hfailure, hform, _, hparse, nofun⟩

end Extraction
