import Extraction.Proofs.Grammar.Completeness
import Extraction.Proofs.Grammar.Pulls
import Extraction.Proofs.Grammar.Soundness

/-!
# The language of the parser

The parser accepts the sources whose tokens have a derivation, if no number among them is too long,
and answers with the meaning of the derivation. `exists_derivation_of_parse` and
`parse_of_derivation` are the two directions.
-/

namespace Extraction

variable {source : String} {path : Option String}

/-- The program that is read from `cursor` on. -/
def parseFrom (cursor : Cursor) (path : Option String) : Except (Failure SyntaxFault) Program := do
  let state ← Parser.State.start cursor path
  (Parser.program.run state).1

/-- To parse a source is to parse from the cursor at its front. -/
theorem parse_eq_parseFrom (source : String) (path : Option String) :
    parse source path = parseFrom (Cursor.start source path) path := rfl

/-- What parsing is to a parser in front of the first token. -/
theorem parseFrom_eq_run {cursor : Cursor} {state : Parser.State}
    (h : Parser.State.start cursor path = .ok state) :
    parseFrom cursor path = (Parser.program.run state).1 := by
  rw [parseFrom, h]
  rfl

/-- A source whose first token can be read is parsed by `Parser.program`. -/
theorem parse_eq_run {state : Parser.State}
    (h : Parser.State.start (Cursor.start source path) path = .ok state) :
    parse source path = (Parser.program.run state).1 := parseFrom_eq_run h

/-- A text that is a program can be read to its end, and the program is the meaning of a derivation
of its tokens. -/
theorem exists_derivation_of_parseFrom {cursor : Cursor} {program : Program}
    (hpath : cursor.path = path) (h : parseFrom cursor path = .ok program) :
    cursor.scan.failure = none ∧
      ∃ form : Derivation.Program, form.tokens = cursor.scan.front ∧
        program = form.program path := by
  match hstart : Parser.State.start cursor path with
  | .ok state =>
    rw [parseFrom_eq_run hstart] at h
    obtain ⟨states, hahead, -⟩ := Parser.ahead_of_start hpath hstart
    obtain ⟨hend, form, htokens, hprogram⟩ := (Parser.ensures_program hahead).ok (Prod.ext h rfl)
    exact ⟨hend, form, htokens.symm, hprogram⟩
  | .error failure =>
    rw [parseFrom, hstart] at h
    cases h

/-- A source that is a program can be read to its end, and the program is the meaning of a
derivation of its tokens. -/
theorem exists_derivation_of_parse {program : Program} (h : parse source path = .ok program) :
    (tokenize source path).failure = none ∧
      ∃ form : Derivation.Program, form.tokens = (tokenize source path).front ∧
        program = form.program path :=
  exists_derivation_of_parseFrom rfl h

/-- A source that is a program has no number that is too long. -/
theorem not_overlong_of_parse {program : Program} (h : parse source path = .ok program) :
    ∀ token ∈ (tokenize source path).tokens, ¬token.Overlong := by
  have houtcome := Parser.outcome_of_parse source path
  rw [h] at houtcome
  cases houtcome with
  | ok _ _ hshort => exact hshort

/-- Where the tokens of a source have a derivation, and no number among them is too long, its
meaning is the program. -/
theorem parse_of_derivation (h : (tokenize source path).failure = none)
    {form : Derivation.Program} (hform : form.tokens = (tokenize source path).front)
    (hshort : ∀ token ∈ form.tokens, ¬token.Overlong) :
    parse source path = .ok (form.program path) := by
  rcases Parser.ahead_start source path with
    ⟨state, course, hstart, hfailure, -, hahead⟩ | ⟨failure, -, -, hend⟩
  · rw [← hform] at hahead
    have halong : Parser.Along path none form.tokens state :=
      hahead.along (hfailure.trans h) fun _ => hshort
    rcases Parser.reads_program halong with ⟨final, hrun, -⟩ | ⟨size, hlimit, -⟩
    · rw [parse_eq_run hstart, hrun]
    · cases hlimit
  · rw [h] at hend
    cases hend

end Extraction
