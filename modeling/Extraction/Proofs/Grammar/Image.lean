import Extraction.Proofs.Grammar.Language
import Extraction.Proofs.Program.Form

/-!
# The image of the parser

The form of the programs that sources denote: bodies hold only assignments and invocations, no
number is negative, and every place is a place in the source.
-/

namespace Extraction

open Extraction.Derivation (Leaf)

variable {path : Option String}

namespace Derivation

theorem Leaf.number_nonneg (leaf : Leaf .integer) : 0 ≤ leaf.number := Int.natCast_nonneg _

/-- A range that is read has no negative number, because no token has a sign. -/
theorem Range.range_forward (bounds : Range) : bounds.range.Forward := by
  unfold Range.range
  split
  · exact ⟨bounds.start.number_nonneg, bounds.start.number_nonneg⟩
  · exact bounds.start.number_nonneg
  · exact ⟨bounds.start.number_nonneg, Leaf.number_nonneg _⟩

/-- A binding stands for an assignment or an invocation. -/
theorem Binding.statement_isBinding (form : Binding) : (form.statement path).isBinding := by
  cases form <;> rfl

theorem Binding.statement_forward (form : Binding) : (form.statement path).Forward := by
  cases form with
  | invocation => exact trivial
  | assignment target equals selector attributes range =>
    cases range with
    | none => exact trivial
    | some range => exact range.range_forward

/-- The place of a binding is in the source. -/
theorem Binding.statement_places (form : Binding) {location : Option Location}
    (h : location ∈ (form.statement path).places) : ∃ l, location = some l ∧ l.path = path := by
  cases form <;> exact ⟨_, List.mem_singleton.1 h, rfl⟩

/-- The statement of a definition, and that of a binding, is one of the program, or is in a body. -/
theorem Statement.everything_cases {form : Statement} {statement : Extraction.Statement}
    (h : statement ∈ form.statement path :: (form.statement path).body) :
    (∃ binding : Binding, statement = binding.statement path) ∨
      ∃ definition : Definition, statement = definition.statement path := by
  rcases List.mem_cons.1 h with rfl | hbody
  · cases form with
    | binding binding => exact .inl ⟨binding, rfl⟩
    | definition definition => exact .inr ⟨definition, rfl⟩
  · cases form with
    | binding binding => cases binding <;> cases hbody
    | definition definition =>
      obtain ⟨line, -, rfl⟩ := List.mem_map.1 hbody
      exact .inl ⟨line.1, rfl⟩

/-- The statements of a program are those of its derivation. -/
theorem Program.exists_statement {form : Program} {statement : Extraction.Statement}
    (h : statement ∈ form.statements path) :
    ∃ part : Statement, statement = part.statement path := by
  cases form with
  | blank breaks => cases h
  | lines before first others after =>
    rcases List.mem_cons.1 h with rfl | hothers
    · exact ⟨first, rfl⟩
    · obtain ⟨next, -, rfl⟩ := List.mem_map.1 hothers
      exact ⟨next.2, rfl⟩

/-- A statement of a program, or in a body, comes from a binding or from a definition. -/
theorem Program.everything_cases {form : Program} {statement : Extraction.Statement}
    (h : statement ∈ (form.program path).everything) :
    (∃ binding : Binding, statement = binding.statement path) ∨
      ∃ definition : Definition, statement = definition.statement path := by
  obtain ⟨outer, houter, hmem⟩ := List.mem_flatMap.1 h
  obtain ⟨part, rfl⟩ := Program.exists_statement houter
  exact Statement.everything_cases hmem

end Derivation

variable {source : String} {program : Program}

/-- The bodies in a source hold only assignments and invocations. -/
theorem plain_of_parse (h : parse source path = .ok program) : program.Plain := by
  obtain ⟨-, form, -, rfl⟩ := exists_derivation_of_parse h
  intro statement hmem inner hinner
  obtain ⟨part, rfl⟩ := Derivation.Program.exists_statement hmem
  cases part with
  | binding form => cases form <;> cases hinner
  | definition form =>
    obtain ⟨line, -, rfl⟩ := List.mem_map.1 hinner
    exact line.1.statement_isBinding

/-- No number in a source is negative. -/
theorem forward_of_parse (h : parse source path = .ok program) : program.Forward := by
  obtain ⟨-, form, -, rfl⟩ := exists_derivation_of_parse h
  intro statement hmem
  rcases Derivation.Program.everything_cases hmem with ⟨binding, rfl⟩ | ⟨definition, rfl⟩
  · exact binding.statement_forward
  · exact trivial

/-- Every place of a program is in its source. -/
theorem exists_location_of_parse (h : parse source path = .ok program)
    {location : Option Location} (hlocation : location ∈ program.locations) :
    ∃ l, location = some l ∧ l.path = program.path := by
  obtain ⟨-, form, -, rfl⟩ := exists_derivation_of_parse h
  obtain ⟨statement, hmem, hplace⟩ := List.mem_flatMap.1 hlocation
  rcases Derivation.Program.everything_cases hmem with ⟨binding, rfl⟩ | ⟨definition, rfl⟩
  · exact binding.statement_places hplace
  · rcases List.mem_cons.1 hplace with rfl | hreturns
    · exact ⟨_, rfl, rfl⟩
    · exact ⟨_, List.mem_singleton.1 hreturns, rfl⟩

end Extraction
