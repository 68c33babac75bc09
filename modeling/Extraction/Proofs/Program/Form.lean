import Extraction.Program

/-!
# The form of programs

What is known of a syntax tree that a source denotes, and what trees that were built by other means
may lack.

* `Program.Plain` programs have bodies of assignments and invocations only.
* `Program.Forward` programs count the matches of their selectors from the first one on.
* `Program.locations` are the places of the statements and of the lists of returned names.
-/

namespace Extraction

/-! ## Statements -/

namespace Statement

/-- Whether a statement is an assignment or an invocation. -/
def isBinding : Statement → Bool
  | .assignment .. => true
  | .invocation .. => true
  | _ => false

/-- The statements in the body of a definition. -/
def body : Statement → List Statement
  | .definition _ body _ _ => body
  | _ => []

/-- The places of a statement itself, those in its body left out. -/
def places : Statement → List (Option Location)
  | .definition _ _ spec location => [location, spec.location]
  | statement => [statement.location]

/-- The place of a statement is among its `places`. -/
theorem location_mem_places (statement : Statement) : statement.location ∈ statement.places := by
  cases statement <;> simp [places, location]

end Statement

/-- No number of a range is negative. -/
def Range.Forward : Range → Prop
  | .whole => True
  | .openSlice start => 0 ≤ start
  | .bounded start stop => 0 ≤ start ∧ 0 ≤ stop

/-- No number in the range of an assignment is negative. -/
def Statement.Forward : Statement → Prop
  | .assignment _ selection _ => selection.range.Forward
  | _ => True

/-! ## Programs -/

namespace Program

/-- The statements of `program`, each definition with its body. -/
def everything (program : Program) : List Statement :=
  program.statements.flatMap fun statement => statement :: statement.body

/-- The places of the statements of `program`. -/
def locations (program : Program) : List (Option Location) :=
  program.everything.flatMap Statement.places

/-- The bodies of the functions in `program` hold only assignments and invocations. -/
def Plain (program : Program) : Prop :=
  ∀ statement ∈ program.statements, ∀ inner ∈ statement.body, inner.isBinding

/-- No number in a range is negative. -/
def Forward (program : Program) : Prop := ∀ statement ∈ program.everything, statement.Forward

variable {program : Program} {statement inner : Statement}

/-- A statement of the top level is among `program.everything`. -/
theorem mem_everything (h : statement ∈ program.statements) : statement ∈ program.everything :=
  List.mem_flatMap.2 ⟨statement, h, List.mem_cons_self⟩

/-- A statement in the body of a definition of the top level is among `program.everything`. -/
theorem mem_everything_of_mem_body (h : statement ∈ program.statements)
    (hinner : inner ∈ statement.body) : inner ∈ program.everything :=
  List.mem_flatMap.2 ⟨statement, h, List.mem_cons_of_mem _ hinner⟩

/-- A place of any statement of `program`, in a body or not, is among `program.locations`. -/
theorem mem_locations {location : Option Location} (h : statement ∈ program.everything)
    (hlocation : location ∈ statement.places) : location ∈ program.locations :=
  List.mem_flatMap.2 ⟨statement, h, hlocation⟩

end Program

end Extraction
