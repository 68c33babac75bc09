import Mathlib.Logic.Relation
import Extraction.Proofs.Program.Form

/-!
# What functions lead to

The functions of a program, and which of them invoke which.

* `Program.definition?` is the first definition of a function.
* `Invokes` is the graph of the invocations in bodies, and `LeadsTo` are the functions that some
  statements lead to.
* `Grounded` functions lead to no cycle. All that they lead to is defined, and is asked for no more
  values than it returns.
* `Program.Resolved` programs lead to such functions only. `Program.RecursAt` is what else there is
  to be found.
-/

namespace Extraction

open Relation (ReflTransGen TransGen)

/-! ## Functions -/

namespace Statement

/-- Whether a statement defines a function. -/
def isDefinition : Statement → Bool
  | .definition .. => true
  | _ => false

/-- Whether a statement invokes a function. -/
def isInvocation : Statement → Bool
  | .invocation .. => true
  | _ => false

/-- Whether a statement selects from the document. -/
def isAssignment : Statement → Bool
  | .assignment .. => true
  | _ => false

/-- The function that a statement invokes. -/
def function? : Statement → Option String
  | .invocation _ function _ => some function
  | _ => none

/-- The functions that the statements of `list` invoke, in order. -/
def invoked (list : List Statement) : List String := list.filterMap function?

/-- The first definition of a function among some statements. -/
def definition? : List Statement → String → Option Definition
  | [], _ => none
  | .definition name body spec location :: rest, function =>
    if name = function then some ⟨name, body, spec, location⟩ else definition? rest function
  | _ :: rest, function => definition? rest function

/-- `function` is among the invoked functions of `list` iff an invocation of it is in `list`. -/
theorem mem_invoked {list : List Statement} {function : String} :
    function ∈ invoked list ↔ ∃ targets location, .invocation targets function location ∈ list := by
  simp only [invoked, List.mem_filterMap]
  constructor
  · rintro ⟨statement, hmem, hfunction⟩
    cases statement with
    | invocation targets other location =>
      obtain rfl := Option.some.inj hfunction
      exact ⟨targets, location, hmem⟩
    | assignment => cases hfunction
    | returns => cases hfunction
    | definition => cases hfunction
    | bare => cases hfunction
  · rintro ⟨targets, location, hmem⟩
    exact ⟨_, hmem, rfl⟩

/-- Definitions in front come first. -/
theorem definition?_append (before after : List Statement) (function : String) :
    definition? (before ++ after) function =
      (definition? before function).or (definition? after function) := by
  induction before with
  | nil => rfl
  | cons first before ih =>
    cases first with
    | definition name body spec location =>
      simp only [List.cons_append, definition?]
      split
      · rfl
      · exact ih
    | assignment => exact ih
    | invocation => exact ih
    | returns => exact ih
    | bare => exact ih

variable {first : Statement} {rest list : List Statement} {function : String}
  {definition : Definition}

theorem exists_eq_definition (h : first.isDefinition = true) :
    ∃ name body spec location, first = .definition name body spec location := by
  cases first with
  | definition name body spec location => exact ⟨name, body, spec, location, rfl⟩
  | _ => cases h

/-- A statement that is no definition is passed over in the search for one. -/
theorem definition?_cons_of_not_isDefinition (h : first.isDefinition = false) :
    definition? (first :: rest) = definition? rest := by
  funext function
  cases first with
  | definition => cases h
  | assignment => rfl
  | invocation => rfl
  | returns => rfl
  | bare => rfl

theorem isDefinition_eq_false_of_isBinding (h : first.isBinding) : first.isDefinition = false := by
  cases first with
  | definition => cases h
  | assignment => rfl
  | invocation => rfl
  | returns => rfl
  | bare => rfl

/-- Assignments and invocations define no functions. -/
theorem definition?_eq_none (h : ∀ statement ∈ list, statement.isBinding) (function : String) :
    definition? list function = none := by
  induction list with
  | nil => rfl
  | cons first rest ih =>
    obtain ⟨hfirst, hrest⟩ := List.forall_mem_cons.1 h
    rw [definition?_cons_of_not_isDefinition (isDefinition_eq_false_of_isBinding hfirst)]
    exact ih hrest

/-- A definition that is found has the name that was asked for, and stands among the statements. -/
theorem of_definition?_eq_some (h : definition? list function = some definition) :
    definition.name = function ∧ .definition definition.name definition.body definition.returns
      definition.location ∈ list := by
  induction list with
  | nil => cases h
  | cons first rest ih =>
    by_cases hfirst : first.isDefinition
    · obtain ⟨name, body, spec, location, rfl⟩ := exists_eq_definition hfirst
      rw [definition?] at h
      split at h
      · rename_i hname
        cases h
        exact ⟨hname, List.mem_cons_self⟩
      · exact (ih h).imp_right (List.mem_cons_of_mem _)
    · rw [definition?_cons_of_not_isDefinition (by simpa using hfirst)] at h
      exact (ih h).imp_right (List.mem_cons_of_mem _)

end Statement

/-- The first definition of a function in `program`. -/
def Program.definition? (program : Program) : String → Option Definition :=
  Statement.definition? program.statements

/-- The body of `function` in `program`, and nothing for one that is not defined. -/
def Program.body (program : Program) (function : String) : List Statement :=
  (program.definition? function).elim [] Definition.body

/-- Functions are found by their own names in `defined`, and their bodies hold assignments and
invocations. -/
structure Regular (defined : String → Option Definition) : Prop where
  /-- A function is found by its own name. -/
  name_eq : ∀ name definition, defined name = some definition → definition.name = name
  /-- Its body holds assignments and invocations. -/
  isBinding : ∀ name definition, defined name = some definition →
    ∀ statement ∈ definition.body, statement.isBinding

/-- The functions of a plain program are `Regular`: that they are found by their own names holds of
any program, and that their bodies hold assignments and invocations is `Plain`. -/
theorem Program.Plain.regular {program : Program} (h : program.Plain) :
    Regular program.definition? where
  name_eq _ _ hdefined := (Statement.of_definition?_eq_some hdefined).1
  isBinding _ _ hdefined := h _ (Statement.of_definition?_eq_some hdefined).2

/-! ## Invocations -/

section

variable (defined : String → Option Definition)

/-- The body of `caller` invokes `function`. -/
def Invokes (caller function : String) : Prop :=
  ∃ definition, defined caller = some definition ∧ function ∈ Statement.invoked definition.body

/-- The statements of `list` invoke `function`, or a function that leads to it. -/
def LeadsTo (list : List Statement) (function : String) : Prop :=
  ∃ first ∈ Statement.invoked list, ReflTransGen (Invokes defined) first function

/-- An invocation is of a function that is defined, and asks it for no more values than it
returns. -/
def Served : Statement → Prop
  | .invocation targets function _ => ∃ definition, defined function = some definition ∧
      targets.length ≤ definition.returns.names.length
  | _ => True

/-- All that a function leads to is defined and has values enough, and nothing of it leads back. -/
inductive Grounded : String → Prop
  /-- This is so of a function when it is so of those that its body invokes. -/
  | intro {function definition} (hdefined : defined function = some definition)
      (hserved : ∀ statement ∈ definition.body, Served defined statement)
      (hinvoked : ∀ other ∈ Statement.invoked definition.body, Grounded other) : Grounded function

end

variable {defined : String → Option Definition} {list before after : List Statement}
  {function caller other : String} {definition : Definition}

namespace LeadsTo

theorem of_mem (h : function ∈ Statement.invoked list) : LeadsTo defined list function :=
  ⟨function, h, .refl⟩

/-- What the body of a function leads to, the function leads to. -/
theorem of_body (h : LeadsTo defined definition.body function)
    (hdefined : defined caller = some definition) :
    TransGen (Invokes defined) caller function := by
  obtain ⟨first, hmem, hreach⟩ := h
  exact .head' ⟨definition, hdefined, hmem⟩ hreach

end LeadsTo

/-- A statement that invokes nothing leads to nothing. -/
theorem leadsTo_cons_of_none {first : Statement} (h : first.function? = none) :
    LeadsTo defined (first :: list) function ↔ LeadsTo defined list function := by
  simp only [LeadsTo, Statement.invoked, List.filterMap_cons, h]

/-- An invocation of `caller` leads to what `caller` reaches through bodies, besides what the
statements after it lead to. -/
theorem leadsTo_cons_invocation {targets : List String} {location : Option Location} :
    LeadsTo defined (.invocation targets caller location :: list) function ↔
      ReflTransGen (Invokes defined) caller function ∨ LeadsTo defined list function := by
  simp [LeadsTo, Statement.invoked, Statement.function?]

namespace Grounded

/-- What the body of a grounded function invokes is grounded. -/
theorem of_invokes (h : Grounded defined caller) (hinvokes : Invokes defined caller function) :
    Grounded defined function := by
  obtain ⟨definition, hdefined, hmem⟩ := hinvokes
  cases h with
  | intro hdefined' _ hinvoked =>
    cases hdefined.symm.trans hdefined'
    exact hinvoked function hmem

/-- What a grounded function reaches through bodies is grounded. -/
theorem of_reflTransGen (h : Grounded defined caller)
    (hreach : ReflTransGen (Invokes defined) caller function) : Grounded defined function := by
  induction hreach with
  | refl => exact h
  | tail _ hinvokes ih => exact ih.of_invokes hinvokes

/-- A function whose callees lead to no cycle is on none. -/
theorem not_cyclic (h : Grounded defined function) :
    ¬TransGen (Invokes defined) function function := by
  induction h with
  | @intro function definition hdefined _ _ ih =>
    intro hcycle
    obtain ⟨callee, ⟨definition', hdefined', hmem⟩, hback⟩ := TransGen.head'_iff.1 hcycle
    cases hdefined.symm.trans hdefined'
    exact ih callee hmem (.tail' hback ⟨definition, hdefined, hmem⟩)

end Grounded

/-! ## Programs -/

namespace Program

/-- The statements of the top level of `program` lead to a function. -/
def LeadsTo (program : Program) : String → Prop :=
  Extraction.LeadsTo program.definition? program.statements

/-- What `program` leads to is without cycles, is defined, and has values enough. -/
structure Resolved (program : Program) : Prop where
  /-- No function leads back to itself. -/
  acyclic : ∀ function, program.LeadsTo function →
    ¬TransGen (Invokes program.definition?) function function
  /-- Every function is defined. -/
  defined : ∀ function, program.LeadsTo function →
    ∃ definition, program.definition? function = some definition
  /-- No invocation of the top level asks for more values than there are. -/
  served : ∀ statement ∈ program.statements, Served program.definition? statement
  /-- Nor does one in a body. -/
  served_body : ∀ function definition, program.LeadsTo function →
    program.definition? function = some definition →
      ∀ statement ∈ definition.body, Served program.definition? statement

/-- A program is `Resolved` when its invocations are served and the functions they ask for are
grounded. -/
theorem resolved_of_grounded {program : Program}
    (hserved : ∀ statement ∈ program.statements, Served program.definition? statement)
    (hgrounded : ∀ function ∈ Statement.invoked program.statements,
      Grounded program.definition? function) : program.Resolved := by
  have hreach : ∀ function, program.LeadsTo function → Grounded program.definition? function := by
    rintro function ⟨first, hmem, hfirst⟩
    exact (hgrounded first hmem).of_reflTransGen hfirst
  refine ⟨fun function h => (hreach function h).not_cyclic, fun function h => ?_, hserved,
    fun function definition h hdefined => ?_⟩
  · cases hreach function h with
    | intro hdefined _ _ => exact ⟨_, hdefined⟩
  · cases hreach function h with
    | intro hdefined' hbody _ =>
      cases hdefined.symm.trans hdefined'
      exact hbody

/-- At the statement `last` of the top level a `function` is found that leads back to itself, with
the `place` of its definition. -/
structure RecursAt (program : Program) (last : Statement) (function : String) (place : Place) :
    Prop where
  /-- The statement is an invocation of a function that leads to it. -/
  reached : ∃ targets first location, last = .invocation targets first location ∧
    ReflTransGen (Invokes program.definition?) first function
  /-- It leads back to itself. -/
  cyclic : TransGen (Invokes program.definition?) function function
  /-- The place is where it is defined. -/
  located : ∃ definition location, program.definition? function = some definition ∧
    definition.location = some location ∧ place = location.place

end Program

end Extraction
