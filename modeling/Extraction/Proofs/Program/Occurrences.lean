import Mathlib.Data.List.Nodup
import Extraction.Proofs.Program.Form

/-!
# Occurrences of statements

A statement may occur in a program more than once, so an occurrence is told by numbers: that of a
statement of the top level, and behind it those of statements in bodies, one within the other.

* `Statement.numbered` are the statements of one body with their numbers.
* `Program.occurrences` are all statements of a program, also in bodies of definitions that stand in
  bodies. `Program.nodup_occurrences` tells them apart by their numbers.
* `Program.numbered_body_subset` finds the body of each definition among them.
-/

namespace Extraction

/-- A statement of a program at its numbers. -/
structure Occurrence where
  /-- The numbers that lead to it, the innermost one last. -/
  numbers : List Nat
  /-- The statement. -/
  statement : Statement

namespace Statement

/-- Statements that stand next to each other, numbered from a first number on; the numbers of their
`owner` come before. -/
def numbered (owner : List Nat) : Nat → List Statement → List Occurrence
  | _, [] => []
  | first, statement :: rest =>
    ⟨owner ++ [first], statement⟩ :: numbered owner (first + 1) rest

mutual

/-- A statement at its `numbers`, with those in its body. -/
def occurrences (numbers : List Nat) : Statement → List Occurrence
  | .definition name body spec location =>
    ⟨numbers, .definition name body spec location⟩ :: occurrencesAll numbers 0 body
  | statement => [⟨numbers, statement⟩]

/-- Statements that stand next to each other from the number `first` on, with those in their bodies.
-/
def occurrencesAll (owner : List Nat) (first : Nat) : List Statement → List Occurrence
  | [] => []
  | statement :: rest =>
    occurrences (owner ++ [first]) statement ++ occurrencesAll owner (first + 1) rest

end

/-- The occurrences within a statement are the statement itself and those in its body, whatever kind
it is of. -/
theorem occurrences_eq (numbers : List Nat) (statement : Statement) :
    occurrences numbers statement =
      ⟨numbers, statement⟩ :: occurrencesAll numbers 0 statement.body := by
  cases statement <;> simp [occurrences, occurrencesAll, body]

/-! ### Induction -/

/-- What holds of a statement if it holds of those in its body holds of all statements. -/
theorem body_induction {P : Statement → Prop}
    (h : ∀ statement : Statement, (∀ inner ∈ statement.body, P inner) → P statement)
    (statement : Statement) : P statement := by
  -- The induction is on the statement together with the list of those in its body.
  refine @Statement.rec P (fun list => ∀ inner ∈ list, P inner) ?_ ?_ ?_ ?_ ?_ ?_ ?_ statement
  · exact fun target selection location => h _ (List.forall_mem_nil P)
  · exact fun targets function location => h _ (List.forall_mem_nil P)
  · exact fun spec => h _ (List.forall_mem_nil P)
  · exact fun name body returns location hbody => h _ hbody
  · exact h _ (List.forall_mem_nil P)
  · exact List.forall_mem_nil P
  · exact fun statement rest hstatement hrest => List.forall_mem_cons.2 ⟨hstatement, hrest⟩

variable {owner numbers : List Nat} {first : Nat} {list : List Statement}
  {occurrence : Occurrence}

/-! ### Statements next to each other -/

theorem map_statement_numbered (owner : List Nat) (first : Nat) (list : List Statement) :
    (numbered owner first list).map Occurrence.statement = list := by
  induction list generalizing first with
  | nil => rfl
  | cons statement rest ih => rw [numbered, List.map_cons, ih]

/-- A statement that was numbered has the numbers of its owner and one more, from `first` on. -/
theorem exists_numbers_eq_of_mem_numbered (h : occurrence ∈ numbered owner first list) :
    ∃ number, first ≤ number ∧ occurrence.numbers = owner ++ [number] := by
  induction list generalizing first with
  | nil => cases h
  | cons statement rest ih =>
    rcases List.mem_cons.1 h with rfl | h
    · exact ⟨first, Nat.le_refl _, rfl⟩
    · obtain ⟨number, hle, hnumbers⟩ := ih h
      exact ⟨number, by omega, hnumbers⟩

theorem nodup_numbered (owner : List Nat) (first : Nat) (list : List Statement) :
    ((numbered owner first list).map Occurrence.numbers).Nodup := by
  induction list generalizing first with
  | nil => exact List.nodup_nil
  | cons statement rest ih =>
    refine List.nodup_cons.2 ⟨fun hmem => ?_, ih (first + 1)⟩
    obtain ⟨occurrence, hmem, heq⟩ := List.mem_map.1 hmem
    obtain ⟨number, hle, hnumbers⟩ := exists_numbers_eq_of_mem_numbered hmem
    have hnumber : [number] = [first] := List.append_cancel_left (hnumbers.symm.trans heq)
    cases hnumber
    omega

/-! ### Statements with those in their bodies -/

/-- Statements next to each other are among the occurrences within them. -/
theorem numbered_subset_occurrencesAll (owner : List Nat) (first : Nat) (list : List Statement) :
    numbered owner first list ⊆ occurrencesAll owner first list := by
  induction list generalizing first with
  | nil => exact List.nil_subset _
  | cons statement rest ih =>
    rw [numbered, occurrencesAll, occurrences_eq]
    exact List.cons_subset_cons _ (List.subset_append_of_subset_right _ (ih (first + 1)))

/-- What occurs in some statements is at numbers behind those of one of them, if that is so for each
of the statements. -/
theorem exists_prefix_of_forall
    (h : ∀ statement ∈ list, ∀ numbers, ∀ occurrence ∈ occurrences numbers statement,
      numbers <+: occurrence.numbers)
    (hmem : occurrence ∈ occurrencesAll owner first list) :
    ∃ number, first ≤ number ∧ owner ++ [number] <+: occurrence.numbers := by
  induction list generalizing first with
  | nil => cases hmem
  | cons statement rest ih =>
    obtain ⟨hstatement, hrest⟩ := List.forall_mem_cons.1 h
    rcases List.mem_append.1 hmem with hmem | hmem
    · exact ⟨first, Nat.le_refl _, hstatement _ _ hmem⟩
    · obtain ⟨number, hle, hprefix⟩ := ih hrest hmem
      exact ⟨number, by omega, hprefix⟩

/-- The numbers of a statement stand in front of the numbers of all that is within it. -/
theorem prefix_of_mem_occurrences {statement : Statement}
    (h : occurrence ∈ occurrences numbers statement) : numbers <+: occurrence.numbers := by
  induction statement using body_induction generalizing numbers occurrence with
  | h statement ih =>
    rw [occurrences_eq] at h
    rcases List.mem_cons.1 h with rfl | h
    · exact List.prefix_rfl
    · obtain ⟨number, -, hprefix⟩ :=
        exists_prefix_of_forall (fun inner hinner _ _ hmem => ih inner hinner hmem) h
      exact (List.prefix_append ..).trans hprefix

/-- What is within statements next to each other has the numbers of one of these in front. -/
theorem exists_prefix_of_mem_occurrencesAll (h : occurrence ∈ occurrencesAll owner first list) :
    ∃ number, first ≤ number ∧ owner ++ [number] <+: occurrence.numbers :=
  exists_prefix_of_forall (fun _ _ _ _ => prefix_of_mem_occurrences) h

/-- If the occurrences within each statement of `list` have different numbers, those within the
whole list have. -/
theorem nodup_of_forall
    (h : ∀ statement ∈ list, ∀ numbers,
      ((occurrences numbers statement).map Occurrence.numbers).Nodup) :
    ((occurrencesAll owner first list).map Occurrence.numbers).Nodup := by
  induction list generalizing first with
  | nil => exact List.nodup_nil
  | cons statement rest ih =>
    obtain ⟨hstatement, hrest⟩ := List.forall_mem_cons.1 h
    rw [occurrencesAll, List.map_append]
    refine (hstatement _).append (ih hrest) fun numbers hleft hright => ?_
    obtain ⟨occurrence, hmem, rfl⟩ := List.mem_map.1 hleft
    obtain ⟨other, hmem', heq⟩ := List.mem_map.1 hright
    have hprefix := prefix_of_mem_occurrences hmem
    obtain ⟨number, hle, hprefix'⟩ := exists_prefix_of_mem_occurrencesAll hmem'
    -- The same numbers would be behind those of two different statements.
    rw [heq] at hprefix'
    have hsame : owner ++ [first] = owner ++ [number] :=
      (List.prefix_of_prefix_length_le hprefix hprefix' (by simp)).eq_of_length (by simp)
    obtain rfl : first = number := List.singleton_inj.1 (List.append_cancel_left hsame)
    omega

/-- The occurrences within one statement have different numbers. -/
theorem nodup_occurrences (numbers : List Nat) (statement : Statement) :
    ((occurrences numbers statement).map Occurrence.numbers).Nodup := by
  induction statement using body_induction generalizing numbers with
  | h statement ih =>
    rw [occurrences_eq, List.map_cons]
    refine List.nodup_cons.2 ⟨fun hmem => ?_, nodup_of_forall fun inner hinner numbers => ?_⟩
    · -- What is in the body has more numbers.
      obtain ⟨occurrence, hmem, heq⟩ := List.mem_map.1 hmem
      obtain ⟨number, -, hprefix⟩ := exists_prefix_of_mem_occurrencesAll hmem
      have hle := hprefix.length_le
      rw [heq, List.length_append, List.length_singleton] at hle
      exact absurd hle (Nat.not_succ_le_self _)
    · exact ih inner hinner numbers

/-- With a definition its body occurs, if that is so in each of the statements. -/
theorem numbered_subset_of_forall
    (h : ∀ statement ∈ list, ∀ numbers, ∀ occurrence ∈ occurrences numbers statement,
      numbered occurrence.numbers 0 occurrence.statement.body ⊆ occurrences numbers statement)
    (hmem : occurrence ∈ occurrencesAll owner first list) :
    numbered occurrence.numbers 0 occurrence.statement.body ⊆ occurrencesAll owner first list := by
  induction list generalizing first with
  | nil => cases hmem
  | cons statement rest ih =>
    obtain ⟨hstatement, hrest⟩ := List.forall_mem_cons.1 h
    rcases List.mem_append.1 hmem with hmem | hmem
    · exact List.subset_append_of_subset_left _ (hstatement _ _ hmem)
    · exact List.subset_append_of_subset_right _ (ih hrest hmem)

/-- The body of an occurrence within a statement is found among the occurrences there, numbered from
the numbers of its owner. -/
theorem numbered_subset_occurrences {statement : Statement}
    (h : occurrence ∈ occurrences numbers statement) :
    numbered occurrence.numbers 0 occurrence.statement.body ⊆ occurrences numbers statement := by
  induction statement using body_induction generalizing numbers occurrence with
  | h statement ih =>
    rw [occurrences_eq] at h ⊢
    rcases List.mem_cons.1 h with rfl | h
    · exact List.subset_cons_of_subset _ (numbered_subset_occurrencesAll ..)
    · exact List.subset_cons_of_subset _
        (numbered_subset_of_forall (fun inner hinner _ _ hmem => ih inner hinner hmem) h)

end Statement

/-! ## Programs -/

namespace Program

/-- The statements of `program`, those in bodies included, each at its numbers. -/
def occurrences (program : Program) : List Occurrence :=
  Statement.occurrencesAll [] 0 program.statements

variable {program : Program} {occurrence other : Occurrence}

/-- No two statements are at the same numbers. -/
theorem nodup_occurrences (program : Program) :
    (program.occurrences.map Occurrence.numbers).Nodup :=
  Statement.nodup_of_forall fun statement _ numbers =>
    Statement.nodup_occurrences numbers statement

/-- An occurrence in `program` is told by its numbers. -/
theorem eq_of_numbers_eq (h : occurrence ∈ program.occurrences)
    (hother : other ∈ program.occurrences) (heq : occurrence.numbers = other.numbers) :
    occurrence = other := List.inj_on_of_nodup_map program.nodup_occurrences h hother heq

theorem numbers_ne_nil (h : occurrence ∈ program.occurrences) : occurrence.numbers ≠ [] := by
  obtain ⟨number, -, hprefix⟩ := Statement.exists_prefix_of_mem_occurrencesAll h
  intro hnil
  rw [hnil] at hprefix
  cases List.prefix_nil.1 hprefix

/-- The statements of the top level occur. -/
theorem numbered_statements_subset (program : Program) :
    Statement.numbered [] 0 program.statements ⊆ program.occurrences :=
  Statement.numbered_subset_occurrencesAll ..

/-- With a definition its body occurs. -/
theorem numbered_body_subset (h : occurrence ∈ program.occurrences) :
    Statement.numbered occurrence.numbers 0 occurrence.statement.body ⊆ program.occurrences :=
  Statement.numbered_subset_of_forall (fun _ _ _ _ => Statement.numbered_subset_occurrences) h

end Program

end Extraction
