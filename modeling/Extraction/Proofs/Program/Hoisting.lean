import Extraction.Proofs.Bindings
import Extraction.Proofs.Program.Graph

/-!
# Hoisted definitions

A program in which definitions stand further up, or in which there are more of them, has the other
statements in the order that they had.

* `Program.Hoists` relates a program to such another one.
* `Hoisted` walks through the statements of both, beside the definitions that were passed in the
  second one. `Program.Hoists.walk` finds this walk.
-/

namespace Extraction

/-! ## Statements -/

namespace Statement

/-- The function that a statement defines. -/
def defined? : Statement → Option String
  | .definition name _ _ _ => some name
  | _ => none

/-- The statements of `list` that are no definitions, in order. -/
def others (list : List Statement) : List Statement := list.filter fun first => !first.isDefinition

variable {first : Statement} {rest : List Statement}

/-- A statement that is no definition is one of the `others`. -/
theorem others_cons_of_not_isDefinition (h : first.isDefinition = false) :
    others (first :: rest) = first :: others rest := by
  simp [others, h]

/-- A statement that is no definition defines no function. -/
theorem defined?_eq_none (h : first.isDefinition = false) : first.defined? = none := by
  cases first with
  | definition => cases h
  | _ => rfl

/-- A definition is the one that is `known` of its function. -/
def IsKnown (known : Bindings Definition) : Statement → Prop
  | .definition name body spec location =>
    known.get? name = some ⟨name, body, spec, location⟩
  | _ => False

end Statement

open Statement (others IsKnown)

/-- `hoisted` has the statements of `program`, with the definitions in their places or further up,
and maybe with more definitions. -/
structure Program.Hoists (program hoisted : Program) : Prop where
  /-- The other statements are the same, in the same order. -/
  others_eq : others program.statements = others hoisted.statements
  /-- Each definition has no more of them in front. -/
  earlier : ∀ before definition after, program.statements = before ++ definition :: after →
    definition.isDefinition → ∃ before' after',
      hoisted.statements = before' ++ definition :: after' ∧
        (others before').length ≤ (others before).length
  /-- No function is defined twice. -/
  nodup : (hoisted.statements.filterMap Statement.defined?).Nodup

/-! ## Walks -/

/-- The statements of two lists are passed side by side. A definition of the first list is passed
when it is known from the second one. -/
inductive Hoisted : Bindings Definition → List Statement → List Statement → Prop
  /-- There is nothing left to pass. -/
  | nil {known} : Hoisted known [] []
  /-- The second list has a definition of a function that is not known. -/
  | ahead {known name body spec location list hoisted} (hnew : known.get? name = none)
      (hrest : Hoisted (known.set name ⟨name, body, spec, location⟩) list hoisted) :
      Hoisted known list (.definition name body spec location :: hoisted)
  /-- The first list has a definition that is known. -/
  | behind {known name body spec location list hoisted}
      (hknown : known.get? name = some ⟨name, body, spec, location⟩)
      (hrest : Hoisted known list hoisted) :
      Hoisted known (.definition name body spec location :: list) hoisted
  /-- Both have the same statement, which is no definition. -/
  | both {known first list hoisted} (hfirst : first.isDefinition = false)
      (hrest : Hoisted known list hoisted) : Hoisted known (first :: list) (first :: hoisted)

/-- The definitions of `list` are `known`, or they stand further up in `hoisted`, which defines
functions that are not known. -/
structure Precedes (known : Bindings Definition) (list hoisted : List Statement) : Prop where
  /-- The other statements are the same, in the same order. -/
  others_eq : others list = others hoisted
  /-- Each definition is known, or has no more of them in front. -/
  earlier : ∀ before definition after, list = before ++ definition :: after →
    definition.isDefinition → IsKnown known definition ∨ ∃ before' after',
      hoisted = before' ++ definition :: after' ∧ (others before').length ≤ (others before).length
  /-- No function is defined twice. -/
  nodup : (hoisted.filterMap Statement.defined?).Nodup
  /-- None of them is known. -/
  fresh : ∀ name ∈ hoisted.filterMap Statement.defined?, known.get? name = none

/-- Before any statement was run, hoisted statements stand to the given ones as `Precedes` asks. -/
theorem Program.Hoists.precedes {program hoisted : Program} (h : program.Hoists hoisted) :
    Precedes .empty program.statements hoisted.statements where
  others_eq := h.others_eq
  earlier before definition after hlist hdefinition :=
    .inr (h.earlier before definition after hlist hdefinition)
  nodup := h.nodup
  fresh _ _ := rfl

namespace Precedes

variable {known : Bindings Definition} {list hoisted : List Statement} {first other : Statement}
  {name : String} {body : List Statement} {spec : ReturnSpec} {location : Option Location}

/-- The second list has a definition to be passed. -/
theorem ahead (h : Precedes known list (.definition name body spec location :: hoisted)) :
    known.get? name = none ∧
      Precedes (known.set name ⟨name, body, spec, location⟩) list hoisted := by
  have hnew : known.get? name = none := h.fresh name List.mem_cons_self
  obtain ⟨hnot, hnodup⟩ := List.nodup_cons.1 h.nodup
  refine ⟨hnew, h.others_eq, fun before definition after hlist hdefinition => ?_, hnodup,
    fun other hmem => ?_⟩
  · rcases h.earlier before definition after hlist hdefinition with
      hknown | ⟨before', after', hsplit, hle⟩
    · obtain ⟨name', body', spec', location', rfl⟩ := Statement.exists_eq_definition hdefinition
      refine .inl (Bindings.get?_set_eq_some_iff.2 (.inr ⟨?_, hknown⟩))
      rintro rfl
      rw [IsKnown, hnew] at hknown
      cases hknown
    -- It is the one that is passed, or it stands behind that one.
    · match before' with
      | [] =>
        cases hsplit
        exact .inl (Bindings.get?_set_self ..)
      | _ :: before' =>
        obtain ⟨rfl, rfl⟩ := List.cons.inj hsplit
        exact .inr ⟨before', after', rfl, hle⟩
  · refine Bindings.get?_set_eq_none_iff.2 ⟨?_, h.fresh other (List.mem_cons_of_mem _ hmem)⟩
    rintro rfl
    exact hnot hmem

/-- The first list has a definition to be passed, and the second one has none. -/
theorem behind (h : Precedes known (.definition name body spec location :: list) hoisted)
    (hhead : ∀ first rest, hoisted = first :: rest → first.isDefinition = false) :
    known.get? name = some ⟨name, body, spec, location⟩ ∧ Precedes known list hoisted := by
  refine ⟨?_, h.others_eq, fun before definition after hlist hdefinition => ?_, h.nodup, h.fresh⟩
  · rcases h.earlier [] _ list rfl rfl with hknown | ⟨before', after', rfl, hle⟩
    · exact hknown
    -- Nothing but definitions could stand in front of it, and the second list starts with none.
    · match before' with
      | [] => cases hhead _ after' rfl
      | first :: before' =>
        rw [Statement.others_cons_of_not_isDefinition (hhead first _ rfl)] at hle
        cases hle
  · exact h.earlier (_ :: before) definition after (by rw [hlist]; rfl) hdefinition

/-- Both lists have another statement to be passed. -/
theorem both (h : Precedes known (first :: list) (other :: hoisted))
    (hfirst : first.isDefinition = false) (hother : other.isDefinition = false) :
    first = other ∧ Precedes known list hoisted := by
  have hothers := h.others_eq
  rw [Statement.others_cons_of_not_isDefinition hfirst,
    Statement.others_cons_of_not_isDefinition hother] at hothers
  obtain ⟨rfl, hrest⟩ := List.cons.inj hothers
  have hdefined : first.defined? = none := Statement.defined?_eq_none hfirst
  refine ⟨rfl, hrest, fun before definition after hlist hdefinition => ?_,
    by simpa [hdefined] using h.nodup, by simpa [hdefined] using h.fresh⟩
  -- The first statement is no definition, so each definition has one other statement less in front.
  rcases h.earlier (first :: before) definition after (by rw [hlist]; rfl) hdefinition with
    hknown | ⟨before', after', hsplit, hle⟩
  · exact .inl hknown
  · match before' with
    | [] =>
      obtain ⟨rfl, rfl⟩ := List.cons.inj hsplit
      rw [hfirst] at hdefinition
      cases hdefinition
    | _ :: before' =>
      obtain ⟨rfl, rfl⟩ := List.cons.inj hsplit
      rw [Statement.others_cons_of_not_isDefinition hfirst,
        Statement.others_cons_of_not_isDefinition hfirst] at hle
      exact .inr ⟨before', after', rfl, Nat.le_of_succ_le_succ hle⟩

/-- The walk takes the definitions of the second list first, and those of the first list when they
are known. -/
theorem walk (h : Precedes known list hoisted) : Hoisted known list hoisted := by
  induction hoisted generalizing known list with
  -- What is left of the first list are definitions, which must be known.
  | nil =>
    induction list with
    | nil => exact .nil
    | cons first list ih =>
      by_cases hfirst : first.isDefinition
      · obtain ⟨name, body, spec, location, rfl⟩ := Statement.exists_eq_definition hfirst
        obtain ⟨hknown, hrest⟩ := h.behind nofun
        exact .behind hknown (ih hrest)
      · have hothers := h.others_eq
        rw [Statement.others_cons_of_not_isDefinition (by simpa using hfirst)] at hothers
        cases hothers
  | cons other hoisted ih =>
    by_cases hother : other.isDefinition
    · obtain ⟨name, body, spec, location, rfl⟩ := Statement.exists_eq_definition hother
      obtain ⟨hnew, hrest⟩ := h.ahead
      exact .ahead hnew (ih hrest)
    -- The statement is that of the first list behind the definitions that stand next there.
    · rw [Bool.not_eq_true] at hother
      induction list with
      | nil =>
        have hothers := h.others_eq
        rw [Statement.others_cons_of_not_isDefinition hother] at hothers
        cases hothers
      | cons first list ihlist =>
        by_cases hfirst : first.isDefinition
        · obtain ⟨name, body, spec, location, rfl⟩ := Statement.exists_eq_definition hfirst
          obtain ⟨hknown, hrest⟩ := h.behind fun first rest heq => by
            obtain ⟨rfl, -⟩ := List.cons.inj heq
            exact hother
          exact .behind hknown (ihlist hrest)
        · rw [Bool.not_eq_true] at hfirst
          obtain ⟨rfl, hrest⟩ := h.both hfirst hother
          exact .both hfirst (ih hrest)

end Precedes

/-- The statements of a program and of one in which definitions are hoisted are passed side by
side. -/
theorem Program.Hoists.walk {program hoisted : Program} (h : program.Hoists hoisted) :
    Hoisted .empty program.statements hoisted.statements := h.precedes.walk

end Extraction
