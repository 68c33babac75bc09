import Extraction.Document

/-!
# Documents made of others

* `Document.refusing` refuses some of the selectors that a document answers.
* `Document.later` is a document as it answers behind some queries.
* `Document.blank` matches nothing.
* `Document.refusal?` is the refusal of a query, and `Document.Refuses` tells which are refused.
-/

namespace Extraction.Document

variable {ν ε : Type} {document : Document ν ε}

/-- `document` as it refuses the selectors for which `refused` gives a refusal, and answers the
others as it did. -/
def refusing (document : Document ν ε) (refused : String → Option ε) : Document ν ε where
  first earlier selector :=
    match refused selector with
    | some refusal => .error refusal
    | none => document.first earlier selector
  all earlier selector :=
    match refused selector with
    | some refusal => .error refusal
    | none => document.all earlier selector

/-- A document that refuses more queries gives the same first match where it gives one. -/
theorem first_of_refusing {refused : String → Option ε} {earlier : List Query} {selector : String}
    {node? : Option ν} (h : (document.refusing refused).first earlier selector = .ok node?) :
    document.first earlier selector = .ok node? := by
  unfold refusing at h
  dsimp only at h
  split at h
  · cases h
  · exact h

/-- A document that refuses more queries gives the same matches where it gives any. -/
theorem all_of_refusing {refused : String → Option ε} {earlier : List Query} {selector : String}
    {nodes : List ν} (h : (document.refusing refused).all earlier selector = .ok nodes) :
    document.all earlier selector = .ok nodes := by
  unfold refusing at h
  dsimp only at h
  split at h
  · cases h
  · exact h

/-- What `refused` says of a selector is the same in all states, so a steady document stays steady.
-/
theorem Steady.refusing (h : document.Steady) (refused : String → Option ε) :
    (document.refusing refused).Steady where
  first_eq earlier later selector := by
    simp only [Document.refusing, h.first_eq earlier later]
  all_eq earlier later selector := by
    simp only [Document.refusing, h.all_eq earlier later]

/-- `document` as it answers when it has been asked the queries `earlier` already. -/
def later (document : Document ν ε) (earlier : List Query) : Document ν ε where
  first more selector := document.first (earlier ++ more) selector
  all more selector := document.all (earlier ++ more) selector

/-- A steady document answers later as it does from the start. -/
theorem Steady.later_eq (h : document.Steady) (earlier : List Query) :
    document.later earlier = document := by
  obtain ⟨first, all⟩ := document
  simp only [later, Document.mk.injEq]
  exact ⟨funext fun more => funext fun selector => h.first_eq (earlier ++ more) more selector,
    funext fun more => funext fun selector => h.all_eq (earlier ++ more) more selector⟩

/-- The document that matches nothing and refuses nothing. -/
def blank : Document ν ε where
  first _ _ := .ok none
  all _ _ := .ok []

/-- The blank document answers every query, with no match. -/
theorem total_blank : (blank : Document ν ε).Total where
  first_ok _ _ := ⟨none, rfl⟩
  all_ok _ _ := ⟨[], rfl⟩

/-- The refusal of a query that is asked after those of `earlier`, if it is refused. -/
def refusal? (document : Document ν ε) (earlier : List Query) : Query → Option ε
  | .first selector =>
    match document.first earlier selector with
    | .ok _ => none
    | .error refusal => some refusal
  | .all selector =>
    match document.all earlier selector with
    | .ok _ => none
    | .error refusal => some refusal

/-- `document` refuses the queries of `selectors`, whatever was asked before, and no others. -/
def Refuses (document : Document ν ε) (selectors : String → Prop) : Prop :=
  ∀ earlier query, (document.refusal? earlier query).isSome ↔ selectors query.selector

/-- The blank document refuses no query, whatever was asked before. -/
theorem refusal?_blank (earlier : List Query) (query : Query) :
    (blank : Document ν ε).refusal? earlier query = none := by
  cases query <;> rfl

end Extraction.Document
