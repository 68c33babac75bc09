import Extraction.Value

/-!
# Documents

What a program is run against. A document answers queries by selectors, and may refuse one. Its
answer may depend on the queries that it was asked before.

* `Query` are the queries: for the first match or for all of them.
* `Document` is the interface.
* `Document.Steady` documents answer without regard to earlier queries.
-/

namespace Extraction

/-- A query of a document: for the first match of a selector (`query`) or for all of them
(`query_all`). -/
inductive Query where
  /-- For the first match of a selector. -/
  | first (selector : String)
  /-- For all matches of a selector. -/
  | all (selector : String)
deriving DecidableEq, Repr

/-- The selector of a query. -/
def Query.selector : Query → String
  | .first selector => selector
  | .all selector => selector

/-- A document with elements `ν` that refuses queries with `ε` (`Document`). The lists are the
queries that were asked before. -/
structure Document (ν ε : Type) where
  /-- The first match of a selector. -/
  first : List Query → String → Except ε (Option ν)
  /-- All matches of a selector, in the order of the document. -/
  all : List Query → String → Except ε (List ν)

namespace Document

variable {ν ε : Type}

/-- The answers of `document` do not depend on earlier queries. -/
structure Steady (document : Document ν ε) : Prop where
  /-- The first match is always the same. -/
  first_eq : ∀ earlier later selector,
    document.first earlier selector = document.first later selector
  /-- The matches are always the same. -/
  all_eq : ∀ earlier later selector, document.all earlier selector = document.all later selector

/-- The `document` refuses no query. -/
structure Total (document : Document ν ε) : Prop where
  /-- Every query for the first match is answered. -/
  first_ok : ∀ earlier selector, ∃ node?, document.first earlier selector = .ok node?
  /-- Every query for all matches is answered. -/
  all_ok : ∀ earlier selector, ∃ nodes, document.all earlier selector = .ok nodes

end Document

end Extraction
