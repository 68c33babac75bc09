import Extraction.Proofs.Lexing.Layout
import Extraction.Proofs.Grammar.Derivation
import Extraction.Proofs.Spelling.Line
import Mathlib.Data.List.Forall2

/-!
# Sources with different places

Two sources may hold the same tokens at different places, and denote the same program with different
places in it.

* `Statement.relocated` changes the places in a syntax tree.
* `Views` compares the places of two sources, and with them tokens, failures, statements, and what
  reading and parsing come to.
* `Views.sameScan_of_unlocated` compares tokens without a look at their places.
-/

namespace Extraction

/-! ## Places -/

mutual

/-- A statement with its places as `view` sees them. -/
def Statement.relocated (view : Location → Option Location) : Statement → Statement
  | .assignment target selection location => .assignment target selection (location.bind view)
  | .invocation targets function location => .invocation targets function (location.bind view)
  | .returns spec => .returns ⟨spec.names, spec.location.bind view⟩
  | .definition name body spec location =>
    .definition name (relocatedAll view body) ⟨spec.names, spec.location.bind view⟩
      (location.bind view)
  | .bare => .bare

/-- Statements with their places as `view` sees them. -/
def Statement.relocatedAll (view : Location → Option Location) : List Statement → List Statement
  | [] => []
  | statement :: rest => statement.relocated view :: relocatedAll view rest

end

/-- `relocatedAll` changes the places of each statement of `list`. -/
theorem Statement.relocatedAll_eq_map (view : Location → Option Location) (list : List Statement) :
    relocatedAll view list = list.map (relocated view) := by
  induction list with
  | nil => rfl
  | cons statement rest ih => rw [relocatedAll, ih, List.map_cons]

mutual

/-- Where no place is seen, there are none. -/
theorem Statement.relocated_none (statement : Statement) :
    statement.relocated (fun _ => none) = statement.unlocated := by
  cases statement with
  | assignment | invocation | returns => rw [relocated, unlocated, Option.bind_fun_none]
  | definition name body spec location =>
    rw [relocated, unlocated, Option.bind_fun_none, Option.bind_fun_none, relocatedAll_none body]
  | bare => rfl

/-- Without any place the statements are those without locations. -/
theorem Statement.relocatedAll_none (list : List Statement) :
    relocatedAll (fun _ => none) list = unlocatedAll list := by
  cases list with
  | nil => rfl
  | cons statement rest =>
    rw [relocatedAll, unlocatedAll, relocated_none statement, relocatedAll_none rest]

end

mutual

/-- Where each place is seen as it is, nothing changes. -/
theorem Statement.relocated_some (statement : Statement) :
    statement.relocated some = statement := by
  cases statement with
  | assignment | invocation | returns => rw [relocated, Option.bind_fun_some]
  | definition name body spec location =>
    rw [relocated, Option.bind_fun_some, Option.bind_fun_some, relocatedAll_some body]
  | bare => rfl

/-- The statements stay as they are when each location is kept. -/
theorem Statement.relocatedAll_some (list : List Statement) : relocatedAll some list = list := by
  cases list with
  | nil => rfl
  | cons statement rest => rw [relocatedAll, relocated_some statement, relocatedAll_some rest]

end

/-- How the places of two sources are compared: they are the same if they are seen as the same. -/
structure Views where
  /-- The path of both sources. -/
  path : Option String
  /-- What a place in the first source is seen as. -/
  left : Location → Option Location
  /-- What a place in the second source is seen as. -/
  right : Location → Option Location

namespace Views

variable {views : Views}

/-- `token` and `token'` are of the same kind and text, at the same place. -/
structure SameToken (views : Views) (token token' : Token) : Prop where
  /-- They are of the same kind. -/
  kind_eq : token.kind = token'.kind
  /-- They have the same text. -/
  text_eq : token.text = token'.text
  /-- They are at the same place. -/
  location_eq : views.left (token.location views.path) = views.right (token'.location views.path)

/-- Failures with the same fault, at the same place. -/
inductive SameFailure (views : Views) : Failure SyntaxFault → Failure SyntaxFault → Prop
  /-- The same character starts no token. -/
  | unreadable (c : Char) {location location' : Location}
      (h : views.left location = views.right location') :
      SameFailure views ⟨.unreadable c, location.place⟩ ⟨.unreadable c, location'.place⟩
  /-- The same is expected where the same token stands. -/
  | unexpected (expected : String) {token token' : Token} (h : views.SameToken token token') :
      SameFailure views ⟨.unexpected expected token, (token.location views.path).place⟩
        ⟨.unexpected expected token', (token'.location views.path).place⟩
  /-- A number has the same number of digits, which are too many. -/
  | tooLong (count : Nat) :
      SameFailure views ⟨.tooLong count, .unknown⟩ ⟨.tooLong count, .unknown⟩

/-- `statement` and `statement'` are the same but for their places, which are seen as the same. -/
def SameStatement (views : Views) (statement statement' : Statement) : Prop :=
  statement.relocated views.left = statement'.relocated views.right

theorem map_relocated_eq {list list' : List Statement}
    (h : List.Forall₂ views.SameStatement list list') :
    list.map (Statement.relocated views.left) = list'.map (Statement.relocated views.right) := by
  induction h with
  | nil => rfl
  | cons hsame _ ih => rw [List.map_cons, List.map_cons, ih, hsame]

/-- `scan` and `scan'` deliver the same tokens, and fail alike or not at all. -/
structure SameScan (views : Views) (scan scan' : Cursor.Scan) : Prop where
  /-- The tokens are the same. -/
  tokens : List.Forall₂ views.SameToken scan.tokens scan'.tokens
  /-- So is the failure. -/
  failure : Option.Rel views.SameFailure scan.failure scan'.failure

/-- What parsing comes to: the same program but for the places in it, or the same failure. -/
inductive SameOutcome (views : Views) : Except (Failure SyntaxFault) Program →
    Except (Failure SyntaxFault) Program → Prop
  /-- Both sources are programs. -/
  | ok {program program' : Program} (hpath : program.path = program'.path)
      (hstatements : program.statements.map (Statement.relocated views.left) =
        program'.statements.map (Statement.relocated views.right)) :
      SameOutcome views (.ok program) (.ok program')
  /-- Both are refused. -/
  | error {failure failure' : Failure SyntaxFault} (h : views.SameFailure failure failure') :
      SameOutcome views (.error failure) (.error failure')

/-- The comparison that sees no places. -/
def blind (path : Option String) : Views := ⟨path, fun _ => none, fun _ => none⟩

/-- Readings are the same for it if the kinds and the texts of the tokens are, and the fault. -/
theorem sameScan_of_unlocated {cursor cursor' : Cursor} (path : Option String)
    (h : cursor.scan.unlocated = cursor'.scan.unlocated) :
    (blind path).SameScan cursor.scan cursor'.scan := by
  obtain ⟨htokens, hfailure⟩ := Prod.ext_iff.1 h
  constructor
  · have hall : List.Forall₂ Eq cursor.scan.unlocated.1 cursor'.scan.unlocated.1 := by
      rw [List.forall₂_eq_eq_eq, htokens]
    simp only [Cursor.Scan.unlocated, List.forall₂_map_left_iff, List.forall₂_map_right_iff] at hall
    exact hall.imp fun token token' heq => ⟨congrArg Prod.fst heq, congrArg Prod.snd heq, rfl⟩
  · simp only [Cursor.Scan.unlocated] at hfailure
    match hscan : cursor.scan.failure, hscan' : cursor'.scan.failure with
    | none, none => exact .none
    -- Reading fails at a character that starts no token, which is all that the fault tells.
    | some failure, some failure' =>
      obtain ⟨c, -, -, -, rfl⟩ := Cursor.scan_fails hscan
      obtain ⟨c', -, -, -, rfl⟩ := Cursor.scan_fails hscan'
      rw [hscan, hscan'] at hfailure
      cases hfailure
      exact .some (.unreadable c rfl)
    | none, some failure' =>
      rw [hscan, hscan'] at hfailure
      cases hfailure
    | some failure, none =>
      rw [hscan, hscan'] at hfailure
      cases hfailure

end Views

end Extraction
