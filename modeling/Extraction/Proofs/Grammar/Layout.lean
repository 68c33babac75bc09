import Extraction.Proofs.Grammar.Tandem

/-!
# Layout and meaning

Spaces between the tokens of a source change neither its tokens nor what it means.

* `SameMeaning` compares what parsing comes to, places apart, and `SameReading` two sources.
* `layout_between_tokens` is about spaces at a place outside the tokens, about spaces around the
  lines, and about the ends of the lines.
-/

namespace Extraction

/-- `fault` and `fault'` are of the same kind, with the same message and the same details. They may
be about tokens at different places. -/
structure SyntaxFault.Alike (fault fault' : SyntaxFault) : Prop where
  /-- They are of the same kind. -/
  kind_eq : fault.kind? = fault'.kind?
  /-- They have the same message. -/
  message_eq : fault.message = fault'.message
  /-- They tell the same beyond the message. -/
  detail_eq : ∀ detail, fault.detail detail = fault'.detail detail

/-- The same program but for the places in it, or the same fault but for its place. -/
def SameMeaning : Except (Failure SyntaxFault) Program → Except (Failure SyntaxFault) Program → Prop
  | .ok program, .ok program' => program.path = program'.path ∧
    program.statements.map Statement.unlocated = program'.statements.map Statement.unlocated
  | .error failure, .error failure' => failure.fault.Alike failure'.fault
  | _, _ => False

/-- `source` and `source'` have tokens of the same kinds and texts, up to the same fault if there is
one, and mean the same. -/
structure SameReading (path : Option String) (source source' : String) : Prop where
  /-- The tokens are the same but for their places. -/
  tokens : (tokenize source path).unlocated = (tokenize source' path).unlocated
  /-- So is what parsing comes to. -/
  meaning : SameMeaning (parse source path) (parse source' path)

variable {path : Option String}

theorem SyntaxFault.message_unexpected (expected : String) (found : Token) :
    (SyntaxFault.unexpected expected found).message =
      "Expected " ++ expected ++ ", got " ++ found.shown := rfl

/-- The place of the token that was found is not told. -/
theorem SyntaxFault.alike_unexpected {views : Views} (expected : String) {token token' : Token}
    (h : views.SameToken token token') :
    (SyntaxFault.unexpected expected token).Alike (.unexpected expected token') := by
  have hshown : token.shown = token'.shown := by
    rw [Token.shown, Token.shown, h.kind_eq, h.text_eq]
  refine ⟨rfl, by rw [message_unexpected, message_unexpected, hshown], fun detail => ?_⟩
  cases detail with
  | found => exact hshown
  | char | expected | function => rfl

/-- Failures that look the same have faults that are alike. -/
theorem Views.SameFailure.alike {views : Views} {failure failure' : Failure SyntaxFault}
    (h : views.SameFailure failure failure') : failure.fault.Alike failure'.fault := by
  cases h with
  | unreadable c _ => exact ⟨rfl, rfl, fun _ => rfl⟩
  | unexpected expected htoken => exact SyntaxFault.alike_unexpected expected htoken
  | tooLong count => exact ⟨rfl, rfl, fun _ => rfl⟩

/-- Outcomes that look the same without places have the same meaning. -/
theorem Views.SameOutcome.sameMeaning {result result' : Except (Failure SyntaxFault) Program}
    (h : (Views.blind path).SameOutcome result result') : SameMeaning result result' := by
  cases h with
  | ok hpath hstatements =>
    refine ⟨hpath, ?_⟩
    simpa only [Views.blind, funext Statement.relocated_none] using hstatements
  | error hfailure => exact hfailure.alike

/-- Sources with the same tokens mean the same. -/
theorem sameReading_of_unlocated {source source' : String}
    (h : (tokenize source path).unlocated = (tokenize source' path).unlocated) :
    SameReading path source source' :=
  ⟨h, (parse_of_sameScan (Views.sameScan_of_unlocated path h)).sameMeaning⟩

/-- Spaces at a place outside the tokens of a source change neither the kinds and the texts of its
tokens nor its meaning. Nor do spaces around its lines, nor carriage returns at their ends. -/
theorem layout_between_tokens (path : Option String) :
    (∀ before spaces after : String, (∀ c ∈ spaces.toList, Identifier.isSpace c) →
      (∀ token ∈ (tokenize (before ++ after) path).tokens,
        let start := Text.offset (before ++ after).toList token.line token.column
        before.length ≤ start ∨ start + token.text.length ≤ before.length) →
      SameReading path (before ++ after) (before ++ spaces ++ after)) ∧
    (∀ source source' : String, Text.SameLines source.toList source'.toList →
      SameReading path source source') ∧
    ∀ source : String,
      SameReading path source (String.ofList (Text.returnLines source.toList)) := by
  refine ⟨fun before spaces after hspaces houtside => sameReading_of_unlocated ?_,
    fun source source' hlines => sameReading_of_unlocated ?_,
    fun source => sameReading_of_unlocated ?_⟩
  · have hsplits : Lexeme.Splits before.toList after.toList := by
      refine Cursor.splits_of_outside (.start (before ++ after) path) String.toList_append
        fun token hmem => ?_
      rw [Cursor.start, Nat.zero_add, String.length_toList]
      exact houtside token hmem
    refine Cursor.unlocated_scan_of_relaid ?_
    rw [Cursor.start, Cursor.start, String.toList_append, String.toList_append,
      String.toList_append, List.append_assoc]
    exact hsplits.relaid ((Lexeme.relaid_refl _).spaces hspaces)
  -- Both are read as the source with nothing around its lines.
  · have hstripped : ∀ source : String, (Cursor.start (String.ofList (['\n'].intercalate
        ((source.toList.splitOn '\n').map Text.stripSpaces))) path).scan.unlocated =
        (tokenize source path).unlocated := by
      intro source
      refine Cursor.unlocated_scan_of_relaid ?_
      have hlines := Lexeme.relaid_lines (source.toList.splitOn '\n')
      rw [List.intercalate_splitOn] at hlines
      rwa [Cursor.start, Cursor.start, String.toList_ofList]
    rw [← hstripped source, hlines, hstripped source']
  · refine Cursor.unlocated_scan_of_relaid ?_
    rw [Cursor.start, Cursor.start, String.toList_ofList]
    exact Lexeme.relaid_returnLines source.toList

/-- A number and a keyword right behind it may be parted, and a line may be indented and end in
another way. -/
theorem layout_between_tokens_of_number_and_keyword :
    let before := "x = 12"
    let spaces := " \t"
    let after := "def\n"
    (∀ c ∈ spaces.toList, Identifier.isSpace c) ∧
      (∀ token ∈ (tokenize (before ++ after) none).tokens,
        let start := Text.offset (before ++ after).toList token.line token.column
        before.length ≤ start ∨ start + token.text.length ≤ before.length) ∧
      SameReading none (before ++ after) (before ++ spaces ++ after) ∧
      Text.SameLines (before ++ after).toList "\tx = 12def \r\n  ".toList ∧
      SameReading none (before ++ after) "\tx = 12def \r\n  " := by
  intro before spaces after
  obtain ⟨hinsert, hlines, -⟩ := layout_between_tokens none
  have hall : spaces.toList.all Identifier.isSpace = true := by decide +kernel
  have hspaces : ∀ c ∈ spaces.toList, Identifier.isSpace c := List.all_eq_true.1 hall
  have houtside : ∀ token ∈ (tokenize (before ++ after) none).tokens,
      let start := Text.offset (before ++ after).toList token.line token.column
      before.length ≤ start ∨ start + token.text.length ≤ before.length := by decide +kernel
  have hsame : Text.SameLines (before ++ after).toList "\tx = 12def \r\n  ".toList := by
    unfold Text.SameLines
    decide +kernel
  exact ⟨hspaces, houtside, hinsert before spaces after hspaces houtside, hsame,
    hlines _ _ hsame⟩

end Extraction
