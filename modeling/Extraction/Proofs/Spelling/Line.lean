import Extraction.Program.Description
import Extraction.Proofs.Program.Form
import Extraction.Proofs.Spelling.Writes
import Mathlib.Data.Nat.Digits.Defs

/-!
# Assignments and invocations as text

The line of an assignment or of an invocation is read as tokens that have a derivation, and the
meaning of the derivation is the statement again, but for its place.

* `Statement.IsLine` are the statements whose names can be written.
* `writes_names`, `writes_nameList`, `writes_number` and `writes_range` are the parts of a line.
* `writes_line` is the line.
-/

namespace Extraction

open Extraction.Derivation (Leaf optionalTokens)
open Identifier (IsName StopsNames)

/-- The `names` can be written next to each other: there is at least one, and each is a name by
itself. -/
structure AreNames (names : List String) : Prop where
  /-- There is a name. -/
  ne_nil : names ≠ []
  /-- Each is a name. -/
  isName : ∀ name ∈ names, IsName name.toList

/-- A source may hold `number`: it has no sign, and not too many digits. -/
structure IsNumber (number : Int) : Prop where
  /-- It is not negative. -/
  nonneg : 0 ≤ number
  /-- Its digits can be read. -/
  length_le : (toString number).toList.length ≤ Text.mostDigits

/-- A range that a source may hold. -/
def Range.IsSpelled : Range → Prop
  | .whole => True
  | .openSlice start => IsNumber start
  | .bounded start stop => IsNumber start ∧ IsNumber stop

/-- An assignment or an invocation that a source may hold. -/
def Statement.IsLine : Statement → Prop
  | .assignment target selection _ =>
    IsName target.toList ∧ IsName selection.selector.toList ∧ selection.range.IsSpelled ∧
      ∀ names ∈ selection.attributes, AreNames names
  | .invocation targets function _ => AreNames targets ∧ IsName function.toList
  | _ => False

mutual

/-- A statement without its places. -/
def Statement.unlocated : Statement → Statement
  | .assignment target selection _ => .assignment target selection none
  | .invocation targets function _ => .invocation targets function none
  | .returns spec => .returns ⟨spec.names, none⟩
  | .definition name body spec _ => .definition name (unlocatedAll body) ⟨spec.names, none⟩ none
  | .bare => .bare

/-- Statements without their places. -/
def Statement.unlocatedAll : List Statement → List Statement
  | [] => []
  | statement :: rest => statement.unlocated :: unlocatedAll rest

end

/-- `unlocatedAll` takes the places from each statement of `list`. -/
theorem Statement.unlocatedAll_eq_map (list : List Statement) :
    unlocatedAll list = list.map unlocated := by
  induction list with
  | nil => rfl
  | cons statement rest ih => rw [unlocatedAll, ih, List.map_cons]

/-! ## What stands behind a name -/

/-- A line ends in front of `rest`: with the text, or with a line break. -/
def LineEnds (rest : List Char) : Prop := rest = [] ∨ ∃ later, rest = '\n' :: later

/-- A comma, a closing brace and a line break continue no name. -/
theorem stopsNames_cons {c : Char} (h : c ∈ [',', '}', '\n']) (rest : List Char) :
    StopsNames (c :: rest) := by
  intro seen
  simp only [List.mem_cons, List.not_mem_nil, or_false] at h
  rcases h with rfl | rfl | rfl <;>
    cases hseen : Identifier.endsInIdentifier seen <;>
    simp [Identifier.continues, hseen, Identifier.isIdentifierChar, Identifier.isSpace,
      Identifier.isSymbol, Token.Kind.ofSymbol?]

/-- Nor does a space in front of a symbol. -/
theorem stopsNames_space {c : Char} {kind : Token.Kind} (h : Token.Kind.ofSymbol? c = some kind)
    (hspace : Identifier.isSpace c = false) (rest : List Char) : StopsNames (' ' :: c :: rest) := by
  intro seen
  have hreserved : Identifier.startsReserved (c :: rest) := by
    rw [Identifier.startsReserved, Identifier.isSymbol, h]
    rfl
  have hidentifier : Identifier.isIdentifierChar ' ' = false := rfl
  simp [Identifier.continues, hspace, hreserved, hidentifier]

/-- Where a line ends, no name goes on. -/
theorem LineEnds.stopsNames {rest : List Char} (h : LineEnds rest) : StopsNames rest := by
  rcases h with rfl | ⟨later, rfl⟩
  · exact Identifier.stopsNames_nil
  · exact stopsNames_cons (by decide) later

/-! ## Lists of names -/

/-- Texts with a separator between them are the first one, and the others each behind one. -/
theorem toList_intercalate_cons (separator first : String) (others : List String) :
    (String.intercalate separator (first :: others)).toList =
      first.toList ++ others.flatMap fun other => separator.toList ++ other.toList := by
  induction others generalizing first with
  | nil => simp
  | cons second others ih =>
    rw [String.intercalate_cons_cons, String.toList_append, String.toList_append, ih,
      List.flatMap_cons]
    simp only [List.append_assoc]

/-- Names with commas are the first of them, and each other behind a comma and a space. -/
theorem toList_commaSeparated (first : String) (others : List String) :
    (commaSeparated (first :: others)).toList =
      first.toList ++ others.flatMap fun other => ',' :: ' ' :: other.toList :=
  toList_intercalate_cons ", " first others

/-- Names in braces are those with commas between the braces. -/
theorem toList_bracedNames (names : List String) :
    (bracedNames names).toList = ['{'] ++ ((commaSeparated names).toList ++ ['}']) := by
  simp [bracedNames]

/-- Further names, each behind a comma and a space, are read as such pairs of tokens. -/
theorem writes_others {others : List String} (h : ∀ name ∈ others, IsName name.toList) :
    Writes (others.flatMap fun name => ',' :: ' ' :: name.toList) StopsNames fun tokens =>
      ∃ next : List (Leaf .comma × Leaf .name), tokens = next.flatMap Derivation.nextTokens ∧
        (next.map fun pair => pair.2.token.text) = others := by
  induction others with
  | nil => exact writes_nil.mono (fun _ => id) fun tokens htokens => ⟨[], htokens, rfl⟩
  | cons name others ih =>
    have hname := writes_name (h name List.mem_cons_self)
    have hothers := ih fun other hmem => h other (List.mem_cons_of_mem _ hmem)
    have hcomma := writes_symbol (show Token.Kind.ofSymbol? ',' = some .comma from rfl)
    refine (hcomma.append (hname.space.append hothers fun rest hrest => ?_)
      fun _ _ => trivial).mono (fun _ => id) ?_
    · cases others with
      | nil => exact hrest
      | cons other others => exact stopsNames_cons (by decide) _
    · rintro tokens ⟨_, _, ⟨comma, rfl, -⟩, ⟨_, _, ⟨leaf, rfl, rfl⟩, ⟨next, rfl, rfl⟩, rfl⟩, rfl⟩
      exact ⟨(comma, leaf) :: next, rfl, rfl⟩

/-- Names with commas between them are read as such. -/
theorem writes_names {names : List String} (h : AreNames names) :
    Writes (commaSeparated names).toList StopsNames fun tokens =>
      ∃ form : Derivation.Names, tokens = form.tokens ∧ form.texts = names := by
  obtain ⟨first, others, rfl⟩ := List.exists_cons_of_ne_nil h.ne_nil
  have hfirst := writes_name (h.isName first List.mem_cons_self)
  have hothers := writes_others fun name hmem => h.isName name (List.mem_cons_of_mem _ hmem)
  rw [toList_commaSeparated]
  refine (hfirst.append hothers fun rest hrest => ?_).mono (fun _ => id) ?_
  · cases others with
    | nil => exact hrest
    | cons other others => exact stopsNames_cons (by decide) _
  · rintro tokens ⟨_, _, ⟨leaf, rfl, rfl⟩, ⟨next, rfl, rfl⟩, rfl⟩
    exact ⟨⟨leaf, next⟩, rfl, rfl⟩

/-- A list of names in braces is read as such, whatever follows it. -/
theorem writes_nameList {names : List String} (h : AreNames names) :
    Writes (bracedNames names).toList (fun _ => True) fun tokens =>
      ∃ list : Derivation.NameList, tokens = list.tokens ∧ list.texts = names := by
  have hopening := writes_symbol (show Token.Kind.ofSymbol? '\x7b' = some .leftBrace from rfl)
  have hclosing := writes_symbol (show Token.Kind.ofSymbol? '\x7d' = some .rightBrace from rfl)
  rw [toList_bracedNames]
  refine (hopening.append ((writes_names h).append hclosing fun rest _ =>
    stopsNames_cons (by decide) rest) fun _ _ => trivial).mono (fun _ => id) ?_
  rintro tokens ⟨_, _, ⟨opening, rfl, -⟩, ⟨_, _, ⟨form, rfl, rfl⟩, ⟨closing, rfl, -⟩, rfl⟩, rfl⟩
  exact ⟨⟨opening, form, closing⟩, rfl, rfl⟩

/-! ## Ranges -/

/-- The digits of `number` stand for it. -/
theorem decimal_toDigits (number : Nat) : Text.decimal (Nat.toDigits 10 number) = number := by
  -- The library reads digits by the same fold.
  have hdecimal : Text.decimal (Nat.toDigits 10 number) =
      Nat.ofDigitChars 10 (Nat.toDigits 10 number) 0 := by
    rw [Text.decimal, Nat.ofDigitChars_eq_foldl]
    congr 1
    funext value c
    rw [Text.digitValue, Nat.mul_comm]
  rw [hdecimal, Nat.ofDigitChars_ten_toDigits]

/-- The number that a row of digits denotes is less than the power of ten with its length. -/
theorem decimal_lt {digits : List Char} (h : ∀ c ∈ digits, Identifier.isDigit c) :
    Text.decimal digits < 10 ^ digits.length := by
  -- The last digit is the one that is added to ten times the others.
  induction digits using List.reverseRecOn with
  | nil => decide
  | append_singleton digits c ih =>
    obtain ⟨hdigits, hc⟩ := List.forall_mem_append.1 h
    have hvalue : Text.digitValue c < 10 := by
      have hdigit := hc c (List.mem_singleton.2 rfl)
      simp only [Identifier.isDigit, Char.le_def, UInt32.le_iff_toNat_le, Bool.and_eq_true,
        decide_eq_true_eq] at hdigit
      exact Nat.sub_lt_left_of_lt_add hdigit.1 (Nat.lt_succ_of_le hdigit.2)
    have hless := ih hdigits
    rw [Text.decimal, List.foldl_append, ← Text.decimal, List.length_append, List.length_singleton,
      Nat.pow_succ]
    simp only [List.foldl_cons, List.foldl_nil]
    omega

/-- A number that is not negative is written in its digits. -/
theorem toList_number {number : Int} (h : 0 ≤ number) :
    (toString number).toList = Nat.toDigits 10 number.toNat := by
  rw [Int.toString_eq_repr, Int.repr_eq_if, if_pos h, Nat.toList_repr]

/-- What a source holds as a number is written with as many digits or fewer. -/
theorem isNumber_decimal {digits : List Char} (h : ∀ c ∈ digits, Identifier.isDigit c)
    (hshort : digits.length ≤ Text.mostDigits) : IsNumber (Text.decimal digits : Nat) where
  nonneg := Int.natCast_nonneg _
  length_le := by
    have hlt : Text.decimal digits < 10 ^ Text.mostDigits :=
      (decimal_lt h).trans_le (Nat.pow_le_pow_right (by decide) hshort)
    rw [toList_number (Int.natCast_nonneg _), Int.toNat_natCast]
    exact Nat.toDigits_length 10 _ _ (by decide) hlt

/-- Where a number is not negative, nothing but digits is written. -/
theorem isDigit_of_mem_number {number : Int} (h : 0 ≤ number) {c : Char}
    (hmem : c ∈ (toString number).toList) : Identifier.isDigit c := by
  rw [toList_number h] at hmem
  exact Nat.isDigit_of_mem_toDigits (by decide) (by decide) hmem

/-- A number that a source may hold is read as itself, in front of what starts with no digit. -/
theorem writes_number {number : Int} (h : IsNumber number) :
    Writes (toString number).toList (fun rest => rest.takeWhile Identifier.isDigit = [])
      fun tokens => ∃ leaf : Leaf .integer, tokens = [leaf.token] ∧ leaf.number = number := by
  have hne : (toString number).toList ≠ [] := by
    rw [toList_number h.nonneg]
    exact Nat.toDigits_ne_nil
  refine (writes_integer hne (fun c hmem => isDigit_of_mem_number h.nonneg hmem) h.length_le).mono
    (fun _ => id) ?_
  rintro tokens ⟨leaf, rfl, htext⟩
  refine ⟨leaf, rfl, ?_⟩
  rw [Derivation.Leaf.number, htext, String.toList_ofList, toList_number h.nonneg, decimal_toDigits,
    Int.toNat_of_nonneg h.nonneg]

/-- A range that a source may hold is read as itself, behind a space. -/
theorem writes_range {range : Range} (h : range.IsSpelled) :
    Writes range.describe.toList (fun _ => True) fun tokens =>
      ∃ bounds : Option Derivation.Range,
        tokens = optionalTokens Derivation.Range.tokens bounds ∧
          Derivation.rangeOrWhole bounds = range := by
  have hopening := writes_symbol (show Token.Kind.ofSymbol? '(' = some .leftParen from rfl)
  have hcomma := writes_symbol (show Token.Kind.ofSymbol? ',' = some .comma from rfl)
  have hclosing := writes_symbol (show Token.Kind.ofSymbol? ')' = some .rightParen from rfl)
  cases range with
  | whole => exact writes_nil.mono (fun _ => id) fun tokens htokens => ⟨none, htokens, rfl⟩
  | openSlice start =>
    have htext : (Range.openSlice start).describe.toList =
        ' ' :: ['('] ++ ((toString start).toList ++ ([','] ++ [')'])) := by
      simp [Range.describe]
    rw [htext]
    refine (hopening.space.append ((writes_number h).append
      (hcomma.append hclosing fun _ _ => trivial) fun _ _ => rfl)
      fun _ _ => trivial).mono (fun _ => id) ?_
    rintro tokens ⟨_, _, ⟨opening, rfl, -⟩, ⟨_, _, ⟨leaf, rfl, rfl⟩,
      ⟨_, _, ⟨comma, rfl, -⟩, ⟨closing, rfl, -⟩, rfl⟩, rfl⟩, rfl⟩
    exact ⟨some ⟨opening, leaf, some (comma, none), closing⟩, rfl, rfl⟩
  | bounded start stop =>
    -- Equal numbers are written once, and are read as start and end.
    by_cases heq : stop = start
    · subst heq
      have htext : (Range.bounded stop stop).describe.toList =
          ' ' :: ['('] ++ ((toString stop).toList ++ [')']) := by
        simp [Range.describe]
      rw [htext]
      refine (hopening.space.append ((writes_number h.1).append hclosing fun _ _ => rfl)
        fun _ _ => trivial).mono (fun _ => id) ?_
      rintro tokens ⟨_, _, ⟨opening, rfl, -⟩, ⟨_, _, ⟨leaf, rfl, rfl⟩, ⟨closing, rfl, -⟩, rfl⟩,
        rfl⟩
      exact ⟨some ⟨opening, leaf, none, closing⟩, rfl, rfl⟩
    · have htext : (Range.bounded start stop).describe.toList =
          ' ' :: ['('] ++ ((toString start).toList ++
            ([','] ++ (' ' :: (toString stop).toList ++ [')']))) := by
        simp [Range.describe, heq]
      rw [htext]
      refine (hopening.space.append ((writes_number h.1).append
        (hcomma.append ((writes_number h.2).space.append hclosing fun _ _ => rfl)
          fun _ _ => trivial) fun _ _ => rfl) fun _ _ => trivial).mono (fun _ => id) ?_
      rintro tokens ⟨_, _, ⟨opening, rfl, -⟩, ⟨_, _, ⟨first, rfl, rfl⟩,
        ⟨_, _, ⟨comma, rfl, -⟩, ⟨_, _, ⟨second, rfl, rfl⟩, ⟨closing, rfl, -⟩, rfl⟩, rfl⟩, rfl⟩,
        rfl⟩
      exact ⟨some ⟨opening, first, some (comma, some second), closing⟩, rfl, rfl⟩

/-! ## Lines -/

/-- The attributes of `selection` as they stand behind the selector. -/
def Selection.attributesText (selection : Selection) : String :=
  match selection.attributes with
  | some names => " " ++ bracedNames names
  | none => ""

theorem Selection.describe_eq (selection : Selection) :
    selection.describe =
      selection.selector ++ selection.attributesText ++ selection.range.describe := rfl

/-- The attributes of a selection are read as a list of names in braces, or as nothing where there
are none. -/
theorem writes_attributes {selection : Selection}
    (h : ∀ names ∈ selection.attributes, AreNames names) :
    Writes selection.attributesText.toList (fun _ => True) fun tokens =>
      ∃ list : Option Derivation.NameList,
        tokens = optionalTokens Derivation.NameList.tokens list ∧
          list.map Derivation.NameList.texts = selection.attributes := by
  unfold Selection.attributesText
  match hattributes : selection.attributes with
  | none => exact writes_nil.mono (fun _ => id) fun tokens htokens => ⟨none, htokens, rfl⟩
  | some names =>
    have hlist := (writes_nameList (h names hattributes)).space
    have htext : (" " ++ bracedNames names).toList = ' ' :: (bracedNames names).toList := by simp
    rw [htext]
    refine hlist.mono (fun _ => id) ?_
    rintro tokens ⟨list, rfl, rfl⟩
    exact ⟨some list, rfl, rfl⟩

/-- The attributes and the range behind a selector do not continue it. -/
theorem stopsNames_behind_selector (selection : Selection) {rest : List Char} (h : LineEnds rest) :
    StopsNames (selection.attributesText.toList ++ selection.range.describe.toList ++ rest) := by
  -- Whichever comes first of a brace, a parenthesis and the end of the line stands there.
  match hattributes : selection.attributes, hrange : selection.range with
  | some names, range =>
    have htext : selection.attributesText.toList =
        ' ' :: '\x7b' :: ((commaSeparated names).toList ++ ['\x7d']) := by
      simp [Selection.attributesText, hattributes, bracedNames]
    rw [htext]
    exact stopsNames_space rfl rfl _
  | none, .whole => simpa [Selection.attributesText, hattributes, Range.describe] using h.stopsNames
  | none, .openSlice start =>
    simpa [Selection.attributesText, hattributes, Range.describe] using stopsNames_space rfl rfl _
  | none, .bounded start stop =>
    by_cases heq : stop = start <;>
      simpa [Selection.attributesText, hattributes, Range.describe, heq] using
        stopsNames_space rfl rfl _

/-- The line of an assignment is read as a binding that stands for it, places apart. -/
theorem writes_assignment {target : String} {selection : Selection}
    (location : Option Location) (htarget : IsName target.toList)
    (hselector : IsName selection.selector.toList) (hrange : selection.range.IsSpelled)
    (hattributes : ∀ names ∈ selection.attributes, AreNames names) :
    Writes (Statement.assignment target selection location).describe.toList LineEnds fun tokens =>
      ∃ form : Derivation.Binding, tokens = form.tokens ∧ ∀ path,
        (form.statement path).unlocated = .assignment target selection none := by
  have hequals := writes_symbol (show Token.Kind.ofSymbol? '=' = some .equals from rfl)
  have htext : (Statement.assignment target selection location).describe.toList =
      target.toList ++ (' ' :: ['='] ++ (' ' :: selection.selector.toList ++
        (selection.attributesText.toList ++ selection.range.describe.toList))) := by
    simp [Statement.describe, Selection.describe_eq]
  have hbehind := (writes_attributes hattributes).append (writes_range hrange) fun _ _ => trivial
  have hselection := (writes_name hselector).space.append
    (hbehind.mono (fun _ (_ : LineEnds _) => trivial) fun _ => id)
    fun rest hrest => stopsNames_behind_selector selection hrest
  -- The target and the selector each end where the space in front of a symbol stands.
  rw [htext]
  refine ((writes_name htarget).append (hequals.space.append hselection fun _ _ => trivial)
    fun rest _ => stopsNames_space rfl rfl _).mono (fun _ => id) ?_
  rintro tokens ⟨_, _, ⟨leaf, rfl, rfl⟩, ⟨_, _, ⟨equals, rfl, -⟩, ⟨_, _, ⟨selector, rfl, hname⟩,
    ⟨_, _, ⟨list, rfl, hlist⟩, ⟨bounds, rfl, hbounds⟩, rfl⟩, rfl⟩, rfl⟩, rfl⟩
  refine ⟨.assignment leaf equals selector list bounds, rfl, fun path => ?_⟩
  rw [Derivation.Binding.statement, Statement.unlocated, hname, hlist, hbounds]

/-- The line of an invocation is read as a binding that stands for it, places apart. -/
theorem writes_invocation {targets : List String} {function : String}
    (location : Option Location) (htargets : AreNames targets)
    (hfunction : IsName function.toList) :
    Writes (Statement.invocation targets function location).describe.toList LineEnds
      fun tokens => ∃ form : Derivation.Binding, tokens = form.tokens ∧ ∀ path,
        (form.statement path).unlocated = .invocation targets function none := by
  have hequals := writes_symbol (show Token.Kind.ofSymbol? '=' = some .equals from rfl)
  have hinvoke := writes_keyword .invoke
  have htext : (Statement.invocation targets function location).describe.toList =
      (commaSeparated targets).toList ++ (' ' :: ['='] ++
        (' ' :: Keyword.invoke.text.toList ++ ' ' :: function.toList)) := by
    simp [Statement.describe, Keyword.text]
  have hcall := hinvoke.space.append
    ((writes_name hfunction).space.mono (fun _ (h : LineEnds _) => h.stopsNames) fun _ => id)
    fun _ _ => rfl
  rw [htext]
  refine ((writes_names htargets).append (hequals.space.append hcall fun _ _ => trivial)
    fun rest _ => stopsNames_space rfl rfl _).mono (fun _ => id) ?_
  rintro tokens ⟨_, _, ⟨form, rfl, rfl⟩, ⟨_, _, ⟨equals, rfl, -⟩, ⟨_, _, ⟨invoke, rfl, -⟩,
    ⟨leaf, rfl, rfl⟩, rfl⟩, rfl⟩, rfl⟩
  exact ⟨.invocation form equals invoke leaf, rfl, fun path => rfl⟩

/-- The line of an assignment or of an invocation is read as it. -/
theorem writes_line {statement : Statement} (h : statement.IsLine) :
    Writes statement.describe.toList LineEnds fun tokens => ∃ form : Derivation.Binding,
      tokens = form.tokens ∧
        ∀ path, (form.statement path).unlocated = statement.unlocated := by
  cases statement with
  | assignment target selection location =>
    obtain ⟨htarget, hselector, hrange, hattributes⟩ := h
    exact writes_assignment location htarget hselector hrange hattributes
  | invocation targets function location =>
    exact writes_invocation location h.1 h.2
  | returns => exact h.elim
  | definition => exact h.elim
  | bare => exact h.elim

/-! ## No line break -/

theorem newline_not_mem_names {names : List String} (h : AreNames names) :
    '\n' ∉ (commaSeparated names).toList := by
  obtain ⟨first, others, rfl⟩ := List.exists_cons_of_ne_nil h.ne_nil
  rw [toList_commaSeparated, List.mem_append, List.mem_flatMap]
  rintro (hfirst | ⟨other, hother, hmem⟩)
  · exact (h.isName first List.mem_cons_self).newline_not_mem hfirst
  · refine (h.isName other (List.mem_cons_of_mem _ hother)).newline_not_mem ?_
    simpa using hmem

theorem newline_not_mem_number {number : Int} (h : 0 ≤ number) :
    '\n' ∉ (toString number).toList := by
  intro hmem
  have hdigit := isDigit_of_mem_number h hmem
  revert hdigit
  decide

theorem newline_not_mem_range {range : Range} (h : range.IsSpelled) :
    '\n' ∉ range.describe.toList := by
  cases range with
  | whole => exact List.not_mem_nil
  | openSlice start => simpa [Range.describe] using newline_not_mem_number h.nonneg
  | bounded start stop =>
    have hstart := newline_not_mem_number h.1.nonneg
    have hstop := newline_not_mem_number h.2.nonneg
    by_cases heq : stop = start
    · simpa [Range.describe, heq] using hstart
    · simpa [Range.describe, heq] using ⟨hstart, hstop⟩

/-- The line of an assignment or of an invocation is one line. -/
theorem Statement.IsLine.newline_not_mem {statement : Statement} (h : statement.IsLine) :
    '\n' ∉ statement.describe.toList := by
  cases statement with
  | assignment target selection location =>
    obtain ⟨htarget, hselector, hrange, hattributes⟩ := h
    have hlist : '\n' ∉ selection.attributesText.toList := by
      unfold Selection.attributesText
      split
      · rename_i names hnames
        simpa [bracedNames] using newline_not_mem_names (hattributes names hnames)
      · exact List.not_mem_nil
    simpa [describe, Selection.describe_eq] using
      ⟨htarget.newline_not_mem, hselector.newline_not_mem, hlist, newline_not_mem_range hrange⟩
  | invocation targets function location =>
    simpa [describe] using ⟨newline_not_mem_names h.1, h.2.newline_not_mem⟩
  | returns => exact h.elim
  | definition => exact h.elim
  | bare => exact h.elim

end Extraction
