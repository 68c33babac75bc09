import Extraction.Proofs.Grammar.Language
import Extraction.Proofs.Grammar.Stops
import Extraction.Proofs.Lexing.Position

/-!
# Where sources are refused

A source that is no program is refused at its first token that no program has there, or at a
character that starts no token, if a program begins with all tokens in front of it, or at a number
that is too long, if a program begins with the tokens up to it. The main result is
`parse_error_at_first_impossible_token`.
-/

namespace Extraction

/-! ## The end of the input -/

namespace Derivation

/-- The end of the input is not among `tokens`. -/
def Endless (tokens : List Token) : Prop := ∀ token ∈ tokens, token.kind ≠ .endOfInput

namespace Endless

variable {α : Type} {before after : List Token}

theorem nil : Endless [] := nofun

/-- A token that is not the end of the input may stand in front. -/
theorem cons {kind : Token.Kind} {leaf : Leaf kind} (hkind : kind ≠ .endOfInput)
    (h : Endless after) : Endless (leaf.token :: after) :=
  List.forall_mem_cons.2 ⟨by rwa [leaf.kind_eq], h⟩

/-- Rows without the end of the input may stand one behind the other. -/
theorem append (h : Endless before) (h' : Endless after) : Endless (before ++ after) :=
  List.forall_mem_append.2 ⟨h, h'⟩

/-- Rows that are made of parts without the end of the input have none. -/
theorem flatMap {tokens : α → List Token} (h : ∀ a, Endless (tokens a)) (as : List α) :
    Endless (as.flatMap tokens) := by
  intro token hmem
  obtain ⟨a, -, ha⟩ := List.mem_flatMap.1 hmem
  exact h a token ha

theorem optional {tokens : α → List Token} (h : ∀ a, Endless (tokens a)) (a? : Option α) :
    Endless (optionalTokens tokens a?) := by
  cases a? with
  | none => exact nil
  | some a => exact h a

end Endless

theorem endless_breakTokens (breaks : List (Leaf .newline)) : Endless (breakTokens breaks) := by
  rw [breakTokens, List.map_eq_flatMap]
  exact .flatMap (fun leaf => .cons (by decide) .nil) breaks

theorem Breaks.endless (breaks : Breaks) : Endless breaks.tokens :=
  .cons (by decide) (endless_breakTokens breaks.others)

theorem Names.endless (names : Names) : Endless names.tokens :=
  .cons (by decide) (.flatMap (fun _ => .cons (by decide) (.cons (by decide) .nil)) names.others)

theorem NameList.endless (list : NameList) : Endless list.tokens :=
  .cons (by decide) (list.names.endless.append (.cons (by decide) .nil))

theorem Range.endless (range : Range) : Endless range.tokens := by
  refine .cons (by decide) (.cons (by decide) (.append (.optional (fun stop => ?_) range.stop) ?_))
  · exact .cons (by decide) (.optional (fun leaf => .cons (by decide) .nil) stop.2)
  · exact .cons (by decide) .nil

theorem Binding.endless (binding : Binding) : Endless binding.tokens := by
  cases binding with
  | invocation targets =>
    refine targets.endless.append ?_
    exact .cons (by decide) (.cons (by decide) (.cons (by decide) .nil))
  | assignment target equals selector attributes range =>
    refine .cons (by decide) (.cons (by decide) (.cons (by decide) ?_))
    exact .append (.optional NameList.endless attributes) (.optional Range.endless range)

theorem Definition.endless (definition : Definition) : Endless definition.tokens := by
  refine .cons (by decide) (.cons (by decide) (.append (.append definition.breaks.endless ?_) ?_))
  · exact .flatMap (fun line => line.1.endless.append line.2.endless) definition.body
  · exact .cons (by decide) definition.names.endless

theorem Statement.endless (statement : Statement) : Endless statement.tokens := by
  cases statement with
  | binding form => exact form.endless
  | definition form => exact form.endless

/-- No program holds the end of the input. -/
theorem Program.endless (form : Program) : Endless form.tokens := by
  cases form with
  | blank breaks => exact endless_breakTokens breaks
  | lines before first others after =>
    refine .append (.append (.append (endless_breakTokens before) first.endless) ?_)
      (endless_breakTokens after)
    exact .flatMap (fun next => next.1.endless.append next.2.endless) others

end Derivation

/-! ## Impossible tokens -/

namespace Parser

variable {path : Option String} {course : Course} {read rest : List Token} {token : Token}
  {state final : State} {failure : Failure SyntaxFault}

/-- Where the parser of programs refuses a token, no program goes on with that token. The parser has
not looked behind it, so it would not have refused it in front of the rest of such a program. -/
theorem not_begins_of_unexpected (h : Ahead path course (read ++ token :: rest) state)
    (hrun : program.run state = (.error failure, final)) (hfailure : IsUnexpected failure)
    (hfinal : Ahead path course (token :: rest) final) (form : Derivation.Program) :
    ¬read ++ [token] <+: form.tokens := by
  rintro ⟨after, hform⟩
  -- In front of such a program the parser would do the same until it takes the token.
  have halong : Along path (some (course.states (rest.length + 1)).size) form.tokens state := by
    rw [← hform, List.append_assoc]
    exact h.along_prefix
  rcases reads_program halong with ⟨final', hrun', -⟩ | ⟨size, hsize, hlost⟩
  · cases hrun.symm.trans hrun'
  · obtain rfl := Option.some.inj hsize
    have hstate : course.states (rest.length + 1) = final := hfinal.state_eq
    rw [hrun, hstate] at hlost
    rcases hlost with hlt | ⟨failure', hfailure', hunexpected⟩
    · exact Nat.lt_irrefl _ hlt
    · cases hfailure'
      exact hunexpected hfailure

/-- Where the parser of programs refuses the end of the input, no program ends. -/
theorem ne_tokens_of_unexpected (h : Ahead path course read state) (hend : course.failure = none)
    (hrun : program.run state = (.error failure, final)) (hfailure : IsUnexpected failure)
    (form : Derivation.Program) : form.tokens ≠ read := by
  rintro rfl
  -- Nobody goes beyond this limit except by a failure of another kind.
  have halong : Along path (some 0) form.tokens state := h.along hend nofun
  rcases reads_program halong with ⟨final', hrun', -⟩ | ⟨size, hsize, hlost⟩
  · cases hrun.symm.trans hrun'
  · obtain rfl := Option.some.inj hsize
    rw [hrun] at hlost
    rcases hlost with hlt | ⟨failure', hfailure', hunexpected⟩
    · exact Nat.not_lt_zero _ hlt
    · cases hfailure'
      exact hunexpected hfailure

/-- Where the parser of programs refuses a token, nothing goes on with that token, whether it is the
end of the input or not. -/
theorem not_prefix_of_unexpected (h : Ahead path course (read ++ rest) state)
    (hrun : program.run state = (.error failure, final)) (hfailure : IsUnexpected failure)
    (hfinal : Ahead path course rest final) (form : Derivation.Program) {stop : Token}
    (hstop : stop.kind = .endOfInput) :
    ¬read ++ [final.current] <+: form.tokens ++ [stop] := by
  rw [List.prefix_concat_iff]
  cases rest with
  -- The refused token is the end of the input, which is no token of a program.
  | nil =>
    obtain ⟨-, hkind, hend, -⟩ := hfinal
    rw [List.append_nil] at h
    rintro (heq | hbegins)
    · exact ne_tokens_of_unexpected h hend hrun hfailure form (List.append_inj_left' heq rfl).symm
    · exact form.endless final.current (hbegins.subset (by simp)) hkind
  | cons token rest =>
    have hne : token.kind ≠ .endOfInput := hfinal.2.2.1
    rw [hfinal.2.1]
    rintro (heq | hbegins)
    · obtain rfl : token = stop := by simpa using List.append_inj_right' heq rfl
      exact hne hstop
    · exact not_begins_of_unexpected h hrun hfailure hfinal form hbegins

end Parser

/-! ## Refused sources -/

namespace Cursor

/-- The fault of a character that starts no token tells the character. -/
theorem exists_fault_eq_of_scan {cursor : Cursor} {failure : Failure SyntaxFault}
    (h : cursor.scan.failure = some failure) : ∃ char, failure.fault = .unreadable char := by
  fun_induction scan cursor with
  | case1 cursor failure' hnext =>
    cases h
    exact exists_fault_eq (Prod.ext hnext rfl)
  | case2 => cases h
  | case3 cursor token hnext hkind later ih => exact ih h

end Cursor

section

variable {source : String} {path : Option String} {failure : Failure SyntaxFault}

/-- Where a token stands in a row, and with what the row begins there. -/
theorem getElem?_and_take_of_eq_append {tokens before after : List Token} {token : Token}
    (h : tokens = before ++ token :: after) :
    tokens[before.length]? = some token ∧ tokens.take before.length = before ∧
      tokens.take (before.length + 1) = before ++ [token] := by
  subst h
  refine ⟨by simp, List.take_left, ?_⟩
  rw [List.append_cons]
  exact List.take_left' (List.length_append ..)

/-- The token at which a parser stands is the one behind those that it has read. -/
theorem Parser.Ahead.exists_tokens_eq {course : Parser.Course} {read rest : List Token}
    {final : Parser.State} (hfinal : Parser.Ahead path course rest final)
    (hfront : (tokenize source path).front = read ++ rest)
    (hlast : course.failure = none → (tokenize source path).tokens =
      (tokenize source path).front ++ [(course.states 0).current]) :
    ∃ after, (tokenize source path).tokens = read ++ final.current :: after := by
  cases rest with
  | nil =>
    obtain ⟨-, -, hend, hstate⟩ := hfinal
    rw [List.append_nil] at hfront
    exact ⟨[], by rw [hlast hend, hfront, hstate]⟩
  | cons token rest =>
    obtain ⟨after, htokens⟩ := (tokenize source path).front_prefix_tokens
    rw [hfinal.2.1]
    exact ⟨rest ++ after, by rw [← htokens, hfront, List.append_assoc, List.cons_append]⟩

/-- Where parsing fails, it is at a token that no program has there, at a character that starts no
token, or at a number that is too long. The tokens in front of it, up to the number, go on to a
program. -/
theorem parse_error_cases (h : parse source path = .error failure) :
    let tokens := (tokenize source path).tokens
    (∃ expected found k state, failure = ⟨.unexpected expected found, (found.location path).place⟩ ∧
        tokens[k]? = some found ∧
        Parser.State.start (Cursor.start source path) path = .ok state ∧
        (Parser.program.run state).2.current = found ∧
        (∃ form : Derivation.Program, tokens.take k <+: form.tokens) ∧
        ∀ (form : Derivation.Program) (stop : Token), stop.kind = .endOfInput →
          ¬tokens.take (k + 1) <+: form.tokens ++ [stop]) ∨
      ((tokenize source path).failure = some failure ∧
        ∃ form : Derivation.Program, tokens <+: form.tokens) ∨
      ∃ number k, failure = number.tooLong ∧ tokens[k]? = some number ∧ number.Overlong ∧
        ∃ form : Derivation.Program, tokens.take (k + 1) <+: form.tokens := by
  intro tokens
  rcases Parser.ahead_start source path with
    ⟨state, course, hstart, hscan, hlast, hahead⟩ | ⟨failure', hstart, hnil, hscan⟩
  · obtain ⟨final, hrun⟩ : ∃ final, Parser.program.run state = (.error failure, final) :=
      ⟨_, Prod.ext (parse_eq_run hstart ▸ h) rfl⟩
    obtain ⟨read, rest, hfront, hread, hstop⟩ := Parser.stops_program hahead failure final hrun
    cases hstop with
    | unexpected expected _ hfinal =>
      obtain ⟨after, htokens⟩ := hfinal.exists_tokens_eq hfront hlast
      obtain ⟨hfound, htakeRead, htake⟩ := getElem?_and_take_of_eq_append htokens
      refine .inl ⟨expected, final.current, read.length, state, ?_, hfound, hstart, ?_, ?_, ?_⟩
      · rw [Parser.State.failure, hfinal.locate_eq]
      · rw [hrun]
      · rwa [htakeRead]
      · intro form stop hkind
        rw [htake]
        exact Parser.not_prefix_of_unexpected (hfront ▸ hahead) hrun ⟨_, _, rfl⟩ hfinal form hkind
    | unreadable _ hend =>
      refine .inr (.inl ⟨hscan.symm.trans hend, ?_⟩)
      rw [List.append_nil, Cursor.Scan.front_eq_tokens (hscan.symm.trans hend)] at hfront
      rw [← hfront] at hread
      exact hread
    | @tooLong number _ _ hsuffix hlong =>
      -- The number is the last token that the parser has read.
      obtain ⟨before, rfl⟩ := hsuffix
      have hreadTokens : before ++ [number] <+: tokens :=
        List.IsPrefix.trans ⟨rest, hfront.symm⟩ (tokenize source path).front_prefix_tokens
      obtain ⟨after, htokens⟩ := hreadTokens
      rw [← List.append_cons] at htokens
      obtain ⟨hnumber, -, htake⟩ := getElem?_and_take_of_eq_append htokens.symm
      refine .inr (.inr ⟨number, before.length, rfl, hnumber, hlong, ?_⟩)
      rw [htake]
      exact hread
  · obtain rfl : failure' = failure := by
      rw [parse, hstart] at h
      cases h
      rfl
    refine .inr (.inl ⟨hscan, .blank [], ?_⟩)
    rw [show tokens = [] from hnil]
    exact List.nil_prefix

/-- A source that is refused at a token is so at the first one that no program has there, with
everything in front of it; the parser stands at this token then. The end of the input counts as a
token. A source that is refused at a character that starts no token has a program going on with all
tokens in front of it. So such a character decides exactly if no token in front of it does. A source
that is refused at a number because it is too long has a program going on behind that number. -/
theorem parse_error_at_first_impossible_token (h : parse source path = .error failure) :
    let tokens := (tokenize source path).tokens
    (∀ expected found, failure.fault = .unexpected expected found →
      ∃ k state, failure.place = (found.location path).place ∧ tokens[k]? = some found ∧
        Parser.State.start (Cursor.start source path) path = .ok state ∧
        (Parser.program.run state).2.current = found ∧
        (∃ form : Derivation.Program, tokens.take k <+: form.tokens) ∧
        ∀ (form : Derivation.Program) (stop : Token), stop.kind = .endOfInput →
          ¬tokens.take (k + 1) <+: form.tokens ++ [stop]) ∧
      (∀ char, failure.fault = .unreadable char →
        (tokenize source path).failure = some failure ∧
          ∃ form : Derivation.Program, tokens <+: form.tokens) ∧
      (∀ count, failure.fault = .tooLong count →
        ∃ number k, failure = number.tooLong ∧ tokens[k]? = some number ∧ number.Overlong ∧
          ∃ form : Derivation.Program, tokens.take (k + 1) <+: form.tokens) ∧
      ∀ unreadable, (tokenize source path).failure = some unreadable →
        (failure = unreadable ↔ (∃ form : Derivation.Program, tokens <+: form.tokens) ∧
          ∀ count, failure.fault ≠ .tooLong count) := by
  intro tokens
  rcases parse_error_cases h with
    ⟨expected, found, k, state, rfl, hfound, hstart, hcurrent, hbegins, hnone⟩ |
    ⟨hscan, hbegins⟩ | ⟨number, k, rfl, hnumber, hlong, hbegins⟩
  · refine ⟨?_, nofun, nofun, ?_⟩
    · rintro expected' found' hfault
      cases hfault
      exact ⟨k, state, rfl, hfound, hstart, hcurrent, hbegins, hnone⟩
    · intro unreadable hscan
      constructor
      · rintro rfl
        obtain ⟨char, hfault⟩ := Cursor.exists_fault_eq_of_scan hscan
        cases hfault
      -- A program with all tokens would have the refused one among them.
      · rintro ⟨⟨form, hform⟩, -⟩
        refine absurd ?_ (hnone form ⟨.endOfInput, "", 0, 0⟩ rfl)
        exact ((List.take_prefix _ _).trans hform).trans (List.prefix_append ..)
  · obtain ⟨char, hchar⟩ := Cursor.exists_fault_eq_of_scan hscan
    refine ⟨?_, fun _ _ => ⟨hscan, hbegins⟩, ?_, ?_⟩
    · intro expected found hfault
      cases hchar.symm.trans hfault
    · intro count hfault
      cases hchar.symm.trans hfault
    · intro unreadable hunreadable
      cases hscan.symm.trans hunreadable
      refine ⟨fun _ => ⟨hbegins, fun count hfault => ?_⟩, fun _ => rfl⟩
      cases hchar.symm.trans hfault
  · refine ⟨nofun, nofun, fun _ _ => ⟨number, k, rfl, hnumber, hlong, hbegins⟩, ?_⟩
    intro unreadable hscan
    constructor
    · rintro rfl
      obtain ⟨char, hfault⟩ := Cursor.exists_fault_eq_of_scan hscan
      cases hfault
    · rintro ⟨-, hother⟩
      exact absurd rfl (hother _)

end

/-- A selector for two targets is refused before a character behind it that starts no token. -/
theorem parse_error_at_first_impossible_token_of_late_unreadable :
    let source := "x, y = a\n\x01"
    let tokens := (tokenize source none).tokens
    let found : Token := ⟨.name, "a", 1, 7⟩
    (tokenize source none).failure.isSome ∧
      ∃ failure k, parse source none = .error failure ∧
        failure.place = (found.location none).place ∧
        tokens[k]? = some found ∧ (∃ form : Derivation.Program, tokens.take k <+: form.tokens) ∧
        ¬∃ form : Derivation.Program, tokens <+: form.tokens := by
  intro source tokens found
  have hscan : (tokenize source none).failure =
      some ⟨.unreadable (Char.ofNat 1), ⟨some 2, some 0, none⟩⟩ := by decide +kernel
  have hparse : (match parse source none with | .ok _ => none | .error failure => some failure) =
      some ⟨.unexpected "'do' after 2 targets" found, (found.location none).place⟩ := by
    decide +kernel
  match hresult : parse source none with
  | .ok program =>
    rw [hresult] at hparse
    cases hparse
  | .error failure =>
    rw [hresult] at hparse
    cases hparse
    obtain ⟨hunexpected, -, -, hiff⟩ := parse_error_at_first_impossible_token hresult
    obtain ⟨k, state, hplace, hfound, -, -, hbegins, -⟩ := hunexpected _ _ rfl
    refine ⟨by rw [hscan]; rfl, _, k, rfl, hplace, hfound, hbegins, fun hform => ?_⟩
    cases (hiff _ hscan).2 ⟨hform, nofun⟩

/-! ## Numbers that are too long -/

section

variable {source : String} {path : Option String} {number : Token} {count : Nat}

/-- Where the tokens in front of the `count`-th one are not too long, one that is too long is not
among them. -/
theorem le_of_overlong {tokens : List Token} {k : Nat} (hnumber : tokens[k]? = some number)
    (hlong : number.Overlong) (hshort : ∀ token ∈ tokens.take count, ¬token.Overlong) :
    count ≤ k := by
  by_contra hlt
  refine hshort number (List.mem_of_getElem? (i := k) ?_) hlong
  rw [List.getElem?_take_of_lt (by omega), hnumber]

/-- The first number that is too long is what a source is refused for exactly if a program begins
with the tokens up to it. The token behind it is pulled before the digits are counted, so there must
be one. -/
theorem parse_eq_tooLong_iff {before behind : List Token}
    (htokens : (tokenize source path).tokens = before ++ number :: behind) (hbehind : behind ≠ [])
    (hlong : number.Overlong) (hshort : ∀ token ∈ before, ¬token.Overlong) :
    parse source path = .error number.tooLong ↔
      ∃ form : Derivation.Program, before ++ [number] <+: form.tokens := by
  obtain ⟨hnumber, hbefore, htake⟩ := getElem?_and_take_of_eq_append htokens
  rw [← hbefore] at hshort
  rw [← htake]
  constructor
  · intro h
    rcases parse_error_cases h with
      ⟨_, _, _, _, hfailure, -⟩ | ⟨hscan, -⟩ | ⟨other, k, -, hother, hlong', form, hform⟩
    · cases hfailure
    · obtain ⟨char, hfault⟩ := Cursor.exists_fault_eq_of_scan hscan
      cases hfault
    -- The number that the parser refuses is no earlier one.
    · have hle := le_of_overlong hother hlong' hshort
      exact ⟨form, (List.take_prefix_take_left (by omega)).trans hform⟩
  · rintro ⟨form, hform⟩
    have houtcome := Parser.outcome_of_parse source path
    generalize hresult : parse source path = result at houtcome ⊢
    cases houtcome with
    | ok _ _ hall => exact absurd hlong (hall number (List.mem_of_getElem? hnumber))
    | @unexpected expected found place stop hfound _ _ hearlier =>
      -- The token that is refused is not behind the number, and then a program goes on with it.
      have hle := le_of_overlong hnumber hlong hearlier
      rcases parse_error_cases hresult with
        ⟨_, _, k, _, hfailure, hfound', -, -, -, hnone⟩ | ⟨hscan, -⟩ | ⟨_, _, hfailure, -⟩
      · cases hfailure
        obtain ⟨hlt, -⟩ := List.getElem?_eq_some_iff.1 hfound
        obtain rfl := (List.getElem?_inj hlt (nodup_tokens source path)).1
          (hfound.trans hfound'.symm)
        refine absurd ?_ (hnone form ⟨.endOfInput, "", 0, 0⟩ rfl)
        exact ((List.take_prefix_take_left (by omega)).trans hform).trans (List.prefix_append ..)
      · obtain ⟨char, hfault⟩ := Cursor.exists_fault_eq_of_scan hscan
        cases hfault
      · cases hfailure
    | unreadable _ _ hearlier =>
      refine absurd hlong (hearlier number ?_)
      rw [htokens, List.dropLast_append_cons, List.dropLast_cons_of_ne_nil hbehind]
      simp
    | @tooLong other stop hother hlong' _ _ hearlier =>
      obtain rfl : before.length = stop :=
        Nat.le_antisymm (le_of_overlong hother hlong' hshort)
          (le_of_overlong hnumber hlong hearlier)
      cases hnumber.symm.trans hother
      rfl

end

end Extraction
