import Extraction.Parser.Basic
import Extraction.Proofs.Lexing.Joined

/-!
# Stray characters

A source cannot be read to its end if it holds a character that is neither printable nor white space
of the language. The first of these decides: what stands in front of it is read as if the source
ended there.

* `Text.isStray` tells these characters, and `Lexeme.unreadable_iff` says that they are those that
  start no token.
* `Text.CutAtStray` cuts a text in front of the first one, and `tokenize_of_cutAtStray` reads it;
  `isSome_failure_iff` tells the sources that cannot be read to their ends.
* `Cursor.next_of_error` and `Parser.run_advance_of_error` say what a cursor and a parser do when
  they have met one.
* `stray_character` is the result for sources.
-/

namespace Extraction

/-! ## Stray characters of a text -/

namespace Text

/-- Whether `c` is neither printable nor white space of the language. -/
def isStray (c : Char) : Bool := !isPrintable c && c != '\t' && c != '\r' && c != '\n'

/-- `c` is the first stray character of `cs`, with the part `before` in front of it and the part
`after` behind it. -/
structure CutAtStray (cs before : List Char) (c : Char) (after : List Char) : Prop where
  /-- The text is made of the parts and the character. -/
  eq_append : cs = before ++ c :: after
  /-- The character is stray. -/
  stray : isStray c
  /-- It is the first one. -/
  clean : ∀ b ∈ before, isStray b = false

/-- A text with a stray character can be cut at the first one. -/
theorem exists_cutAtStray {cs : List Char} (h : ∃ c ∈ cs, isStray c) :
    ∃ before c after, CutAtStray cs before c after := by
  obtain ⟨c, hfind⟩ := Option.isSome_iff_exists.1 (List.find?_isSome.2 h)
  obtain ⟨hstray, before, after, hcs, hbefore⟩ := List.find?_eq_some_iff_append.1 hfind
  exact ⟨before, c, after, hcs, hstray, by simpa using hbefore⟩

end Text

namespace Lexeme

open Identifier

variable {c : Char}

/-- Of the symbols only the line break does not print. -/
theorem isPrintable_of_isSymbol (h : isSymbol c) (hc : c ≠ '\n') : Text.isPrintable c := by
  unfold isSymbol Token.Kind.ofSymbol? at h
  split_ifs at h <;> first | (subst_vars; rfl) | contradiction

/-- The characters that start no token are the stray ones. -/
theorem unreadable_iff : Unreadable c ↔ Text.isStray c := by
  simp only [Text.isStray, Bool.and_eq_true, Bool.not_eq_true', bne_iff_ne]
  constructor
  · rintro ⟨hspace, hsymbol, hidentifier⟩
    have hsymbol' : isSymbol c = false := by
      rw [isSymbol, hsymbol]
      rfl
    refine ⟨⟨⟨?_, ?_⟩, ?_⟩, ?_⟩
    · simpa [isIdentifierChar, hspace, hsymbol'] using hidentifier
    · rintro rfl
      cases hspace
    · rintro rfl
      cases hspace
    · rintro rfl
      cases hsymbol
  · rintro ⟨⟨⟨hprintable, htab⟩, hreturn⟩, hnewline⟩
    have hblank : c ≠ ' ' := by
      rintro rfl
      cases hprintable
    refine ⟨by simp [isSpace, hblank, htab, hreturn], ?_, by simp [isIdentifierChar, hprintable]⟩
    -- A symbol other than the line break could be printed.
    rw [← Option.not_isSome_iff_eq_none]
    intro hsymbol
    rw [isPrintable_of_isSymbol hsymbol hnewline] at hprintable
    cases hprintable

/-- Behind a name, a character that starts no token ends it. -/
theorem Unreadable.stopsNames (h : Unreadable c) (rest : List Char) : StopsNames (c :: rest) := by
  have hsymbol : c ∉ ['=', '(', ')'] := by
    simp only [List.mem_cons, List.not_mem_nil, or_false]
    rintro (rfl | rfl | rfl) <;> cases h.ofSymbol?_eq
  intro seen
  rw [← Bool.not_eq_true, continues_cons_iff, h.isIdentifierChar_eq, h.isSpace_eq]
  simp [hsymbol]

end Lexeme

/-! ## Reading up to a stray character -/

namespace Cursor

variable {cursor stop : Cursor} {failure : Failure SyntaxFault}

/-- A cursor that has met a character that starts no token stands in front of it, and meets it
again. -/
theorem next_of_error (h : cursor.next = (.error failure, stop)) :
    stop.next = (.error failure, stop) := by
  have hscan : cursor.scan = ⟨[], some failure, stop⟩ := by
    rw [scan_of_error (by rw [h]), h]
  obtain ⟨c, rest, hc, hrest, hfailure⟩ := @scan_fails cursor failure (by rw [hscan])
  rw [hscan] at hrest hfailure
  rw [hfailure]
  exact next_of_unreadable hrest hc

end Cursor

section

variable {source : String} {before after : List Char} {c : Char}

/-- A text without a stray character is read to its end. -/
theorem failure_eq_none_of_clean {cs : List Char} (h : ∀ b ∈ cs, Text.isStray b = false)
    (path : Option String) : (tokenize (String.ofList cs) path).failure = none := by
  rw [← Option.not_isSome_iff_eq_none]
  intro hsome
  obtain ⟨failure, hfailure⟩ := Option.isSome_iff_exists.1 hsome
  -- The character at which the reading ends is one of the text.
  obtain ⟨c, rest, hc, hrest, -⟩ := Cursor.scan_fails hfailure
  obtain ⟨hwithin, -⟩ := Cursor.scan_cursor (Cursor.Within.start (String.ofList cs) path)
  have hmem : c ∈ cs := by
    have hdrop := hwithin.rest_eq
    rw [String.toList_ofList, hrest] at hdrop
    apply List.mem_of_mem_drop
    rw [hdrop]
    exact List.mem_cons_self
  have hstray := Lexeme.unreadable_iff.1 hc
  rw [h c hmem] at hstray
  cases hstray

/-- A source with a stray character is read like the part in front of the first one, and then the
reading fails there. -/
theorem tokenize_of_cutAtStray (h : Text.CutAtStray source.toList before c after)
    (path : Option String) :
    ∃ stop : Cursor, stop.rest = c :: after ∧
      tokenize source path = ⟨(tokenize (String.ofList before) path).front,
        some ⟨.unreadable c, stop.location.place⟩, stop⟩ := by
  have hunreadable := Lexeme.unreadable_iff.2 h.stray
  have hends := failure_eq_none_of_clean h.clean path
  obtain ⟨hnil, -⟩ := Cursor.scan_ends hends
  have hstart : Cursor.start source path =
      (Cursor.start (String.ofList before) path).append (c :: after) := by
    rw [Cursor.start, h.eq_append, Cursor.start, String.toList_ofList]
    rfl
  -- At the end of the part in front the reading goes on with the stray character.
  have hrest : ((tokenize (String.ofList before) path).cursor.append (c :: after)).rest =
      c :: after := by
    rw [tokenize, Cursor.append, hnil, List.nil_append]
  refine ⟨_, hrest, ?_⟩
  rw [tokenize, hstart, Cursor.scan_append (hunreadable.stopsNames after)]
  rw [tokenize] at hends hrest ⊢
  rw [Cursor.Scan.append_of_none hends, Cursor.scan_of_unreadable hrest hunreadable,
    List.append_nil]

/-- What is left at a cursor tells how far it has come. -/
theorem Cursor.Within.offset_eq {stop : Cursor} (h : stop.Within (before ++ after))
    (hrest : stop.rest = after) : stop.offset = before.length := by
  have hlength := congrArg List.length h.rest_eq
  have hle := h.isAt.le_length
  rw [hrest, List.length_drop, List.length_append] at hlength
  rw [List.length_append] at hle
  omega

/-- A source fails to be read exactly if it has a stray character. -/
theorem isSome_failure_iff (source : String) (path : Option String) :
    (tokenize source path).failure.isSome ↔ ∃ c ∈ source.toList, Text.isStray c := by
  constructor
  · intro hsome
    by_contra hclean
    have hnone : (tokenize (String.ofList source.toList) path).failure = none :=
      failure_eq_none_of_clean (by simpa using hclean) path
    rw [String.ofList_toList] at hnone
    rw [hnone] at hsome
    cases hsome
  · intro hstray
    obtain ⟨before, c, after, hcut⟩ := Text.exists_cutAtStray hstray
    obtain ⟨stop, -, hscan⟩ := tokenize_of_cutAtStray hcut path
    rw [hscan]
    rfl

end

/-! ## Parsers that meet a stray character -/

namespace Parser

variable {state : State} {stop : Cursor} {failure : Failure SyntaxFault}

/-- `advance` fails with the cursor, and keeps the current token. -/
theorem run_advance_of_error (h : state.cursor.next = (.error failure, stop)) :
    advance.run state = (.error failure, { state with cursor := stop }) := by
  simp only [advance, h]

/-- `expect` of the kind that stands there fails with the cursor, and keeps the current token. -/
theorem run_expect_of_error (h : state.cursor.next = (.error failure, stop)) :
    (expect state.current.kind).run state = (.error failure, { state with cursor := stop }) := by
  have hrun : (expect state.current.kind).run state = advance.run state := by
    show (if state.current.kind == state.current.kind then advance
      else unexpected state.current.kind.label).run state = advance.run state
    rw [if_pos (beq_self_eq_true _)]
  rw [hrun, run_advance_of_error h]

end Parser

/-! ## Sources -/

/-- A source fails to be read exactly if it has a stray character. The failure names the first one,
with its line and its column, the tokens are those of the part in front of it, but for the end of
the input, and the cursor stands on it: however many tokens are pulled then, the failure is the same
and the cursor stays. A parser that takes a token and meets the failure keeps the token that it has.
-/
theorem stray_character (source : String) (path : Option String) :
    let scan := tokenize source path
    (scan.failure.isSome ↔ ∃ c ∈ source.toList, Text.isStray c) ∧
      ∀ failure, scan.failure = some failure → ∃ (before : List Char) (c : Char) (after : List Char)
        (location : Location),
        Text.CutAtStray source.toList before c after ∧
        failure = ⟨.unreadable c, location.place⟩ ∧ location.path = path ∧
        Text.IsAt source.toList location.line location.column before.length ∧
        (∃ stop : Token, stop.kind = .endOfInput ∧
          (tokenize (String.ofList before) path).tokens = scan.tokens ++ [stop] ∧
          (tokenize (String.ofList before) path).failure = none) ∧
        scan.cursor.rest = c :: after ∧ scan.cursor.offset = before.length ∧
        (∀ count, (scan.cursor.after count).next = (.error failure, scan.cursor)) ∧
        ∀ (state : Parser.State) (stop : Cursor), state.cursor.next = (.error failure, stop) →
          let stopped := { state with cursor := stop }
          Parser.advance.run state = (.error failure, stopped) ∧
            (Parser.expect state.current.kind).run state = (.error failure, stopped) ∧
            stop.next = (.error failure, stop) := by
  intro scan
  refine ⟨isSome_failure_iff source path, fun failure hfailure => ?_⟩
  have hstray := (isSome_failure_iff source path).1 (Option.isSome_iff_exists.2 ⟨_, hfailure⟩)
  obtain ⟨before, c, after, hcut⟩ := Text.exists_cutAtStray hstray
  obtain ⟨stop, hrest, hscan⟩ := tokenize_of_cutAtStray hcut path
  have hends := failure_eq_none_of_clean hcut.clean path
  obtain ⟨last, htokens, hlast⟩ := Cursor.scan_tokens_eq hends
  -- The cursor has come as far as the part in front of the stray character is long.
  obtain ⟨hwithin, hpath⟩ := Cursor.scan_cursor (Cursor.Within.start source path)
  rw [show (Cursor.start source path).scan = _ from hscan] at hwithin hpath
  have hoffset : stop.offset = before.length :=
    Cursor.Within.offset_eq (hcut.eq_append ▸ hwithin) hrest
  rw [show scan = _ from hscan] at hfailure ⊢
  obtain rfl := Option.some.inj hfailure
  have hnext := Cursor.next_of_unreadable hrest (Lexeme.unreadable_iff.2 hcut.stray)
  refine ⟨before, c, after, stop.location, hcut, rfl, hpath, ?_, ?_, hrest, hoffset, ?_, ?_⟩
  · rw [← hoffset]
    exact hwithin.isAt
  · exact ⟨last, hlast, htokens, hends⟩
  · intro count
    rw [Cursor.after_eq_self (by rw [hnext])]
    exact hnext
  · intro state here hmeets
    exact ⟨Parser.run_advance_of_error hmeets, Parser.run_expect_of_error hmeets,
      Cursor.next_of_error hmeets⟩

/-- A space that continues a name in front of a control character does not do so at the end. -/
example : (tokenize "x = a \x01" none).tokens = (tokenize "x = a " none).tokens.dropLast := by
  decide +kernel

end Extraction
