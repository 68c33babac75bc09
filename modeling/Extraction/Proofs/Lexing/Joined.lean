import Extraction.Proofs.Grammar.Ahead
import Extraction.Proofs.Lexing.Layout

/-!
# Sources one below the other

A source with a line break and another source behind it has the tokens of both. A line break behind
a source does for its last token what the end of the input does.

* `Token.lowered` and `Failure.lowered` move a token and a failure some lines down, and
  `Cursor.Lowered` are cursors at the same text, the one some lines further down;
  `Cursor.Lowered.scan_eq` says that they read the same tokens, moved.
* `Cursor.append` puts further text behind what a cursor reads, and `Cursor.scan_append` says what
  is read then.
* `tokens_of_joined` is the result for two sources, `fails_of_joined` that for a first source with a
  character that starts no token.
-/

namespace Extraction

/-! ## Further down -/

/-- `token` some `lines` further down. -/
def Token.lowered (lines : Nat) (token : Token) : Token := { token with line := token.line + lines }

/-- `location` some `lines` further down. -/
def Location.lowered (lines : Nat) (location : Location) : Location :=
  { location with line := location.line + lines }

/-- `failure` some `lines` further down. -/
def Failure.lowered {φ : Type} (lines : Nat) (failure : Failure φ) : Failure φ :=
  ⟨failure.fault, { failure.place with line := failure.place.line.map (· + lines) }⟩

/-- The place of a lowered location is on a line that is `lines` further down. -/
theorem Location.place_lowered (lines : Nat) (location : Location) :
    (location.lowered lines).place =
      { location.place with line := location.place.line.map (· + (lines : Int)) } := by
  simp only [place, lowered, Option.map_some]
  push_cast
  rfl

namespace Cursor

open Identifier (isSpace)
open Lexeme (Word)

variable {cursor cursor' : Cursor} {lines : Nat} {text rest : List Char}

/-- `cursor'` reads the same text as `cursor`, some `lines` further down. -/
structure Lowered (lines : Nat) (cursor cursor' : Cursor) : Prop where
  /-- The text is the same. -/
  rest_eq : cursor'.rest = cursor.rest
  /-- The line is further down. -/
  line_eq : cursor'.line = cursor.line + lines
  /-- The column is the same. -/
  column_eq : cursor'.column = cursor.column
  /-- The path is the same. -/
  path_eq : cursor'.path = cursor.path

namespace Lowered

/-- One character further, two cursors still are `lines` lines apart. -/
theorem step (h : cursor.Lowered lines cursor') : cursor.step.Lowered lines cursor'.step := by
  obtain ⟨hrest, hline, hcolumn, hpath⟩ := h
  unfold Cursor.step
  rw [hrest]
  split
  · exact ⟨hrest, hline, hcolumn, hpath⟩
  · split
    · exact ⟨rfl, by simp only [hline]; omega, rfl, hpath⟩
    · exact ⟨rfl, hline, by simp only [hcolumn], hpath⟩

/-- Any number of characters further, two cursors still are `lines` lines apart. -/
theorem advance (count : Nat) (h : cursor.Lowered lines cursor') :
    (cursor.advance count).Lowered lines (cursor'.advance count) := by
  induction count generalizing cursor cursor' with
  | zero => exact h
  | succ count ih =>
    rw [Cursor.advance, Cursor.advance, h.rest_eq]
    split
    · exact h
    · exact ih h.step

/-- A lowered cursor stands at the lowered location. -/
theorem location_eq (h : cursor.Lowered lines cursor') :
    cursor'.location = cursor.location.lowered lines := by
  rw [location, h.line_eq, h.column_eq, h.path_eq]
  rfl

/-- What is read further down is read further down. -/
theorem scan_eq (h : cursor.Lowered lines cursor') :
    cursor'.scan.tokens = cursor.scan.tokens.map (Token.lowered lines) ∧
      cursor'.scan.failure = cursor.scan.failure.map (Failure.lowered lines) := by
  induction cursor using token_induction generalizing cursor' with
  | nil cursor hrest =>
    rw [scan_of_nil hrest, scan_of_nil (h.rest_eq.trans hrest), h.line_eq, h.column_eq]
    exact ⟨rfl, rfl⟩
  | space cursor c rest hrest hc ih =>
    rw [scan_of_space hrest hc, scan_of_space (h.rest_eq.trans hrest) hc]
    exact ih h.step
  | word cursor kind text rest hrest hword ih =>
    obtain ⟨htokens, hfailure⟩ := ih (h.advance text.length)
    rw [scan_of_word hrest hword, scan_of_word (h.rest_eq.trans hrest) hword, h.line_eq,
      h.column_eq]
    exact ⟨congrArg (List.cons _) htokens, hfailure⟩
  | unreadable cursor c rest hrest hc =>
    rw [scan_of_unreadable hrest hc, scan_of_unreadable (h.rest_eq.trans hrest) hc, h.location_eq,
      Location.place_lowered]
    exact ⟨rfl, rfl⟩

theorem front_eq (h : cursor.Lowered lines cursor') :
    cursor'.scan.front = cursor.scan.front.map (Token.lowered lines) := by
  obtain ⟨htokens, hfailure⟩ := h.scan_eq
  simp only [Scan.front, htokens, hfailure, Option.isNone_map]
  split
  · rw [List.map_dropLast]
  · rfl

end Lowered

/-! ## Further text -/

/-- `cursor` with `tail` behind what it reads. -/
def append (tail : List Char) (cursor : Cursor) : Cursor :=
  { cursor with rest := cursor.rest ++ tail }

theorem rest_append (hrest : cursor.rest = text ++ rest) (tail : List Char) :
    (cursor.append tail).rest = text ++ (rest ++ tail) := by
  rw [append, hrest, List.append_assoc]

theorem rest_append_cons {c : Char} (hrest : cursor.rest = c :: rest) (tail : List Char) :
    (cursor.append tail).rest = c :: (rest ++ tail) := by
  rw [append, hrest, List.cons_append]

theorem step_append {c : Char} (hrest : cursor.rest = c :: rest) (tail : List Char) :
    (cursor.append tail).step = cursor.step.append tail := by
  unfold step append
  simp only [hrest, List.cons_append]
  split <;> rfl

/-- Characters are read in the same way with further text behind. -/
theorem advance_append (hrest : cursor.rest = text ++ rest) (tail : List Char) :
    (cursor.append tail).advance text.length = (cursor.advance text.length).append tail := by
  induction text generalizing cursor with
  | nil => rfl
  | cons c text ih =>
    rw [List.length_cons, advance_succ hrest, advance_succ (rest_append hrest tail),
      step_append hrest]
    exact ih (by rw [rest_step, hrest]; rfl)

/-- A line break leads to the front of the next line. -/
theorem step_of_newline (hrest : cursor.rest = '\n' :: rest) :
    cursor.step = ⟨rest, cursor.offset + 1, cursor.line + 1, 0, cursor.path⟩ := by
  unfold step
  simp only [hrest, if_true]

/-- `scan` as it goes on with `tail` behind the text, if it has come to the end of the input. -/
def Scan.append (tail : List Char) (scan : Scan) : Scan :=
  match scan.failure with
  | none =>
    { (scan.cursor.append tail).scan with
      tokens := scan.front ++ (scan.cursor.append tail).scan.tokens }
  | some failure => ⟨scan.tokens, some failure, scan.cursor.append tail⟩

/-- A reading that has come to the end of the input goes on there. -/
theorem Scan.append_of_none {scan : Scan} (h : scan.failure = none) (tail : List Char) :
    scan.append tail = { (scan.cursor.append tail).scan with
      tokens := scan.front ++ (scan.cursor.append tail).scan.tokens } := by
  rw [append, h]

/-- A reading that has failed stays as it is. -/
theorem Scan.append_of_some {scan : Scan} {failure : Failure SyntaxFault}
    (h : scan.failure = some failure) (tail : List Char) :
    scan.append tail = ⟨scan.tokens, some failure, scan.cursor.append tail⟩ := by
  rw [append, h]

/-- A token in front of what is read first is one in front of all. -/
theorem Scan.append_cons {scan : Scan} (token : Token) (tail : List Char)
    (h : scan.failure = none → scan.tokens ≠ []) :
    append tail { scan with tokens := token :: scan.tokens } =
      { scan.append tail with tokens := token :: (scan.append tail).tokens } := by
  obtain ⟨tokens, failure, stop⟩ := scan
  cases failure with
  | none =>
    have hcons := @front_cons ⟨tokens, none, stop⟩ token h
    rw [append_of_none rfl, append_of_none rfl, hcons]
    rfl
  | some failure => rfl

/-- To read what has further text behind it is to read it and to go on with the further text, where
this continues no name. -/
theorem scan_append {tail : List Char} (htail : Identifier.StopsNames tail) (cursor : Cursor) :
    (cursor.append tail).scan = cursor.scan.append tail := by
  induction cursor using token_induction with
  | nil cursor hrest =>
    rw [scan_of_nil hrest]
    rfl
  | space cursor c rest hrest hc ih =>
    rw [scan_of_space hrest hc, scan_of_space (rest_append_cons hrest tail) hc, step_append hrest]
    exact ih
  | word cursor kind text rest hrest hword ih =>
    -- The word is still one with the further text behind it.
    have hword' := hword.relaid (Lexeme.relaid_append tail rest) htail
    rw [scan_of_word hrest hword, scan_of_word (rest_append hrest tail) hword',
      advance_append hrest, ih, Scan.append_cons _ tail scan_tokens_ne_nil]
    rfl
  | unreadable cursor c rest hrest hc =>
    rw [scan_of_unreadable hrest hc, scan_of_unreadable (rest_append_cons hrest tail) hc]
    rfl

end Cursor

/-! ## Two sources -/

/-- `source`, a line break, and the source `below`. -/
def joined (source below : String) : String := source ++ "\n" ++ below

/-- The number of lines that `source` and the line break behind it take up. -/
def lineCount (source : String) : Nat := source.toList.count '\n' + 1

variable {source : String} {path : Option String}

/-- A source that is read to its end has been read to its last line. -/
theorem line_of_ends (h : (tokenize source path).failure = none) :
    (tokenize source path).cursor.line = lineCount source := by
  obtain ⟨hend, -⟩ := Cursor.scan_ends h
  obtain ⟨⟨hrest, hisAt⟩, -⟩ := Cursor.scan_cursor (.start source path)
  rw [hend, List.drop_eq_nil_iff] at hrest
  have hline := hisAt.line_eq
  rwa [List.take_of_length_le hrest] at hline

/-- To read two sources, the one below the other, is to read the first one and to go on with a line
break and the other source. -/
theorem tokenize_joined (source below : String) (path : Option String) :
    tokenize (joined source below) path = (tokenize source path).append ('\n' :: below.toList) := by
  have htail : Identifier.StopsNames ('\n' :: below.toList) := stopsNames_cons (by decide) _
  have hstart : Cursor.start (joined source below) path =
      (Cursor.start source path).append ('\n' :: below.toList) := by
    rw [joined, Cursor.start, String.toList_append, String.toList_append, List.append_assoc]
    rfl
  rw [tokenize, tokenize, hstart, Cursor.scan_append htail]

/-- Where the first source is read to its end, the line break is the next token, and behind it the
other source is read, further down. -/
theorem scan_of_joined (below : String) (h : (tokenize source path).failure = none) :
    ∃ later : Cursor, (Cursor.start below path).Lowered (lineCount source) later ∧
      tokenize (joined source below) path =
        { later.scan with
          tokens := (tokenize source path).front ++
            ⟨.newline, "\n", (tokenize source path).cursor.line,
            (tokenize source path).cursor.column⟩ :: later.scan.tokens } := by
  obtain ⟨hend, -⟩ := Cursor.scan_ends h
  obtain ⟨-, hpath⟩ := Cursor.scan_cursor (.start source path)
  have hscan := tokenize_joined source below path
  rw [Cursor.Scan.append_of_none h] at hscan
  -- What is left there is the line break and the other source.
  generalize hstop : Cursor.append ('\n' :: below.toList) (tokenize source path).cursor = stop
    at hscan
  have hrest : stop.rest = '\n' :: below.toList := by
    change (Cursor.start source path).scan.cursor.rest = [] at hend
    subst hstop
    change (Cursor.start source path).scan.cursor.rest ++ _ = _
    rw [hend, List.nil_append]
  have hline : stop.line + 1 = 1 + lineCount source := by
    rw [Nat.add_comm, ← line_of_ends h, ← hstop]
    rfl
  have hnewline : Lexeme.Word .newline ['\n'] below.toList := .symbol _ rfl
  refine ⟨stop.step, ?_, ?_⟩
  · rw [Cursor.step_of_newline hrest]
    refine ⟨rfl, hline, rfl, ?_⟩
    rw [← hstop]
    exact hpath
  · rw [hscan, Cursor.scan_of_word hrest hnewline, List.length_singleton,
      Cursor.advance_one hrest, ← hstop]
    rfl

/-- The tokens of two sources, the one below the other, if the first one can be read to its end. -/
theorem tokens_of_joined (below : String) (h : (tokenize source path).failure = none) :
    (tokenize (joined source below) path).tokens = (tokenize source path).front ++
        ⟨.newline, "\n", (tokenize source path).cursor.line,
          (tokenize source path).cursor.column⟩ ::
          (tokenize below path).tokens.map (Token.lowered (lineCount source)) ∧
      (tokenize (joined source below) path).failure =
        (tokenize below path).failure.map (Failure.lowered (lineCount source)) := by
  obtain ⟨later, hlater, hscan⟩ := scan_of_joined below h
  rw [hscan, hlater.scan_eq.1, hlater.scan_eq.2]
  exact ⟨rfl, rfl⟩

/-- Those in front of where the reading ends. -/
theorem front_of_joined (below : String) (h : (tokenize source path).failure = none) :
    (tokenize (joined source below) path).front = (tokenize source path).front ++
      ⟨.newline, "\n", (tokenize source path).cursor.line, (tokenize source path).cursor.column⟩ ::
        (tokenize below path).front.map (Token.lowered (lineCount source)) := by
  obtain ⟨later, hlater, hscan⟩ := scan_of_joined below h
  have hfront := later.scan.front_append ((tokenize source path).front ++ [⟨.newline, "\n",
    (tokenize source path).cursor.line, (tokenize source path).cursor.column⟩])
    Cursor.scan_tokens_ne_nil
  rw [List.append_assoc, List.append_assoc, hlater.front_eq] at hfront
  rw [hscan]
  exact hfront

/-- If the first of two sources cannot be read to its end, neither can be the two. -/
theorem fails_of_joined (below : String) {failure : Failure SyntaxFault}
    (h : (tokenize source path).failure = some failure) :
    (tokenize (joined source below) path).tokens = (tokenize source path).tokens ∧
      (tokenize (joined source below) path).failure = some failure := by
  rw [tokenize_joined, Cursor.Scan.append_of_some h]
  exact ⟨rfl, rfl⟩

end Extraction
