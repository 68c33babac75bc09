import Extraction.Proofs.Grammar.Language
import Extraction.Proofs.Grammar.Views

/-!
# Parsers in step

Sources whose tokens differ in their places only are parsed alike: a parser that works on the one is
in step with the parser that works on the other.

* `Parser.Tandem` are pairs of states that stay comparable when a token is taken, up to a limit, and
  `Parser.InStep` are parsers that come to comparable outcomes from them.
* `Parser.inStep_bind` and `Parser.inStep_collect` are the rules for sequences and repetitions.
* `Parser.inStep_program` is the parser of programs, and `parse_of_sameScan` the result for sources.
-/

namespace Extraction

namespace Parser

variable {α β : Type}

/-! ## Pairs of states -/

/-- Comparable outcomes of a pair of parsers: answers that are `good` with states that go on
`alike`, or the same failure, or else the first parser has gone beyond the `limit`. -/
inductive Agree (views : Views) (limit : Option Nat) (alike : State → State → Prop)
    (good : α → α → Prop) : Except (Failure SyntaxFault) α × State →
    Except (Failure SyntaxFault) α × State → Prop
  /-- Both succeed. -/
  | ok {a a' : α} {state state' : State} (hgood : good a a') (halike : alike state state') :
      Agree views limit alike good (.ok a, state) (.ok a', state')
  /-- Both fail. -/
  | error {failure failure' : Failure SyntaxFault} (h : views.SameFailure failure failure')
      (state state' : State) :
      Agree views limit alike good (.error failure, state) (.error failure', state')
  /-- The first one has gone beyond the limit. -/
  | beyond {outcome : Except (Failure SyntaxFault) α × State} (h : Lost limit outcome)
      (outcome' : Except (Failure SyntaxFault) α × State) :
      Agree views limit alike good outcome outcome'

/-- A way to compare the states of parsers that work on two sources. -/
structure Tandem where
  /-- How places are compared. -/
  views : Views
  /-- How far the comparison goes. -/
  limit : Option Nat
  /-- The states that are alike. -/
  alike : State → State → Prop
  /-- They name the path of the sources. -/
  path_eq : ∀ {state state'}, alike state state' →
    state.path = views.path ∧ state'.path = views.path
  /-- They have the same token next. -/
  current : ∀ {state state'}, alike state state' → views.SameToken state.current state'.current
  /-- They stay alike when it is taken. -/
  advance : ∀ {state state'}, alike state state' →
    Agree views limit alike views.SameToken (advance.run state) (advance.run state')

/-- From states that are alike, `p` and `p'` come to comparable outcomes. -/
def InStep (tandem : Tandem) (p p' : Parser α) (good : α → α → Prop) : Prop :=
  ∀ state state', tandem.alike state state' →
    Agree tandem.views tandem.limit tandem.alike good (p.run state) (p'.run state')

variable {tandem : Tandem} {p p' q q' : Parser α} {good : α → α → Prop}

/-- Good answers are given in step, and nothing is taken. -/
theorem inStep_pure {a a' : α} (h : good a a') : InStep tandem (pure a) (pure a') good :=
  fun _ _ halike => .ok h halike

/-- Parsers that go on in step from good answers are in step together. -/
theorem inStep_bind {f f' : α → Parser β} {good' : β → β → Prop} (hp : InStep tandem p p' good)
    (hf : ∀ a a', good a a' → InStep tandem (f a) (f' a') good') :
    InStep tandem (p >>= f) (p' >>= f') good' := by
  intro state state' halike
  have houtcome := hp state state' halike
  generalize hrun : p.run state = outcome, hrun' : p'.run state' = outcome' at houtcome
  cases houtcome with
  | ok hgood hnext =>
    rw [run_bind, run_bind, hrun, hrun']
    exact hf _ _ hgood _ _ hnext
  | error hsame _ _ =>
    rw [run_bind, run_bind, hrun, hrun']
    exact .error hsame _ _
  | beyond hlost _ =>
    rw [← hrun] at hlost
    exact .beyond (hlost.bind f) _

/-- Two states in step look at tokens of the same kind, and so choose the same branch. -/
theorem inStep_isAt {kind : Token.Kind} (hp : InStep tandem p p' good)
    (hq : InStep tandem q q' good) :
    InStep tandem (isAt kind >>= fun found => if found then p else q)
      (isAt kind >>= fun found => if found then p' else q') good := by
  intro state state' halike
  change Agree _ _ _ good ((if state.current.kind == kind then p else q).run state)
    ((if state'.current.kind == kind then p' else q').run state')
  rw [(tandem.current halike).kind_eq]
  split
  · exact hp _ _ halike
  · exact hq _ _ halike

/-- The place of a failure is that of the token in the path of the program. -/
theorem State.failure_eq {state : State} {path : Option String} (h : state.path = path)
    (expected : String) (token : Token) : state.failure expected token =
      ⟨.unexpected expected token, (token.location path).place⟩ := by
  rw [failure, locate, h, Token.location]

/-- Two states in step fail at the same token. -/
theorem inStep_unexpected (expected : String) :
    InStep tandem (unexpected expected) (unexpected expected) good := by
  intro state state' halike
  obtain ⟨hpath, hpath'⟩ := tandem.path_eq halike
  change Agree _ _ _ _ (.error (state.failure expected state.current), state)
    (.error (state'.failure expected state'.current), state')
  rw [State.failure_eq hpath, State.failure_eq hpath']
  exact .error (.unexpected expected (tandem.current halike)) state state'

/-- To see where a token stands is to see it at the same place. -/
theorem inStep_locate {token token' : Token} (h : tandem.views.SameToken token token') :
    InStep tandem (locate token) (locate token')
      fun location location' => tandem.views.left location = tandem.views.right location' := by
  intro state state' halike
  obtain ⟨hpath, hpath'⟩ := tandem.path_eq halike
  refine .ok ?_ halike
  rw [State.locate, State.locate, hpath, hpath']
  exact h.location_eq

/-- The tokens that are taken in step are the same. -/
theorem inStep_advance : InStep tandem advance advance tandem.views.SameToken :=
  fun _ _ => tandem.advance

/-- The tokens that are expected in step are the same. -/
theorem inStep_expect (kind : Token.Kind) :
    InStep tandem (expect kind) (expect kind) tandem.views.SameToken :=
  inStep_isAt inStep_advance (inStep_unexpected _)

/-- Two states in step name the same path. -/
theorem inStep_state :
    InStep tandem state state fun state state' => state.path = state'.path := by
  intro state state' halike
  obtain ⟨hpath, hpath'⟩ := tandem.path_eq halike
  exact .ok (hpath.trans hpath'.symm) halike

/-- Repetitions are in step if their rounds are. -/
theorem inStep_collect {p p' : Parser (Option α)} {hp : p.Advances} {hp' : p'.Advances}
    (h : InStep tandem p p' (Option.Rel good)) :
    InStep tandem (collect p hp) (collect p' hp') (List.Forall₂ good) := by
  -- The induction is on what the first parser has left, which becomes less in each round.
  intro state state' halike
  induction hsize : state.size using Nat.strong_induction_on generalizing state state' with
  | h size ih =>
    have hround := h _ _ halike
    generalize hrun : p.run state = outcome, hrun' : p'.run state' = outcome' at hround
    cases hround with
    | beyond hlost _ =>
      rw [← hrun] at hlost
      exact .beyond hlost.collect _
    | error hsame _ _ =>
      rw [run_collect_error hrun, run_collect_error hrun']
      exact .error hsame _ _
    | @ok a? a?' later later' hgood hnext =>
      cases hgood with
      | none =>
        rw [run_collect_none hrun, run_collect_none hrun']
        exact .ok .nil hnext
      | @some a a' hgood =>
        have hless := hp state a (by rw [hrun])
        rw [hrun, hsize] at hless
        have hrest := ih _ hless _ _ hnext rfl
        generalize hlater : (collect p hp).run later = outcome,
          hlater' : (collect p' hp').run later' = outcome' at hrest
        cases hrest with
        | beyond hlost _ =>
          rw [← hlater] at hlost
          exact .beyond (hlost.collect_some hrun) _
        | ok hgoods hfinal =>
          rw [run_collect_some hrun, run_collect_some hrun', hlater, hlater']
          exact .ok (.cons hgood hgoods) hfinal
        | error hsame _ _ =>
          rw [run_collect_some hrun, run_collect_some hrun', hlater, hlater']
          exact .error hsame _ _

/-- What is known of the answers may be weakened. -/
theorem InStep.mono {good' : α → α → Prop} (h : InStep tandem p p' good)
    (hgood : ∀ a a', good a a' → good' a a') : InStep tandem p p' good' := by
  intro state state' halike
  have houtcome := h state state' halike
  generalize p.run state = outcome, p'.run state' = outcome' at houtcome ⊢
  cases houtcome with
  | ok h hnext => exact .ok (hgood _ _ h) hnext
  | error hsame _ _ => exact .error hsame _ _
  | beyond hlost _ => exact .beyond hlost _

/-- Parsers that answer alike go on alike. -/
theorem inStep_bind_eq {f f' : α → Parser β} {good' : β → β → Prop} (hp : InStep tandem p p' Eq)
    (hf : ∀ a, InStep tandem (f a) (f' a) good') : InStep tandem (p >>= f) (p' >>= f') good' :=
  inStep_bind hp fun a _ heq => heq ▸ hf a

/-- Rounds with equal answers make repetitions with equal answers. -/
theorem inStep_collect_eq {p p' : Parser (Option α)} {hp : p.Advances} {hp' : p'.Advances}
    (h : InStep tandem p p' (Option.Rel Eq)) : InStep tandem (collect p hp) (collect p' hp') Eq :=
  (inStep_collect h).mono fun _ _ hall => by rwa [List.forall₂_eq_eq_eq] at hall

/-! ## Lines and names -/

theorem inStep_skipNewlines : InStep tandem skipNewlines skipNewlines Eq := by
  have hround : InStep tandem newline? newline? (Option.Rel tandem.views.SameToken) :=
    inStep_isAt (inStep_bind inStep_advance fun _ _ htoken => inStep_pure (.some htoken))
      (inStep_pure .none)
  exact inStep_bind (inStep_collect hround) fun _ _ _ => inStep_pure rfl

theorem inStep_endStatement : InStep tandem endStatement endStatement Eq :=
  inStep_isAt (inStep_pure rfl) (inStep_bind (inStep_expect _) fun _ _ _ => inStep_pure rfl)

theorem inStep_name : InStep tandem name name Eq :=
  inStep_bind (inStep_expect _) fun _ _ htoken => inStep_pure htoken.text_eq

/-- A comma and a name behind it. -/
theorem inStep_next : InStep tandem
    (advance >>= fun _ => name >>= fun next => pure (some next))
    (advance >>= fun _ => name >>= fun next => pure (some next)) (Option.Rel Eq) :=
  inStep_bind inStep_advance fun _ _ _ =>
    inStep_bind_eq inStep_name fun _ => inStep_pure (.some rfl)

theorem inStep_nextName? : InStep tandem nextName? nextName? (Option.Rel Eq) :=
  inStep_isAt (inStep_pure .none) (inStep_isAt inStep_next (inStep_unexpected _))

/-- The lists of names that are read in step are equal. -/
theorem inStep_nameList : InStep tandem nameList nameList Eq :=
  inStep_bind (inStep_expect _) fun _ _ _ => inStep_bind_eq inStep_name fun _ =>
    inStep_bind_eq (inStep_collect_eq inStep_nextName?) fun _ =>
      inStep_bind inStep_advance fun _ _ _ => inStep_pure rfl

/-! ## Selections -/

/-- The same digits are too many or not. -/
theorem inStep_number (digits : List Char) : InStep tandem (number digits) (number digits) Eq := by
  unfold number
  split
  · exact inStep_pure rfl
  · exact fun state state' _ => .error (.tooLong _) state state'

theorem inStep_integer : InStep tandem integer integer Eq := by
  refine inStep_bind (inStep_expect _) fun token token' htoken => ?_
  rw [htoken.text_eq]
  exact inStep_number _

theorem inStep_range : InStep tandem range range Eq := by
  refine inStep_bind (inStep_expect _) fun _ _ _ => inStep_bind_eq inStep_integer fun start => ?_
  refine inStep_isAt (inStep_bind inStep_advance fun _ _ _ => inStep_pure rfl) ?_
  refine inStep_isAt (inStep_bind inStep_advance fun _ _ _ => ?_) (inStep_unexpected _)
  refine inStep_isAt (inStep_bind inStep_advance fun _ _ _ => inStep_pure rfl) ?_
  refine inStep_isAt (inStep_bind_eq inStep_integer fun stop => ?_) (inStep_unexpected _)
  exact inStep_bind (inStep_expect _) fun _ _ _ => inStep_pure rfl

theorem inStep_attributes? : InStep tandem attributes? attributes? Eq :=
  inStep_isAt (inStep_bind_eq inStep_nameList fun _ => inStep_pure rfl) (inStep_pure rfl)

theorem inStep_rangeOrWhole : InStep tandem rangeOrWhole rangeOrWhole Eq :=
  inStep_isAt inStep_range (inStep_pure rfl)

/-- The selections that are read in step are equal. -/
theorem inStep_selection : InStep tandem selection selection Eq := by
  refine inStep_bind_eq inStep_name fun selector =>
    inStep_bind_eq inStep_attributes? fun attributes =>
    inStep_bind_eq inStep_rangeOrWhole fun range => ?_
  exact inStep_isAt (inStep_pure rfl) (inStep_isAt (inStep_pure rfl) (inStep_unexpected _))

/-! ## Bindings -/

theorem inStep_nextTarget? : InStep tandem nextTarget? nextTarget? (Option.Rel Eq) :=
  inStep_isAt inStep_next (inStep_pure .none)

/-- What is bound in step looks the same, if the locations do. -/
theorem inStep_bound (target : String) (others : List String) {location location' : Location}
    (h : tandem.views.left location = tandem.views.right location') :
    InStep tandem (bound target others location) (bound target others location')
      tandem.views.SameStatement := by
  refine inStep_isAt (inStep_bind inStep_advance fun _ _ _ => inStep_bind_eq inStep_name fun _ =>
    inStep_pure ?_) ?_
  · simp only [Views.SameStatement, Statement.relocated, Option.bind_some, h]
  · split
    · refine inStep_bind_eq inStep_selection fun selection => inStep_pure ?_
      simp only [Views.SameStatement, Statement.relocated, Option.bind_some, h]
    · exact inStep_unexpected _

/-- The bindings that are read in step look the same. -/
theorem inStep_binding : InStep tandem binding binding tandem.views.SameStatement := by
  refine inStep_bind (inStep_expect _) fun first first' htoken => ?_
  refine inStep_bind_eq (inStep_collect_eq inStep_nextTarget?) fun others => ?_
  refine inStep_bind (inStep_expect _) fun _ _ _ => ?_
  refine inStep_bind (inStep_locate htoken) fun location location' hlocation => ?_
  rw [htoken.text_eq]
  exact inStep_bound first'.text others hlocation

/-! ## Definitions -/

/-- Lists of names that are the same but for their places. -/
theorem inStep_returnSpec : InStep tandem returnSpec returnSpec fun spec spec' =>
    spec.names = spec'.names ∧
      spec.location.bind tandem.views.left = spec'.location.bind tandem.views.right := by
  refine inStep_bind (inStep_expect _) fun start start' htoken => ?_
  refine inStep_bind_eq inStep_nameList fun names => ?_
  refine inStep_bind (inStep_locate htoken) fun location location' hlocation => ?_
  exact inStep_pure ⟨rfl, hlocation⟩

theorem inStep_nextBinding? (function : String) : InStep tandem (nextBinding? function)
    (nextBinding? function) (Option.Rel tandem.views.SameStatement) := by
  refine inStep_bind_eq inStep_skipNewlines fun _ => inStep_isAt (inStep_pure .none) ?_
  refine inStep_isAt (inStep_unexpected _) (inStep_isAt (inStep_unexpected _) ?_)
  refine inStep_bind inStep_binding fun statement statement' hsame => ?_
  exact inStep_bind_eq inStep_endStatement fun _ => inStep_pure (.some hsame)

/-- The definitions that are read in step look the same. -/
theorem inStep_definition : InStep tandem definition definition tandem.views.SameStatement := by
  refine inStep_bind inStep_advance fun start start' htoken => ?_
  refine inStep_bind_eq inStep_name fun function => inStep_bind_eq inStep_endStatement fun _ => ?_
  refine inStep_bind (inStep_collect (inStep_nextBinding? function)) fun body body' hbody => ?_
  refine inStep_bind inStep_returnSpec fun spec spec' hspec => ?_
  refine inStep_bind (inStep_locate htoken) fun location location' hlocation => inStep_pure ?_
  simp only [Views.SameStatement, Statement.relocated, Statement.relocatedAll_eq_map,
    Views.map_relocated_eq hbody, hspec.1, hspec.2, Option.bind_some, hlocation]

/-! ## Programs -/

/-- The statements that are read in step look the same. -/
theorem inStep_statement : InStep tandem statement statement tandem.views.SameStatement :=
  inStep_isAt inStep_definition (inStep_isAt (inStep_unexpected _) inStep_binding)

theorem inStep_nextStatement? : InStep tandem nextStatement? nextStatement?
    (Option.Rel tandem.views.SameStatement) := by
  refine inStep_bind_eq inStep_skipNewlines fun _ => inStep_isAt (inStep_pure .none) ?_
  refine inStep_bind inStep_statement fun statement statement' hsame => ?_
  exact inStep_bind_eq inStep_endStatement fun _ => inStep_pure (.some hsame)

/-- Programs are the same but for the places in them. -/
theorem inStep_program : InStep tandem program program fun program program' =>
    program.path = program'.path ∧
      program.statements.map (Statement.relocated tandem.views.left) =
        program'.statements.map (Statement.relocated tandem.views.right) := by
  refine inStep_bind (inStep_collect inStep_nextStatement?) fun list list' hsame => ?_
  refine inStep_bind inStep_state fun state state' hpath => inStep_pure ?_
  exact ⟨hpath, Views.map_relocated_eq hsame⟩

end Parser

/-! ## Sources -/

/-- Where all tokens are the same, the next one is, and those behind it are. -/
theorem Views.SameScan.next {views : Views} {cursor cursor' : Cursor}
    (h : views.SameScan cursor.scan cursor'.scan) :
    (∃ failure failure' later later', cursor.next = (.error failure, later) ∧
      cursor'.next = (.error failure', later') ∧ views.SameFailure failure failure') ∨
    ∃ token token' later later', cursor.next = (.ok token, later) ∧
      cursor'.next = (.ok token', later') ∧ views.SameToken token token' ∧
        views.SameScan later.scan later'.scan := by
  obtain ⟨htokens, hfailure⟩ := h
  rcases cursor.scan_cases with ⟨failure, later, hnext, hscan⟩ |
    ⟨token, later, hnext, hkind, hscan, hagain⟩ | ⟨token, later, hnext, hkind, hscan⟩ <;>
  rcases cursor'.scan_cases with ⟨failure', later', hnext', hscan'⟩ |
    ⟨token', later', hnext', hkind', hscan', hagain'⟩ | ⟨token', later', hnext', hkind', hscan'⟩ <;>
  rw [hscan, hscan'] at htokens hfailure
  -- The two fail together, end together, and go on together.
  · cases hfailure with
    | some hsame => exact .inl ⟨_, _, _, _, hnext, hnext', hsame⟩
  · cases htokens
  · cases htokens
  · cases htokens
  · cases htokens with
    | cons hsame _ =>
      refine .inr ⟨_, _, _, _, hnext, hnext', hsame, ?_⟩
      rw [hagain, hagain']
      exact ⟨.cons hsame .nil, .none⟩
  · cases htokens with
    | cons hsame _ => exact absurd (hsame.kind_eq.symm.trans hkind) hkind'
  · cases htokens
  · cases htokens with
    | cons hsame _ => exact absurd (hsame.kind_eq.trans hkind') hkind
  · cases htokens with
    | cons hsame hrest => exact .inr ⟨_, _, _, _, hnext, hnext', hsame, hrest, hfailure⟩

namespace Parser

/-- The states of parsers that have the same tokens in front of them. -/
def Tandem.ofScans (views : Views) : Tandem where
  views := views
  limit := none
  alike state state' := (state.path = views.path ∧ state'.path = views.path) ∧
    views.SameToken state.current state'.current ∧
      views.SameScan state.cursor.scan state'.cursor.scan
  path_eq h := h.1
  current h := h.2.1
  advance := by
    rintro state state' ⟨hpath, hcurrent, hscan⟩
    rcases hscan.next with ⟨failure, failure', later, later', hnext, hnext', hsame⟩ |
      ⟨token, token', later, later', hnext, hnext', hsame, hrest⟩
    · simp only [Parser.advance, hnext, hnext']
      exact .error hsame _ _
    · simp only [Parser.advance, hnext, hnext']
      exact .ok hcurrent ⟨hpath, hsame, hrest⟩

/-- Two states that are alike come to outcomes that look the same. -/
theorem outcome_of_alike {views : Views} {state state' : State}
    (h : (Tandem.ofScans views).alike state state') :
    views.SameOutcome (program.run state).1 (program.run state').1 := by
  have houtcome := inStep_program _ _ h
  generalize program.run state = outcome, program.run state' = outcome' at houtcome ⊢
  cases houtcome with
  | ok hgood _ => exact .ok hgood.1 hgood.2
  | error hsame _ _ => exact .error hsame
  | beyond hlost _ =>
    obtain ⟨size, hlimit, -⟩ := hlost
    cases hlimit

end Parser

/-- Texts with the same tokens are parsed alike. -/
theorem parseFrom_of_sameScan {views : Views} {cursor cursor' : Cursor}
    (h : views.SameScan cursor.scan cursor'.scan) (hpath : cursor.path = views.path)
    (hpath' : cursor'.path = views.path) :
    views.SameOutcome (parseFrom cursor views.path) (parseFrom cursor' views.path) := by
  rcases h.next with ⟨failure, failure', later, later', hnext, hnext', hsame⟩ |
    ⟨token, token', later, later', hnext, hnext', hsame, hrest⟩
  · rw [parseFrom, parseFrom, Parser.start_of_error hnext, Parser.start_of_error hnext']
    exact .error hsame
  · have halike : (Parser.Tandem.ofScans views).alike ⟨token, later, views.path⟩
        ⟨token', later', views.path⟩ := ⟨⟨rfl, rfl⟩, hsame, hrest⟩
    rw [parseFrom_eq_run (Parser.start_of_ok hpath hnext),
      parseFrom_eq_run (Parser.start_of_ok hpath' hnext')]
    exact Parser.outcome_of_alike halike

/-- Sources with the same tokens are parsed alike. -/
theorem parse_of_sameScan {views : Views} {source source' : String}
    (h : views.SameScan (tokenize source views.path) (tokenize source' views.path)) :
    views.SameOutcome (parse source views.path) (parse source' views.path) :=
  parseFrom_of_sameScan h rfl rfl

end Extraction
