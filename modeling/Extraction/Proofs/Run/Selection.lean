import Extraction.Document.Listing
import Extraction.Proofs.Range
import Extraction.Proofs.Run.Outline

/-!
# Values of selections

A selection names a range and attributes, and the two have nothing to do with each other: the range
decides which of the matches are meant, and the attributes what is taken from each of them.

* `Projects` relates the answers to a selection without attributes and with some.
* `answer` is the answer to a selection that is not refused, and `select_eq_answer` says so.
* `Selects` are the laws of these answers, and `values_of_selection` is the result.
-/

namespace Extraction.Run

variable {ν ε : Type} [Node ν]

/-! ## Attributes -/

/-- An answer with `attributes` has what is wanted of each element of the answer without. -/
inductive Projects (attributes : Option (List String)) :
    Except (Stop ε) (Value ν) → Except (Stop ε) (Value ν) → Prop
  /-- Of nothing, nothing is taken. -/
  | absent : Projects attributes (.ok (.leaf .absent)) (.ok (.leaf .absent))
  /-- Of an element it is taken. -/
  | node (node : ν) :
      Projects attributes (.ok (.leaf (.node node))) (.ok (project attributes node))
  /-- Of a list of elements it is taken from each, in order. -/
  | nodes (nodes : List ν) :
      Projects attributes (.ok (.list (nodes.map fun node => .leaf (.node node))))
        (.ok (.list (nodes.map (project attributes))))
  /-- Where there is no answer, there is none with attributes. -/
  | outOfRange : Projects attributes (.error .outOfRange) (.error .outOfRange)

/-! ## Answers -/

/-- The answer with what is wanted of each of `nodes`. -/
def listed (attributes : Option (List String)) (nodes : List ν) : Except (Stop ε) (Value ν) :=
  .ok (.list (nodes.map (project attributes)))

/-- The answer to a selection of `range` and `attributes`, if the first match of its selector is
`node?` and all matches are `nodes`. -/
def answer (range : Range) (attributes : Option (List String)) (node? : Option ν)
    (nodes : List ν) : Except (Stop ε) (Value ν) :=
  if range = .whole then .ok (projectFirst attributes node?)
  else match Selection.ofMatches range attributes nodes with
    | .ok value => .ok value
    | .error _ => .error .outOfRange

/-- A selection that is not refused makes its query and is answered. -/
theorem select_eq_answer {document : Document ν ε} {selector : String} {state : State ν}
    {node? : Option ν} {nodes : List ν}
    (hfirst : document.first state.queries selector = .ok node?)
    (hall : document.all state.queries selector = .ok nodes) (range : Range)
    (attributes : Option (List String)) :
    select document ⟨selector, range, attributes⟩ state =
      (answer range attributes node? nodes,
        state.perform (.query (query ⟨selector, range, attributes⟩))) := by
  unfold answer query
  by_cases hrange : range = .whole
  · rw [select_of_whole hrange, hfirst, if_pos hrange, if_pos hrange]
  · rewrite [select_of_ne_whole hrange, hall, if_neg hrange, if_neg hrange]
    rfl

section

variable (attributes : Option (List String)) (node? : Option ν) (nodes : List ν)

/-- An open slice takes the matches from `start` on. -/
theorem answer_openSlice (start : Int) :
    answer (ε := ε) (.openSlice start) attributes node? nodes =
      listed attributes (Range.sliceFrom start nodes) := rfl

/-- Two different numbers take the matches between them. -/
theorem answer_slice {start stop : Int} (h : start ≠ stop) :
    answer (ε := ε) (.bounded start stop) attributes node? nodes =
      listed attributes (Range.slice start stop nodes) := by
  rw [answer, if_neg nofun, Selection.ofMatches, if_neg h.symm]
  rfl

/-- A single number takes one match, or none behind the last one. -/
theorem answer_index_of_ok {index : Int} {found? : Option ν}
    (h : Range.element index nodes = .ok found?) :
    answer (ε := ε) (.bounded index index) attributes node? nodes =
      .ok (projectFirst attributes found?) := by
  rw [answer, if_neg nofun, Selection.ofMatches, if_pos rfl, h]
  rfl

/-- A single number that counts beyond the front of the matches gives no value. -/
theorem answer_index_of_error {index : Int} {reason : Range.OutOfRange}
    (h : Range.element index nodes = .error reason) :
    answer (ε := ε) (.bounded index index) attributes node? nodes = .error .outOfRange := by
  rw [answer, if_neg nofun, Selection.ofMatches, if_pos rfl, h]
  rfl

/-- An answer is given unless a single number counts beyond the front of the matches. -/
theorem answer_eq_error_iff {range : Range} {reason : Stop ε} :
    answer range attributes node? nodes = .error reason ↔ reason = .outOfRange ∧
      ∃ index, range = .bounded index index ∧ index < -(nodes.length : Int) := by
  match range with
  | .whole =>
    rw [answer, if_pos rfl]
    simp
  | .openSlice start => simp [answer_openSlice, listed]
  | .bounded start stop =>
    -- Only an index can be out of range: a slice is clamped.
    by_cases hbounds : start = stop
    · subst hbounds
      match helement : Range.element start nodes with
      | .ok found? =>
        have hfront : ¬start < -(nodes.length : Int) := fun hlt => by
          have hout : Range.element start nodes = .error ⟨⟩ := Range.element_eq_error_iff.2 hlt
          cases helement.symm.trans hout
        rw [answer_index_of_ok _ _ _ helement]
        simp [hfront]
      | .error out =>
        have hfront := Range.element_eq_error_iff.1 helement
        rw [answer_index_of_error _ _ _ helement]
        simp [hfront, eq_comm]
    · have hindex : ¬∃ index, Range.bounded start stop = .bounded index index ∧
          index < -(nodes.length : Int) := by
        rintro ⟨index, heq, -⟩
        cases heq
        exact hbounds rfl
      rw [answer_slice _ _ _ hbounds]
      simp only [hindex, and_false, iff_false]
      nofun

/-- The first match is projected to the attributes, and the absence of one is not. -/
theorem Projects.first :
    Projects (ε := ε) attributes (.ok (projectFirst none node?))
      (.ok (projectFirst attributes node?)) := by
  cases node? with
  | none => exact .absent
  | some node => exact .node node

/-- The attributes decide what is taken from the elements, and the range which ones these are. -/
theorem projects_answer (range : Range) :
    Projects (ε := ε) attributes (answer range none node? nodes)
      (answer range attributes node? nodes) := by
  match range with
  | .whole =>
    rw [answer, answer, if_pos rfl, if_pos rfl]
    exact .first attributes node?
  | .openSlice start => exact .nodes _
  | .bounded start stop =>
    by_cases hbounds : start = stop
    · subst hbounds
      match helement : Range.element start nodes with
      | .ok found? =>
        rw [answer_index_of_ok _ _ _ helement, answer_index_of_ok _ _ _ helement]
        exact .first attributes found?
      | .error out =>
        rw [answer_index_of_error _ _ _ helement, answer_index_of_error _ _ _ helement]
        exact .outOfRange
    · rw [answer_slice _ _ _ hbounds, answer_slice _ _ _ hbounds]
      exact .nodes _

/-- No attributes are as good as no list of them. -/
theorem answer_nil (range : Range) :
    answer (ε := ε) range (some []) node? nodes = answer range none node? nodes := by
  have hproject : project (ν := ν) (some []) = project none := rfl
  have hfirst : projectFirst (ν := ν) (some []) = projectFirst none := by
    funext found?
    cases found? <;> rfl
  unfold answer
  cases range <;> simp only [Selection.ofMatches, hproject, hfirst]

end

/-! ## Selections -/

/-- The answers `value` for each range and each list of attributes, by the first match and all
matches. -/
structure Selects (node? : Option ν) (nodes : List ν)
    (value : Range → Option (List String) → Except (Stop ε) (Value ν)) : Prop where
  /-- The attributes are taken from the elements that the answer without attributes has. -/
  projects : ∀ range attributes, Projects attributes (value range none) (value range attributes)
  /-- An empty list of attributes is as good as none. -/
  nil : ∀ range, value range (some []) = value range none
  /-- Without a range, the first match is meant. -/
  whole : ∀ attributes, value .whole attributes = .ok (projectFirst attributes node?)
  /-- From a number on, all matches are meant but as many at the front. -/
  openSlice : ∀ (n : Nat) attributes,
    value (.openSlice n) attributes = listed attributes (nodes.drop n)
  /-- Up to a greater number, the first of these are meant. -/
  slice : ∀ (n m : Nat) attributes, n < m →
    value (.bounded n m) attributes = listed attributes ((nodes.drop n).take (m - n))
  /-- Up to a smaller number, none are. -/
  slice_of_gt : ∀ (n m : Nat) attributes, m < n →
    value (.bounded n m) attributes = listed attributes []
  /-- A single number means the first of the matches from there on, if there is one. -/
  index : ∀ (n : Nat) attributes,
    value (.bounded n n) attributes = .ok (projectFirst attributes (nodes.drop n).head?)
  /-- There is no answer exactly if a single number counts beyond the front of the matches. -/
  error_iff : ∀ range attributes reason, value range attributes = .error reason ↔
    reason = .outOfRange ∧
      ∃ index, range = .bounded index index ∧ index < -(nodes.length : Int)
  /-- Whatever its sign, a start means the matches from its place on. -/
  openSlice_between : ∀ start attributes, value (.openSlice start) attributes =
    listed attributes (Range.between (Range.place start nodes.length) nodes.length nodes)
  /-- Whatever their signs, two bounds mean the matches between their places. -/
  slice_between : ∀ start stop attributes, start ≠ stop →
    value (.bounded start stop) attributes = listed attributes
      (Range.between (Range.place start nodes.length) (Range.place stop nodes.length) nodes)
  /-- A single negative number means the match at its place. -/
  index_of_neg : ∀ (index : Int) attributes, index < 0 → -(nodes.length : Int) ≤ index →
    ∃ node, nodes[(Range.place index nodes.length).toNat]? = some node ∧
      value (.bounded index index) attributes = .ok (project attributes node)

theorem selects_answer (node? : Option ν) (nodes : List ν) :
    Selects (ε := ε) node? nodes fun range attributes =>
      answer range attributes node? nodes where
  projects range attributes := projects_answer attributes node? nodes range
  nil := answer_nil node? nodes
  whole _ := rfl
  openSlice n attributes := by rw [answer_openSlice, Range.sliceFrom_natCast]
  slice n m attributes hlt := by rw [answer_slice _ _ _ (by omega), Range.slice_natCast]
  slice_of_gt n m attributes hlt := by
    rw [answer_slice _ _ _ (by omega), Range.slice_natCast, Nat.sub_eq_zero_of_le (by omega),
      List.take_zero]
  index n attributes := answer_index_of_ok _ _ _ (Range.element_natCast n nodes)
  error_iff _ attributes _ := answer_eq_error_iff attributes node? nodes
  openSlice_between start attributes := by rw [answer_openSlice, Range.sliceFrom_eq_between]
  slice_between start stop attributes hne := by
    rw [answer_slice _ _ _ hne, Range.slice_eq_between]
  index_of_neg index attributes hneg hfront := by
    obtain ⟨node, hget, helement⟩ := Range.element_of_neg hneg hfront
    exact ⟨node, hget, answer_index_of_ok _ _ _ helement⟩

/-- On a document that refuses nothing, a selection makes one query, and its answer is made of the
matches by its range and by its attributes, the one without regard to the other. -/
theorem values_of_selection {document : Document ν ε} (htotal : document.Total)
    (selector : String) (state : State ν) :
    ∃ node? nodes, document.first state.queries selector = .ok node? ∧
      document.all state.queries selector = .ok nodes ∧
      (∀ range attributes, (select document ⟨selector, range, attributes⟩ state).2 =
        state.perform (.query (query ⟨selector, range, attributes⟩))) ∧
      Selects node? nodes fun range attributes =>
        (select document ⟨selector, range, attributes⟩ state).1 := by
  obtain ⟨node?, hfirst⟩ := htotal.first_ok state.queries selector
  obtain ⟨nodes, hall⟩ := htotal.all_ok state.queries selector
  have hselect := select_eq_answer hfirst hall
  refine ⟨node?, nodes, hfirst, hall, fun range attributes => by rw [hselect], ?_⟩
  simp only [hselect]
  exact selects_answer node? nodes

/-- Two matches, of which negative numbers mean both, the first one, and none. -/
theorem values_of_selection_with_negative_range :
    let item (id : String) : Listing.Item := ⟨id, id, "", "", .empty⟩
    let document := (⟨⟨[("p", [item "a", item "b"])]⟩, []⟩ : Listing).document
    let value (range : Range) := (select document ⟨"p", range, some ["text"]⟩ .empty).1
    document.Total ∧
      value (.openSlice (-3)) = .ok (.list [.leaf (.text "a"), .leaf (.text "b")]) ∧
      value (.bounded (-2) (-2)) = .ok (.leaf (.text "a")) ∧
      value (.bounded (-3) (-3)) = .error .outOfRange ∧
      (select document ⟨"p", .bounded (-3) (-3), some ["text"]⟩ .empty).2.queries = [.all "p"] := by
  intro item document value
  have htotal : document.Total := ⟨fun _ _ => ⟨_, rfl⟩, fun _ _ => ⟨_, rfl⟩⟩
  obtain ⟨node?, nodes, -, hall, hquery, hselects⟩ := values_of_selection htotal "p" .empty
  obtain rfl : [item "a", item "b"] = nodes := Except.ok.inj hall
  refine ⟨htotal, hselects.openSlice_between (-3) _, ?_, ?_, ?_⟩
  · obtain ⟨node, hget, hvalue⟩ :=
      hselects.index_of_neg (-2) (some ["text"]) (by decide) (by decide)
    obtain rfl : item "a" = node := Option.some.inj hget
    exact hvalue
  · exact (hselects.error_iff _ _ _).2 ⟨rfl, _, rfl, by decide⟩
  · rw [hquery]
    rfl

end Extraction.Run
