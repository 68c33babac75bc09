import Extraction.Yaml.Meaning
import Mathlib.Data.List.Induction
import Mathlib.Data.List.Nodup

/-!
# Keys of mappings

A mapping has each of its keys once, however often the text gives the key a value: the entries of a
mapping are put into it one after the other, and one that comes later takes the place of an earlier
one with the same key. What a name stands for is such a value as well, so this holds behind names
too.

* `Yaml.Value.Distinct` says that no two entries of a value have the same key.
* `Yaml.Value.distinct_of_read` is this for the value of every text.
* `Yaml.Value.ReadsDistinct` are the readers of YAML for which this holds.
-/

namespace Extraction.Yaml

namespace Value

/-- No two entries of a mapping have the same key. Only the outermost mapping counts. -/
def Distinct : Value → Prop
  | .mapping entries => (entries.map Prod.fst).Nodup
  | _ => True

/-! ## Entries put into a mapping -/

/-- An entry that is put into a mapping adds its key unless it is there already. -/
theorem keys_put (entries : List (Scalar × Value)) (key : Scalar) (value : Value) :
    (put entries key value).map Prod.fst =
      if key ∈ entries.map Prod.fst then entries.map Prod.fst
      else entries.map Prod.fst ++ [key] := by
  induction entries with
  | nil => simp [put]
  | cons entry entries ih =>
    by_cases hsame : entry.1 = key
    · simp [put, hsame]
    · have hother : key ≠ entry.1 := Ne.symm hsame
      simp only [put, if_neg hsame, List.map_cons, ih, List.mem_cons, hother, false_or]
      split <;> simp

/-- A mapping has each key once if it had before an entry is put into it. -/
theorem nodup_put {entries : List (Scalar × Value)} (hdistinct : (entries.map Prod.fst).Nodup)
    (key : Scalar) (value : Value) : ((put entries key value).map Prod.fst).Nodup := by
  rw [keys_put]
  split
  case isTrue => exact hdistinct
  case isFalse hnew => simpa using hdistinct.concat hnew

/-- A mapping has each key once if all of its entries are put into it. -/
theorem nodup_putAll (entries : List (Scalar × Value)) :
    ((putAll entries).map Prod.fst).Nodup := by
  induction entries using List.reverseRecOn with
  | nil => exact List.nodup_nil
  | append_singleton entries entry ih =>
    rw [putAll, List.foldl_append]
    exact nodup_put ih entry.1 entry.2

end Value

namespace Meaning

/-! ## Values of contents -/

/-- What a content is as a scalar has no entries. -/
theorem distinct_scalarValue (content : Content) (kind : Kind) :
    (content.scalarValue kind).1.Distinct := by
  unfold Content.scalarValue
  split
  · trivial
  · split
    · trivial
    · split <;> trivial
  · split <;> trivial

/-- In every role a content has a value with distinct keys. -/
theorem distinct_value (content : Content) (role : Role) : (content.value role).1.Distinct := by
  unfold Content.value
  split
  case h_1 kind => exact distinct_scalarValue content kind
  case h_4 pairs => exact Value.nodup_putAll (entriesOf pairs).entries
  all_goals trivial

/-! ## Values behind names -/

/-- Every one of `names` that stands for something complete stands for a value with distinct keys.
-/
def Names.Distinct (names : Names) : Prop :=
  ∀ name meaning, (name, some meaning) ∈ names → meaning.value.Distinct

/-- What a name stands for has distinct keys, also within the node that bears the name. -/
theorem Names.Distinct.lookup {names : Names} (hknown : names.Distinct) {name : String}
    {meaning? : Option Meaning} (hfound : names.lookup name = some meaning?) :
    (meaning?.getD within).value.Distinct := by
  cases meaning? with
  -- Within the node that bears it, a name stands for a loop, which has no entries.
  | none => trivial
  | some meaning =>
    obtain ⟨former, later, hsame, -⟩ := List.lookup_eq_some_iff.1 hfound
    exact hknown name meaning (by simp [hsame])

/-- Names with distinct keys behind them stay so where a node begins. -/
theorem Names.Distinct.open {names opened : Names} (hknown : names.Distinct)
    {properties : Properties} (hfound : names.open? properties = some opened) :
    opened.Distinct := by
  unfold Names.open? at hfound
  split at hfound
  · cases hfound
    exact hknown
  · split at hfound
    · cases hfound
    · cases hfound
      intro name meaning hmem
      exact hknown name meaning (by simpa using hmem)

/-- Names with distinct keys behind them stay so where a node with such a value ends. -/
theorem Names.Distinct.close {names : Names} (hknown : names.Distinct) (properties : Properties)
    {meaning : Meaning} (hdistinct : meaning.value.Distinct) :
    (names.close properties meaning).Distinct := by
  unfold Names.close
  split
  · exact hknown
  · intro name other hmem
    rcases List.mem_cons.1 hmem with hsame | hmem
    · cases hsame
      exact hdistinct
    · exact hknown name other hmem

/-! ## Values of nodes -/

mutual

/-- The value of a node has distinct keys if all values behind names do, and so do then the values
behind the names that follow. -/
theorem distinct_ofNode (node : Node) {names names' : Names} {meaning : Meaning}
    (hknown : names.Distinct) (hfound : ofNode node names = some (meaning, names')) :
    meaning.value.Distinct ∧ names'.Distinct := by
  cases node with
  | reference name =>
    simp only [ofNode, Option.bind_eq_bind, Option.bind_eq_some_iff] at hfound
    obtain ⟨meaning?, hbehind, hsame⟩ := hfound
    cases hsame
    exact ⟨hknown.lookup hbehind, hknown⟩
  | scalar properties text plain =>
    simp only [ofNode, Option.bind_eq_bind, Option.bind_eq_some_iff] at hfound
    obtain ⟨opened, hbehind, hsame⟩ := hfound
    cases hsame
    have hdistinct := distinct_value (.scalar text) (scalarRole properties.tag text plain)
    exact ⟨hdistinct, (hknown.open hbehind).close properties hdistinct⟩
  | sequence properties items =>
    simp only [ofNode, Option.bind_eq_bind, Option.bind_eq_some_iff] at hfound
    obtain ⟨opened, hbehind, ⟨items', names''⟩, hitems, hsame⟩ := hfound
    cases hsame
    have hdistinct := distinct_value (.sequence items') (properties.tag.role .sequence)
    have hknown := distinct_ofItems items (hknown.open hbehind) hitems
    exact ⟨hdistinct, hknown.close properties hdistinct⟩
  | mapping properties entries =>
    simp only [ofNode, Option.bind_eq_bind, Option.bind_eq_some_iff] at hfound
    obtain ⟨opened, hbehind, ⟨pairs, names''⟩, hpairs, hsame⟩ := hfound
    cases hsame
    have hdistinct := distinct_value (.mapping pairs) (properties.tag.role .mapping)
    -- The node has its name while its entries are read, as they may refer to it.
    have hknown := distinct_ofPairs entries (hknown.open hbehind) hpairs
    exact ⟨hdistinct, hknown.close properties hdistinct⟩

/-- Values behind names have distinct keys behind some nodes if they do in front of them. -/
theorem distinct_ofItems (items : List Node) {names names' : Names} {meanings : List Meaning}
    (hknown : names.Distinct) (hfound : ofItems items names = some (meanings, names')) :
    names'.Distinct := by
  cases items with
  | nil =>
    cases hfound
    exact hknown
  | cons item items =>
    simp only [ofItems, Option.bind_eq_bind, Option.bind_eq_some_iff] at hfound
    obtain ⟨⟨first, behind⟩, hfirst, ⟨others, last⟩, hothers, hsame⟩ := hfound
    cases hsame
    exact distinct_ofItems items (distinct_ofNode item hknown hfirst).2 hothers

/-- Values behind names have distinct keys behind some entries if they do in front of them. -/
theorem distinct_ofPairs (pairs : List (Node × Node)) {names names' : Names}
    {meanings : List (Meaning × Meaning)}
    (hknown : names.Distinct) (hfound : ofPairs pairs names = some (meanings, names')) :
    names'.Distinct := by
  match pairs with
  | [] =>
    cases hfound
    exact hknown
  | (key, value) :: pairs =>
    simp only [ofPairs, Option.bind_eq_bind, Option.bind_eq_some_iff] at hfound
    obtain ⟨⟨first, behind⟩, hfirst, ⟨second, later⟩, hsecond, ⟨others, last⟩, hothers, hsame⟩ :=
      hfound
    cases hsame
    have hknown := (distinct_ofNode key hknown hfirst).2
    exact distinct_ofPairs pairs (distinct_ofNode value hknown hsecond).2 hothers

end

end Meaning

/-- The value that a text denotes has each key once. -/
theorem Value.distinct_of_read {text : String} {value : Value} (hread : read text = .ok value) :
    value.Distinct := by
  unfold Value.read at hread
  split at hread
  case h_2 => cases hread
  case h_1 node _ =>
    unfold Value.ofNode at hread
    split at hread
    case h_1 => cases hread
    case h_2 meaning names hfound =>
      split at hread
      case h_1 => cases hread
      case h_2 =>
        cases hread
        have hnil : Meaning.Names.Distinct [] := fun _ _ hmem => by cases hmem
        exact (Meaning.distinct_ofNode node hnil hfound).1

/-- No mapping that `read` finds in a text has a key twice. -/
def Value.ReadsDistinct (read : String → Except Fault Value) : Prop :=
  ∀ text value, read text = .ok value → value.Distinct

theorem Value.readsDistinct_read : ReadsDistinct read := fun _ _ => distinct_of_read

end Extraction.Yaml
