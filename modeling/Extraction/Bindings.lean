/-!
# Bindings

Names with a value each, in the order in which the names were first bound.

* `Bindings.set` binds a name; one that is bound already keeps its place.
* `Bindings.get?` is the value of a name.
-/

namespace Extraction

/-- Names with a value each, in the order in which they were first bound. -/
structure Bindings (α : Type) where
  /-- The names and their values. -/
  entries : List (String × α)

namespace Bindings

variable {α : Type}

/-- No bindings. -/
def empty : Bindings α := ⟨[]⟩

instance : Inhabited (Bindings α) := ⟨empty⟩

/-- The bound names, in order. -/
def names (bindings : Bindings α) : List String := bindings.entries.map Prod.fst

/-- The number of bound names. -/
def size (bindings : Bindings α) : Nat := bindings.entries.length

/-- The value of a name. -/
def get? (bindings : Bindings α) (name : String) : Option α := bindings.entries.lookup name

/-- A list of bindings in which a name is given a value: in its place, or else at the end. -/
def put (name : String) (a : α) : List (String × α) → List (String × α)
  | [] => [(name, a)]
  | (other, b) :: rest =>
    if name == other then (other, a) :: rest else (other, b) :: put name a rest

/-- Binds a name. A name that is bound already keeps its place. -/
def set (bindings : Bindings α) (name : String) (a : α) : Bindings α :=
  ⟨put name a bindings.entries⟩

/-- The bindings in which every value of a list is given to the name beside it, one by one. -/
def setAll (bindings : Bindings α) (pairs : List (String × α)) : Bindings α :=
  pairs.foldl (fun bindings pair => bindings.set pair.1 pair.2) bindings

@[simp]
theorem get?_empty (name : String) : (empty : Bindings α).get? name = none := rfl

/-- A name has the value that it was given last. -/
@[simp]
theorem get?_set_self (bindings : Bindings α) (name : String) (a : α) :
    (bindings.set name a).get? name = some a := by
  obtain ⟨entries⟩ := bindings
  simp only [get?, set]
  induction entries with
  | nil => simp [put]
  | cons entry entries ih =>
    obtain ⟨other, b⟩ := entry
    by_cases h : name == other <;> simp [put, List.lookup_cons, h, ih]

/-- To bind a name leaves the value of every other one. -/
theorem get?_set_of_ne (bindings : Bindings α) {name other : String} (a : α) (h : other ≠ name) :
    (bindings.set name a).get? other = bindings.get? other := by
  obtain ⟨entries⟩ := bindings
  have hb : (other == name) = false := by simpa using h
  simp only [get?, set]
  induction entries with
  | nil => simp [put, List.lookup_cons, hb]
  | cons entry entries ih =>
    obtain ⟨first, b⟩ := entry
    by_cases hn : name == first
    · have hf : (other == first) = false := eq_of_beq hn ▸ hb
      simp [put, List.lookup_cons, hn, hf]
    · by_cases ho : other == first <;> simp [put, List.lookup_cons, hn, ho, ih]

/-- What is bound after a name was: that name, and what was bound before. -/
theorem get?_set_eq_some_iff {bindings : Bindings α} {name other : String} {a b : α} :
    (bindings.set name a).get? other = some b ↔
      (other = name ∧ b = a) ∨ (other ≠ name ∧ bindings.get? other = some b) := by
  by_cases h : other = name
  · subst h
    simp [eq_comm]
  · simp [get?_set_of_ne _ _ h, h]

theorem get?_set_eq_none_iff {bindings : Bindings α} {name other : String} {a : α} :
    (bindings.set name a).get? other = none ↔ other ≠ name ∧ bindings.get? other = none := by
  by_cases h : other = name
  · subst h
    simp
  · simp [get?_set_of_ne _ _ h, h]

/-- A name that has a value is among the bound names. -/
theorem mem_names_of_get? {bindings : Bindings α} {name : String} {a : α}
    (h : bindings.get? name = some a) : name ∈ bindings.names := by
  obtain ⟨entries⟩ := bindings
  simp only [get?, names] at h ⊢
  induction entries with
  | nil => simp at h
  | cons entry entries ih =>
    obtain ⟨other, b⟩ := entry
    by_cases hn : name = other
    · simp [hn]
    · have hb : (name == other) = false := by simpa using hn
      simp only [List.lookup_cons, hb] at h
      exact List.mem_cons_of_mem _ (ih h)

/-- The sum of a weight over the values of a list of bindings. -/
def total (weight : α → Nat) : List (String × α) → Nat
  | [] => 0
  | entry :: entries => weight entry.2 + total weight entries

/-- The sum of a weight after a name was bound: the weight of the new value takes the place of that
of the old one. -/
theorem total_put (weight : α → Nat) (name : String) (a : α) (entries : List (String × α)) :
    total weight (put name a entries) + ((entries.lookup name).elim 0 weight) =
      total weight entries + weight a := by
  induction entries with
  | nil => simp [put, total]
  | cons entry entries ih =>
    obtain ⟨other, b⟩ := entry
    by_cases h : name == other
    · simp [put, total, List.lookup_cons, h]
      omega
    · simp [put, total, List.lookup_cons, h]
      omega

end Bindings

end Extraction
