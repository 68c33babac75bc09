import Extraction.Bindings

/-!
# Names of bindings, and bindings with other values

What binding a name does to the list of the bound names, and to the bindings that a function makes
of all values.

* `Bindings.names_set_of_some` and `Bindings.names_set_of_none` are the names after one was bound.
  `Bindings.names_prefix_set` says that they keep their places, and `Bindings.nodup_names_set` that
  none is bound twice. `Bindings.names_set_eq` does not look at values.
* `Bindings.get?_setAll` are the values after some were given to names one by one.
  `Bindings.get?_setAll_comm` gives them in another order, and `Bindings.names_setAll_eq_eraseDups`
  are the names in the order in which they were first bound.
* `Bindings.map` replaces the values, and leaves the names in their order.
-/

namespace Extraction.Bindings

variable {α β : Type} {bindings : Bindings α} {name : String}

/-- The names without a value are those that are not bound. -/
theorem get?_eq_none_iff : bindings.get? name = none ↔ name ∉ bindings.names := by
  obtain ⟨entries⟩ := bindings
  simp only [get?, names]
  induction entries with
  | nil => simp
  | cons entry entries ih =>
    obtain ⟨other, b⟩ := entry
    by_cases hname : name = other
    · simp [hname]
    · have hb : (name == other) = false := by simpa using hname
      simp [List.lookup_cons, hb, hname, ih]

/-- A name that is bound already keeps its place among the names. -/
theorem names_set_of_some {b : α} (h : bindings.get? name = some b) (a : α) :
    (bindings.set name a).names = bindings.names := by
  obtain ⟨entries⟩ := bindings
  simp only [get?, names, set] at h ⊢
  induction entries with
  | nil => simp at h
  | cons entry entries ih =>
    obtain ⟨other, b'⟩ := entry
    by_cases hname : name == other
    · simp [put, hname]
    · simp only [List.lookup_cons, hname] at h
      simp [put, hname, ih h]

/-- A name that is not bound takes its place behind the others. -/
theorem names_set_of_none (h : bindings.get? name = none) (a : α) :
    (bindings.set name a).names = bindings.names ++ [name] := by
  obtain ⟨entries⟩ := bindings
  simp only [get?, names, set] at h ⊢
  induction entries with
  | nil => simp [put]
  | cons entry entries ih =>
    obtain ⟨other, b⟩ := entry
    by_cases hname : name == other
    · simp [List.lookup_cons, hname] at h
    · simp only [List.lookup_cons, hname] at h
      simp [put, hname, ih h]

/-- `bindings` has a value for `name` iff `name` is among its names. -/
theorem isSome_get?_iff : (bindings.get? name).isSome ↔ name ∈ bindings.names := by
  rw [Option.isSome_iff_ne_none, Ne, get?_eq_none_iff, Decidable.not_not]

/-- `size` depends on the names alone, whatever their values are. -/
theorem size_eq_of_names_eq {bindings' : Bindings β} (h : bindings.names = bindings'.names) :
    bindings.size = bindings'.size := by
  simpa [names, size] using congrArg List.length h

/-- To bind a name that `bindings` lacks makes it one longer. -/
theorem size_set_of_none (h : bindings.get? name = none) (a : α) :
    (bindings.set name a).size = bindings.size + 1 := by
  simpa [names, size] using congrArg List.length (names_set_of_none h a)

/-- The names that are bound keep their places. -/
theorem names_prefix_set (bindings : Bindings α) (name : String) (a : α) :
    bindings.names <+: (bindings.set name a).names := by
  match h : bindings.get? name with
  | some b => simp only [names_set_of_some h, List.prefix_refl]
  | none =>
    rw [names_set_of_none h]
    exact List.prefix_append ..

/-- No name is bound twice. -/
theorem nodup_names_set (h : bindings.names.Nodup) (name : String) (a : α) :
    (bindings.set name a).names.Nodup := by
  match hname : bindings.get? name with
  | some b => rwa [names_set_of_some hname]
  | none =>
    rw [names_set_of_none hname]
    have hnot := get?_eq_none_iff.1 hname
    refine List.nodup_append.2 ⟨h, by simp, fun other hmem last hlast => ?_⟩
    rintro rfl
    exact hnot (List.mem_singleton.1 hlast ▸ hmem)

/-- To bind the same name makes the same names of the same ones. -/
theorem names_set_eq {bindings' : Bindings β} (h : bindings.names = bindings'.names) (name : String)
    (a : α) (b : β) : (bindings.set name a).names = (bindings'.set name b).names := by
  match hname : bindings.get? name with
  | none =>
    have hname' : bindings'.get? name = none := by
      rw [get?_eq_none_iff, ← h]
      exact get?_eq_none_iff.1 hname
    rw [names_set_of_none hname, names_set_of_none hname', h]
  | some old =>
    match hname' : bindings'.get? name with
    | none =>
      rw [get?_eq_none_iff, ← h] at hname'
      exact absurd (mem_names_of_get? hname) hname'
    | some old' => rw [names_set_of_some hname, names_set_of_some hname', h]

/-- To bind the names of `pairs` one by one leaves no name twice. -/
theorem nodup_names_setAll (h : bindings.names.Nodup) (pairs : List (String × α)) :
    (bindings.setAll pairs).names.Nodup := by
  induction pairs generalizing bindings with
  | nil => exact h
  | cons pair pairs ih => exact ih (nodup_names_set h pair.1 pair.2)

/-- The names after `setAll` depend on the names of `bindings` and of `pairs` alone. -/
theorem names_setAll_eq {bindings' : Bindings β} {pairs : List (String × α)}
    {pairs' : List (String × β)} (h : bindings.names = bindings'.names)
    (hpairs : pairs.map Prod.fst = pairs'.map Prod.fst) :
    (bindings.setAll pairs).names = (bindings'.setAll pairs').names := by
  induction pairs generalizing bindings bindings' pairs' with
  | nil =>
    obtain rfl := List.map_eq_nil_iff.1 hpairs.symm
    exact h
  | cons pair pairs ih =>
    obtain ⟨pair', pairs', rfl, hname, hrest⟩ := List.map_eq_cons_iff.1 hpairs.symm
    have hset : (bindings.set pair.1 pair.2).names = (bindings'.set pair'.1 pair'.2).names := by
      rw [hname]
      exact names_set_eq h ..
    have hall := ih hset hrest.symm
    exact hall

/-! ## Many values -/

theorem setAll_cons (bindings : Bindings α) (pair : String × α) (pairs : List (String × α)) :
    bindings.setAll (pair :: pairs) = (bindings.set pair.1 pair.2).setAll pairs := rfl

theorem setAll_append (bindings : Bindings α) (pairs pairs' : List (String × α)) :
    bindings.setAll (pairs ++ pairs') = (bindings.setAll pairs).setAll pairs' :=
  List.foldl_append

/-- A name has the last one of the values that it was given, or else the one that it had. -/
theorem get?_setAll (bindings : Bindings α) (pairs : List (String × α)) (name : String) :
    (bindings.setAll pairs).get? name = (pairs.reverse.lookup name).or (bindings.get? name) := by
  induction pairs generalizing bindings with
  | nil => rfl
  | cons pair pairs ih =>
    obtain ⟨other, a⟩ := pair
    rw [setAll_cons, ih, List.reverse_cons, List.lookup_append, Option.or_assoc]
    congr 1
    by_cases hname : name = other
    · simp [hname]
    · have hb : (name == other) = false := by simpa using hname
      simp [get?_set_of_ne _ _ hname, List.lookup_cons, hb]

/-- Values that are given to other names leave the value of a name. -/
theorem get?_setAll_of_not_mem {pairs : List (String × α)} (h : name ∉ pairs.map Prod.fst)
    (bindings : Bindings α) : (bindings.setAll pairs).get? name = bindings.get? name := by
  have hnone : pairs.reverse.lookup name = none := by
    refine List.lookup_eq_none_iff.2 fun pair hmem => bne_iff_ne.2 ?_
    rintro rfl
    exact h (List.mem_map_of_mem (List.mem_reverse.1 hmem))
  rw [get?_setAll, hnone, Option.none_or]

/-- Where names have the same values before, they have the same ones after the same were given. -/
theorem get?_setAll_congr {bindings bindings' : Bindings α} (h : bindings.get? = bindings'.get?)
    (pairs : List (String × α)) :
    (bindings.setAll pairs).get? = (bindings'.setAll pairs).get? := by
  funext name
  rw [get?_setAll, get?_setAll, h]

/-- Values can be given to different names in either order. -/
theorem get?_setAll_comm (bindings : Bindings α) {pairs pairs' : List (String × α)}
    (h : ∀ name ∈ pairs.map Prod.fst, name ∉ pairs'.map Prod.fst) :
    ((bindings.setAll pairs).setAll pairs').get? =
      ((bindings.setAll pairs').setAll pairs).get? := by
  funext name
  by_cases hname : name ∈ pairs.map Prod.fst
  · have hother := h name hname
    rw [get?_setAll_of_not_mem hother, get?_setAll bindings, get?_setAll,
      get?_setAll_of_not_mem hother]
  · rw [get?_setAll_of_not_mem hname (bindings.setAll pairs'), get?_setAll,
      get?_setAll_of_not_mem hname, ← get?_setAll]

/-- A name that is bound takes its place behind the names that were bound before it. -/
theorem names_set_eq_eraseDups {past : List String} (h : bindings.names = past.eraseDups)
    (name : String) (a : α) : (bindings.set name a).names = (past ++ [name]).eraseDups := by
  have hmem : name ∈ bindings.names ↔ name ∈ past := by rw [h, List.mem_eraseDups]
  rw [List.eraseDups_append, ← h]
  match hname : bindings.get? name with
  | some b =>
    have hpast : name ∈ past := hmem.1 (mem_names_of_get? hname)
    rw [names_set_of_some hname]
    simp [List.removeAll, hpast]
  | none =>
    have hpast : name ∉ past := fun hpast => get?_eq_none_iff.1 hname (hmem.2 hpast)
    rw [names_set_of_none hname]
    simp [List.removeAll, hpast, List.eraseDups_cons]

/-- If the names of `bindings` are those of `past` in the order of their first occurrences, the
names after `setAll` are those of `past` followed by those of `pairs`, in the same order. -/
theorem names_setAll_eq_eraseDups {past : List String} (h : bindings.names = past.eraseDups)
    (pairs : List (String × α)) :
    (bindings.setAll pairs).names = (past ++ pairs.map Prod.fst).eraseDups := by
  induction pairs generalizing bindings past with
  | nil => simpa [setAll] using h
  | cons pair pairs ih =>
    rw [setAll_cons, ih (names_set_eq_eraseDups h pair.1 pair.2), List.append_assoc]
    rfl

/-! ## Other values -/

/-- `bindings` with `f a` in place of every value `a`. -/
def map (f : α → β) (bindings : Bindings α) : Bindings β :=
  ⟨bindings.entries.map fun entry => (entry.1, f entry.2)⟩

variable (f : α → β)

/-- `f` is applied to the value of `name`, and to nothing where there is none. -/
@[simp]
theorem get?_map (bindings : Bindings α) (name : String) :
    (bindings.map f).get? name = (bindings.get? name).map f := by
  obtain ⟨entries⟩ := bindings
  simp only [map, get?]
  induction entries with
  | nil => rfl
  | cons entry entries ih =>
    obtain ⟨other, a⟩ := entry
    by_cases hname : name == other <;> simp [List.lookup_cons, hname, ih]

/-- To bind `name` and to apply `f` to the values come to the same in either order, with `f a` as
the new value. -/
@[simp]
theorem map_set (bindings : Bindings α) (name : String) (a : α) :
    (bindings.set name a).map f = (bindings.map f).set name (f a) := by
  obtain ⟨entries⟩ := bindings
  simp only [map, set, Bindings.mk.injEq]
  induction entries with
  | nil => rfl
  | cons entry entries ih =>
    obtain ⟨other, b⟩ := entry
    by_cases hname : name == other <;> simp [put, hname, ih]

end Extraction.Bindings
