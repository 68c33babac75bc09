import Extraction.Value
import Mathlib.Data.List.Basic

/-!
# Ranges of lists

Which elements of a list a range means, told by their places.

* `Range.place` is the place that a bound stands for, and `Range.between` are the elements from one
  place up to another; `Range.sliceFrom_eq_between` and `Range.slice_eq_between` say that slices are
  these.
* `Range.sliceFrom_natCast`, `Range.slice_natCast` and `Range.element_natCast` are the ranges that
  count from the front, and `Range.element_eq_error_iff` tells which ones are refused.
-/

namespace Extraction.Range

variable {α : Type}

/-! ## Places -/

/-- The place that `bound` stands for in a list of the given `length`: a negative one counts from
the end, and may stand for a place in front of the list. -/
def place (bound : Int) (length : Nat) : Int := if bound < 0 then bound + length else bound

/-- The elements of `as` at the places from `first` up to but not including `last`, in order. -/
def between (first last : Int) (as : List α) : List α :=
  (as.zipIdx.filter fun (_, k) => first ≤ k && k < last).map Prod.fst

/-- The elements between two places, where the places are counted from a number on. -/
theorem map_filter_zipIdx (first last : Int) (as : List α) (start : Nat) :
    ((as.zipIdx start).filter fun (_, k) => first ≤ k && k < last).map Prod.fst =
      (as.take (last - start).toNat).drop (first - start).toNat := by
  induction as generalizing start with
  | nil => simp
  | cons a as ih =>
    have hlater := ih (start + 1)
    rw [List.zipIdx_cons]
    by_cases hlast : (start : Int) < last
    · have htake : (last - start).toNat = (last - (start + 1 : Nat)).toNat + 1 := by omega
      rw [htake, List.take_succ_cons]
      by_cases hfirst : first ≤ start
      · have hdrop : (first - start).toNat = 0 := by omega
        have hdrop' : (first - (start + 1 : Nat)).toNat = 0 := by omega
        rw [hdrop'] at hlater
        rw [List.filter_cons_of_pos (by simp [hfirst, hlast]), List.map_cons, hlater, hdrop]
        rfl
      · have hdrop : (first - start).toNat = (first - (start + 1 : Nat)).toNat + 1 := by omega
        rw [List.filter_cons_of_neg (by simp [hfirst]), hlater, hdrop, List.drop_succ_cons]
    -- Behind the last place there is nothing more.
    · have htake : (last - start).toNat = 0 := by omega
      have htake' : (last - (start + 1 : Nat)).toNat = 0 := by omega
      rw [htake', List.take_zero, List.drop_nil] at hlater
      rw [List.filter_cons_of_neg (by simp [hlast]), hlater, htake, List.take_zero, List.drop_nil]

/-- The elements between two numbers are those that are left of the first `last` ones without the
first `first` ones; a negative number counts as none. -/
theorem between_eq (first last : Int) (as : List α) :
    between first last as = (as.take last.toNat).drop first.toNat := by
  have hplaces := map_filter_zipIdx first last as 0
  rwa [Int.natCast_zero, Int.sub_zero, Int.sub_zero] at hplaces

/-! ## Slices -/

/-- A bound that stands for a place behind the list means its end, and one that stands for a place
in front of the list means its start. -/
theorem clamp_eq (bound : Int) (length : Nat) :
    clamp bound length = min (place bound length).toNat length := by
  unfold clamp place
  split <;> omega

/-- To drop more elements than there are is to drop all. -/
theorem drop_min {count bound : Nat} {as : List α} (h : as.length ≤ bound) :
    as.drop (min count bound) = as.drop count := by
  rcases Nat.le_total count bound with hle | hle
  · rw [Nat.min_eq_left hle]
  · rw [Nat.min_eq_right hle, List.drop_eq_nil_of_le h, List.drop_eq_nil_of_le (Nat.le_trans h hle)]

/-- A slice with an end are the elements between the places of its bounds. -/
theorem slice_eq_between (start stop : Int) (as : List α) :
    slice start stop as = between (place start as.length) (place stop as.length) as := by
  rw [slice, between_eq, clamp_eq, clamp_eq, ← List.take_eq_take_min, drop_min]
  exact List.length_take_le' _ _

/-- A slice without an end are the elements from the place of its start on. -/
theorem sliceFrom_eq_between (start : Int) (as : List α) :
    sliceFrom start as = between (place start as.length) as.length as := by
  rw [sliceFrom, between_eq, clamp_eq, Int.toNat_natCast, List.take_length,
    drop_min (Nat.le_refl _)]

/-- A slice that counts from the front and has no end leaves out as many elements as its start
says. -/
theorem sliceFrom_natCast (start : Nat) (as : List α) : sliceFrom start as = as.drop start := by
  rw [sliceFrom_eq_between, between_eq, Int.toNat_natCast, List.take_length, place,
    if_neg (by omega), Int.toNat_natCast]

/-- A slice that counts from the front and has an end are the first elements of the one without. -/
theorem slice_natCast (start stop : Nat) (as : List α) :
    slice start stop as = (as.drop start).take (stop - start) := by
  rw [slice_eq_between, between_eq, place, place, if_neg (by omega), if_neg (by omega),
    Int.toNat_natCast, Int.toNat_natCast, List.drop_take]

/-! ## Single elements -/

/-- A number that counts from the front means the first element of the slice from there on, if there
is one. -/
theorem element_natCast (index : Nat) (as : List α) :
    element index as = .ok (as.drop index).head? := by
  rw [element, List.head?_drop]
  split
  · rw [if_pos (by omega), Int.toNat_natCast]
  · rw [List.getElem?_eq_none (by omega)]

/-- A number is refused exactly if it counts beyond the front of the list. -/
theorem element_eq_error_iff {index : Int} {as : List α} {reason : OutOfRange} :
    element index as = .error reason ↔ index < -(as.length : Int) := by
  unfold element
  split_ifs with hlast hfront hback
  · simp only [false_iff]
    omega
  · simp only [false_iff]
    omega
  · simp only [true_iff]
    omega
  · simp only [false_iff]
    omega

/-- A negative number within the list means the element at its place. -/
theorem element_of_neg {index : Int} {as : List α} (hneg : index < 0)
    (hfront : -(as.length : Int) ≤ index) :
    ∃ a, as[(place index as.length).toNat]? = some a ∧ element index as = .ok (some a) := by
  have hplace : place index as.length = index + as.length := if_pos hneg
  have hlt : (place index as.length).toNat < as.length := by omega
  have hget := List.getElem?_eq_getElem hlt
  refine ⟨_, hget, ?_⟩
  rw [element, if_pos (by omega), if_neg (by omega), if_pos (by omega), ← hplace, hget]

end Extraction.Range
