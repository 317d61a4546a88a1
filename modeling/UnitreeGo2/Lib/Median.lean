import Mathlib.Algebra.Order.Field.Basic
import Mathlib.Data.List.GetD
import Mathlib.Data.List.Sort
import Mathlib.Order.Interval.Set.Defs
import Mathlib.Tactic.Lemma
import Mathlib.Tactic.Linarith

/-!
# Medians

The median of a list is the value in the middle of the sorted list, or the mean of the two values
there.  It depends on the values only, not on their order, and it lies in every interval that
holds more than half of them.
-/

namespace Median

variable {α : Type*} [LinearOrder α]

/-! ## Counting in a sorted list -/

section Counting

variable {ordered : List α} {p : α → Bool} {i : ℕ}

/-- A value below the bound leaves room for the values behind it only. -/
lemma countP_le_of_getElem_lt (hordered : ordered.SortedLE) (hi : i < ordered.length)
    (hp : ∀ x, p x = true → ordered[i] < x) : ordered.countP p ≤ ordered.length - (i + 1) := by
  have hfront : (ordered.take (i + 1)).countP p = 0 := by
    rw [List.countP_eq_zero]
    intro x hx hpx
    obtain ⟨j, hj, rfl⟩ := List.mem_take_iff_getElem.mp hx
    have hle : ordered[j] ≤ ordered[i] := hordered.getElem_le_getElem_of_le (by omega)
    exact absurd (hp _ hpx) (not_lt.mpr hle)
  have hback : (ordered.drop (i + 1)).countP p ≤ ordered.length - (i + 1) := by
    rw [← List.length_drop]
    exact List.countP_le_length
  calc ordered.countP p
      = (ordered.take (i + 1)).countP p + (ordered.drop (i + 1)).countP p := by
        rw [← List.countP_append, List.take_append_drop]
    _ ≤ ordered.length - (i + 1) := by omega

/-- A value above the bound leaves room for the values before it only. -/
lemma countP_le_of_lt_getElem (hordered : ordered.SortedLE) (hi : i < ordered.length)
    (hp : ∀ x, p x = true → x < ordered[i]) : ordered.countP p ≤ i := by
  have hback : (ordered.drop i).countP p = 0 := by
    rw [List.countP_eq_zero]
    intro x hx hpx
    obtain ⟨j, hj, rfl⟩ := List.mem_drop_iff_getElem.mp hx
    have hle : ordered[i] ≤ ordered[i + j] := hordered.getElem_le_getElem_of_le (by omega)
    exact absurd (hp _ hpx) (not_lt.mpr hle)
  have hfront : (ordered.take i).countP p ≤ i :=
    List.countP_le_length.trans (by rw [List.length_take]; omega)
  calc ordered.countP p
      = (ordered.take i).countP p + (ordered.drop i).countP p := by
        rw [← List.countP_append, List.take_append_drop]
    _ ≤ i := by omega

/-- What every value of a majority is, a value in the middle is. -/
lemma getElem_mem_Icc {lo hi : α} (hordered : ordered.SortedLE)
    (hi' : i < ordered.length)
    (hbelow : ordered.length - (i + 1) < ordered.countP fun x => lo ≤ x ∧ x ≤ hi)
    (habove : i < ordered.countP fun x => lo ≤ x ∧ x ≤ hi) : ordered[i] ∈ Set.Icc lo hi := by
  constructor
  · by_contra hlt
    have hcount := countP_le_of_getElem_lt (p := fun x => lo ≤ x ∧ x ≤ hi) hordered hi' ?_
    · omega
    · intro x hx
      exact (not_le.mp hlt).trans_le (of_decide_eq_true hx).1
  · by_contra hlt
    have hcount := countP_le_of_lt_getElem (p := fun x => lo ≤ x ∧ x ≤ hi) hordered hi' ?_
    · omega
    · intro x hx
      exact (of_decide_eq_true hx).2.trans_lt (not_le.mp hlt)

end Counting

/-! ## The median -/

section Value

variable [Field α]

/-- The median of values that are not empty; the operations on the two middle values are
rounded. -/
def median (round : α → α) (values : List α) : α :=
  let ordered := values.insertionSort (· ≤ ·)
  let middle := ordered.length / 2
  if ordered.length % 2 = 1 then ordered.getD middle 0
  else round (round (ordered.getD (middle - 1) 0 + ordered.getD middle 0) / 2)

/-- The order of the values does not matter. -/
lemma median_perm (round : α → α) {values values' : List α} (h : values.Perm values') :
    median round values = median round values' := by
  have hsort : values.insertionSort (· ≤ ·) = values'.insertionSort (· ≤ ·) := by
    refine List.Perm.eq_of_pairwise' (r := (· ≤ ·)) ?_ ?_ ?_
    · exact List.pairwise_insertionSort _ _
    · exact List.pairwise_insertionSort _ _
    · exact (List.perm_insertionSort _ _).trans (h.trans (List.perm_insertionSort _ _).symm)
  rw [median, median, hsort]

/-! ## The interval of the majority -/

variable [IsStrictOrderedRing α] {values : List α} {lo hi : α}

/-- **The median lies in every interval that holds more than half of the values.** -/
theorem median_mem_Icc
    (hmajority : values.length < 2 * values.countP fun x => lo ≤ x ∧ x ≤ hi) :
    median id values ∈ Set.Icc lo hi := by
  have hperm := List.perm_insertionSort (· ≤ ·) values
  have hordered : (values.insertionSort (· ≤ ·)).SortedLE := List.sortedLE_insertionSort
  rw [← hperm.countP_eq, ← hperm.length_eq] at hmajority
  rw [median]
  generalize values.insertionSort (· ≤ ·) = ordered at hmajority hordered
  have hcount : ordered.countP (fun x => lo ≤ x ∧ x ≤ hi) ≤ ordered.length :=
    List.countP_le_length
  split_ifs with hodd
  · rw [List.getD_eq_getElem _ _ (by omega : ordered.length / 2 < ordered.length)]
    exact getElem_mem_Icc hordered _ (by omega) (by omega)
  · have hleft : ordered.length / 2 - 1 < ordered.length := by omega
    have hright : ordered.length / 2 < ordered.length := by omega
    rw [List.getD_eq_getElem _ _ hleft, List.getD_eq_getElem _ _ hright]
    obtain ⟨hleft₁, hleft₂⟩ : ordered[ordered.length / 2 - 1] ∈ Set.Icc lo hi :=
      getElem_mem_Icc hordered hleft (by omega) (by omega)
    obtain ⟨hright₁, hright₂⟩ : ordered[ordered.length / 2] ∈ Set.Icc lo hi :=
      getElem_mem_Icc hordered hright (by omega) (by omega)
    -- the mean of two values of the interval
    constructor
    · rw [id, id, le_div_iff₀ two_pos]
      linarith
    · rw [id, id, div_le_iff₀ two_pos]
      linarith

end Value

end Median
