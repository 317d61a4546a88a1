import Mathlib.Algebra.Order.Field.Basic
import Mathlib.Algebra.Order.Group.MinMax
import Mathlib.Tactic.Linarith

/-!
# Dead zones and saturation

Two shapes of a control law, over any linearly ordered field: a dead zone takes away the width of
a band around zero, and a saturation keeps a value between two bounds.  Both are monotone and do
not enlarge distances.
-/

variable {K : Type*} [Field K] [LinearOrder K] [IsStrictOrderedRing K]

/-! ## Saturation -/

/-- The value, kept between two bounds. -/
def saturate (lo hi x : K) : K := max lo (min hi x)

section Saturate

variable {lo hi x y : K}

omit [Field K] [IsStrictOrderedRing K] in
lemma le_saturate : lo ≤ saturate lo hi x := le_max_left _ _

omit [Field K] [IsStrictOrderedRing K] in
lemma saturate_le (h : lo ≤ hi) : saturate lo hi x ≤ hi := max_le h (min_le_left _ _)

omit [Field K] [IsStrictOrderedRing K] in
lemma saturate_mono (h : x ≤ y) : saturate lo hi x ≤ saturate lo hi y :=
  max_le_max le_rfl (min_le_min le_rfl h)

omit [Field K] [IsStrictOrderedRing K] in
/-- A value between the bounds stays. -/
lemma saturate_of_mem (hlo : lo ≤ x) (hhi : x ≤ hi) : saturate lo hi x = x := by
  rw [saturate, min_eq_right hhi, max_eq_right hlo]

omit [IsStrictOrderedRing K] in
lemma saturate_nonneg (hhi : 0 ≤ hi) (hx : 0 ≤ x) : 0 ≤ saturate lo hi x :=
  le_max_of_le_right (le_min hhi hx)

omit [IsStrictOrderedRing K] in
lemma saturate_nonpos (hlo : lo ≤ 0) (hx : x ≤ 0) : saturate lo hi x ≤ 0 :=
  max_le hlo ((min_le_right _ _).trans hx)

/-- Saturation does not enlarge distances. -/
lemma abs_saturate_sub_le (lo hi x y : K) : |saturate lo hi x - saturate lo hi y| ≤ |x - y| := by
  have hmin : |min hi x - min hi y| ≤ |x - y| := by
    have h := abs_min_sub_min_le_max hi x hi y
    rwa [sub_self, abs_zero, max_eq_right (abs_nonneg _)] at h
  unfold saturate
  rw [max_comm lo, max_comm lo]
  exact (abs_max_sub_max_le_abs _ _ _).trans hmin

end Saturate

/-! ## Dead zones -/

/-- The part of a value that lies outside the band of the given width around zero. -/
def deadZone (width x : K) : K := x - saturate (-width) width x

section DeadZone

variable {width x y : K}

omit [IsStrictOrderedRing K] in
lemma deadZone_eq_zero (hlo : -width ≤ x) (hhi : x ≤ width) : deadZone width x = 0 := by
  rw [deadZone, saturate_of_mem hlo hhi, sub_self]

lemma deadZone_above (hw : 0 ≤ width) (h : width ≤ x) : deadZone width x = x - width := by
  rw [deadZone, saturate, min_eq_left h, max_eq_right (by linarith)]

lemma deadZone_below (h : x ≤ -width) (hw : 0 ≤ width) : deadZone width x = x + width := by
  rw [deadZone, saturate, min_eq_right (by linarith), max_eq_left h, sub_neg_eq_add]

/-- A dead zone is monotone and does not enlarge distances, in one statement. -/
lemma deadZone_sub (h : x ≤ y) :
    0 ≤ deadZone width y - deadZone width x ∧
      deadZone width y - deadZone width x ≤ y - x := by
  have hmono : saturate (-width) width x ≤ saturate (-width) width y := saturate_mono h
  have hlip := abs_saturate_sub_le (-width) width y x
  rw [abs_of_nonneg (sub_nonneg.mpr hmono), abs_of_nonneg (sub_nonneg.mpr h)] at hlip
  unfold deadZone
  constructor <;> linarith

lemma deadZone_mono (h : x ≤ y) : deadZone width x ≤ deadZone width y :=
  sub_nonneg.mp (deadZone_sub h).1

/-- A dead zone does not enlarge distances. -/
lemma abs_deadZone_sub_le (width x y : K) :
    |deadZone width x - deadZone width y| ≤ |x - y| := by
  rcases le_total x y with h | h
  · obtain ⟨hnonneg, hle⟩ := deadZone_sub h
    rw [abs_sub_comm, abs_of_nonneg hnonneg, abs_sub_comm, abs_of_nonneg (sub_nonneg.mpr h)]
    exact hle
  · obtain ⟨hnonneg, hle⟩ := deadZone_sub h
    rw [abs_of_nonneg hnonneg, abs_of_nonneg (sub_nonneg.mpr h)]
    exact hle

lemma deadZone_nonneg (hw : 0 ≤ width) (h : -width ≤ x) : 0 ≤ deadZone width x := by
  have hzero : deadZone width (-width) = 0 := deadZone_eq_zero le_rfl (by linarith)
  rw [← hzero]
  exact deadZone_mono h

lemma deadZone_nonpos (hw : 0 ≤ width) (h : x ≤ width) : deadZone width x ≤ 0 := by
  have hzero : deadZone width width = 0 := deadZone_eq_zero (by linarith) le_rfl
  rw [← hzero]
  exact deadZone_mono h

end DeadZone
