import Mathlib

/-!
# Comparisons of single-precision floats

The comparisons of IEEE floats are not a linear order: every comparison with a NaN is
false.  A program that rejects `b < a` therefore knows `a ≤ b` only when neither side is
a NaN.  This file derives that inference, and that the absolute value keeps finiteness,
from the bit-level model of the floats.
-/

namespace Float.Model.UnpackedFloat

lemma isNaN_eq_false_of_isFinite {a : UnpackedFloat} (h : a.isFinite = true) :
    a.isNaN = false := by
  cases a <;> simp_all [isFinite, isNaN]

lemma isNaN_abs (a : UnpackedFloat) : a.abs.isNaN = a.isNaN := by
  cases a <;> rfl

/-- Two floats that are not NaN are comparable. -/
lemma exists_compare {a b : UnpackedFloat} (ha : a.isNaN = false) (hb : b.isNaN = false) :
    ∃ o, a.compare b = some o := by
  rw [← Option.isSome_iff_exists]
  cases a <;> cases b <;> simp_all [isNaN]
  case infinity.zero s t => cases s <;> rfl
  case infinity.finite s t m e h => cases s <;> rfl
  case zero.infinity s t => cases t <;> rfl
  case zero.finite s t m e h => cases t <;> rfl
  case finite.infinity s m e h t => cases t <;> rfl
  case finite.zero s m e h t => cases s <;> rfl
  case finite.finite s m e h t n f k => cases s <;> cases t <;> rfl
  all_goals rfl

lemma compare_swap (a b : UnpackedFloat) :
    b.compare a = (a.compare b).map Ordering.swap := by
  cases a <;> cases b
  case infinity.infinity s t => cases s <;> cases t <;> rfl
  case infinity.notANumber s => cases s <;> rfl
  case infinity.zero s t => cases s <;> rfl
  case infinity.finite s t m e h => cases s <;> rfl
  case notANumber.infinity s => cases s <;> rfl
  case notANumber.finite s m e h => cases s <;> rfl
  case zero.infinity s t => cases t <;> rfl
  case zero.finite s t m e h => cases t <;> rfl
  case finite.infinity s m e h t => cases t <;> rfl
  case finite.notANumber s m e h => cases s <;> rfl
  case finite.zero s m e h t => cases s <;> rfl
  case finite.finite s m e h t n f k =>
    have hswap : (compare f e).then (compare n m) =
        ((compare e f).then (compare m n)).swap := by
      rw [Ordering.swap_then, ← Int.compare_swap, ← Nat.compare_swap]
    cases s <;> cases t <;> simp [UnpackedFloat.compare, hswap]
  all_goals rfl

/-- Between floats that are not NaN, what is not below is above or equal. -/
lemma le_of_not_lt {a b : UnpackedFloat} (ha : a.isNaN = false) (hb : b.isNaN = false)
    (h : b.lt a = false) : a.le b = true := by
  obtain ⟨o, ho⟩ := exists_compare ha hb
  have hba : b.compare a = some o.swap := by rw [compare_swap, ho]; rfl
  simp only [UnpackedFloat.lt, hba] at h
  simp only [UnpackedFloat.le, ho, Option.any_some]
  cases o <;> simp_all

lemma isNaN_unpack (spec : Format) (b : BitVec spec.numBits) :
    (unpack spec b).isNaN = true ↔ unpackExponent b = -1#_ ∧ unpackMantissa b ≠ 0#_ := by
  simp only [unpack]
  split_ifs <;> simp_all [isNaN]

/-- Packing turns no number into a NaN. -/
lemma isNaN_unpack_pack (spec : Format) {a : UnpackedFloat} (h : a.isNaN = false) :
    (unpack spec (pack spec a)).isNaN = false := by
  rw [← Bool.not_eq_true, isNaN_unpack]
  fun_cases pack with
  | case1 => simp [isNaN] at h
  | case2 s => simp [packedInfinity]
  | case3 s => simp [packedZero]
  | case4 s m e hm biased hbig => simp [packedInfinity]
  | case5 s m e hm bits biased hbig hbits =>
    -- the biased exponent of a normal float stays below the exponent of the NaNs
    have hlt : biased < 2 ^ spec.exponentBits - 1 := by omega
    have hne : BitVec.ofNat spec.exponentBits biased ≠ -1#_ := by
      rw [BitVec.neg_one_eq_allOnes, ne_eq, ← BitVec.toNat_inj, BitVec.toNat_ofNat,
        BitVec.toNat_allOnes, Nat.mod_eq_of_lt (by omega)]
      omega
    simp [hne]
  | case6 s m e hm bits biased hbig hbits =>
    have hne : BitVec.ofNat spec.exponentBits 0 ≠ -1#_ := by
      have := Nat.one_lt_two_pow (Nat.pos_iff_ne_zero.mp spec.he)
      rw [BitVec.neg_one_eq_allOnes, ne_eq, ← BitVec.toNat_inj, BitVec.toNat_ofNat,
        BitVec.toNat_allOnes, Nat.zero_mod]
      omega
    simp [hne]

end Float.Model.UnpackedFloat

namespace Float32

open Float.Model.UnpackedFloat

lemma isNaN_eq_false_of_isFinite {a : Float32} (h : a.isFinite = true) : a.isNaN = false :=
  Float.Model.UnpackedFloat.isNaN_eq_false_of_isFinite h

lemma isNaN_abs {a : Float32} (h : a.isNaN = false) : a.abs.isNaN = false := by
  have habs : a.toModel.unpack.abs.isNaN = false := by
    rw [Float.Model.UnpackedFloat.isNaN_abs]
    exact h
  exact isNaN_unpack_pack _ habs

/-- A float that is not above a limit is within it, when neither is a NaN. -/
theorem le_of_not_lt {a b : Float32} (ha : a.isNaN = false) (hb : b.isNaN = false)
    (h : ¬ b < a) : a ≤ b := by
  have hlt : b.toModel.unpack.lt a.toModel.unpack = false := by
    rw [← Bool.not_eq_true]
    intro hlt
    apply h
    show Float32.lt b a = true
    exact decide_eq_true hlt
  have hle := Float.Model.UnpackedFloat.le_of_not_lt ha hb hlt
  show Float32.le a b = true
  exact decide_eq_true hle

lemma unpack_zero : (0 : Float32).toModel.unpack = .zero .positive := rfl

/-- A float that compares equal to zero is a zero, and its absolute value is the positive
one. -/
lemma abs_eq_zero_of_beq {a : Float32} (h : (a == 0) = true) : a.abs = 0 := by
  have hbeq : a.toModel.unpack.beq (.zero .positive) = true := unpack_zero ▸ h
  have hzero : a.toModel.unpack.abs = .zero .positive := by
    generalize a.toModel.unpack = u at hbeq
    cases u with
    | zero s => rfl
    | notANumber => cases hbeq
    | infinity s => cases s <;> cases hbeq
    | finite s m e hm => cases s <;> cases hbeq
  show Float32.ofModel (Float32.Model.pack a.toModel.unpack.abs) = 0
  rw [hzero]
  decide +kernel

end Float32
