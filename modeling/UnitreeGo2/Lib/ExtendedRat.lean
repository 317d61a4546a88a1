import Mathlib.Data.Rat.Cast.Order

/-!
# Rationals with infinities and NaN

The values of a float variable, with exact arithmetic on the finite ones.  Comparisons
follow the floats: a comparison with NaN is false.
-/

/-- A rational, an infinity or NaN. -/
inductive ExtRat where
  | fin (value : ℚ)
  | inf (negative : Bool)
  | nan
  deriving DecidableEq

namespace ExtRat

instance : Zero ExtRat := ⟨fin 0⟩

lemma zero_def : (0 : ExtRat) = fin 0 := rfl

def isFinite : ExtRat → Bool
  | fin _ => true
  | _ => false

def isNaN : ExtRat → Bool
  | nan => true
  | _ => false

def abs : ExtRat → ExtRat
  | fin x => fin |x|
  | inf _ => inf false
  | nan => nan

/-- `a ≤ b` as floats compare. -/
def le : ExtRat → ExtRat → Bool
  | nan, _ => false
  | _, nan => false
  | inf true, _ => true
  | _, inf false => true
  | inf false, inf true => false
  | inf false, fin _ => false
  | fin _, inf true => false
  | fin x, fin y => decide (x ≤ y)

/-- The sum of two floats, without rounding. -/
def add : ExtRat → ExtRat → ExtRat
  | nan, _ => nan
  | _, nan => nan
  | fin x, fin y => fin (x + y)
  | fin _, inf s => inf s
  | inf s, fin _ => inf s
  | inf s, inf t => if s = t then inf s else nan

/-- `a < b` as floats compare. -/
def lt (a b : ExtRat) : Bool := a.le b && !b.le a

/-- The difference of two floats, without rounding. -/
def sub : ExtRat → ExtRat → ExtRat
  | a, fin y => a.add (fin (-y))
  | a, inf s => a.add (inf !s)
  | _, nan => nan

/-- The product of two floats, without rounding. -/
def mul : ExtRat → ExtRat → ExtRat
  | nan, _ => nan
  | _, nan => nan
  | fin x, fin y => fin (x * y)
  | fin x, inf s => if x = 0 then nan else inf (s != decide (x < 0))
  | inf s, fin y => if y = 0 then nan else inf (s != decide (y < 0))
  | inf s, inf t => inf (s != t)

/-- The value of a finite reading; a reading that is not finite has none and gives zero. -/
def toRat : ExtRat → ℚ
  | fin x => x
  | _ => 0

@[simp] lemma isFinite_fin (x : ℚ) : (fin x).isFinite = true := rfl

@[simp] lemma abs_fin (x : ℚ) : (fin x).abs = fin |x| := rfl

@[simp] lemma sub_fin (x y : ℚ) : (fin x).sub (fin y) = fin (x - y) := by
  rw [sub, add, sub_eq_add_neg]

@[simp] lemma mul_fin (x y : ℚ) : (fin x).mul (fin y) = fin (x * y) := rfl

@[simp] lemma toRat_fin (x : ℚ) : (fin x).toRat = x := rfl

@[simp] lemma le_fin (x y : ℚ) : (fin x).le (fin y) = true ↔ x ≤ y := by simp [le]

@[simp] lemma lt_fin (x y : ℚ) : (fin x).lt (fin y) = true ↔ x < y := by
  simp only [lt, Bool.and_eq_true, le_fin, Bool.not_eq_true', lt_iff_le_not_ge,
    ← Bool.not_eq_true]

/-- Only a finite reading has an absolute value within a rational bound. -/
lemma isFinite_of_abs_le {a : ExtRat} {b : ℚ} (h : a.abs.le (fin b) = true) :
    a.isFinite = true := by
  cases a with
  | fin x => rfl
  | inf s => cases h
  | nan => cases h

end ExtRat
