import Mathlib.Algebra.Ring.Basic
import Mathlib.Analysis.SpecialFunctions.Trigonometric.Angle
import Mathlib.Algebra.Group.Basic
import Mathlib.Tactic.Ring
import Mathlib.Tactic.Lemma
import Mathlib.Tactic.LinearCombination

/-!
# Motions of the plane

A pose in the plane is a point and a heading.  The headings form a commutative group with a
cosine and a sine, and the poses form the group of the motions of the plane.
-/

/-- Headings of a commutative group `A`, with their cosines and sines in `K`. -/
class Rotations (A K : Type) [AddCommGroup A] [CommRing K] where
  cosine : A → K
  sine : A → K
  cosine_zero : cosine 0 = 1
  cosine_neg : ∀ a, cosine (-a) = cosine a
  sine_neg : ∀ a, sine (-a) = -sine a
  cosine_add : ∀ a b, cosine (a + b) = cosine a * cosine b - sine a * sine b
  sine_add : ∀ a b, sine (a + b) = sine a * cosine b + cosine a * sine b

/-- A pose in the plane. -/
@[ext]
structure Se2Pose (A K : Type) where
  x : K
  y : K
  yaw : A
  deriving DecidableEq

namespace Rotations

variable {A K : Type} [AddCommGroup A] [CommRing K] [Rotations A K]

lemma sine_zero : sine (0 : A) = (0 : K) := by
  have h := sine_add (K := K) (0 : A) 0
  rw [add_zero, cosine_zero] at h
  linear_combination -h

/-- The angles modulo a full turn. -/
noncomputable instance : Rotations Real.Angle ℝ where
  cosine := Real.Angle.cos
  sine := Real.Angle.sin
  cosine_zero := Real.Angle.cos_zero
  cosine_neg := Real.Angle.cos_neg
  sine_neg := Real.Angle.sin_neg
  cosine_add := Real.Angle.cos_add
  sine_add := Real.Angle.sin_add

end Rotations

namespace Se2Pose

open Rotations

variable {A K : Type} [AddCommGroup A] [CommRing K] [Rotations A K]

/-- The pose that `right` has if it is seen from `left`. -/
def compose (left right : Se2Pose A K) : Se2Pose A K where
  x := left.x + cosine left.yaw * right.x - sine left.yaw * right.y
  y := left.y + sine left.yaw * right.x + cosine left.yaw * right.y
  yaw := left.yaw + right.yaw

def inverse (pose : Se2Pose A K) : Se2Pose A K where
  x := -cosine pose.yaw * pose.x - sine pose.yaw * pose.y
  y := sine pose.yaw * pose.x - cosine pose.yaw * pose.y
  yaw := -pose.yaw

def identity : Se2Pose A K := ⟨0, 0, 0⟩

lemma compose_assoc (a b c : Se2Pose A K) :
    compose (compose a b) c = compose a (compose b c) := by
  ext
  · simp only [compose, cosine_add, sine_add]
    ring
  · simp only [compose, cosine_add, sine_add]
    ring
  · exact add_assoc ..

lemma identity_compose (a : Se2Pose A K) : compose identity a = a := by
  ext
  · simp [compose, identity, cosine_zero, sine_zero]
  · simp [compose, identity, cosine_zero, sine_zero]
  · exact zero_add _

lemma compose_identity (a : Se2Pose A K) : compose a identity = a := by
  ext
  · simp [compose, identity]
  · simp [compose, identity]
  · exact add_zero _

lemma inverse_compose (a : Se2Pose A K) : compose (inverse a) a = identity := by
  ext
  · simp only [compose, inverse, identity, cosine_neg, sine_neg]
    ring
  · simp only [compose, inverse, identity, cosine_neg, sine_neg]
    ring
  · exact neg_add_cancel _

/-- The motions of the plane. -/
instance : Group (Se2Pose A K) where
  mul := compose
  mul_assoc := compose_assoc
  one := identity
  one_mul := identity_compose
  mul_one := compose_identity
  inv := inverse
  inv_mul_cancel := inverse_compose

end Se2Pose
