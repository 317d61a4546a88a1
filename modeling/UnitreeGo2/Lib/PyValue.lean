import UnitreeGo2.Lib.ExtendedRat
import Mathlib.Data.List.Forall2
import Mathlib.Tactic.Lemma

/-!
# Dynamically typed values

The values that a decoded JSON document holds, and what a program that checks them can ask
of them.  Booleans are numbers here, as they are in Python.
-/

inductive PyValue where
  | none
  | bool (b : Bool)
  | int (n : Int)
  | float (x : ExtRat)
  | str (s : String)
  | list (items : List PyValue)
  | dict (items : List (String × PyValue))

/-- The exceptions of a conversion. -/
inductive PyError where
  | typeError
  | valueError
  | overflowError
  deriving DecidableEq, Repr

namespace PyValue

/-- `isinstance(value, int) and not isinstance(value, bool)`. -/
def exactInt? : PyValue → Option Int
  | int n => some n
  | _ => Option.none

/-- `isinstance(value, int)`, where the booleans are integers. -/
def int? : PyValue → Option Int
  | int n => some n
  | bool b => some (if b then 1 else 0)
  | _ => Option.none

/-- `isinstance(value, bool)`. -/
def exactBool? : PyValue → Option Bool
  | bool b => some b
  | _ => Option.none

/-- `value == n` for an integer `n`. -/
def eqInt : PyValue → Int → Bool
  | int m, n => m == n
  | bool b, n => (if b then 1 else 0) == n
  | float (.fin x), n => x == n
  | _, _ => false

/-- `value == s` for a string `s`. -/
def eqStr : PyValue → String → Bool
  | str t, s => t == s
  | _, _ => false

/-- `items.get(key)`. -/
def get (items : List (String × PyValue)) (key : String) : PyValue :=
  (items.lookup key).getD none

/-- `set(items) == set(keys)`. -/
def hasExactKeys (items : List (String × PyValue)) (keys : List String) : Bool :=
  items.all (fun item => item.1 ∈ keys) && keys.all (fun key => key ∈ items.map Prod.fst)

/-- The integers from here on are too large for a float. -/
def floatOverflow : Int := 2 ^ 1024 - 2 ^ 970

/-- `float(value)`, where `parse` reads the text of a number. -/
def toFloat (parse : String → Option ExtRat) : PyValue → Except PyError ExtRat
  | bool b => .ok (.fin (if b then 1 else 0))
  | int n => if |n| < floatOverflow then .ok (.fin n) else .error .overflowError
  | float x => .ok x
  | str s => (parse s).elim (.error .valueError) .ok
  | _ => .error .typeError

end PyValue

/-! ## Exceptions -/

namespace Except

variable {ε α β : Type}

/-- A sequence returns what its second part returns, if neither part raises. -/
lemma bind_eq_ok_iff {x : Except ε α} {f : α → Except ε β} {b : β} :
    x >>= f = .ok b ↔ ∃ a, x = .ok a ∧ f a = .ok b := by
  cases x with
  | error e =>
    constructor
    · intro h
      cases h
    · rintro ⟨a, ha, -⟩
      cases ha
  | ok a =>
    constructor
    · intro h
      exact ⟨a, rfl, h⟩
    · rintro ⟨a', ha, h⟩
      cases ha
      exact h

/-- A loop over a list collects what its body returns for each element. -/
lemma forall₂_of_mapM {f : α → Except ε β} {xs : List α} {ys : List β}
    (h : xs.mapM f = .ok ys) : List.Forall₂ (fun x y => f x = .ok y) xs ys := by
  induction xs generalizing ys with
  | nil =>
    cases h
    exact .nil
  | cons x xs ih =>
    rw [List.mapM_cons] at h
    obtain ⟨y, hy, h⟩ := bind_eq_ok_iff.mp h
    obtain ⟨rest, hrest, h⟩ := bind_eq_ok_iff.mp h
    cases h
    exact .cons hy (ih hrest)

end Except
