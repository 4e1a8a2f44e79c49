import Mathlib.Data.Rat.Defs
import Mathlib.Algebra.Order.Ring.Rat
import Mathlib.Algebra.Order.Field.Basic
import Mathlib.Tactic.Linarith

/-!
# Rationals with a NaN and two infinities

Floating-point numbers without their rounding: an ordinary number is an exact rational, and the
three special values behave as IEEE 754 has them. Every comparison with NaN is false, an infinity
absorbs every ordinary summand, and the sum of the two infinities is NaN.
-/

namespace EnergyStation

/-- A rational, an infinity, or NaN. -/
inductive ExtRat where
  /-- Not a number. -/
  | nan
  /-- Positive infinity. -/
  | posInf
  /-- Negative infinity. -/
  | negInf
  /-- An ordinary number. -/
  | fin (q : ℚ)
  deriving DecidableEq

namespace ExtRat

/-- The value is an ordinary number. -/
def isFinite : ExtRat → Bool
  | fin _ => true
  | _ => false

/-- The IEEE comparison `x < y`. -/
def lt : ExtRat → ExtRat → Bool
  | fin p, fin q => decide (p < q)
  | fin _, posInf => true
  | negInf, fin _ => true
  | negInf, posInf => true
  | _, _ => false

/-- The IEEE comparison `x ≤ y`. -/
def le : ExtRat → ExtRat → Bool
  | fin p, fin q => decide (p ≤ q)
  | fin _, posInf => true
  | negInf, fin _ => true
  | negInf, posInf => true
  | posInf, posInf => true
  | negInf, negInf => true
  | _, _ => false

/-- The IEEE sum. -/
def add : ExtRat → ExtRat → ExtRat
  | fin p, fin q => fin (p + q)
  | fin _, y => y
  | x, fin _ => x
  | posInf, posInf => posInf
  | negInf, negInf => negInf
  | _, _ => nan

/-- The infinity with the sign of `q`, and NaN for zero. -/
def infOfSign (q : ℚ) : ExtRat := if 0 < q then posInf else if q < 0 then negInf else nan

/-- The IEEE negation. -/
def neg : ExtRat → ExtRat
  | nan => nan
  | posInf => negInf
  | negInf => posInf
  | fin q => fin (-q)

/-- The absolute value. -/
def abs : ExtRat → ExtRat
  | nan => nan
  | posInf => posInf
  | negInf => posInf
  | fin q => fin |q|

/-- The IEEE product. -/
def mul : ExtRat → ExtRat → ExtRat
  | fin p, fin q => fin (p * q)
  | fin p, posInf => infOfSign p
  | fin p, negInf => infOfSign (-p)
  | posInf, fin q => infOfSign q
  | negInf, fin q => infOfSign (-q)
  | posInf, posInf => posInf
  | negInf, negInf => posInf
  | posInf, negInf => negInf
  | negInf, posInf => negInf
  | _, _ => nan

/-- The IEEE quotient, where a zero divisor is the positive zero. -/
def div : ExtRat → ExtRat → ExtRat
  | fin p, fin q => if q = 0 then infOfSign p else fin (p / q)
  | fin _, posInf => fin 0
  | fin _, negInf => fin 0
  | posInf, fin q => if q < 0 then negInf else posInf
  | negInf, fin q => if q < 0 then posInf else negInf
  | _, _ => nan

@[simp] theorem isFinite_fin (q : ℚ) : isFinite (fin q) = true := rfl
@[simp] theorem isFinite_nan : isFinite nan = false := rfl
@[simp] theorem isFinite_posInf : isFinite posInf = false := rfl
@[simp] theorem isFinite_negInf : isFinite negInf = false := rfl

/-- A finite value is an ordinary number. -/
theorem isFinite_iff {x : ExtRat} : x.isFinite = true ↔ ∃ q, x = fin q := by
  cases x <;> simp

@[simp] theorem lt_fin (p q : ℚ) : lt (fin p) (fin q) = decide (p < q) := rfl
@[simp] theorem lt_fin_posInf (p : ℚ) : lt (fin p) posInf = true := rfl
@[simp] theorem lt_fin_negInf (p : ℚ) : lt (fin p) negInf = false := rfl
@[simp] theorem lt_posInf_fin (q : ℚ) : lt posInf (fin q) = false := rfl
@[simp] theorem lt_negInf_fin (q : ℚ) : lt negInf (fin q) = true := rfl
@[simp] theorem nan_lt (y : ExtRat) : lt nan y = false := by cases y <;> rfl
@[simp] theorem lt_nan (x : ExtRat) : lt x nan = false := by cases x <;> rfl
@[simp] theorem le_fin (p q : ℚ) : le (fin p) (fin q) = decide (p ≤ q) := rfl
@[simp] theorem nan_le (y : ExtRat) : le nan y = false := by cases y <;> rfl
@[simp] theorem le_nan (x : ExtRat) : le x nan = false := by cases x <;> rfl

@[simp] theorem add_fin (p q : ℚ) : add (fin p) (fin q) = fin (p + q) := rfl
@[simp] theorem add_fin_posInf (p : ℚ) : add (fin p) posInf = posInf := rfl
@[simp] theorem add_fin_negInf (p : ℚ) : add (fin p) negInf = negInf := rfl
@[simp] theorem nan_add (y : ExtRat) : add nan y = nan := by cases y <;> rfl
@[simp] theorem add_nan (x : ExtRat) : add x nan = nan := by cases x <;> rfl

@[simp] theorem mul_fin (p q : ℚ) : mul (fin p) (fin q) = fin (p * q) := rfl
@[simp] theorem nan_div (y : ExtRat) : div nan y = nan := by cases y <;> rfl

theorem div_fin {q : ℚ} (p : ℚ) (hq : q ≠ 0) : div (fin p) (fin q) = fin (p / q) := if_neg hq

/-- Two comparisons that exclude each other. -/
theorem not_lt_of_le {x y : ExtRat} (h : le x y = true) : lt y x = false := by
  cases x <;> cases y <;> simp_all [le, lt]

/-- Raising an ordinary number to a lower bound by a comparison takes the maximum. -/
theorem raise_fin (p a : ℚ) :
    (if lt (fin p) (fin a) then fin a else fin p) = fin (max p a) := by
  rw [lt_fin]
  rcases lt_or_ge p a with h | h
  · rw [decide_eq_true h, if_pos rfl, max_eq_right h.le]
  · rw [decide_eq_false (not_lt.mpr h), if_neg Bool.false_ne_true, max_eq_left h]

/-- Cutting an ordinary number to an upper bound by a comparison takes the minimum. -/
theorem cut_fin (p b : ℚ) :
    (if lt (fin b) (fin p) then fin b else fin p) = fin (min p b) := by
  rw [lt_fin]
  rcases lt_or_ge b p with h | h
  · rw [decide_eq_true h, if_pos rfl, min_eq_right h.le]
  · rw [decide_eq_false (not_lt.mpr h), if_neg Bool.false_ne_true, min_eq_left h]

end ExtRat

end EnergyStation
