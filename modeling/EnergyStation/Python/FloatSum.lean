import EnergyStation.Python.Value
import Mathlib.Data.List.Induction

/-!
# Sums of floats

Numbers are added one after another, and each sum is rounded. An addition is described by what it
makes of a sum in range (`Adds`): without rounding this is `floatAdd`, which only puts a zero for
what underflows. The sum of ordinary numbers is an ordinary number exactly if none of its partial
sums overflows (`Adds.isFinite_foldl_iff`).
-/

namespace EnergyStation.Python

/-- `sum(l)` of floats, without rounding. -/
def floatSum (l : List ExtRat) : ExtRat := l.foldl floatAdd (.fin 0)

/-- No float is that large. -/
def InRange (q : ℚ) : Prop := |q| < floatOverflow

instance (q : ℚ) : Decidable (InRange q) := inferInstanceAs (Decidable (_ < _))

/-- A number that underflows is zero. -/
def flush (q : ℚ) : ℚ := if |q| ≤ floatUnderflow then 0 else q

/-- A number in range is a float, unless it underflows. -/
theorem floatOfRat_of_inRange {q : ℚ} (h : InRange q) : floatOfRat q = .fin (flush q) := by
  obtain ⟨hlow, hhigh⟩ := abs_lt.mp h
  unfold floatOfRat flush
  rw [if_neg (not_le.mpr hhigh), if_neg (not_le.mpr hlow)]
  simp only [abs_le]
  split_ifs <;> rfl

/-- A number is made an ordinary float exactly if it is in range. -/
theorem isFinite_floatOfRat_iff (q : ℚ) : (floatOfRat q).isFinite = true ↔ InRange q := by
  constructor
  · intro h
    unfold floatOfRat at h
    split_ifs at h with hhigh hlow
    · exact absurd h Bool.false_ne_true
    · exact absurd h Bool.false_ne_true
    · exact abs_lt.mpr ⟨not_le.mp hlow, not_le.mp hhigh⟩
    · exact abs_lt.mpr ⟨not_le.mp hlow, not_le.mp hhigh⟩
  · intro h
    rw [floatOfRat_of_inRange h]
    rfl

/-- The sum of two ordinary floats. -/
theorem floatAdd_fin (p q : ℚ) : floatAdd (.fin p) (.fin q) = floatOfRat (p + q) := rfl

/-- The difference of two ordinary floats. -/
theorem floatSub_fin (p q : ℚ) : floatSub (.fin p) (.fin q) = floatOfRat (p - q) := by
  rw [floatSub, ExtRat.neg, floatAdd_fin, sub_eq_add_neg]

/-- An addition of floats, which rounds a sum in range. A sum is ordinary only where it is in range
and both summands are ordinary. -/
structure Adds (add : ExtRat → ExtRat → ExtRat) (round : ℚ → ℚ) : Prop where
  /-- A sum in range is rounded. -/
  inRange : ∀ p q, InRange (p + q) → add (.fin p) (.fin q) = .fin (round (p + q))
  /-- No other sum is ordinary. -/
  ordinary : ∀ x q, (add x (.fin q)).isFinite = true → ∃ p, x = .fin p ∧ InRange (p + q)

/-- The sum of numbers, each partial sum of which is rounded. -/
def roundedSum (round : ℚ → ℚ) (s : ℚ) (l : List ℚ) : ℚ := l.foldl (fun s q => round (s + q)) s

/-- No sum overflows while the numbers are added one after another. -/
def SumsInRange (round : ℚ → ℚ) : ℚ → List ℚ → Prop
  | _, [] => True
  | s, q :: l => InRange (s + q) ∧ SumsInRange round (round (s + q)) l

namespace Adds

variable {add : ExtRat → ExtRat → ExtRat} {round : ℚ → ℚ}

/-- Sums that do not overflow are the rounded ones. -/
theorem foldl_of_inRange (h : Adds add round) {s : ℚ} {l : List ℚ} (hl : SumsInRange round s l) :
    (l.map ExtRat.fin).foldl add (.fin s) = .fin (roundedSum round s l) := by
  induction l generalizing s with
  | nil => rfl
  | cons q l ih =>
    rw [List.map_cons, List.foldl_cons, h.inRange s q hl.1, ih hl.2]
    rfl

/-- A sum that has become a special value stays one. -/
theorem isFinite_foldl (h : Adds add round) {x : ExtRat} (hx : x.isFinite = false) (l : List ℚ) :
    ((l.map ExtRat.fin).foldl add x).isFinite = false := by
  induction l generalizing x with
  | nil => exact hx
  | cons q l ih =>
    refine ih (Bool.eq_false_iff.mpr fun hadd => ?_)
    obtain ⟨p, rfl, -⟩ := h.ordinary x q hadd
    cases hx

/-- The sum of ordinary numbers is an ordinary number exactly if no partial sum overflows. -/
theorem isFinite_foldl_iff (h : Adds add round) (s : ℚ) (l : List ℚ) :
    ((l.map ExtRat.fin).foldl add (.fin s)).isFinite = true ↔ SumsInRange round s l := by
  constructor
  · intro hl
    induction l generalizing s with
    | nil => trivial
    | cons q l ih =>
      rw [List.map_cons, List.foldl_cons] at hl
      by_cases hq : InRange (s + q)
      · rw [h.inRange s q hq] at hl
        exact ⟨hq, ih _ hl⟩
      · have hspecial : (add (.fin s) (.fin q)).isFinite = false := by
          refine Bool.eq_false_iff.mpr fun hadd => hq ?_
          obtain ⟨p, hp, hrange⟩ := h.ordinary _ q hadd
          rwa [← ExtRat.fin.inj hp] at hrange
        rw [h.isFinite_foldl hspecial] at hl
        exact absurd hl Bool.false_ne_true
  · intro hl
    rw [h.foldl_of_inRange hl]
    rfl

end Adds

/-- Without rounding, a sum in range is itself, or zero where it underflows. -/
theorem adds_floatAdd : Adds floatAdd flush where
  inRange p q h := by rw [floatAdd_fin, floatOfRat_of_inRange h]
  ordinary x q h := by
    cases x with
    | fin p => exact ⟨p, rfl, (isFinite_floatOfRat_iff (p + q)).mp h⟩
    | nan => cases h
    | posInf => cases h
    | negInf => cases h

/-- Multiples of a unit fraction that are not negative are added exactly, unless their sum
overflows. -/
theorem sumsInRange_natDiv {d : ℕ} (hd0 : 0 < d) (hd : d < 2 ^ 64) {a : ℕ} {l : List ℕ}
    (hlt : ((a + l.sum : ℕ) / d : ℚ) < floatOverflow) :
    SumsInRange flush (a / d) (l.map fun n : ℕ => (n / d : ℚ)) ∧
      roundedSum flush (a / d) (l.map fun n : ℕ => (n / d : ℚ)) = ((a + l.sum : ℕ) / d : ℚ) := by
  have hd0' : (0 : ℚ) < d := by exact_mod_cast hd0
  induction l generalizing a with
  | nil => exact ⟨trivial, by simp [roundedSum]⟩
  | cons n l ih =>
    rw [List.sum_cons, ← add_assoc] at hlt ⊢
    have hadd : (a / d + n / d : ℚ) = ((a + n : ℕ) / d : ℚ) := by
      push_cast
      ring
    -- A sum on the way is not above the whole.
    have hle : ((a + n : ℕ) / d : ℚ) ≤ ((a + n + l.sum : ℕ) / d : ℚ) :=
      div_le_div_of_nonneg_right (by exact_mod_cast Nat.le_add_right _ _) hd0'.le
    have hpart := hle.trans_lt hlt
    have hrange : InRange ((a + n : ℕ) / d : ℚ) := by
      unfold InRange
      rwa [abs_of_nonneg (by positivity)]
    have hflush : flush ((a + n : ℕ) / d : ℚ) = ((a + n : ℕ) / d : ℚ) :=
      ExtRat.fin.inj ((floatOfRat_of_inRange hrange).symm.trans (floatOfRat_natDiv hpart hd0 hd))
    obtain ⟨hsums, hsum⟩ := ih hlt
    rw [List.map_cons]
    constructor
    · refine ⟨by rwa [hadd], ?_⟩
      rwa [hadd, hflush]
    · rw [roundedSum, List.foldl_cons, hadd, hflush]
      exact hsum

end EnergyStation.Python
