import EnergyStation.Lib.FixedPoint
import Mathlib.Algebra.Order.Field.Power
import Mathlib.Data.Int.Log

/-!
# Rounding to double precision

A binary64 number is an integer of 53 bits, times a power of two that is `2 ^ -1074` at least
(`IsDouble`). `nearest` rounds a rational to the nearest of these, and to the even one of two. It
goes past no double (`le_nearest`, `nearest_le`), so it leaves every double as it is and every
comparison with one, up to equality. The relative error is one part in `2 ^ 53` at most
(`abs_nearest_sub_le`), and an integer is rounded to an integer. The exponent has no upper bound
here: where a number is too large for the format, the caller has to say.
-/

namespace EnergyStation.Binary64

open Numeral

/-- The exponent of the last of the 53 bits of a number. -/
def lastPlace (q : ℚ) : ℤ := max (Int.log 2 |q| - 52) (-1074)

/-- The double nearest to a rational, and of two nearest the one whose last bit is zero. -/
def nearest (q : ℚ) : ℚ := roundHalfEven (q / 2 ^ lastPlace q) * 2 ^ lastPlace q

/-- The number has 53 significant bits at most, and none below `2 ^ -1074`. -/
def IsDouble (q : ℚ) : Prop := ∃ m e : ℤ, |m| ≤ 2 ^ 53 ∧ -1074 ≤ e ∧ q = m * 2 ^ e

/-- A number has no bits above the 53 ones that are kept. -/
theorem abs_lt_zpow_lastPlace (q : ℚ) : |q| < 2 ^ (lastPlace q + 53) := by
  have hlog : |q| < ((2 : ℕ) : ℚ) ^ (Int.log 2 |q| + 1) :=
    Int.lt_zpow_succ_log_self Nat.one_lt_two |q|
  have hle : Int.log 2 |q| + 1 ≤ lastPlace q + 53 := by
    unfold lastPlace
    omega
  rw [Nat.cast_ofNat] at hlog
  exact hlog.trans_le (zpow_le_zpow_right₀ one_le_two hle)

/-- The first of the 53 bits is a one, unless the last one is the very last place. -/
theorem zpow_lastPlace_le_abs {q : ℚ} (hq : q ≠ 0) (h : -1074 < lastPlace q) :
    2 ^ (lastPlace q + 52) ≤ |q| := by
  have hlog : ((2 : ℕ) : ℚ) ^ Int.log 2 |q| ≤ |q| :=
    Int.zpow_log_le_self Nat.one_lt_two (abs_pos.mpr hq)
  have heq : lastPlace q + 52 = Int.log 2 |q| := by
    unfold lastPlace at h ⊢
    omega
  rw [heq]
  exact_mod_cast hlog

/-- The last place of a number is given by its binade. -/
theorem lastPlace_eq {q : ℚ} {e : ℤ} (hlow : 2 ^ (e + 52) ≤ |q|) (hhigh : |q| < 2 ^ (e + 53))
    (he : -1074 ≤ e) : lastPlace q = e := by
  have hpos : 0 < |q| := lt_of_lt_of_le (by positivity) hlow
  have hle : e + 52 ≤ Int.log 2 |q| :=
    (Int.zpow_le_iff_le_log Nat.one_lt_two hpos).mp (by exact_mod_cast hlow)
  have hlt : Int.log 2 |q| < e + 53 :=
    (Int.lt_zpow_iff_log_lt Nat.one_lt_two hpos).mp (by exact_mod_cast hhigh)
  unfold lastPlace
  omega

@[simp] theorem nearest_zero : nearest 0 = 0 := by
  unfold nearest
  rw [zero_div, ← Int.cast_zero, roundHalfEven_intCast, Int.cast_zero, zero_mul]

/-- Rounding is symmetric. -/
theorem nearest_neg (q : ℚ) : nearest (-q) = -nearest q := by
  have hplace : lastPlace (-q) = lastPlace q := by
    unfold lastPlace
    rw [abs_neg]
  unfold nearest
  rw [hplace, neg_div, roundHalfEven_neg, Int.cast_neg, neg_mul]

/-- A number that is rounded is a double. -/
theorem isDouble_nearest (q : ℚ) : IsDouble (nearest q) := by
  refine ⟨roundHalfEven (q / 2 ^ lastPlace q), lastPlace q, ?_, le_max_right _ _, rfl⟩
  have hpos : (0 : ℚ) < 2 ^ lastPlace q := by positivity
  have hscaled : |q / 2 ^ lastPlace q| < ((2 ^ 53 : ℤ) : ℚ) := by
    rw [abs_div, abs_of_pos hpos, div_lt_iff₀ hpos]
    calc |q| < 2 ^ (lastPlace q + 53) := abs_lt_zpow_lastPlace q
      _ = ((2 ^ 53 : ℤ) : ℚ) * 2 ^ lastPlace q := by
          rw [zpow_add₀ two_ne_zero, mul_comm]
          norm_num
  obtain ⟨hlow, hhigh⟩ := abs_lt.mp hscaled
  rw [← Int.cast_neg] at hlow
  exact abs_le.mpr ⟨le_roundHalfEven hlow.le, roundHalfEven_le hhigh.le⟩

/-- A double that is not above a number is not above the number rounded. -/
theorem le_nearest {y q : ℚ} (hy : IsDouble y) (h : y ≤ q) : y ≤ nearest q := by
  obtain ⟨m, f, hm, hf, rfl⟩ := hy
  rcases eq_or_ne q 0 with rfl | hq
  · rwa [nearest_zero]
  have hpos : (0 : ℚ) < 2 ^ lastPlace q := by positivity
  rcases le_or_gt (lastPlace q) f with hle | hlt
  · -- The double is a multiple of the last place.
    have hgrid : (m : ℚ) * 2 ^ f = (m * 2 ^ (f - lastPlace q).toNat : ℤ) * 2 ^ lastPlace q := by
      rw [Int.cast_mul, Int.cast_pow, Int.cast_ofNat, mul_assoc, ← zpow_natCast,
        Int.toNat_of_nonneg (by omega), ← zpow_add₀ two_ne_zero, sub_add_cancel]
    rw [hgrid] at h ⊢
    exact mul_le_mul_of_nonneg_right
      (Int.cast_le.mpr (le_roundHalfEven ((le_div_iff₀ hpos).mpr h))) hpos.le
  · -- Its magnitude is at most that of the binade, which the number has reached.
    have hbinade : 2 ^ (lastPlace q + 52) ≤ |q| := zpow_lastPlace_le_abs hq (by omega)
    have hsplit : (2 : ℚ) ^ (lastPlace q + 52) = ((2 ^ 52 : ℤ) : ℚ) * 2 ^ lastPlace q := by
      rw [zpow_add₀ two_ne_zero, mul_comm]
      norm_num
    have hsmall : |(m : ℚ) * 2 ^ f| ≤ 2 ^ (lastPlace q + 52) := by
      have hm' : |(m : ℚ)| ≤ 2 ^ (53 : ℤ) := by
        have hcast : |(m : ℚ)| ≤ ((2 ^ 53 : ℤ) : ℚ) := by exact_mod_cast hm
        exact hcast.trans_eq (by norm_num)
      calc |(m : ℚ) * 2 ^ f| = |(m : ℚ)| * 2 ^ f := by
            rw [abs_mul, abs_of_pos (by positivity : (0 : ℚ) < 2 ^ f)]
        _ ≤ 2 ^ (53 : ℤ) * 2 ^ f := mul_le_mul_of_nonneg_right hm' (by positivity)
        _ = 2 ^ (f + 53) := by rw [← zpow_add₀ two_ne_zero, add_comm]
        _ ≤ 2 ^ (lastPlace q + 52) := zpow_le_zpow_right₀ one_le_two (by omega)
    rcases le_or_gt 0 q with h0 | h0
    · rw [abs_of_nonneg h0, hsplit] at hbinade
      calc (m : ℚ) * 2 ^ f ≤ 2 ^ (lastPlace q + 52) := (le_abs_self _).trans hsmall
        _ = ((2 ^ 52 : ℤ) : ℚ) * 2 ^ lastPlace q := hsplit
        _ ≤ nearest q := mul_le_mul_of_nonneg_right
            (Int.cast_le.mpr (le_roundHalfEven ((le_div_iff₀ hpos).mpr hbinade))) hpos.le
    · -- Below zero the number is the edge of the binade.
      rw [abs_of_neg h0] at hbinade
      have hedge : q = ((-2 ^ 52 : ℤ) : ℚ) * 2 ^ lastPlace q := by
        have habs := neg_le_of_abs_le hsmall
        rw [Int.cast_neg, neg_mul, ← hsplit]
        linarith
      have hround : roundHalfEven (q / 2 ^ lastPlace q) = -2 ^ 52 := by
        have hdiv : q / 2 ^ lastPlace q = ((-2 ^ 52 : ℤ) : ℚ) := by
          rw [div_eq_iff hpos.ne']
          exact hedge
        rw [hdiv, roundHalfEven_intCast]
      have hsame : nearest q = q := by
        rw [nearest, hround]
        exact hedge.symm
      rwa [hsame]

/-- A double is a double with the other sign. -/
theorem IsDouble.neg {q : ℚ} (h : IsDouble q) : IsDouble (-q) := by
  obtain ⟨m, e, hm, he, rfl⟩ := h
  exact ⟨-m, e, by rwa [abs_neg], he, by rw [Int.cast_neg, neg_mul]⟩

/-- A double that is not below a number is not below the number rounded. -/
theorem nearest_le {y q : ℚ} (hy : IsDouble y) (h : q ≤ y) : nearest q ≤ y := by
  have hneg := le_nearest hy.neg (neg_le_neg h)
  rw [nearest_neg] at hneg
  exact neg_le_neg_iff.mp hneg

/-- A double is left as it is. -/
theorem nearest_of_isDouble {q : ℚ} (h : IsDouble q) : nearest q = q :=
  le_antisymm (nearest_le h le_rfl) (le_nearest h le_rfl)

/-- An integer of 53 bits is a double. -/
theorem isDouble_intCast {n : ℤ} (h : |n| ≤ 2 ^ 53) : IsDouble n := ⟨n, 0, h, by norm_num, by simp⟩

/-- An integer of 53 bits is left as it is. -/
theorem nearest_intCast {n : ℤ} (h : |n| ≤ 2 ^ 53) : nearest n = n :=
  nearest_of_isDouble (isDouble_intCast h)

/-- The sign is kept. -/
theorem nearest_nonneg {q : ℚ} (h : 0 ≤ q) : 0 ≤ nearest q := by
  have hzero : IsDouble 0 := ⟨0, 0, by norm_num, by norm_num, by norm_num⟩
  exact le_nearest hzero h

/-- The magnitude of a rounded number is the rounded magnitude. -/
theorem abs_nearest (q : ℚ) : |nearest q| = nearest |q| := by
  rcases le_total 0 q with h | h
  · rw [abs_of_nonneg h, abs_of_nonneg (nearest_nonneg h)]
  · have hneg : nearest (-q) = -nearest q := nearest_neg q
    have hnonneg := nearest_nonneg (neg_nonneg.mpr h)
    rw [abs_of_nonpos h, hneg, abs_of_nonpos]
    linarith

/-- Rounding moves a number by half of its last place at most. -/
theorem abs_nearest_sub_le_lastPlace (q : ℚ) : |nearest q - q| ≤ 2 ^ lastPlace q / 2 := by
  have hpos : (0 : ℚ) < 2 ^ lastPlace q := by positivity
  have hround := abs_roundHalfEven_sub_le (q / 2 ^ lastPlace q)
  have hscale : nearest q - q =
      (roundHalfEven (q / 2 ^ lastPlace q) - q / 2 ^ lastPlace q) * 2 ^ lastPlace q := by
    rw [nearest, sub_mul, div_mul_cancel₀ _ hpos.ne']
  rw [hscale, abs_mul, abs_of_pos hpos]
  linarith [mul_le_mul_of_nonneg_right hround hpos.le]

/-- The relative error of a number that is not below the range of normal doubles. -/
theorem abs_nearest_sub_le {q : ℚ} (h : 2 ^ (-1022 : ℤ) ≤ |q|) :
    |nearest q - q| ≤ |q| / 2 ^ 53 := by
  have hpos : 0 < |q| := lt_of_lt_of_le (by positivity) h
  have hlog : -1022 ≤ Int.log 2 |q| :=
    (Int.zpow_le_iff_le_log Nat.one_lt_two hpos).mp (by exact_mod_cast h)
  have hplace : (2 : ℚ) ^ lastPlace q * 2 ^ 52 ≤ |q| := by
    have heq : lastPlace q + 52 = Int.log 2 |q| := by
      unfold lastPlace
      omega
    have hpow : (2 : ℚ) ^ lastPlace q * 2 ^ 52 = 2 ^ (lastPlace q + 52) := by
      rw [zpow_add₀ two_ne_zero]
      norm_num
    rw [hpow, heq]
    exact_mod_cast Int.zpow_log_le_self Nat.one_lt_two hpos
  calc |nearest q - q| ≤ 2 ^ lastPlace q / 2 := abs_nearest_sub_le_lastPlace q
    _ = 2 ^ lastPlace q * 2 ^ 52 / 2 ^ 53 := by ring
    _ ≤ |q| / 2 ^ 53 := div_le_div_of_nonneg_right hplace (by positivity)

/-- The same as two bounds. -/
theorem nearest_bounds {q : ℚ} (h : 2 ^ (-1022 : ℤ) ≤ q) :
    q - q / 2 ^ 53 ≤ nearest q ∧ nearest q ≤ q + q / 2 ^ 53 := by
  have h0 : 0 ≤ q := le_trans (by positivity) h
  have hround := abs_nearest_sub_le (q := q) (by rwa [abs_of_nonneg h0])
  rw [abs_of_nonneg h0] at hround
  obtain ⟨hlow, hhigh⟩ := abs_le.mp hround
  exact ⟨by linarith, by linarith⟩

/-- A number below the middle of two multiples of its last place is rounded to the lower one at
most. -/
theorem nearest_le_of_lt {q : ℚ} {e n : ℤ} (he : lastPlace q = e) (h : q < (n + 1 / 2) * 2 ^ e) :
    nearest q ≤ n * 2 ^ e := by
  have hpos : (0 : ℚ) < 2 ^ e := by positivity
  rw [nearest, he]
  refine mul_le_mul_of_nonneg_right (Int.cast_le.mpr (roundHalfEven_le_of_lt ?_)) hpos.le
  rwa [div_lt_iff₀ hpos]

/-- A number above it is rounded to the upper one at least. -/
theorem le_nearest_of_lt {q : ℚ} {e n : ℤ} (he : lastPlace q = e) (h : (n + 1 / 2) * 2 ^ e < q) :
    (n + 1 : ℤ) * 2 ^ e ≤ nearest q := by
  have hpos : (0 : ℚ) < 2 ^ e := by positivity
  rw [nearest, he]
  refine mul_le_mul_of_nonneg_right (Int.cast_le.mpr (lt_roundHalfEven_of_lt ?_)) hpos.le
  rwa [lt_div_iff₀ hpos]

/-- Of two multiples of its last place, of which the upper one is even, a number is rounded below
the upper one exactly if it is below the middle. -/
theorem nearest_lt_iff {q : ℚ} {e n : ℤ} (he : lastPlace q = e) (hodd : n % 2 = 1) :
    nearest q < (n + 1 : ℤ) * 2 ^ e ↔ q < (n + 1 / 2) * 2 ^ e := by
  have hpos : (0 : ℚ) < 2 ^ e := by positivity
  constructor
  · intro h
    by_contra hle
    rcases (not_lt.mp hle).lt_or_eq with hlt | heq
    · exact absurd h (not_lt.mpr (le_nearest_of_lt he hlt))
    · -- The number is halfway, and goes to the even multiple.
      have hdiv : q / 2 ^ e = n + 1 / 2 := by rw [← heq, mul_div_cancel_right₀ _ hpos.ne']
      rw [nearest, he, hdiv, roundHalfEven_add_half hodd] at h
      exact lt_irrefl _ h
  · intro h
    have hnext : (n : ℚ) < (n + 1 : ℤ) := Int.cast_lt.mpr (Int.lt_add_one_iff.mpr le_rfl)
    exact (nearest_le_of_lt he h).trans_lt (mul_lt_mul_of_pos_right hnext hpos)

/-- An integer is rounded to an integer. -/
theorem exists_intCast_nearest (n : ℤ) : ∃ m : ℤ, nearest n = m := by
  rcases le_or_gt 0 (lastPlace n) with h | h
  · refine ⟨roundHalfEven (n / 2 ^ lastPlace (n : ℚ)) * 2 ^ (lastPlace (n : ℚ)).toNat, ?_⟩
    rw [nearest, Int.cast_mul, Int.cast_pow, Int.cast_ofNat, ← zpow_natCast, Int.toNat_of_nonneg h]
  · -- All bits of the integer are kept.
    have hlt : |(n : ℚ)| < 2 ^ (53 : ℤ) :=
      (abs_lt_zpow_lastPlace n).trans_le (zpow_le_zpow_right₀ one_le_two (by omega))
    have hlt' : |n| < 2 ^ 53 := by exact_mod_cast hlt
    exact ⟨n, nearest_intCast hlt'.le⟩

/-- The relative error of an integer. -/
theorem abs_nearest_intCast_sub_le (n : ℤ) : |nearest n - n| ≤ |(n : ℚ)| / 2 ^ 53 := by
  rcases eq_or_ne n 0 with rfl | hn
  · rw [Int.cast_zero, nearest_zero]
    norm_num
  · have hone : (1 : ℚ) ≤ |(n : ℚ)| := by exact_mod_cast Int.one_le_abs hn
    have hnormal : (2 : ℚ) ^ (-1022 : ℤ) ≤ 1 := zpow_le_one_of_nonpos₀ one_le_two (by norm_num)
    exact abs_nearest_sub_le (hnormal.trans hone)

end EnergyStation.Binary64
