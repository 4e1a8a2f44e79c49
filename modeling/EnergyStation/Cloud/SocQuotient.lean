import EnergyStation.Cloud.EnergyState

/-!
# The state of charge as a quotient of doubles

The cloud reads both capacities as doubles and divides them. Neither the readings nor the quotient
are exact, and the two thresholds are doubles, too. For numbers of tenths all of this decides as the
exact quotient does (`socRecovered_quotient_iff`), but for one case: at a quotient of exactly 20
percent, the reading of the charge may fall short of it by so much that the battery is found low
(`socLow_quotient_iff`).
-/

namespace EnergyStation.Cloud

open Python
open Binary64

/-- The double that is read from a number of tenths. -/
def readTenths (n : ℕ) : ℚ := nearest (n / 10)

/-- The double falls short of the number by more than the half of a place at 20 percent. -/
def FallsShort (n : ℕ) : Prop := readTenths n < n / 10 * (1 - 1 / 2 ^ 56)

instance (n : ℕ) : Decidable (FallsShort n) := inferInstanceAs (Decidable (_ < _))

theorem readTenths_bounds (n : ℕ) :
    (n / 10 - n / 10 / 2 ^ 53 : ℚ) ≤ readTenths n ∧ readTenths n ≤ n / 10 + n / 10 / 2 ^ 53 := by
  rcases Nat.eq_zero_or_pos n with rfl | hn
  · simp [readTenths]
  · have hn' : (1 : ℚ) ≤ n := by exact_mod_cast hn
    have hnormal : (2 : ℚ) ^ (-1022 : ℤ) ≤ 2 ^ (-4 : ℤ) :=
      zpow_le_zpow_right₀ one_le_two (by norm_num)
    exact nearest_bounds (hnormal.trans (by linarith))

theorem readTenths_pos {n : ℕ} (hn : 0 < n) : 0 < readTenths n := by
  have hn' : (1 : ℚ) ≤ n := by exact_mod_cast hn
  have hlow := (readTenths_bounds n).1
  linarith

/-- Half of a number is read as it is. -/
theorem readTenths_mul_five {n : ℕ} (hn : n < 2 ^ 31) : readTenths (5 * n) = n / 2 := by
  have hhalf : ((5 * n : ℕ) / 10 : ℚ) = n / 2 := by
    push_cast
    ring
  have hdouble : IsDouble (n / 2 : ℚ) :=
    ⟨n, -1, by rw [Nat.abs_cast]; omega, by norm_num, by simp [div_eq_mul_inv]⟩
  rw [readTenths, hhalf, nearest_of_isDouble hdouble]

section Quotient

variable {c m : ℕ}

/-- A quotient below 20 percent stays clear of it. -/
theorem nearest_div_lt_of_lt (hm : m < 2 ^ 31) (h : 5 * c < m) :
    nearest (readTenths c / readTenths m) < dieselDispatchSoc := by
  have hpos := readTenths_pos (Nat.zero_lt_of_lt h)
  have hm' : (m : ℚ) ≤ 2 ^ 31 := by exact_mod_cast hm.le
  have h' : (5 * c + 1 : ℚ) ≤ m := by exact_mod_cast h
  have hc := (readTenths_bounds c).2
  have hlow := (readTenths_bounds m).1
  have hdouble : IsDouble (3602879701896396 / 2 ^ 54 : ℚ) :=
    ⟨3602879701896396, -54, by norm_num, by norm_num, by norm_num⟩
  have hle : readTenths c / readTenths m ≤ 3602879701896396 / 2 ^ 54 := by
    rw [div_le_iff₀ hpos]
    linarith
  rw [dieselDispatchSoc_eq]
  exact (nearest_le hdouble hle).trans_lt (by norm_num)

/-- So does a quotient above it. -/
theorem le_nearest_div_of_lt (hm0 : 0 < m) (hm : m < 2 ^ 31) (h : m < 5 * c) :
    dieselDispatchSoc ≤ nearest (readTenths c / readTenths m) := by
  have hpos := readTenths_pos hm0
  have hm' : (m : ℚ) ≤ 2 ^ 31 := by exact_mod_cast hm.le
  have h' : (m + 1 : ℚ) ≤ 5 * c := by exact_mod_cast h
  have hlow := (readTenths_bounds c).1
  have hhigh := (readTenths_bounds m).2
  refine le_nearest (isDouble_nearest _) ?_
  rw [dieselDispatchSoc_eq, le_div_iff₀ hpos]
  linarith

/-- At exactly 20 percent the capacity is read as it is, so the reading of the charge decides. The
quotient is rounded down where it is below the middle of the threshold and the double before it. -/
theorem nearest_div_mul_five_lt_iff (hc0 : 0 < c) (hc : c < 2 ^ 31) :
    nearest (readTenths c / readTenths (5 * c)) < dieselDispatchSoc ↔ FallsShort c := by
  have hc' : (0 : ℚ) < c := by exact_mod_cast hc0
  have hhalf : (0 : ℚ) < c / 2 := by linarith
  obtain ⟨hlow, hhigh⟩ := readTenths_bounds c
  rw [readTenths_mul_five hc]
  have hplace : lastPlace (readTenths c / (c / 2)) = -55 := by
    have hnonneg : 0 ≤ readTenths c / (c / 2) := (div_pos (readTenths_pos hc0) hhalf).le
    refine lastPlace_eq ?_ ?_ (by norm_num)
    · rw [abs_of_nonneg hnonneg, le_div_iff₀ hhalf]
      norm_num
      linarith
    · rw [abs_of_nonneg hnonneg, div_lt_iff₀ hhalf]
      norm_num
      linarith
  have hshort : FallsShort c ↔
      readTenths c / (c / 2) < ((7205759403792793 : ℤ) + 1 / 2 : ℚ) * 2 ^ (-55 : ℤ) := by
    rw [FallsShort, div_lt_iff₀ hhalf]
    norm_num
    constructor
    · intro h
      linarith
    · intro h
      linarith
  have hthreshold : dieselDispatchSoc = (7205759403792793 + 1 : ℤ) * 2 ^ (-55 : ℤ) := by
    rw [dieselDispatchSoc_eq]
    norm_num
  rw [hshort, hthreshold]
  exact nearest_lt_iff hplace (by norm_num)

/-- The battery is found low below 20 percent, and at 20 percent where the reading falls short. -/
theorem socLow_quotient_iff (hm0 : 0 < m) (hm : m < 2 ^ 31) :
    nearest (readTenths c / readTenths m) < dieselDispatchSoc ↔
      5 * c < m ∨ 5 * c = m ∧ FallsShort c := by
  rcases lt_trichotomy (5 * c) m with hlt | rfl | hgt
  · exact iff_of_true (nearest_div_lt_of_lt hm hlt) (.inl hlt)
  · rw [nearest_div_mul_five_lt_iff (by omega) (by omega)]
    simp
  · refine iff_of_false (not_lt.mpr (le_nearest_div_of_lt hm0 hm hgt)) ?_
    omega

/-- At exactly 40 percent the quotient is rounded to the threshold at most. -/
theorem nearest_div_le_of_eq (hm0 : 0 < m) (hm : m < 2 ^ 31) (h : 5 * c = 2 * m) :
    nearest (readTenths c / readTenths m) ≤ dieselRecoverSoc := by
  obtain ⟨k, rfl⟩ : ∃ k, m = 5 * k := ⟨m / 5, by omega⟩
  obtain rfl : c = 2 * k := by omega
  have hk : (0 : ℚ) < k := by exact_mod_cast (by omega : 0 < k)
  have hhalf : (0 : ℚ) < k / 2 := by linarith
  obtain ⟨hlow, hhigh⟩ := readTenths_bounds (2 * k)
  push_cast at hlow hhigh
  rw [readTenths_mul_five (by omega)]
  have hplace : lastPlace (readTenths (2 * k) / (k / 2)) = -54 := by
    have hnonneg : 0 ≤ readTenths (2 * k) / (k / 2) :=
      (div_pos (readTenths_pos (by omega)) hhalf).le
    refine lastPlace_eq ?_ ?_ (by norm_num)
    · rw [abs_of_nonneg hnonneg, le_div_iff₀ hhalf]
      norm_num
      linarith
    · rw [abs_of_nonneg hnonneg, div_lt_iff₀ hhalf]
      norm_num
      linarith
  have hthreshold : dieselRecoverSoc = (7205759403792794 : ℤ) * 2 ^ (-54 : ℤ) := by
    rw [dieselRecoverSoc_eq]
    norm_num
  rw [hthreshold]
  refine nearest_le_of_lt hplace ?_
  rw [div_lt_iff₀ hhalf]
  norm_num
  linarith

/-- The battery is found recovered above 40 percent, and nowhere else. -/
theorem socRecovered_quotient_iff (hm0 : 0 < m) (hm : m < 2 ^ 31) :
    dieselRecoverSoc < nearest (readTenths c / readTenths m) ↔ 2 * m < 5 * c := by
  have hpos := readTenths_pos hm0
  have hm' : (m : ℚ) ≤ 2 ^ 31 := by exact_mod_cast hm.le
  obtain ⟨hclow, hchigh⟩ := readTenths_bounds c
  obtain ⟨hmlow, hmhigh⟩ := readTenths_bounds m
  rcases lt_trichotomy (2 * m) (5 * c) with hlt | heq | hgt
  · refine iff_of_true ?_ hlt
    have hlt' : (2 * m + 1 : ℚ) ≤ 5 * c := by exact_mod_cast hlt
    have hdouble : IsDouble (3602879701896398 / 2 ^ 53 : ℚ) :=
      ⟨3602879701896398, -53, by norm_num, by norm_num, by norm_num⟩
    rw [dieselRecoverSoc_eq]
    refine lt_of_lt_of_le (by norm_num) (le_nearest hdouble ?_)
    rw [le_div_iff₀ hpos]
    linarith
  · exact iff_of_false (not_lt.mpr (nearest_div_le_of_eq hm0 hm heq.symm)) (by omega)
  · refine iff_of_false (not_lt.mpr (nearest_le (isDouble_nearest _) ?_)) (by omega)
    have hgt' : (5 * c + 1 : ℚ) ≤ 2 * m := by exact_mod_cast hgt
    rw [dieselRecoverSoc_eq, div_le_iff₀ hpos]
    linarith

end Quotient

end EnergyStation.Cloud
