import EnergyStation.Lib.Numeral
import Mathlib.Algebra.Order.Floor.Ring
import Mathlib.Data.Rat.Floor
import Mathlib.Tactic.FieldSimp
import Mathlib.Tactic.Linarith
import Mathlib.Tactic.Ring

/-!
# Fixed-point numerals

A number of `10^k`-ths is written with its integer part, a point and exactly `k` decimals
(`fixedPoint`). The scanners of `Numeral` read the text back to the digits that were written
(`spanDigits_fixedPoint`, `takeFraction_fixedDigits`), and the digits denote the number
(`decimalValue_fixedPoint`). `roundHalfEven` is the rounding that formatting does before.
-/

namespace EnergyStation.Numeral

/-- Digits in two parts. -/
theorem ofDigits_append (b : ℕ) (l l' : List ℕ) :
    ofDigits b (l ++ l') = ofDigits b l * b ^ l'.length + ofDigits b l' := by
  have h : Nat.ofDigits b (l'.reverse ++ l.reverse) =
      Nat.ofDigits b l'.reverse + b ^ l'.reverse.length * Nat.ofDigits b l.reverse :=
    Nat.ofDigits_append
  rw [← List.reverse_append, ← ofDigits_reverse, ← ofDigits_reverse, ← ofDigits_reverse,
    List.reverse_reverse, List.reverse_reverse, List.reverse_reverse, List.length_reverse] at h
  rw [h]
  ring

/-- The last `k` decimal digits of a number, most significant first. -/
def fixedDigits : ℕ → ℕ → List ℕ
  | 0, _ => []
  | k + 1, n => fixedDigits k (n / 10) ++ [n % 10]

@[simp] theorem length_fixedDigits (k n : ℕ) : (fixedDigits k n).length = k := by
  induction k generalizing n with
  | zero => rfl
  | succ k ih => rw [fixedDigits, List.length_append, ih, List.length_singleton]

theorem fixedDigits_lt_ten {k n d : ℕ} (h : d ∈ fixedDigits k n) : d < 10 := by
  induction k generalizing n with
  | zero => simp [fixedDigits] at h
  | succ k ih =>
    rcases List.mem_append.mp h with h | h
    · exact ih h
    · rw [List.mem_singleton.mp h]
      omega

theorem ofDigits_fixedDigits (k n : ℕ) : ofDigits 10 (fixedDigits k n) = n % 10 ^ k := by
  induction k generalizing n with
  | zero => simp [fixedDigits, ofDigits, Nat.mod_one]
  | succ k ih =>
    have hlast : ofDigits 10 [n % 10] = n % 10 := by simp [ofDigits]
    -- The last digit, and the decimals of the rest.
    have hsplit : n % 10 ^ (k + 1) = n % 10 + 10 * (n / 10 % 10 ^ k) := by
      rw [pow_succ, Nat.mul_comm, Nat.mod_mul]
    rw [fixedDigits, ofDigits_append, ih, hlast, hsplit, List.length_singleton]
    omega

/-- The last digits of a number are those of its remainder. -/
theorem fixedDigits_mod (k n : ℕ) : fixedDigits k (n % 10 ^ k) = fixedDigits k n := by
  induction k generalizing n with
  | zero => rfl
  | succ k ih =>
    have hlast : n % 10 ^ (k + 1) % 10 = n % 10 := by
      rw [pow_succ, Nat.mod_mul_left_mod]
    have hrest : n % 10 ^ (k + 1) / 10 = n / 10 % 10 ^ k := by
      rw [pow_succ, Nat.mul_comm, Nat.mod_mul_right_div_self]
    rw [fixedDigits, fixedDigits, hlast, hrest, ih]

@[simp] theorem fixedDigits_zero (k : ℕ) : fixedDigits k 0 = List.replicate k 0 := by
  induction k with
  | zero => rfl
  | succ k ih => rw [fixedDigits, Nat.zero_div, ih, List.replicate_succ']

/-- A number of two or more digits has the digits of its tenth, and its last digit. -/
theorem digits_of_ten_le {n : ℕ} (h : 10 ≤ n) : digits n = digits (n / 10) ++ [n % 10] := by
  have hn : n ≠ 0 := by omega
  have hdiv : n / 10 ≠ 0 := by omega
  unfold digits
  rw [if_neg hn, if_neg hdiv, Nat.digits_def' (by norm_num) (by omega), List.reverse_cons]

/-- The last digits of a number that has no more of them are its digits after zeros. -/
theorem fixedDigits_of_lt {k n : ℕ} (hk : 0 < k) (hn : n < 10 ^ k) :
    fixedDigits k n = List.replicate (k - (digits n).length) 0 ++ digits n := by
  induction k generalizing n with
  | zero => omega
  | succ k ih =>
    rw [pow_succ] at hn
    rw [fixedDigits]
    rcases Nat.lt_or_ge n 10 with hone | hten
    · have hdigits : digits n = [n] := by
        unfold digits
        split_ifs with h0
        · rw [h0]
        · rw [Nat.digits_of_lt 10 n h0 hone]
          rfl
      rw [hdigits, Nat.div_eq_of_lt hone, Nat.mod_eq_of_lt hone, fixedDigits_zero,
        List.length_singleton, Nat.add_sub_cancel]
    · have hk0 : 0 < k := by
        rcases Nat.eq_zero_or_pos k with rfl | h
        · omega
        · exact h
      rw [ih hk0 (by omega), digits_of_ten_le hten, List.length_append, List.length_singleton,
        Nat.add_sub_add_right, List.append_assoc]

/-- The text of `n / 10^k`, with `k` decimals. -/
def fixedPoint (k n : ℕ) : List ℕ :=
  decimal (n / 10 ^ k) ++ 46 :: (fixedDigits k n).map (48 + ·)

/-- The sign in front of a number's text. -/
def signText (negative : Bool) : List ℕ := if negative then [45] else []

/-- A fixed-point text consists of digits and a point. -/
theorem fixedPoint_bounds {k n c : ℕ} (h : c ∈ fixedPoint k n) : 46 ≤ c ∧ c ≤ 57 := by
  rcases List.mem_append.mp h with h | h
  · have := decimal_bounds h
    omega
  · rcases List.mem_cons.mp h with rfl | h
    · omega
    · obtain ⟨d, hd, rfl⟩ := List.mem_map.mp h
      have := fixedDigits_lt_ten hd
      omega

/-- A fixed-point text has as many characters as its integer part, a point and its decimals. -/
theorem length_fixedPoint_le {k n j : ℕ} (hj : 0 < j) (hn : n / 10 ^ k < 10 ^ j) :
    (fixedPoint k n).length ≤ j + 1 + k := by
  have hlen := length_digits_le hj hn
  rw [fixedPoint, List.length_append, decimal, List.length_map, List.length_cons, List.length_map,
    length_fixedDigits]
  omega

/-- A fixed-point text with a sign is ASCII, without zero bytes. -/
theorem signText_fixedPoint_bounds {negative : Bool} {k n c : ℕ}
    (h : c ∈ signText negative ++ fixedPoint k n) : 0 < c ∧ c < 128 := by
  rcases List.mem_append.mp h with h | h
  · unfold signText at h
    split_ifs at h
    · rw [List.mem_singleton.mp h]
      omega
    · exact absurd h List.not_mem_nil
  · have hbounds := fixedPoint_bounds h
    omega

/-- A fixed-point text starts with a digit. -/
theorem fixedPoint_eq_cons (k n : ℕ) : ∃ c s, fixedPoint k n = c :: s ∧ 48 ≤ c ∧ c ≤ 57 := by
  unfold fixedPoint
  cases hdec : decimal (n / 10 ^ k) with
  | nil => exact absurd hdec (decimal_ne_nil _)
  | cons c s =>
    have hc : 48 ≤ c ∧ c ≤ 57 := decimal_bounds (by rw [hdec]; exact List.mem_cons_self)
    exact ⟨c, _, rfl, hc⟩

/-- The digits before the point are those of the integer part. -/
theorem spanDigits_fixedPoint (k n : ℕ) (rest : List ℕ) :
    spanDigits digitVal (fixedPoint k n ++ rest) =
      (digits (n / 10 ^ k), 46 :: ((fixedDigits k n).map (48 + ·) ++ rest)) := by
  have hpoint : ∀ c s, 46 :: ((fixedDigits k n).map (48 + ·) ++ rest) = c :: s →
      digitVal c = none := by
    intro c s h
    rw [← (List.cons.inj h).1]
    rfl
  have h := spanDigits_map (fun d hd => digits_lt_ten (n := n / 10 ^ k) hd) hpoint
  rwa [fixedPoint, List.append_assoc, List.cons_append]

/-- The digits after the point are the decimals, up to a character that is no digit. -/
theorem takeFraction_fixedDigits {rest : List ℕ} (hrest : ∀ c s, rest = c :: s → digitVal c = none)
    (k n : ℕ) :
    takeFraction digitVal (46 :: ((fixedDigits k n).map (48 + ·) ++ rest)) =
      (fixedDigits k n, rest) := by
  rw [takeFraction, if_pos rfl, spanDigits_map (fun d hd => fixedDigits_lt_ten hd) hrest]

/-- The digits of a fixed-point text denote its number. -/
theorem decimalValue_fixedPoint (k n : ℕ) :
    decimalValue (digits (n / 10 ^ k)) (fixedDigits k n) 0 = n / 10 ^ k := by
  have hdigits : ofDigits 10 (digits (n / 10 ^ k) ++ fixedDigits k n) = n := by
    rw [ofDigits_append, ofDigits_digits, ofDigits_fixedDigits, length_fixedDigits,
      Nat.div_add_mod']
  unfold decimalValue
  rw [hdigits, length_fixedDigits, zero_sub, zpow_neg, zpow_natCast, div_eq_mul_inv]

/-- The integer nearest to a rational, and of two nearest the even one. -/
def roundHalfEven (q : ℚ) : ℤ :=
  if q - ⌊q⌋ < 1 / 2 then ⌊q⌋
  else if 1 / 2 < q - ⌊q⌋ then ⌊q⌋ + 1
  else ⌊q⌋ + ⌊q⌋ % 2

/-- Rounding goes down or up by less than one. -/
theorem roundHalfEven_bounds (q : ℚ) : ⌊q⌋ ≤ roundHalfEven q ∧ roundHalfEven q ≤ ⌊q⌋ + 1 := by
  unfold roundHalfEven
  split_ifs <;> omega

/-- Rounding moves a number by one half at most. -/
theorem abs_roundHalfEven_sub_le (q : ℚ) : |(roundHalfEven q : ℚ) - q| ≤ 1 / 2 := by
  have hlow : (⌊q⌋ : ℚ) ≤ q := Int.floor_le q
  have hhigh : q < ⌊q⌋ + 1 := Int.lt_floor_add_one q
  unfold roundHalfEven
  split_ifs with hdown hup
  · exact abs_le.mpr ⟨by linarith, by linarith⟩
  · push_cast
    exact abs_le.mpr ⟨by linarith, by linarith⟩
  · -- The number is halfway between two integers.
    have heq : q - ⌊q⌋ = 1 / 2 := le_antisymm (not_lt.mp hup) (not_lt.mp hdown)
    rcases Int.emod_two_eq_zero_or_one ⌊q⌋ with h | h
    · rw [h, add_zero, abs_sub_comm, heq]
      norm_num
    · rw [h, Int.cast_add, Int.cast_one, abs_le]
      exact ⟨by linarith, by linarith⟩

/-- An integer is left as it is. -/
theorem roundHalfEven_intCast (n : ℤ) : roundHalfEven n = n := by
  unfold roundHalfEven
  rw [Int.floor_intCast, sub_self, if_pos (by norm_num)]

/-- Rounding does not go below an integer. -/
theorem le_roundHalfEven {q : ℚ} {n : ℤ} (h : n ≤ q) : n ≤ roundHalfEven q :=
  (Int.le_floor.mpr h).trans (roundHalfEven_bounds q).1

/-- Rounding does not go beyond an integer. -/
theorem roundHalfEven_le {q : ℚ} {n : ℤ} (h : q ≤ n) : roundHalfEven q ≤ n := by
  rcases h.lt_or_eq with hlt | rfl
  · have hfloor : ⌊q⌋ < n := Int.floor_lt.mpr hlt
    have hround := (roundHalfEven_bounds q).2
    omega
  · exact (roundHalfEven_intCast n).le

/-- A number that is less than one half above an integer is not rounded up from it. -/
theorem roundHalfEven_le_of_lt {q : ℚ} {n : ℤ} (h : q < n + 1 / 2) : roundHalfEven q ≤ n := by
  rcases le_or_gt q n with hle | hlt
  · exact roundHalfEven_le hle
  · have hfloor : ⌊q⌋ = n := Int.floor_eq_iff.mpr ⟨hlt.le, by linarith⟩
    unfold roundHalfEven
    rw [hfloor, if_pos (by linarith)]

/-- A number that is more than one half above an integer is rounded up from it. -/
theorem lt_roundHalfEven_of_lt {q : ℚ} {n : ℤ} (h : n + 1 / 2 < q) : n < roundHalfEven q := by
  rcases le_or_gt (n + 1 : ℚ) q with hle | hlt
  · have hceil : (n + 1 : ℤ) ≤ roundHalfEven q := le_roundHalfEven (by push_cast; exact hle)
    omega
  · have hfloor : ⌊q⌋ = n := Int.floor_eq_iff.mpr ⟨by linarith, hlt⟩
    unfold roundHalfEven
    rw [hfloor, if_neg (by linarith), if_pos (by linarith)]
    omega

/-- One half above an odd integer is rounded up, to the even one. -/
theorem roundHalfEven_add_half {n : ℤ} (h : n % 2 = 1) : roundHalfEven (n + 1 / 2) = n + 1 := by
  have hfloor : ⌊(n + 1 / 2 : ℚ)⌋ = n := Int.floor_eq_iff.mpr ⟨by linarith, by linarith⟩
  unfold roundHalfEven
  rw [hfloor, if_neg (by linarith), if_neg (by linarith), h]

/-- Rounding is symmetric. -/
theorem roundHalfEven_neg (q : ℚ) : roundHalfEven (-q) = -roundHalfEven q := by
  have hfract : q = ⌊q⌋ + Int.fract q := (Int.floor_add_fract q).symm
  rcases eq_or_ne (Int.fract q) 0 with hzero | hne
  · rw [hfract, hzero, add_zero, ← Int.cast_neg, roundHalfEven_intCast, roundHalfEven_intCast]
  have hfloor : ⌊-q⌋ = -⌊q⌋ - 1 := by
    have hpos : 0 < Int.fract q := lt_of_le_of_ne (Int.fract_nonneg q) hne.symm
    have hlt := Int.fract_lt_one q
    refine Int.floor_eq_iff.mpr ⟨?_, ?_⟩
    · push_cast
      linarith
    · push_cast
      linarith
  have hself : q - ⌊q⌋ = Int.fract q := rfl
  have hother : -q - ((-⌊q⌋ - 1 : ℤ) : ℚ) = 1 - Int.fract q := by
    push_cast
    linarith
  unfold roundHalfEven
  rw [hfloor, hother, hself]
  -- What is left below one half of the number is above one half of its negative.
  rcases lt_trichotomy (Int.fract q) (1 / 2) with hlow | hhalf | hhigh
  · rw [if_neg (by linarith), if_pos (by linarith), if_pos hlow]
    omega
  · rw [hhalf]
    norm_num
    omega
  · rw [if_pos (by linarith), if_neg (by linarith), if_pos hhigh]
    omega

/-- A number up to one half is rounded to zero. -/
theorem roundHalfEven_eq_zero {q : ℚ} (h : |q| ≤ 1 / 2) : roundHalfEven q = 0 := by
  obtain ⟨hlow, hhigh⟩ := abs_le.mp h
  rcases hhigh.lt_or_eq with hhigh | rfl
  · rcases hlow.lt_or_eq with hlow | rfl
    · have hle : roundHalfEven q ≤ 0 :=
        roundHalfEven_le_of_lt (by push_cast; linarith)
      have hneg : roundHalfEven (-q) ≤ 0 :=
        roundHalfEven_le_of_lt (by push_cast; linarith)
      rw [roundHalfEven_neg] at hneg
      omega
    · decide +kernel
  · decide +kernel

/-- The integer nearest to a rational, and of two nearest the one that is farther from zero. -/
def roundHalfAway (q : ℚ) : ℤ := if 0 ≤ q then ⌊q + 1 / 2⌋ else -⌊-q + 1 / 2⌋

/-- Rounding moves a number by one half at most. -/
theorem abs_roundHalfAway_sub_le (q : ℚ) : |(roundHalfAway q : ℚ) - q| ≤ 1 / 2 := by
  unfold roundHalfAway
  split_ifs with h
  · have hlow := Int.floor_le (q + 1 / 2)
    have hhigh := Int.lt_floor_add_one (q + 1 / 2)
    exact abs_le.mpr ⟨by linarith, by linarith⟩
  · have hlow := Int.floor_le (-q + 1 / 2)
    have hhigh := Int.lt_floor_add_one (-q + 1 / 2)
    rw [Int.cast_neg]
    exact abs_le.mpr ⟨by linarith, by linarith⟩

/-- Rounding keeps the order. -/
theorem roundHalfAway_mono {p q : ℚ} (h : p ≤ q) : roundHalfAway p ≤ roundHalfAway q := by
  unfold roundHalfAway
  split_ifs with hp hq hq
  · exact Int.floor_le_floor (by linarith)
  · exact absurd (hp.trans h) hq
  · have hpos : 0 ≤ ⌊-p + 1 / 2⌋ := Int.floor_nonneg.mpr (by linarith)
    have hpos' : 0 ≤ ⌊q + 1 / 2⌋ := Int.floor_nonneg.mpr (by linarith)
    omega
  · have hfloor : ⌊-q + 1 / 2⌋ ≤ ⌊-p + 1 / 2⌋ := Int.floor_le_floor (by linarith)
    omega

end EnergyStation.Numeral
