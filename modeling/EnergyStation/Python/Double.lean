import EnergyStation.Lib.Binary64
import EnergyStation.Python.FloatSum
import Mathlib.Algebra.Order.BigOperators.Group.List

/-!
# Floats in double precision

The operations of `Value` leave their results as they are, within the range of doubles. Here each
result is rounded to the nearest double. An `Arith` is one of the two, so that a function that
computes with floats can be given both meanings: `Arith.exact` and `Arith.double`.

`sum` of floats adds from left to right. From version 3.12 on it also adds up what its additions
lose, and corrects the result by that (`doubleSum`). Either way the sum of integers that are not
negative is exact up to `2 ^ 53` (`doubleSum_intCast`), and beyond it is their sum up to a small
relative error (`doubleSum_near`).
-/

namespace EnergyStation.Python

open Binary64

/-- The double nearest to a number. -/
def toDouble : ExtRat → ExtRat
  | .fin q => .fin (nearest q)
  | .nan => .nan
  | .posInf => .posInf
  | .negInf => .negInf

/-- `x + y` of doubles. -/
def doubleAdd (x y : ExtRat) : ExtRat := toDouble (floatAdd x y)

/-- `x - y` of doubles. -/
def doubleSub (x y : ExtRat) : ExtRat := toDouble (floatSub x y)

/-- `x / y` of doubles, for a `y` that is not zero. -/
def doubleDiv (x y : ExtRat) : ExtRat := toDouble (floatDiv x y)

/-- The number as a float, unless it is too large. -/
def Num.toFloat? : Num → Option ExtRat
  | .int n => if floatOverflow ≤ |(n : ℚ)| then none else some (.fin (nearest n))
  | .float x => some (toDouble x)

/-- The quotient of two numbers. Two integers are divided before the result is made a float. -/
def Num.div : Num → Num → Option ExtRat
  | .int a, .int b =>
    if b = 0 ∨ floatOverflow ≤ |(a / b : ℚ)| then none else some (toDouble (floatOfRat (a / b)))
  | a, b =>
    a.toFloat?.bind fun x =>
      b.toFloat?.bind fun y => if y = .fin 0 then none else some (doubleDiv x y)

/-- `x / y`, where `none` means that the division raises. -/
def trueDiv (x y : Val) : Option ExtRat :=
  (toNum x).bind fun a => (toNum y).bind fun b => a.div b

/-- An addition of `sum`: the sum so far and what its additions have lost, after one more summand.
The loss is computed from the larger of the two summands. -/
def sumStep (acc : ExtRat × ExtRat) (x : ExtRat) : ExtRat × ExtRat :=
  let t := doubleAdd acc.1 x
  let lost :=
    if x.abs.le acc.1.abs then doubleAdd (doubleSub acc.1 t) x
    else doubleAdd (doubleSub x t) acc.1
  (t, doubleAdd acc.2 lost)

/-- The sum of doubles, and what its additions have lost. -/
def sumPair (l : List ExtRat) : ExtRat × ExtRat := l.foldl sumStep (.fin 0, .fin 0)

/-- `sum(l)` of doubles. -/
def doubleSum (py : Interp) (l : List ExtRat) : ExtRat :=
  -- A correction that is infinite or NaN is left out, as is one of zero.
  if py.compensatedSum ∧ (sumPair l).2.isFinite ∧ (sumPair l).2 ≠ .fin 0 then
    doubleAdd (sumPair l).1 (sumPair l).2
  else (sumPair l).1

/-- The arithmetic of floats: how the result of an operation is rounded, and what `sum` does. -/
structure Arith where
  /-- The rounding of a result. -/
  round : ExtRat → ExtRat
  /-- `sum(l)` -/
  sum : List ExtRat → ExtRat

/-- Arithmetic without rounding. -/
def Arith.exact : Arith := ⟨id, floatSum⟩

/-- Arithmetic of doubles. -/
def Arith.double (py : Interp) : Arith := ⟨toDouble, doubleSum py⟩

/-- What underflows is half of the smallest double at most. -/
theorem floatUnderflow_eq : floatUnderflow = 1 / 2 * 2 ^ (-1074 : ℤ) := by
  have hexp : (-1075 : ℤ) = -1 + -1074 := by norm_num
  have hpow : floatUnderflow = 2 ^ (-1075 : ℤ) := by
    rw [floatUnderflow, zpow_neg]
    norm_cast
  rw [hpow, hexp, zpow_add₀ two_ne_zero, zpow_neg_one, one_div]

/-- A number that underflows is rounded to zero. -/
theorem nearest_flush (q : ℚ) : nearest (flush q) = nearest q := by
  unfold flush
  split_ifs with h
  · rw [nearest_zero]
    rcases eq_or_ne q 0 with rfl | hq
    · exact nearest_zero.symm
    have hpos : (0 : ℚ) < 2 ^ lastPlace q := by positivity
    -- The number is below every binade, so its last place is the very last one.
    have hplace : lastPlace q = -1074 := by
      by_contra hne
      have hle : -1074 ≤ lastPlace q := le_max_right _ _
      have hbinade := zpow_lastPlace_le_abs hq (lt_of_le_of_ne hle (Ne.symm hne))
      have hmono : (2 : ℚ) ^ (-1074 : ℤ) ≤ 2 ^ (lastPlace q + 52) :=
        zpow_le_zpow_right₀ one_le_two (by omega)
      have hsmall : (0 : ℚ) < 2 ^ (-1074 : ℤ) := by positivity
      rw [floatUnderflow_eq] at h
      linarith
    have hscaled : |q / 2 ^ lastPlace q| ≤ 1 / 2 := by
      rw [abs_div, abs_of_pos hpos, div_le_iff₀ hpos, hplace, ← floatUnderflow_eq]
      exact h
    rw [nearest, Numeral.roundHalfEven_eq_zero hscaled, Int.cast_zero, zero_mul]
  · rfl

/-- Overflow begins half of a last place below the end of the last binade. -/
theorem floatOverflow_eq : floatOverflow = ((2 ^ 53 - 1 : ℤ) + 1 / 2 : ℚ) * 2 ^ (971 : ℤ) := by
  have hbinade : (2 : ℚ) ^ 1024 = 2 ^ 53 * 2 ^ 971 := by rw [← pow_add]
  have hhalf : (2 : ℚ) ^ 971 = 2 ^ 970 * 2 := pow_succ 2 970
  have hint : (2 : ℚ) ^ (971 : ℤ) = 2 ^ 971 := zpow_natCast 2 971
  rw [floatOverflow, hint, hbinade, hhalf]
  generalize (2 : ℚ) ^ 970 = p
  push_cast
  ring

/-- A magnitude is in range exactly if it is in range when rounded. -/
theorem nearest_lt_floatOverflow_iff {q : ℚ} (h0 : 0 ≤ q) :
    nearest q < floatOverflow ↔ q < floatOverflow := by
  have hpos : (0 : ℚ) < 2 ^ (971 : ℤ) := by positivity
  have hstep : ∀ e : ℤ, (2 : ℚ) ^ (971 + e) = 2 ^ e * 2 ^ (971 : ℤ) := by
    intro e
    rw [zpow_add₀ two_ne_zero, mul_comm]
  have hdouble : ∀ e : ℤ, -1074 ≤ e → IsDouble (2 ^ e) :=
    fun e he => ⟨1, e, by norm_num, he, by simp⟩
  rw [floatOverflow_eq]
  rcases lt_or_ge q (2 ^ (971 + 52 : ℤ)) with hlow | hlow
  · -- Below the last binade nothing overflows.
    have hle := nearest_le (hdouble _ (by norm_num)) hlow.le
    have hbound : (2 : ℚ) ^ (971 + 52 : ℤ) < ((2 ^ 53 - 1 : ℤ) + 1 / 2 : ℚ) * 2 ^ (971 : ℤ) := by
      rw [hstep]
      exact mul_lt_mul_of_pos_right (by norm_num) hpos
    exact iff_of_true (hle.trans_lt hbound) (hlow.trans hbound)
  rcases lt_or_ge q (2 ^ (971 + 53 : ℤ)) with hhigh | hhigh
  · have hplace : lastPlace q = 971 := by
      rw [← abs_of_nonneg h0] at hlow hhigh
      exact lastPlace_eq hlow hhigh (by norm_num)
    -- No multiple of the last place lies between the bound and the end of the binade.
    constructor
    · intro h
      refine (nearest_lt_iff hplace (by norm_num)).mp (h.trans_le ?_)
      exact mul_le_mul_of_nonneg_right (by norm_num) hpos.le
    · intro h
      exact (nearest_le_of_lt hplace h).trans_lt (mul_lt_mul_of_pos_right (by norm_num) hpos)
  · have hge := le_nearest (hdouble _ (by norm_num)) hhigh
    have hbound : ((2 ^ 53 - 1 : ℤ) + 1 / 2 : ℚ) * 2 ^ (971 : ℤ) ≤ 2 ^ (971 + 53 : ℤ) := by
      rw [hstep]
      exact mul_le_mul_of_nonneg_right (by norm_num) hpos.le
    exact iff_of_false (not_lt.mpr (hbound.trans hge)) (not_lt.mpr (hbound.trans hhigh))

/-- A number is in range exactly if it is in range when rounded. -/
theorem inRange_nearest_iff (q : ℚ) : InRange (nearest q) ↔ InRange q := by
  unfold InRange
  rw [abs_nearest]
  exact nearest_lt_floatOverflow_iff (abs_nonneg q)

@[simp] theorem isFinite_toDouble (x : ExtRat) : (toDouble x).isFinite = x.isFinite := by
  cases x <;> rfl

/-- A number in range is made the nearest double. -/
theorem toDouble_floatOfRat {q : ℚ} (h : InRange q) :
    toDouble (floatOfRat q) = .fin (nearest q) := by
  rw [floatOfRat_of_inRange h, toDouble, nearest_flush]

/-- The addition of doubles. -/
theorem adds_doubleAdd : Adds doubleAdd nearest where
  inRange p q h := by rw [doubleAdd, floatAdd_fin, toDouble_floatOfRat h]
  ordinary x q h := by
    rw [doubleAdd, isFinite_toDouble] at h
    exact adds_floatAdd.ordinary x q h

/-- The difference of two ordinary doubles. -/
theorem doubleSub_fin {p q : ℚ} (h : InRange (p - q)) :
    doubleSub (.fin p) (.fin q) = .fin (nearest (p - q)) := by
  rw [doubleSub, floatSub_fin, toDouble_floatOfRat h]

/-- The pair of one more summand. -/
theorem sumPair_concat (l : List ExtRat) (x : ExtRat) :
    sumPair (l ++ [x]) = sumStep (sumPair l) x := by
  rw [sumPair, List.foldl_append, List.foldl_cons, List.foldl_nil]
  rfl

/-- The sum so far does not depend on what has been lost. -/
theorem sumPair_fst (l : List ExtRat) : (sumPair l).1 = l.foldl doubleAdd (.fin 0) := by
  induction l using List.reverseRecOn with
  | nil => rfl
  | append_singleton l x ih =>
    rw [sumPair_concat, sumStep, ih, List.foldl_append, List.foldl_cons, List.foldl_nil]

/-- `sum` overflows nowhere: no partial sum does, nor does the correction of the last one, where
there is one. -/
def AddsUp (py : Interp) (l : List ℚ) : Prop :=
  SumsInRange nearest 0 l ∧
    (py.compensatedSum = true → ∀ lost, (sumPair (l.map .fin)).2 = .fin lost → lost ≠ 0 →
      InRange (roundedSum nearest 0 l + lost))

/-- The sum of ordinary numbers is an ordinary number exactly if `sum` overflows nowhere. -/
theorem isFinite_doubleSum_iff (py : Interp) (l : List ℚ) :
    (doubleSum py (l.map .fin)).isFinite = true ↔ AddsUp py l := by
  have hfst := adds_doubleAdd.isFinite_foldl_iff 0 l
  rw [← sumPair_fst] at hfst
  unfold doubleSum AddsUp
  split_ifs with hcorrect
  · obtain ⟨hcompensated, hlost, hne⟩ := hcorrect
    obtain ⟨lost, heq⟩ := ExtRat.isFinite_iff.mp hlost
    rw [heq] at hne ⊢
    have hne' : lost ≠ 0 := fun h => hne (by rw [h])
    constructor
    · intro h
      obtain ⟨s, hs, hrange⟩ := adds_doubleAdd.ordinary _ _ h
      have hsums := hfst.mp (by rw [hs]; rfl)
      have hvalue := adds_doubleAdd.foldl_of_inRange hsums
      rw [← sumPair_fst, hs] at hvalue
      refine ⟨hsums, fun _ lost' hlost' _ => ?_⟩
      rwa [← ExtRat.fin.inj hvalue, ← ExtRat.fin.inj hlost']
    · rintro ⟨hsums, hrange⟩
      have hvalue := adds_doubleAdd.foldl_of_inRange hsums
      rw [← sumPair_fst] at hvalue
      rw [hvalue, adds_doubleAdd.inRange _ _ (hrange hcompensated lost rfl hne')]
      rfl
  · rw [hfst]
    refine ⟨fun h => ⟨h, fun hcompensated lost hlost hne => ?_⟩, fun h => h.1⟩
    refine absurd ⟨hcompensated, by rw [hlost]; rfl, fun hzero => hne ?_⟩ hcorrect
    rw [hlost] at hzero
    exact ExtRat.fin.inj hzero

/-- An integer of 53 bits is in range. -/
theorem inRange_intCast {n : ℤ} (h : |n| ≤ 2 ^ 53) : InRange n := by
  have hcast : |(n : ℚ)| ≤ 2 ^ 53 := by exact_mod_cast h
  exact hcast.trans_lt ((pow_lt_pow_right₀ (by norm_num) (by norm_num)).trans_le
    (two_pow_le_floatOverflow (n := 54) (by norm_num)))

/-- The sum of two integers of 53 bits that has 53 bits itself is exact. -/
theorem doubleAdd_intCast {m n : ℤ} (h : |m + n| ≤ 2 ^ 53) :
    doubleAdd (.fin m) (.fin n) = .fin ((m + n : ℤ) : ℚ) := by
  have hrange := inRange_intCast h
  have hround := nearest_intCast h
  rw [Int.cast_add] at hrange hround ⊢
  rw [adds_doubleAdd.inRange _ _ hrange, hround]

/-- So is their difference. -/
theorem doubleSub_intCast {m n : ℤ} (h : |m - n| ≤ 2 ^ 53) :
    doubleSub (.fin m) (.fin n) = .fin ((m - n : ℤ) : ℚ) := by
  have hrange := inRange_intCast h
  have hround := nearest_intCast h
  rw [Int.cast_sub] at hrange hround ⊢
  rw [doubleSub_fin hrange, hround]

/-- Integers that are not negative are added without a loss, up to `2 ^ 53`. -/
theorem sumPair_intCast {l : List ℤ} (h0 : ∀ n ∈ l, 0 ≤ n) (h : l.sum ≤ 2 ^ 53) :
    sumPair (l.map fun n : ℤ => .fin n) = (.fin (l.sum : ℤ), .fin 0) := by
  induction l using List.reverseRecOn with
  | nil => simp [sumPair]
  | append_singleton l w ih =>
    have hl : ∀ n ∈ l, 0 ≤ n := fun n hn => h0 n (List.mem_append_left _ hn)
    have hw : 0 ≤ w := h0 w (by simp)
    have hsum : 0 ≤ l.sum := List.sum_nonneg hl
    rw [List.sum_append, List.sum_singleton] at h ⊢
    have hadd : doubleAdd (.fin (l.sum : ℤ)) (.fin w) = .fin ((l.sum + w : ℤ) : ℚ) :=
      doubleAdd_intCast (by rw [abs_of_nonneg (by omega)]; exact h)
    -- The loss is computed from either summand, and is zero.
    have hlost : ∀ x y : ℤ, 0 ≤ x → 0 ≤ y → x + y ≤ 2 ^ 53 →
        doubleAdd (doubleSub (.fin x) (.fin ((x + y : ℤ) : ℚ))) (.fin y) = .fin 0 := by
      intro x y hx hy hxy
      rw [doubleSub_intCast (by rw [abs_le]; omega), doubleAdd_intCast (by rw [abs_le]; omega)]
      congr 1
      push_cast
      ring
    have hzero : doubleAdd (.fin 0) (.fin 0) = .fin 0 := by
      have h00 := doubleAdd_intCast (m := 0) (n := 0) (by norm_num)
      simpa using h00
    rw [List.map_append, List.map_singleton, sumPair_concat, ih hl (by omega), sumStep]
    simp only [hadd]
    refine Prod.ext rfl ?_
    simp only
    split_ifs
    · rw [hlost l.sum w hsum hw h, hzero]
    · rw [add_comm l.sum w, hlost w l.sum hw hsum (by omega), hzero]

/-- The sum of integers that are not negative is exact, up to `2 ^ 53`. -/
theorem doubleSum_intCast (py : Interp) {l : List ℤ} (h0 : ∀ n ∈ l, 0 ≤ n) (h : l.sum ≤ 2 ^ 53) :
    doubleSum py (l.map fun n : ℤ => .fin n) = .fin (l.sum : ℤ) := by
  rw [doubleSum, sumPair_intCast h0 h, if_neg fun hcorrect => hcorrect.2.2 rfl]

/-- A sum is ordinary only where both summands are. -/
theorem exists_of_isFinite_doubleAdd {x y : ExtRat} (h : (doubleAdd x y).isFinite = true) :
    ∃ p q, x = .fin p ∧ y = .fin q := by
  cases y with
  | fin q =>
    obtain ⟨p, hp, -⟩ := adds_doubleAdd.ordinary x q h
    exact ⟨p, q, hp, rfl⟩
  | nan => cases x <;> cases h
  | posInf => cases x <;> cases h
  | negInf => cases x <;> cases h

/-- Two integers are added to an integer, with a small relative error. -/
theorem doubleAdd_near {m n : ℤ} (h : (doubleAdd (.fin m) (.fin n)).isFinite = true) :
    ∃ t : ℤ, doubleAdd (.fin m) (.fin n) = .fin t ∧ |(t - (m + n) : ℚ)| ≤ |(m + n : ℚ)| / 2 ^ 53 ∧
      (0 ≤ (m + n : ℚ) → 0 ≤ t) := by
  obtain ⟨p, hp, hrange⟩ := adds_doubleAdd.ordinary _ _ h
  rw [← ExtRat.fin.inj hp] at hrange
  obtain ⟨t, ht⟩ := exists_intCast_nearest (m + n)
  have hnear := abs_nearest_intCast_sub_le (m + n)
  rw [ht] at hnear
  rw [Int.cast_add] at ht hnear
  refine ⟨t, by rw [adds_doubleAdd.inRange _ _ hrange, ht], hnear, fun h0 => ?_⟩
  have hnonneg := nearest_nonneg h0
  rw [ht] at hnonneg
  exact_mod_cast hnonneg

/-- So are they subtracted. -/
theorem doubleSub_near {m n : ℤ} (h : (doubleSub (.fin m) (.fin n)).isFinite = true) :
    ∃ t : ℤ, doubleSub (.fin m) (.fin n) = .fin t ∧
      |(t - (m - n) : ℚ)| ≤ |(m - n : ℚ)| / 2 ^ 53 := by
  have hneg : doubleSub (.fin m) (.fin n) = doubleAdd (.fin m) (.fin ((-n : ℤ) : ℚ)) := by
    rw [Int.cast_neg]
    rfl
  rw [hneg] at h ⊢
  obtain ⟨t, ht, hnear, -⟩ := doubleAdd_near h
  rw [Int.cast_neg, ← sub_eq_add_neg] at hnear
  exact ⟨t, ht, hnear⟩

/-- The bounds of a rounded number, from one of the magnitude of what is rounded. -/
theorem near_bounds {t q B : ℚ} (h : |t - q| ≤ |q| / 2 ^ 53) (hB : |q| ≤ B) :
    q - B / 2 ^ 53 ≤ t ∧ t ≤ q + B / 2 ^ 53 := by
  obtain ⟨hlow, hhigh⟩ := abs_le.mp (h.trans (div_le_div_of_nonneg_right hB (by norm_num)))
  exact ⟨by linarith, by linarith⟩

/-- What an addition of two integers loses is a small part of their sum. -/
theorem lost_near {x y t : ℤ} {S : ℚ} (hx : 0 ≤ x) (hy : 0 ≤ y) (hS : (x + y : ℚ) ≤ 2 * S)
    (ht : |(t - (x + y) : ℚ)| ≤ |(x + y : ℚ)| / 2 ^ 53)
    (hfin : (doubleAdd (doubleSub (.fin x) (.fin t)) (.fin y)).isFinite = true) :
    ∃ e : ℤ, doubleAdd (doubleSub (.fin x) (.fin t)) (.fin y) = .fin e ∧
      |(e : ℚ)| ≤ 6 * S / 2 ^ 53 := by
  have hx' : (0 : ℚ) ≤ x := by exact_mod_cast hx
  have hy' : (0 : ℚ) ≤ y := by exact_mod_cast hy
  obtain ⟨d', y', hd', -⟩ := exists_of_isFinite_doubleAdd hfin
  obtain ⟨d, hd, hdnear⟩ := doubleSub_near (m := x) (n := t) (by rw [hd']; rfl)
  rw [hd] at hfin ⊢
  obtain ⟨e, he, henear, -⟩ := doubleAdd_near hfin
  refine ⟨e, he, ?_⟩
  -- The three roundings, each against the magnitude of what it rounds.
  have hxy : |(x + y : ℚ)| ≤ 2 * S := by rwa [abs_of_nonneg (add_nonneg hx' hy')]
  obtain ⟨htl, hth⟩ := near_bounds ht hxy
  have hxt : |(x - t : ℚ)| ≤ 3 * S := abs_le.mpr ⟨by linarith, by linarith⟩
  obtain ⟨hdl, hdh⟩ := near_bounds hdnear hxt
  have hdy : |(d + y : ℚ)| ≤ 5 * S / 2 ^ 53 := abs_le.mpr ⟨by linarith, by linarith⟩
  obtain ⟨hel, heh⟩ := near_bounds henear hdy
  exact abs_le.mpr ⟨by linarith, by linarith⟩

/-- One more summand: the sum stays an integer with a small error, and what the addition loses is a
small part of the sum. -/
theorem sumStep_near {acc : ExtRat × ExtRat} {a w : ℤ} {S : ℚ} (hacc : acc.1 = .fin a)
    (ha : 0 ≤ a) (hw : 0 ≤ w) (hS : (a + w : ℚ) ≤ 2 * S)
    (hfin : (sumStep acc (.fin w)).1.isFinite = true) :
    ∃ t : ℤ, (sumStep acc (.fin w)).1 = .fin t ∧ 0 ≤ t ∧
      |(t - (a + w) : ℚ)| ≤ |(a + w : ℚ)| / 2 ^ 53 ∧
      ((sumStep acc (.fin w)).2.isFinite = true →
        ∃ (b : ℚ) (e : ℤ), acc.2 = .fin b ∧ |(e : ℚ)| ≤ 6 * S / 2 ^ 53 ∧
          (sumStep acc (.fin w)).2 = doubleAdd acc.2 (.fin e)) := by
  have ha' : (0 : ℚ) ≤ a := by exact_mod_cast ha
  have hw' : (0 : ℚ) ≤ w := by exact_mod_cast hw
  unfold sumStep at hfin ⊢
  simp only [hacc] at hfin ⊢
  obtain ⟨t, ht, hnear, hnonneg⟩ := doubleAdd_near hfin
  refine ⟨t, ht, hnonneg (add_nonneg ha' hw'), hnear, fun hfinite => ?_⟩
  rw [ht] at hfinite ⊢
  obtain ⟨b, e', hb, he⟩ := exists_of_isFinite_doubleAdd hfinite
  -- The loss is computed from the larger of the two.
  split_ifs at he ⊢
  · obtain ⟨e, heq, henear⟩ := lost_near ha hw hS hnear (by rw [he]; rfl)
    exact ⟨b, e, hb, henear, by rw [heq]⟩
  · rw [add_comm (a : ℚ) w] at hS hnear
    obtain ⟨e, heq, henear⟩ := lost_near hw ha hS hnear (by rw [he]; rfl)
    exact ⟨b, e, hb, henear, by rw [heq]⟩

/-- Integers that are not negative are added up to a small part of their sum, and what is lost is a
small part of it, too. -/
theorem sumPair_near {l : List ℤ} (h0 : ∀ n ∈ l, 0 ≤ n) (hlen : l.length ≤ 2 ^ 10)
    (hfin : (sumPair (l.map fun n : ℤ => .fin n)).1.isFinite = true) :
    ∃ a : ℤ, (sumPair (l.map fun n : ℤ => .fin n)).1 = .fin a ∧ 0 ≤ a ∧
      |(a - (l.sum : ℤ) : ℚ)| ≤ 2 * l.length * (l.sum : ℤ) / 2 ^ 53 ∧
      ((sumPair (l.map fun n : ℤ => .fin n)).2.isFinite = true →
        ∃ b : ℤ, (sumPair (l.map fun n : ℤ => .fin n)).2 = .fin b ∧
          |(b : ℚ)| ≤ 16 * l.length * (l.sum : ℤ) / 2 ^ 53) := by
  induction l using List.reverseRecOn with
  | nil => exact ⟨0, by simp [sumPair], le_rfl, by simp, fun _ => ⟨0, by simp [sumPair], by simp⟩⟩
  | append_singleton l w ih =>
    have hl : ∀ n ∈ l, 0 ≤ n := fun n hn => h0 n (List.mem_append_left _ hn)
    have hw : 0 ≤ w := h0 w (by simp)
    rw [List.length_append, List.length_singleton] at hlen
    rw [List.map_append, List.map_singleton, sumPair_concat] at hfin ⊢
    obtain ⟨p, hp, -⟩ := adds_doubleAdd.ordinary _ _ hfin
    obtain ⟨a, ha, ha0, hnear, hlost⟩ := ih hl (by omega) (by rw [hp]; rfl)
    rw [List.length_append, List.length_singleton, List.sum_append, List.sum_singleton,
      Nat.cast_add, Nat.cast_one, Int.cast_add]
    have hlen' : (l.length : ℚ) ≤ 2 ^ 10 - 1 := by
      have : (l.length : ℚ) + 1 ≤ 2 ^ 10 := by exact_mod_cast hlen
      linarith
    have hlen0 : (0 : ℚ) ≤ l.length := Nat.cast_nonneg _
    have hw' : (0 : ℚ) ≤ w := by exact_mod_cast hw
    have hsum' : (0 : ℚ) ≤ (l.sum : ℤ) := by exact_mod_cast List.sum_nonneg hl
    have ha' : (0 : ℚ) ≤ a := by exact_mod_cast ha0
    -- The products of the bounds, of which the rest is linear.
    have hmul : (l.length : ℚ) * (l.sum : ℤ) ≤ (2 ^ 10 - 1) * (l.sum : ℤ) :=
      mul_le_mul_of_nonneg_right hlen' hsum'
    have hnext : (l.length : ℚ) * (l.sum : ℤ) ≤ l.length * ((l.sum : ℤ) + w) :=
      mul_le_mul_of_nonneg_left (by linarith) hlen0
    have hmul0 : (0 : ℚ) ≤ l.length * (l.sum : ℤ) := mul_nonneg hlen0 hsum'
    obtain ⟨hlow, hhigh⟩ := abs_le.mp hnear
    have haw : (a + w : ℚ) ≤ 2 * ((l.sum : ℤ) + w) := by linarith
    obtain ⟨t, ht, ht0, htnear, hstep⟩ := sumStep_near ha ha0 hw haw hfin
    have haw' : |(a + w : ℚ)| ≤ 2 * ((l.sum : ℤ) + w) := by
      rwa [abs_of_nonneg (add_nonneg ha' hw')]
    obtain ⟨htl, hth⟩ := near_bounds htnear haw'
    refine ⟨t, ht, ht0, abs_le.mpr ⟨by linarith, by linarith⟩, fun hfinite => ?_⟩
    obtain ⟨b', e, hb', henear, heq⟩ := hstep hfinite
    obtain ⟨b, hb, hbnear⟩ := hlost (by rw [hb']; rfl)
    rw [heq, hb] at hfinite ⊢
    obtain ⟨c, hc, hcnear, -⟩ := doubleAdd_near hfinite
    obtain ⟨hbl, hbh⟩ := abs_le.mp hbnear
    obtain ⟨hel, heh⟩ := abs_le.mp henear
    have hbe : |(b + e : ℚ)| ≤ (l.sum : ℤ) + w := abs_le.mpr ⟨by linarith, by linarith⟩
    obtain ⟨hcl, hch⟩ := near_bounds hcnear hbe
    exact ⟨c, hc, abs_le.mpr ⟨by linarith, by linarith⟩⟩

/-- The sum of integers that are not negative is their sum up to a small relative error, where it is
an ordinary number. -/
theorem doubleSum_near (py : Interp) {l : List ℤ} (h0 : ∀ n ∈ l, 0 ≤ n) (hlen : l.length ≤ 2 ^ 10)
    (hfin : (doubleSum py (l.map fun n : ℤ => .fin n)).isFinite = true) :
    ∃ s : ℤ, doubleSum py (l.map fun n : ℤ => .fin n) = .fin s ∧
      |(s - (l.sum : ℤ) : ℚ)| ≤ (18 * l.length + 2) * (l.sum : ℤ) / 2 ^ 53 := by
  have hsum : (0 : ℚ) ≤ (l.sum : ℤ) := by exact_mod_cast List.sum_nonneg h0
  have hlen' : (l.length : ℚ) ≤ 2 ^ 10 := by exact_mod_cast hlen
  have hmul : (l.length : ℚ) * (l.sum : ℤ) ≤ 2 ^ 10 * (l.sum : ℤ) :=
    mul_le_mul_of_nonneg_right hlen' hsum
  have hmul0 : (0 : ℚ) ≤ l.length * (l.sum : ℤ) := mul_nonneg (Nat.cast_nonneg _) hsum
  unfold doubleSum at hfin ⊢
  split_ifs at hfin ⊢ with hcorrect
  · -- The correction is small against the sum, and so is the rounding of the corrected sum.
    obtain ⟨p, q, hp, hq⟩ := exists_of_isFinite_doubleAdd hfin
    obtain ⟨a, ha, -, hnear, hlost⟩ := sumPair_near h0 hlen (by rw [hp]; rfl)
    obtain ⟨b, hb, hbnear⟩ := hlost (by rw [hq]; rfl)
    rw [ha, hb] at hfin ⊢
    obtain ⟨c, hc, hcnear, -⟩ := doubleAdd_near hfin
    obtain ⟨hal, hah⟩ := abs_le.mp hnear
    obtain ⟨hbl, hbh⟩ := abs_le.mp hbnear
    have hab : |(a + b : ℚ)| ≤ 2 * (l.sum : ℤ) := abs_le.mpr ⟨by linarith, by linarith⟩
    obtain ⟨hcl, hch⟩ := near_bounds hcnear hab
    exact ⟨c, hc, abs_le.mpr ⟨by linarith, by linarith⟩⟩
  · obtain ⟨a, ha, -, hnear, -⟩ := sumPair_near h0 hlen hfin
    refine ⟨a, ha, hnear.trans ?_⟩
    linarith

/-- A rounded sum is in range. -/
theorem inRange_roundedSum {s : ℚ} {l : List ℚ} (hs : InRange s) (hl : SumsInRange nearest s l) :
    InRange (roundedSum nearest s l) := by
  induction l generalizing s with
  | nil => exact hs
  | cons q l ih => exact ih ((inRange_nearest_iff _).mpr hl.1) hl.2

/-- The sum of ordinary numbers is in range, where it is an ordinary number. -/
theorem inRange_of_doubleSum {py : Interp} {l : List ℚ} {q : ℚ}
    (h : doubleSum py (l.map .fin) = .fin q) : InRange q := by
  have hsums := ((isFinite_doubleSum_iff py l).mp (by rw [h]; rfl)).1
  have hvalue := adds_doubleAdd.foldl_of_inRange hsums
  rw [← sumPair_fst] at hvalue
  have hzero : InRange 0 := by simp [InRange, floatOverflow_pos]
  unfold doubleSum at h
  split_ifs at h with hcorrect
  · obtain ⟨lost, heq⟩ := ExtRat.isFinite_iff.mp hcorrect.2.1
    rw [hvalue, heq] at h
    obtain ⟨s, hs, hrange⟩ := adds_doubleAdd.ordinary _ _ (by rw [h]; rfl)
    rw [hs, adds_doubleAdd.inRange _ _ hrange] at h
    rw [← ExtRat.fin.inj h]
    exact (inRange_nearest_iff _).mpr hrange
  · rw [hvalue] at h
    rw [← ExtRat.fin.inj h]
    exact inRange_roundedSum hzero hsums

/-- Integers that are not negative are added up to an ordinary number or to positive infinity. -/
theorem sumPair_fst_cases {l : List ℤ} (h0 : ∀ n ∈ l, 0 ≤ n) :
    (∃ q, 0 ≤ q ∧ (sumPair (l.map fun n : ℤ => .fin n)).1 = .fin q) ∨
      (sumPair (l.map fun n : ℤ => .fin n)).1 = .posInf := by
  induction l using List.reverseRecOn with
  | nil => exact .inl ⟨0, le_rfl, rfl⟩
  | append_singleton l w ih =>
    have hw : (0 : ℚ) ≤ w := by exact_mod_cast h0 w (by simp)
    rw [List.map_append, List.map_singleton, sumPair_concat, sumStep]
    simp only
    rcases ih fun n hn => h0 n (List.mem_append_left _ hn) with ⟨q, hq, heq⟩ | heq
    · rw [heq]
      by_cases hrange : InRange (q + w)
      · exact .inl ⟨_, nearest_nonneg (add_nonneg hq hw), adds_doubleAdd.inRange _ _ hrange⟩
      · have hover : floatOverflow ≤ q + w := by
          rw [InRange, abs_of_nonneg (add_nonneg hq hw)] at hrange
          exact not_lt.mp hrange
        right
        rw [doubleAdd, floatAdd_fin, floatOfRat, if_pos hover]
        rfl
    · rw [heq]
      exact .inr rfl

/-- So is their sum. -/
theorem doubleSum_eq_posInf {py : Interp} {l : List ℤ} (h0 : ∀ n ∈ l, 0 ≤ n)
    (hlen : l.length ≤ 2 ^ 10)
    (hfin : (doubleSum py (l.map fun n : ℤ => .fin n)).isFinite = false) :
    doubleSum py (l.map fun n : ℤ => .fin n) = .posInf := by
  unfold doubleSum at hfin ⊢
  split_ifs at hfin ⊢ with hcorrect
  · obtain ⟨lost, hlost⟩ := ExtRat.isFinite_iff.mp hcorrect.2.1
    rw [hlost] at hfin ⊢
    rcases sumPair_fst_cases h0 with ⟨q, -, hq⟩ | hinf
    · -- The correction is smaller than the sum, so that it does not overflow below zero.
      obtain ⟨a, ha, -, hnear, hbound⟩ := sumPair_near h0 hlen (by rw [hq]; rfl)
      obtain ⟨b, hb, hbnear⟩ := hbound hcorrect.2.1
      have hsum : (0 : ℚ) ≤ (l.sum : ℤ) := by exact_mod_cast List.sum_nonneg h0
      have hlen' : (l.length : ℚ) ≤ 2 ^ 10 := by exact_mod_cast hlen
      have hmul : (l.length : ℚ) * (l.sum : ℤ) ≤ 2 ^ 10 * (l.sum : ℤ) :=
        mul_le_mul_of_nonneg_right hlen' hsum
      obtain ⟨hal, hah⟩ := abs_le.mp hnear
      obtain ⟨hbl, hbh⟩ := abs_le.mp hbnear
      rw [hb] at hlost
      rw [ha, ← hlost] at hfin ⊢
      have hnonneg : (0 : ℚ) ≤ a + b := by linarith
      have hover : floatOverflow ≤ (a + b : ℚ) := by
        by_contra hlt
        have hrange : InRange (a + b : ℚ) := by
          rw [InRange, abs_of_nonneg hnonneg]
          exact not_le.mp hlt
        rw [adds_doubleAdd.inRange _ _ hrange] at hfin
        cases hfin
      rw [doubleAdd, floatAdd_fin, floatOfRat, if_pos hover]
      rfl
    · rw [hinf]
      rfl
  · rcases sumPair_fst_cases h0 with ⟨q, -, hq⟩ | hinf
    · rw [hq] at hfin
      cases hfin
    · exact hinf

end EnergyStation.Python
