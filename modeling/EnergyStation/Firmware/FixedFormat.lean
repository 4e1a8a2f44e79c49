import EnergyStation.Firmware.BatteryReport

/-!
# The fixed-point formatters

`format_fixed_4` and `format_fixed_1` print a number with four decimals and with one. Each converts
the scaled number to `long`, and prints the quotient and the remainder on their own, so the sign is
that of the quotient. The text denotes the rounded number exactly if `long` holds the scaled number
and the quotient of a number that is printed as negative is not zero (`formatFixed_faithful_iff`).
-/

namespace EnergyStation.Firmware.Battery

open CStdlib Numeral

/-- What `%0kld` prints of a number that is not negative. -/
def padded (k n : ℕ) : List ℕ := List.replicate (k - (decimal n).length) 48 ++ decimal n

/-- The text of a formatter with `k` decimals. -/
def scaledText (k : ℕ) (scaled : ℤ) : List ℕ :=
  let whole := scaled.tdiv (10 ^ k)
  let frac := scaled.tmod (10 ^ k)
  -- The remainder has the sign of the number.
  let frac := if frac < 0 then -frac else frac
  formatLong whole ++ text "." ++ padded k frac.toNat

/-- A formatter with `k` decimals, up to its `snprintf`. The conversion to `long` may be
undefined. -/
def formatScaled (k : ℕ) (value : ExtRat) : Option (List ℕ) :=
  (toLong ((value.mul (.fin (10 ^ k))).add
    (.fin (if ExtRat.le (.fin 0) value then 1 / 2 else -1 / 2)))).map (scaledText k)

/-- `format_fixed_4` -/
def formatFixed4 (buf_len : ℕ) (value : ExtRat) : Option (List ℕ) :=
  (formatScaled 4 value).map (snprintf buf_len)

/-- The padded text of a number below `10^k` is that of its last `k` digits. -/
theorem padded_of_lt {k n : ℕ} (hk : 0 < k) (hn : n < 10 ^ k) :
    padded k n = (fixedDigits k n).map (48 + ·) := by
  rw [fixedDigits_of_lt hk hn, List.map_append, List.map_replicate]
  unfold padded decimal
  rw [List.length_map]

/-- The quotient is printed with a minus sign where it is not zero and the number is negative. -/
theorem formatLong_tdiv (k : ℕ) (n : ℤ) :
    formatLong (n.tdiv (10 ^ k)) = signText (n ≤ -10 ^ k) ++ decimal (n.natAbs / 10 ^ k) := by
  have habs : (n.tdiv (10 ^ k)).natAbs = n.natAbs / 10 ^ k := by
    rw [Int.natAbs_tdiv, Int.natAbs_pow]
    rfl
  -- The division cuts towards zero, so the quotient of a small negative number is zero.
  have hneg : n.tdiv (10 ^ k) < 0 ↔ n ≤ -10 ^ k := by
    have hpos : (0 : ℤ) < 10 ^ k := by positivity
    obtain ⟨m, rfl | rfl⟩ := n.eq_nat_or_neg
    · have hnonneg : 0 ≤ (m : ℤ).tdiv (10 ^ k) := Int.tdiv_nonneg (by omega) hpos.le
      omega
    · have hquot : (m : ℤ).tdiv (10 ^ k) = ((m / 10 ^ k : ℕ) : ℤ) := by
        rw [Int.tdiv_eq_ediv_of_nonneg (by omega)]
        push_cast
        rfl
      have hdiv : 0 < m / 10 ^ k ↔ 10 ^ k ≤ m := Nat.div_pos_iff.trans (by simp)
      have hcast : ((10 ^ k : ℕ) : ℤ) = 10 ^ k := by push_cast; rfl
      rw [Int.neg_tdiv, hquot]
      omega
  unfold formatLong
  rw [habs, decide_eq_decide.mpr hneg]

/-- The text of a formatter is a fixed-point text, with a sign where the quotient has one. -/
theorem scaledText_eq {k : ℕ} (hk : 0 < k) (n : ℤ) :
    scaledText k n = signText (n ≤ -10 ^ k) ++ fixedPoint k n.natAbs := by
  have hfrac : (if n.tmod (10 ^ k) < 0 then -n.tmod (10 ^ k) else n.tmod (10 ^ k)).toNat =
      n.natAbs % 10 ^ k := by
    have habs : (n.tmod (10 ^ k)).natAbs = n.natAbs % 10 ^ k := by
      rw [Int.natAbs_tmod, Int.natAbs_pow]
      rfl
    rw [← habs]
    split_ifs <;> omega
  have hlt : n.natAbs % 10 ^ k < 10 ^ k := Nat.mod_lt _ (by positivity)
  unfold scaledText
  simp only [hfrac]
  rw [formatLong_tdiv, padded_of_lt hk hlt, fixedDigits_mod, List.append_assoc, List.append_assoc]
  rfl

/-- `format_fixed_1` is the formatter with one decimal. -/
theorem formatFixed1_eq (buf_len : ℕ) (value : ExtRat) :
    formatFixed1 buf_len value = (formatScaled 1 value).map (snprintf buf_len) := by
  have hpadded : ∀ n, padded 1 n = decimal n := by
    intro n
    have hlen : 0 < (decimal n).length := List.length_pos_of_ne_nil (decimal_ne_nil n)
    have hzero : 1 - (decimal n).length = 0 := by omega
    rw [padded, hzero]
    rfl
  have htext : ∀ n : ℤ, formatLong (n.tdiv 10) ++ text "." ++
      formatLong (if n.tmod 10 < 0 then -n.tmod 10 else n.tmod 10) = scaledText 1 n := by
    intro n
    unfold scaledText
    simp only [pow_one, hpadded]
    congr 1
    generalize hfrac : (if n.tmod 10 < 0 then -n.tmod 10 else n.tmod 10) = frac
    have hnonneg : 0 ≤ frac := by
      rw [← hfrac]
      split_ifs <;> omega
    obtain ⟨m, rfl⟩ := Int.eq_ofNat_of_zero_le hnonneg
    rw [formatLong_natCast, Int.toNat_natCast]
  unfold formatFixed1 formatScaled scaled
  rw [Option.map_map, pow_one]
  simp only [htext]
  rfl

/-- `long` holds the scaled number, rounded. -/
def Fits (k : ℕ) (x : ℚ) : Prop := -2 ^ 31 - 1 / 2 < 10 ^ k * x ∧ 10 ^ k * x + 1 / 2 < 2 ^ 31

/-- The number is negative and is not rounded to zero, and its quotient is zero. -/
def LosesSign (k : ℕ) (x : ℚ) : Prop := -10 ^ k + 1 / 2 < 10 ^ k * x ∧ 10 ^ k * x ≤ -1 / 2

/-- A number that a formatter with `k` decimals prints as it is. -/
def Printable (k : ℕ) (x : ℚ) : Prop := Fits k x ∧ ¬ LosesSign k x

/-- A formatter is faithful for a number: `long` holds the scaled number, the text fits a buffer of
16 bytes, and it denotes the number, rounded to `k` decimals. -/
def Faithful (k : ℕ) (format : ℕ → ExtRat → Option (List ℕ)) (x : ℚ) : Prop :=
  ∃ s, formatScaled k (.fin x) = some s ∧ s.length < 16 ∧ format 16 (.fin x) = some s ∧
    atof s = .fin (roundHalfAway (10 ^ k * x) / 10 ^ k)

/-- The texts of two numbers denote numbers in this order. -/
def Ordered (format : ℕ → ExtRat → Option (List ℕ)) (x y : ℚ) : Prop :=
  ∃ s t p q, format 16 (.fin x) = some s ∧ format 16 (.fin y) = some t ∧
    atof s = .fin p ∧ atof t = .fin q ∧ p ≤ q

/-- The rounded number is in the range of `long` exactly if the number is. -/
theorem roundHalfAway_range_iff (k : ℕ) (x : ℚ) :
    -2 ^ 31 ≤ roundHalfAway (10 ^ k * x) ∧ roundHalfAway (10 ^ k * x) < 2 ^ 31 ↔ Fits k x := by
  unfold Fits roundHalfAway
  generalize (10 : ℚ) ^ k * x = q
  split_ifs with hq
  · have hnonneg : 0 ≤ ⌊q + 1 / 2⌋ := Int.floor_nonneg.mpr (by linarith)
    have hupper : ⌊q + 1 / 2⌋ < 2 ^ 31 ↔ q + 1 / 2 < 2 ^ 31 := by
      rw [Int.floor_lt]
      norm_num
    rw [hupper]
    constructor
    · exact fun h => ⟨by linarith, h.2⟩
    · exact fun h => ⟨by omega, h.2⟩
  · rw [not_le] at hq
    have hnonneg : 0 ≤ ⌊-q + 1 / 2⌋ := Int.floor_nonneg.mpr (by linarith)
    -- There is one more number below zero than above.
    have hlower : ⌊-q + 1 / 2⌋ < 2 ^ 31 + 1 ↔ -q + 1 / 2 < 2 ^ 31 + 1 := by
      rw [Int.floor_lt]
      norm_num
    constructor
    · intro h
      have hlt := hlower.mp (by omega)
      exact ⟨by linarith, by linarith⟩
    · intro h
      have hlt := hlower.mpr (by linarith [h.1])
      omega

/-- The rounded number is negative with a quotient of zero exactly if the number loses its sign. -/
theorem roundHalfAway_losesSign_iff (k : ℕ) (x : ℚ) :
    -10 ^ k < roundHalfAway (10 ^ k * x) ∧ roundHalfAway (10 ^ k * x) < 0 ↔ LosesSign k x := by
  unfold LosesSign roundHalfAway
  generalize (10 : ℚ) ^ k * x = q
  split_ifs with hq
  · have hnonneg : 0 ≤ ⌊q + 1 / 2⌋ := Int.floor_nonneg.mpr (by linarith)
    exact iff_of_false (fun h => by omega) fun h => by linarith [h.2]
  · have hlower : ⌊-q + 1 / 2⌋ < 10 ^ k ↔ -q + 1 / 2 < 10 ^ k := by
      rw [Int.floor_lt]
      norm_num
    have hupper : 1 ≤ ⌊-q + 1 / 2⌋ ↔ 1 ≤ -q + 1 / 2 := by
      rw [Int.le_floor]
      norm_num
    constructor
    · intro h
      have hlt := hlower.mp (by omega)
      have hge := hupper.mp (by omega)
      exact ⟨by linarith, by linarith⟩
    · intro h
      have hlt := hlower.mpr (by linarith [h.1])
      have hge := hupper.mpr (by linarith [h.2])
      omega

/-- The conversion of a biased number rounds it, where `long` holds the result. -/
theorem toLong_biased (q : ℚ) :
    toLong (.fin (q + if 0 ≤ q then 1 / 2 else -1 / 2)) =
      if -2 ^ 31 ≤ roundHalfAway q ∧ roundHalfAway q < 2 ^ 31 then some (roundHalfAway q)
      else none := by
  unfold toLong roundHalfAway
  -- The conversion cuts the fraction off: a floor above zero, and a ceiling below.
  by_cases hq : 0 ≤ q
  · have hbiased : 0 ≤ q + 1 / 2 := by linarith
    simp only [if_pos hq, if_pos hbiased]
  · have hbiased : ¬ 0 ≤ q + -1 / 2 := fun h => hq (by linarith)
    have hceil : ⌈q + -1 / 2⌉ = -⌊-q + 1 / 2⌋ := by
      rw [← Int.ceil_neg]
      congr 1
      ring
    simp only [if_neg hq, if_neg hbiased, hceil]

/-- A formatter prints the rounded number, where `long` holds it. -/
theorem formatScaled_fin (k : ℕ) (x : ℚ) :
    (Fits k x ∧ formatScaled k (.fin x) = some (scaledText k (roundHalfAway (10 ^ k * x)))) ∨
      (¬ Fits k x ∧ formatScaled k (.fin x) = none) := by
  have hlong : toLong ((ExtRat.mul (.fin x) (.fin (10 ^ k))).add
      (.fin (if ExtRat.le (.fin 0) (.fin x) then 1 / 2 else -1 / 2))) =
      if -2 ^ 31 ≤ roundHalfAway (10 ^ k * x) ∧ roundHalfAway (10 ^ k * x) < 2 ^ 31 then
        some (roundHalfAway (10 ^ k * x)) else none := by
    have hpow : (0 : ℚ) < 10 ^ k := by positivity
    have hsign : ExtRat.le (.fin 0) (.fin x) = true ↔ 0 ≤ 10 ^ k * x := by
      rw [ExtRat.le_fin, decide_eq_true_eq, mul_nonneg_iff_of_pos_left hpow]
    rw [ExtRat.mul_fin, ExtRat.add_fin, mul_comm, ← toLong_biased]
    simp only [hsign]
  unfold formatScaled
  rw [hlong]
  split_ifs with hrange
  · exact .inl ⟨(roundHalfAway_range_iff k x).mp hrange, rfl⟩
  · exact .inr ⟨fun h => hrange ((roundHalfAway_range_iff k x).mpr h), rfl⟩

/-- The text of a rounded number in the range of `long` has at most twelve characters. -/
theorem length_scaledText_lt {k : ℕ} (hk : 0 < k) (hk9 : k ≤ 9) {n : ℤ} (hlow : -2 ^ 31 ≤ n)
    (hhigh : n < 2 ^ 31) : (scaledText k n).length < 16 := by
  have hsign : (signText (n ≤ -10 ^ k)).length ≤ 1 := by
    unfold signText
    split_ifs
    · exact le_refl 1
    · exact Nat.zero_le 1
  -- A number of 32 bits has ten digits at most, of which `k` are behind the point.
  have hquot : n.natAbs / 10 ^ k < 10 ^ (10 - k) := by
    rw [Nat.div_lt_iff_lt_mul (by positivity), ← pow_add]
    have hten : 10 - k + k = 10 := by omega
    rw [hten]
    omega
  have hfixed := length_fixedPoint_le (by omega) hquot
  rw [scaledText_eq hk, List.length_append]
  omega

/-- The number in the text of a rounded number is that number exactly if it is not negative with a
quotient of zero. -/
theorem atof_scaledText_iff {k : ℕ} (hk : 0 < k) (n : ℤ) :
    atof (scaledText k n) = .fin (n / 10 ^ k) ↔ ¬ (-10 ^ k < n ∧ n < 0) := by
  have hpow : (0 : ℚ) < 10 ^ k := by positivity
  rw [scaledText_eq hk, atof_fixedPoint, ExtRat.fin.injEq]
  simp only [decide_eq_true_eq]
  have hcast : ((n.natAbs : ℕ) : ℚ) = |(n : ℚ)| := by
    rw [Nat.cast_natAbs, Int.cast_abs]
  have hpowInt : (0 : ℤ) < 10 ^ k := by positivity
  rw [hcast]
  split_ifs with hneg
  · have hn : (n : ℚ) < 0 := by exact_mod_cast (by omega : n < 0)
    refine iff_of_true ?_ fun h => by omega
    rw [abs_of_neg hn]
    ring
  · rw [div_left_inj' hpow.ne', abs_eq_self, Int.cast_nonneg_iff]
    constructor
    · exact fun h h' => by omega
    · exact fun h => by omega

/-- A formatter is faithful exactly for the numbers that it can print. -/
theorem faithful_iff {k : ℕ} (hk : 0 < k) (hk9 : k ≤ 9) {format : ℕ → ExtRat → Option (List ℕ)}
    (hformat : ∀ buf_len value, format buf_len value = (formatScaled k value).map
    (snprintf buf_len)) (x : ℚ) : Faithful k format x ↔ Printable k x := by
  unfold Faithful Printable
  rw [hformat]
  rcases formatScaled_fin k x with ⟨hfits, hsome⟩ | ⟨hfits, hnone⟩
  · obtain ⟨hlow, hhigh⟩ := (roundHalfAway_range_iff k x).mpr hfits
    have hlength := length_scaledText_lt hk hk9 hlow hhigh
    rw [hsome, Option.map_some, snprintf_of_length_lt hlength, ← roundHalfAway_losesSign_iff,
      ← atof_scaledText_iff hk]
    constructor
    · rintro ⟨s, hs, -, -, hatof⟩
      rw [Option.some.inj hs]
      exact ⟨hfits, hatof⟩
    · rintro ⟨-, hatof⟩
      exact ⟨_, rfl, hlength, rfl, hatof⟩
  · rw [hnone]
    refine iff_of_false ?_ fun h => hfits h.1
    rintro ⟨s, hs, -⟩
    cases hs

/-- The number in a faithful text is off by half of the last decimal at most. -/
theorem Faithful.near {k : ℕ} {format : ℕ → ExtRat → Option (List ℕ)} {x : ℚ}
    (h : Faithful k format x) :
    ∃ s p, format 16 (.fin x) = some s ∧ atof s = .fin p ∧ |p - x| ≤ 1 / 2 / 10 ^ k := by
  obtain ⟨s, -, -, hs, hatof⟩ := h
  have hpow : (0 : ℚ) < 10 ^ k := by positivity
  refine ⟨s, _, hs, hatof, ?_⟩
  have hdiff : (roundHalfAway (10 ^ k * x) : ℚ) / 10 ^ k - x =
      (roundHalfAway (10 ^ k * x) - 10 ^ k * x) / 10 ^ k := by
    field_simp
  rw [hdiff, abs_div, abs_of_pos hpow]
  exact div_le_div_of_nonneg_right (abs_roundHalfAway_sub_le _) hpow.le

/-- Faithful texts keep the order of their numbers. -/
theorem Faithful.ordered {k : ℕ} {format : ℕ → ExtRat → Option (List ℕ)} {x y : ℚ}
    (hx : Faithful k format x) (hy : Faithful k format y) (hle : x ≤ y) : Ordered format x y := by
  obtain ⟨s, -, -, hs, hatofs⟩ := hx
  obtain ⟨t, -, -, ht, hatoft⟩ := hy
  have hpow : (0 : ℚ) < 10 ^ k := by positivity
  have hround : roundHalfAway (10 ^ k * x) ≤ roundHalfAway (10 ^ k * y) :=
    roundHalfAway_mono (mul_le_mul_of_nonneg_left hle hpow.le)
  refine ⟨s, t, _, _, hs, ht, hatofs, hatoft, ?_⟩
  exact div_le_div_of_nonneg_right (by exact_mod_cast hround) hpow.le

/-- A charge is printed as it is where `long` holds it. -/
theorem printable_of_nonneg {k : ℕ} {x : ℚ} (h : 0 ≤ x) :
    Printable k x ↔ 10 ^ k * x + 1 / 2 < 2 ^ 31 := by
  have hscaled : 0 ≤ 10 ^ k * x := by positivity
  unfold Printable Fits LosesSign
  constructor
  · exact fun hprint => hprint.1.2
  · exact fun hlt => ⟨⟨by linarith, hlt⟩, fun hloses => by linarith [hloses.2]⟩

/-- For all finite numbers, each of the two formatters is faithful, and keeps their order, exactly
if it can print them. -/
theorem formatFixed_faithful_iff (x y : ℚ) :
    (Faithful 4 formatFixed4 x ∧ Faithful 4 formatFixed4 y ∧ (x ≤ y → Ordered formatFixed4 x y) ↔
      Printable 4 x ∧ Printable 4 y) ∧
    (Faithful 1 formatFixed1 x ∧ Faithful 1 formatFixed1 y ∧ (x ≤ y → Ordered formatFixed1 x y) ↔
      Printable 1 x ∧ Printable 1 y) := by
  have h4 : ∀ z, Faithful 4 formatFixed4 z ↔ Printable 4 z :=
    faithful_iff (by norm_num) (by norm_num) fun _ _ => rfl
  have h1 : ∀ z, Faithful 1 formatFixed1 z ↔ Printable 1 z :=
    faithful_iff (by norm_num) (by norm_num) formatFixed1_eq
  refine ⟨?_, ?_⟩
  · rw [← h4, ← h4]
    exact ⟨fun h => ⟨h.1, h.2.1⟩, fun h => ⟨h.1, h.2, fun hle => h.1.ordered h.2 hle⟩⟩
  · rw [← h1, ← h1]
    exact ⟨fun h => ⟨h.1, h.2.1⟩, fun h => ⟨h.1, h.2, fun hle => h.1.ordered h.2 hle⟩⟩

/-- The two texts in the report of a charge in its range are faithful exactly if the capacity can be
formatted. -/
theorem report_faithful_iff {m c : ℚ} (h0 : 0 ≤ c) (hm : c ≤ m) :
    Faithful 1 formatFixed1 m ∧ Faithful 1 formatFixed1 c ↔ Formattable m := by
  have h1 : ∀ z, Faithful 1 formatFixed1 z ↔ Printable 1 z :=
    faithful_iff (by norm_num) (by norm_num) formatFixed1_eq
  unfold Formattable
  rw [h1, h1, printable_of_nonneg (h0.trans hm), printable_of_nonneg h0, pow_one]
  exact ⟨fun h => h.1, fun h => ⟨h, by linarith⟩⟩

/-- A discharge of half a kilowatt-hour is accepted, and printed as a charge. -/
theorem half_discharge_loses_sign :
    ¬ ∀ (b : Battery) (body : Bytes) (d : ℚ), (b.resPutBatteryHandler body).1.code = .changed →
      parseDelta body = .fin d → Faithful 4 formatFixed4 d := by
  intro h
  have hfaithful := h (boot 10 5) (ascii "-0.5") (-1 / 2) (by decide +kernel) (by decide +kernel)
  have hprintable := (faithful_iff (by norm_num) (by norm_num) (fun _ _ => rfl) _).mp hfaithful
  exact hprintable.2 ⟨by norm_num, by norm_num⟩

end EnergyStation.Firmware.Battery
