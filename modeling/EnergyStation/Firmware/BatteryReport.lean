import EnergyStation.Firmware.Battery

/-!
# The battery's report

`res_get_battery_handler` of `res-battery.c` answers with the two capacities, formatted by
`format_fixed_1` with one decimal, and the two flags. `resGetBatteryHandler_eq` says which text that
is for capacities in the range of the formatter: the number of tenths nearest to each capacity.
-/

namespace EnergyStation.Firmware.Battery

open CStdlib Numeral

/-- `scaled` of `format_fixed_1`. -/
def scaled (value : ExtRat) : Option ℤ :=
  toLong ((value.mul (.fin 10)).add (.fin (if ExtRat.le (.fin 0) value then 1 / 2 else -1 / 2)))

/-- `format_fixed_1`, whose conversion to `long` may be undefined. -/
def formatFixed1 (buf_len : ℕ) (value : ExtRat) : Option (List ℕ) :=
  (scaled value).map fun scaled =>
    let whole := scaled.tdiv 10
    let frac := scaled.tmod 10
    -- The remainder has the sign of the number.
    let frac := if frac < 0 then -frac else frac
    snprintf buf_len (formatLong whole ++ text "." ++ formatLong frac)

/-- `flag ? "true" : "false"` -/
def flagText (flag : Bool) : List ℕ := if flag then text "true" else text "false"

/-- The number of tenths nearest to a number. -/
def tenths (q : ℚ) : ℕ := ⌊10 * q + 1 / 2⌋.toNat

/-- The tenths of the number, rounded, fit into a `long`. -/
def Formattable (q : ℚ) : Prop := 10 * q + 1 / 2 < 2 ^ 31

instance (q : ℚ) : Decidable (Formattable q) := inferInstanceAs (Decidable (_ < _))

/-- The number in tenths is the nearest one, where `long` holds it. -/
theorem scaled_of_nonneg {q : ℚ} (h : 0 ≤ q) :
    scaled (.fin q) = if Formattable q then some (tenths q : ℤ) else none := by
  have hscaled : 0 ≤ 10 * q + 1 / 2 := by linarith
  have htenths : (tenths q : ℤ) = ⌊10 * q + 1 / 2⌋ :=
    Int.toNat_of_nonneg (Int.floor_nonneg.mpr hscaled)
  have hle : ExtRat.le (.fin 0) (.fin q) = true := by simpa using h
  unfold scaled
  rw [if_pos hle, ExtRat.mul_fin, ExtRat.add_fin, mul_comm q 10, toLong_of_nonneg hscaled, htenths]
  rfl

/-- The tenths of a number that can be formatted fit into a `long`. -/
theorem tenths_lt {q : ℚ} (h : Formattable q) : tenths q < 2 ^ 31 := by
  have hfloor : ⌊10 * q + 1 / 2⌋ < 2 ^ 31 := by
    rw [Int.floor_lt]
    exact_mod_cast h
  unfold tenths
  omega

/-- The text of a number of tenths that fits into a `long` is shorter than 16 characters. -/
theorem length_fixedPoint_lt {n : ℕ} (h : n < 2 ^ 31) : (fixedPoint 1 n).length < 16 := by
  have hlen := length_fixedPoint_le (k := 1) (n := n) (j := 9) (by omega) (by omega)
  omega

/-- What `format_fixed_1` leaves in a buffer of 16 bytes: the tenths, with a point. -/
theorem formatFixed1_of_nonneg {q : ℚ} (h : 0 ≤ q) :
    formatFixed1 16 (.fin q) = if Formattable q then some (fixedPoint 1 (tenths q))
      else none := by
  unfold formatFixed1
  rw [scaled_of_nonneg h]
  split_ifs with hq
  · have hlt := tenths_lt hq
    generalize tenths q = n at hlt
    -- A number that is not negative has a quotient and a remainder that are not negative.
    have hwhole : (n : ℤ).tdiv 10 = ((n / 10 : ℕ) : ℤ) := by
      rw [Int.tdiv_eq_ediv_of_nonneg (by omega)]
      omega
    have hfrac : (n : ℤ).tmod 10 = ((n % 10 : ℕ) : ℤ) := by
      rw [Int.tmod_eq_emod_of_nonneg (by omega)]
      omega
    have hpos : ¬ (((n % 10 : ℕ) : ℤ) < 0) := by omega
    have htext : decimal (n / 10) ++ text "." ++ decimal (n % 10) = fixedPoint 1 n := by
      rw [decimal_of_lt_ten (Nat.mod_lt n (by omega)), fixedPoint, List.append_assoc, pow_one]
      rfl
    have hlength := length_fixedPoint_lt hlt
    simp only [Option.map_some, hwhole, hfrac, if_neg hpos, formatLong_natCast, htext,
      snprintf_of_length_lt hlength]
  · rfl

/-- The text of the report, with the two capacities as they are printed. -/
def reportText (b : Battery) (max_str charged_str : List ℕ) : List ℕ :=
  text "\x7b\"max_capacity\":" ++ max_str ++ text ",\"charged_capacity\":" ++ charged_str ++
    text ",\"charging_locked\":" ++ flagText b.charging_locked ++ text ",\"override\":" ++
    flagText b.override_active ++ text "\x7d"

/-- `res_get_battery_handler`. The response code is the one that the engine presets for `GET`. -/
def resGetBatteryHandler (b : Battery) : Option Response :=
  (formatFixed1 16 b.max_capacity).bind fun max_str =>
    (formatFixed1 16 b.charged_capacity).map fun charged_str =>
      ⟨.content, (snprintf 160 (reportText b max_str charged_str)).map UInt8.ofNat⟩

/-- A report with short numbers fits into the buffer. -/
theorem length_reportText_lt (b : Battery) {max_str charged_str : List ℕ}
    (hmax : max_str.length < 16) (hcharged : charged_str.length < 16) :
    (reportText b max_str charged_str).length < 160 := by
  have hflag : ∀ v, (flagText v).length ≤ 5 := by decide
  have hlocked := hflag b.charging_locked
  have hoverride := hflag b.override_active
  have h1 : (text "\x7b\"max_capacity\":").length = 16 := rfl
  have h2 : (text ",\"charged_capacity\":").length = 20 := rfl
  have h3 : (text ",\"charging_locked\":").length = 19 := rfl
  have h4 : (text ",\"override\":").length = 12 := rfl
  have h5 : (text "\x7d").length = 1 := rfl
  simp only [reportText, List.length_append, h1, h2, h3, h4, h5]
  omega

/-- The report of a battery whose charge is in its range: it is sent where the larger of the two
numbers can be formatted. -/
theorem resGetBatteryHandler_eq {b : Battery} {m c : ℚ} (hmax : b.max_capacity = .fin m)
    (hcharged : b.charged_capacity = .fin c) (h0 : 0 ≤ c) (hm : c ≤ m) :
    b.resGetBatteryHandler =
      if Formattable m then
        some ⟨.content,
          (reportText b (fixedPoint 1 (tenths m)) (fixedPoint 1 (tenths c))).map UInt8.ofNat⟩
      else none := by
  unfold resGetBatteryHandler
  rw [hmax, hcharged, formatFixed1_of_nonneg (h0.trans hm), formatFixed1_of_nonneg h0]
  by_cases hfm : Formattable m
  · have hfc : Formattable c := by
      unfold Formattable at hfm ⊢
      linarith
    have hlength := length_reportText_lt b (length_fixedPoint_lt (tenths_lt hfm))
      (length_fixedPoint_lt (tenths_lt hfc))
    simp only [if_pos hfm, if_pos hfc, Option.bind_some, Option.map_some,
      snprintf_of_length_lt hlength]
  · rw [if_neg hfm, if_neg hfm]
    rfl

end EnergyStation.Firmware.Battery
