import EnergyStation.Firmware.MqttSensor
import EnergyStation.Lib.Runs

/-!
# The conversions of the interval

`publish_interval_to_ticks` and `mqtt_keepalive_seconds` divide a product of the interval and round
up. The first computes in 64 bits, which hold the product for every interval and every tick rate of
the platforms (`publishIntervalToTicks64_toNat`). The second computes in 32 bits, which hold it
because `set_publish_interval_ms` keeps the interval small (`conversions_safe`).
-/

namespace EnergyStation.Firmware

open MqttSensor Runs

/-- `publish_interval_to_ticks`, in the words that it computes with. -/
def publishIntervalToTicks64 (clock_second : UInt64) (interval_ms : UInt32) : UInt64 :=
  let ticks := (interval_ms.toUInt64 * clock_second + 999) / 1000
  let ticks := if 0 < interval_ms ∧ ticks = 0 then 1 else ticks
  if 0xFFFF < ticks then 0xFFFF else ticks

/-- `keepalive_s` of `mqtt_keepalive_seconds`, before its two corrections. -/
def keepaliveS (interval_ms : ℕ) : ℕ := (interval_ms * 3 % 2 ^ 32 + 999) % 2 ^ 32 / 1000

/-- The calls of `set_publish_interval_ms` with the given arguments, from boot on. -/
def afterCalls (cfg : SamplingBuild) (args : List UInt32) : Sampling :=
  run (fun s (interval_ms : UInt32) => s.setPublishIntervalMs cfg interval_ms.toNat)
    (Sampling.boot cfg) args

/-- A division by 1000 that rounds up. -/
theorem ceil_div_thousand (n : ℕ) : ⌈(n : ℚ) / 1000⌉₊ = (n + 999) / 1000 := by
  refine le_antisymm ?_ ?_
  · rw [Nat.ceil_le, div_le_iff₀ (by norm_num)]
    have hle : n ≤ (n + 999) / 1000 * 1000 := by omega
    exact_mod_cast hle
  · have hceil : n ≤ ⌈(n : ℚ) / 1000⌉₊ * 1000 := by
      have hle := Nat.le_ceil ((n : ℚ) / 1000)
      rw [div_le_iff₀ (by norm_num)] at hle
      exact_mod_cast hle
    omega

variable {p : Platform}

/-- The product of an interval and a tick rate is far below the range of 64 bits. -/
theorem product_lt (h : p.clockSecond ≤ 2 ^ 31) (interval_ms : UInt32) :
    interval_ms.toNat * p.clockSecond + 999 < 2 ^ 64 := by
  have hproduct : interval_ms.toNat * p.clockSecond ≤ 2 ^ 32 * 2 ^ 31 :=
    Nat.mul_le_mul interval_ms.toNat_lt.le h
  omega

/-- So the words compute what the numbers do. -/
theorem publishIntervalToTicks64_toNat (h : p.clockSecond ≤ 2 ^ 31) (interval_ms : UInt32) :
    (publishIntervalToTicks64 (.ofNat p.clockSecond) interval_ms).toNat =
      publishIntervalToTicks p interval_ms.toNat := by
  have hproduct := product_lt h interval_ms
  have hclock : (UInt64.ofNat p.clockSecond).toNat = p.clockSecond :=
    UInt64.toNat_ofNat_of_lt' (by norm_num [UInt64.size]; omega)
  -- Neither the product nor the sum wraps.
  have hsum : ((interval_ms.toUInt64 * .ofNat p.clockSecond + 999) / 1000).toNat =
      (interval_ms.toNat * p.clockSecond + 999) / 1000 := by
    have h999 : (999 : UInt64).toNat = 999 := rfl
    have h1000 : (1000 : UInt64).toNat = 1000 := rfl
    have hmul : interval_ms.toNat * p.clockSecond < 2 ^ 64 := by omega
    rw [UInt64.toNat_div, UInt64.toNat_add, UInt64.toNat_mul, UInt32.toNat_toUInt64, hclock, h999,
      h1000, Nat.mod_eq_of_lt hmul, Nat.mod_eq_of_lt hproduct]
  have hpos : 0 < interval_ms ↔ 0 < interval_ms.toNat := UInt32.lt_iff_toNat_lt
  unfold publishIntervalToTicks64 publishIntervalToTicks
  rw [← hsum]
  generalize (interval_ms.toUInt64 * .ofNat p.clockSecond + 999) / 1000 = ticks
  have hzero : ticks = 0 ↔ ticks.toNat = 0 := UInt64.toNat_inj.symm
  have hone : ∀ t : UInt64, (if 0xFFFF < t then 0xFFFF else t).toNat =
      if 0xFFFF < t.toNat then 0xFFFF else t.toNat := by
    intro t
    have hmax : (0xFFFF : UInt64) < t ↔ 0xFFFF < t.toNat := UInt64.lt_iff_toNat_lt
    simp only [hmax]
    split_ifs
    · rfl
    · rfl
  simp only [hone, hpos, hzero]
  by_cases hcorrect : 0 < interval_ms.toNat ∧ ticks.toNat = 0
  · simp only [if_pos hcorrect]
    rfl
  · simp only [if_neg hcorrect]

/-- Both corrections of `publish_interval_to_ticks` at once: the first is never made. -/
theorem publishIntervalToTicks_eq (p : Platform) (interval_ms : ℕ) :
    publishIntervalToTicks p interval_ms =
      min 65535 ⌈((interval_ms * p.clockSecond : ℕ) : ℚ) / 1000⌉₊ := by
  -- A product that is not zero is rounded up to a tick at least.
  have hproduct : 0 < interval_ms → 0 < interval_ms * p.clockSecond := fun h => Nat.mul_pos h p.pos
  rw [ceil_div_thousand]
  unfold publishIntervalToTicks
  simp only
  split_ifs <;> omega

/-- A longer interval takes no fewer ticks. -/
theorem publishIntervalToTicks_mono (p : Platform) {a b : ℕ} (h : a ≤ b) :
    publishIntervalToTicks p a ≤ publishIntervalToTicks p b := by
  have hproduct : a * p.clockSecond ≤ b * p.clockSecond := Nat.mul_le_mul_right _ h
  rw [publishIntervalToTicks_eq, publishIntervalToTicks_eq, ceil_div_thousand, ceil_div_thousand]
  exact min_le_min_left _ (Nat.div_le_div_right (by omega))

/-- Where 15 seconds fit into a timer, a period of a stored interval is not shorter than the
interval. -/
theorem le_period (p : Platform) {interval_ms : ℕ}
    (hle : interval_ms ≤ mqttPublishIntervalStressedMs) (hfits : 15 * p.clockSecond ≤ 65535) :
    (interval_ms : ℚ) / 1000 ≤ publishIntervalToTicks p interval_ms / p.clockSecond := by
  have hclock : (0 : ℚ) < p.clockSecond := by exact_mod_cast p.pos
  have hproduct : interval_ms * p.clockSecond ≤ 15000 * p.clockSecond := Nat.mul_le_mul_right _ hle
  have hticks : interval_ms * p.clockSecond ≤ publishIntervalToTicks p interval_ms * 1000 := by
    rw [publishIntervalToTicks_eq, ceil_div_thousand]
    omega
  rw [div_le_div_iff₀ (by norm_num) hclock]
  exact_mod_cast hticks

/-- The keep-alive of a stored interval is three times the interval, rounded up. Nothing overflows,
and neither correction is made. -/
structure KeepaliveExact (interval_ms : ℕ) : Prop where
  /-- The product fits 32 bits. -/
  product_lt : interval_ms * 3 < 2 ^ 32
  /-- So does the sum. -/
  sum_lt : interval_ms * 3 + 999 < 2 ^ 32
  /-- The keep-alive is not zero, so it is not corrected upwards. -/
  ne_zero : keepaliveS interval_ms ≠ 0
  /-- Nor is it corrected downwards. -/
  le : keepaliveS interval_ms ≤ 0xFFFF
  /-- The quotient is returned as it is. -/
  uncorrected : mqttKeepaliveSeconds interval_ms = keepaliveS interval_ms
  /-- The result. -/
  value : mqttKeepaliveSeconds interval_ms = ⌈((3 * interval_ms : ℕ) : ℚ) / 1000⌉₊

theorem keepaliveExact_of_bounds {interval_ms : ℕ} (hpos : 0 < interval_ms)
    (hle : interval_ms ≤ mqttPublishIntervalStressedMs) : KeepaliveExact interval_ms := by
  have hsmall : interval_ms ≤ 15000 := hle
  have hproduct : interval_ms * 3 < 2 ^ 32 := by omega
  have hsum : interval_ms * 3 + 999 < 2 ^ 32 := by omega
  have hvalue : keepaliveS interval_ms = (interval_ms * 3 + 999) / 1000 := by
    unfold keepaliveS
    rw [Nat.mod_eq_of_lt hproduct, Nat.mod_eq_of_lt hsum]
  refine ⟨hproduct, hsum, ?_, ?_, ?_, ?_⟩
  · rw [hvalue]
    omega
  · rw [hvalue]
    omega
  · rw [mqttKeepaliveSeconds_of_bounds hpos hle, hvalue, Nat.mul_comm]
  · rw [mqttKeepaliveSeconds_of_bounds hpos hle, ceil_div_thousand]

/-- The number of ticks of an argument of 32 bits is the rounded product, cut to 16 bits. The
computation in 64 bits does not overflow. -/
structure TicksExact (p : Platform) (interval_ms : UInt32) : Prop where
  /-- The sum fits 64 bits. -/
  sum_lt : interval_ms.toNat * p.clockSecond + 999 < 2 ^ 64
  /-- So the words compute the number. -/
  words : (publishIntervalToTicks64 (.ofNat p.clockSecond) interval_ms).toNat =
    publishIntervalToTicks p interval_ms.toNat
  /-- The result. -/
  value : publishIntervalToTicks p interval_ms.toNat =
    min 65535 ⌈((interval_ms.toNat * p.clockSecond : ℕ) : ℚ) / 1000⌉₊
  /-- An interval that is not zero takes a tick. -/
  pos : 0 < interval_ms → 1 ≤ publishIntervalToTicks p interval_ms.toNat
  /-- A longer interval takes no fewer ticks. -/
  mono : ∀ longer, interval_ms ≤ longer →
    publishIntervalToTicks p interval_ms.toNat ≤ publishIntervalToTicks p longer.toNat

theorem ticksExact (h : p.clockSecond ≤ 2 ^ 31) (interval_ms : UInt32) :
    TicksExact p interval_ms where
  sum_lt := product_lt h interval_ms
  words := publishIntervalToTicks64_toNat h interval_ms
  value := publishIntervalToTicks_eq p interval_ms.toNat
  pos hpos := publishIntervalToTicks_pos p (UInt32.lt_iff_toNat_lt.mp hpos)
  mono _ hle := publishIntervalToTicks_mono p (UInt32.le_iff_toNat_le.mp hle)

/-- After all calls of `set_publish_interval_ms`, with all arguments, the interval is between 1 and
15000, its keep-alive is exact, and its period is not shorter than it is where 15 seconds fit into a
timer. The number of ticks is exact for every argument. -/
theorem conversions_safe (cfg : SamplingBuild) (p : Platform) (h : p.clockSecond ≤ 2 ^ 31)
    (args : List UInt32) :
    (1 ≤ (afterCalls cfg args).current_publish_interval_ms ∧
      (afterCalls cfg args).current_publish_interval_ms ≤ 15000) ∧
    KeepaliveExact (afterCalls cfg args).current_publish_interval_ms ∧
    (∀ interval_ms, TicksExact p interval_ms) ∧
    (15 * p.clockSecond ≤ 65535 →
      ((afterCalls cfg args).current_publish_interval_ms : ℚ) / 1000 ≤
        publishIntervalToTicks p
          (afterCalls cfg args).current_publish_interval_ms / p.clockSecond) := by
  have hpos := (afterCalls cfg args).pos
  have hle := (afterCalls cfg args).le
  exact ⟨⟨hpos, hle⟩, keepaliveExact_of_bounds hpos hle, ticksExact h, le_period p hle⟩

/-- The build's platform, with 128 ticks a second, after the calls with the largest argument and
zero. -/
theorem conversions_safe_build :
    KeepaliveExact (afterCalls ⟨5000, by decide, by decide⟩
      [4294967295, 0]).current_publish_interval_ms ∧
    ∀ interval_ms, TicksExact ⟨128, by decide⟩ interval_ms :=
  have hsafe := conversions_safe ⟨5000, by decide, by decide⟩ ⟨128, by decide⟩ (by norm_num)
    [4294967295, 0]
  ⟨hsafe.2.1, hsafe.2.2.1⟩

end EnergyStation.Firmware
