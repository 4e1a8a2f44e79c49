import EnergyStation.Coap

/-!
# The sampling interval of a sensor node

`sampling_control.c` holds the publish interval, and `res-sampling.c` serves it. The state carries
the bounds of the interval, which every build and every command respects.
-/

namespace EnergyStation.Firmware

open CStdlib Numeral

/-- `MQTT_PUBLISH_INTERVAL_STRESSED_MS`. -/
def mqttPublishIntervalStressedMs : ℕ := 15000

/-- What a build fixes. -/
structure SamplingBuild where
  /-- `MQTT_PUBLISH_INTERVAL_MS` -/
  mqttPublishIntervalMs : ℕ
  /-- It is not zero. -/
  pos : 0 < mqttPublishIntervalMs
  /-- It is not above the stressed interval. -/
  le : mqttPublishIntervalMs ≤ mqttPublishIntervalStressedMs

/-- The interval of `coap-mqtt-sensor/project-conf.h`. -/
def windSampling : SamplingBuild := ⟨5000, by decide, by decide⟩

/-- The interval of `coap-mqtt-solar-sensor/project-conf.h`. -/
def solarSampling : SamplingBuild := ⟨800, by decide, by decide⟩

/-- What a platform fixes. -/
structure Platform where
  /-- `CLOCK_SECOND` -/
  clockSecond : ℕ
  /-- A second has at least one tick. -/
  pos : 0 < clockSecond

/-- `publish_interval_to_ticks`. The product of two numbers of 32 bits does not overflow. -/
def publishIntervalToTicks (p : Platform) (interval_ms : ℕ) : ℕ :=
  let ticks := (interval_ms * p.clockSecond + 999) / 1000
  let ticks := if 0 < interval_ms ∧ ticks = 0 then 1 else ticks
  if 0xFFFF < ticks then 0xFFFF else ticks

/-- An interval that is not zero takes at least one tick. -/
theorem publishIntervalToTicks_pos (p : Platform) {interval_ms : ℕ} (h : 0 < interval_ms) :
    0 < publishIntervalToTicks p interval_ms := by
  unfold publishIntervalToTicks
  simp only
  split_ifs <;> omega

/-- The static variables of `sampling_control.c`. -/
structure Sampling where
  /-- `current_publish_interval_ms` -/
  current_publish_interval_ms : ℕ
  /-- `publish_interval_dirty` -/
  publish_interval_dirty : Bool
  /-- `process_poll` was called for the publishing process. -/
  polled : Bool
  /-- The interval is not zero. -/
  pos : 0 < current_publish_interval_ms
  /-- The interval is not above the stressed one. -/
  le : current_publish_interval_ms ≤ mqttPublishIntervalStressedMs

namespace Sampling

/-- The node has just booted. -/
def boot (cfg : SamplingBuild) : Sampling :=
  ⟨cfg.mqttPublishIntervalMs, false, false, cfg.pos, cfg.le⟩

/-- The interval that `set_publish_interval_ms` makes of its argument. -/
def clampInterval (cfg : SamplingBuild) (interval_ms : ℕ) : ℕ :=
  -- Zero asks for the interval of the build.
  let interval_ms := if interval_ms = 0 then cfg.mqttPublishIntervalMs else interval_ms
  if mqttPublishIntervalStressedMs < interval_ms then mqttPublishIntervalStressedMs
  else interval_ms

theorem clampInterval_pos (cfg : SamplingBuild) (interval_ms : ℕ) :
    0 < clampInterval cfg interval_ms := by
  have hpos := cfg.pos
  unfold clampInterval mqttPublishIntervalStressedMs
  simp only
  split_ifs <;> omega

theorem clampInterval_le (cfg : SamplingBuild) (interval_ms : ℕ) :
    clampInterval cfg interval_ms ≤ mqttPublishIntervalStressedMs := by
  have hle := cfg.le
  unfold clampInterval
  simp only
  split_ifs <;> omega

/-- An interval within the bounds is left as it is. -/
theorem clampInterval_of_bounds {cfg : SamplingBuild} {interval_ms : ℕ} (hpos : 0 < interval_ms)
    (hle : interval_ms ≤ mqttPublishIntervalStressedMs) :
    clampInterval cfg interval_ms = interval_ms := by
  unfold clampInterval
  rw [if_neg (Nat.ne_of_gt hpos), if_neg (Nat.not_lt.mpr hle)]

/-- `set_publish_interval_ms`. -/
def setPublishIntervalMs (cfg : SamplingBuild) (interval_ms : ℕ) (s : Sampling) : Sampling :=
  if clampInterval cfg interval_ms ≠ s.current_publish_interval_ms then
    ⟨clampInterval cfg interval_ms, true, true, clampInterval_pos cfg interval_ms,
      clampInterval_le cfg interval_ms⟩
  else s

/-- The GET handler of `res-sampling.c`. -/
def resGetHandler (s : Sampling) : Response :=
  ⟨.content, (decimal s.current_publish_interval_ms).map UInt8.ofNat⟩

/-- The PUT handler of `res-sampling.c`. -/
def resPutHandler (cfg : SamplingBuild) (s : Sampling) (body : Bytes) : Response × Sampling :=
  if body = [] then (⟨.badRequest, ascii "Missing body: interval_ms"⟩, s)
  else
    let tmp := boundedString 32 body
    let (interval_ms, rest) := strtoul tmp
    -- Nothing was read, something follows the number, or it is out of the resource's range.
    if rest = tmp ∨ rest ≠ [] ∨ interval_ms < 1 ∨ 60000 < interval_ms then
      (⟨.badRequest, ascii "Invalid interval: use 1..60000"⟩, s)
    -- The answer repeats the request, also where the interval is cut.
    else (⟨.changed, tmp.map UInt8.ofNat⟩, s.setPublishIntervalMs cfg interval_ms)

/-- `publish_interval_clear_dirty`. -/
def publishIntervalClearDirty (s : Sampling) :
    Sampling := { s with publish_interval_dirty := false }

theorem setPublishIntervalMs_current (cfg : SamplingBuild) (interval_ms : ℕ) (s : Sampling) :
    (s.setPublishIntervalMs cfg interval_ms).current_publish_interval_ms =
      clampInterval cfg interval_ms := by
  unfold setPublishIntervalMs
  split_ifs with h
  · rfl
  · exact (not_not.mp h).symm

/-- A PUT changes the interval and marks it, or changes nothing. -/
theorem resPutHandler_cases (cfg : SamplingBuild) (s : Sampling) (body : Bytes) :
    (s.resPutHandler cfg body).2 = s ∨
      ((s.resPutHandler cfg body).2.publish_interval_dirty = true ∧
        (s.resPutHandler cfg body).2.polled = true) := by
  unfold resPutHandler setPublishIntervalMs
  simp only
  split_ifs
  · exact .inl rfl
  · exact .inl rfl
  · exact .inr ⟨rfl, rfl⟩
  · exact .inl rfl

/-- The body that commands an interval. -/
def intervalBody (interval_ms : ℕ) : Bytes := (decimal interval_ms).map UInt8.ofNat

/-- A command within the bounds is accepted, and sets the interval. -/
theorem resPutHandler_intervalBody (cfg : SamplingBuild) (s : Sampling) {interval_ms : ℕ}
    (hpos : 0 < interval_ms) (hle : interval_ms ≤ mqttPublishIntervalStressedMs) :
    (s.resPutHandler cfg (intervalBody interval_ms)).1 =
        ⟨.changed, intervalBody interval_ms⟩ ∧
      (s.resPutHandler cfg (intervalBody interval_ms)).2.current_publish_interval_ms =
        interval_ms := by
  have hsmall : interval_ms ≤ 15000 := hle
  have hne := decimal_ne_nil interval_ms
  have hbody : intervalBody interval_ms ≠ [] := fun h => hne (List.map_eq_nil_iff.mp h)
  have htmp : boundedString 32 (intervalBody interval_ms) = decimal interval_ms :=
    boundedString_decimal 5 (by norm_num) (by omega) (by norm_num)
  have hscan : strtoul (decimal interval_ms) = (interval_ms, []) :=
    strtoul_decimal (by unfold ulongMax; omega)
  have hvalid : ¬ ([] = decimal interval_ms ∨ ([] : List ℕ) ≠ [] ∨ interval_ms < 1 ∨
      60000 < interval_ms) := by
    rintro (h | h | h | h)
    · exact hne h.symm
    · exact h rfl
    · omega
    · omega
  unfold resPutHandler
  rw [if_neg hbody, htmp]
  simp only [hscan]
  rw [if_neg hvalid]
  exact ⟨rfl, (setPublishIntervalMs_current cfg interval_ms s).trans
    (clampInterval_of_bounds hpos hle)⟩

end Sampling

end EnergyStation.Firmware
