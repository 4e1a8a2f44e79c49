import EnergyStation.Firmware.ProtectiveShutdown
import Mathlib.Tactic.Linarith

/-!
# The decision tree against the builds

`detect_anomaly` takes three regions of voltages and currents for anomalies (`detectAnomaly_iff`).
None of the three firmwares measures a value in one of them, and none injects a fault that lies in
one: the tree speaks up for the zeros of a device that is off only, where the firmware does not ask
it (`tree_speaks_for_zeros`). So an anomaly in a packet is an injected fault, and a firmware that
injects none switches off by request only.
-/

namespace EnergyStation.Firmware.DecisionTree

open CStdlib Numeral ProtectiveShutdown Runs

/-- The tree's verdict is an anomaly for low voltages with ordinary currents, for almost no voltage
with high currents, and for currents that are higher still. -/
theorem detectAnomaly_iff (v i : ℚ) : detectAnomaly v i = true ↔
    (v ≤ 0.5086576044559479 ∧ i ≤ 19.780384063720703) ∨
    (v ≤ 0.07334069348871708 ∧ 72.90320587158203 < i ∧ i ≤ 83.65932083129883) ∨
    83.65932083129883 < i := by
  unfold detectAnomaly anomalyScore
  rw [decide_eq_true_eq]
  -- One case for each leaf of the tree.
  split_ifs with hi hv hi' hv' hi' hv' hi''
  · exact iff_of_true (by norm_num) (.inl ⟨hv, hi'⟩)
  · refine iff_of_false (by norm_num) ?_
    rintro (⟨-, h⟩ | ⟨-, h, -⟩ | h)
    · exact hi' h
    · exact absurd h (not_lt.mpr hi)
    · linarith
  · refine iff_of_false (by norm_num) ?_
    rintro (⟨h, -⟩ | ⟨-, h, -⟩ | h)
    · exact hv h
    · exact absurd h (not_lt.mpr hi)
    · linarith
  · refine iff_of_false (by norm_num) ?_
    rintro (⟨h, -⟩ | ⟨-, h, -⟩ | h)
    · exact hv h
    · exact absurd h (not_lt.mpr hi)
    · linarith
  · exact iff_of_true (by norm_num) (.inr (.inl ⟨hv', not_le.mp hi, hi'⟩))
  · refine iff_of_false (by norm_num) ?_
    rintro (⟨-, h⟩ | ⟨h, -, -⟩ | h)
    · linarith
    · exact hv' h
    · exact absurd h (not_lt.mpr hi')
  · exact iff_of_true (by norm_num) (.inr (.inr (not_le.mp hi')))
  · exact iff_of_true (by norm_num) (.inr (.inr (not_le.mp hi')))

/-- A voltage of a volt or more with a current below 73 A is no anomaly for the tree. -/
theorem detectAnomaly_of_ordinary {v i : ℚ} (hv : 1 ≤ v) (hi : i ≤ 72.9) :
    detectAnomaly v i = false := by
  rw [← Bool.not_eq_true, detectAnomaly_iff]
  rintro (⟨hlow, -⟩ | ⟨hlow, -⟩ | hhigh)
  · linarith
  · linarith
  · linarith

/-- Zeros are an anomaly for the tree. -/
theorem detectAnomaly_zero : detectAnomaly 0 0 = true := by
  rw [detectAnomaly_iff]
  norm_num

/-- What a build measures and injects is ordinary for the tree. -/
structure Ordinary (cfg : SensorBuild) : Prop where
  /-- A quarter of the voltage is a volt or more. -/
  v_base : 4 ≤ cfg.sensorVBase
  /-- The current of a fault is below 73 A. -/
  i_base : cfg.sensorIBase * 3 + cfg.sensorIRange ≤ 73

/-- The readings of the three builds are ordinary. -/
theorem ordinary_builds : Ordinary windSensor ∧ Ordinary solarSensor ∧ Ordinary dieselSensor :=
  ⟨⟨by decide, by decide⟩, ⟨by decide, by decide⟩, ⟨by decide, by decide⟩⟩

variable {cfg : SensorBuild}

/-- The tree's verdict on a measurement whose digits are ordinary. -/
theorem detectAnomaly_of_digits {m : Sample} (hv : 1 ≤ m.v_int) (hi : m.i_int ≤ 72) :
    detectAnomaly m.v m.i = false := by
  have hv' : (1 : ℚ) ≤ m.v_int := by exact_mod_cast hv
  have hi' : (m.i_int : ℚ) ≤ 72 := by exact_mod_cast hi
  have hvf : (0 : ℚ) ≤ m.v_frac := Nat.cast_nonneg _
  have hif : (m.i_frac : ℚ) ≤ 9 := by exact_mod_cast Nat.le_of_lt_succ m.i_frac_lt
  apply detectAnomaly_of_ordinary
  · unfold Sample.v
    linarith
  · unfold Sample.i
    linarith

/-- What a build measures is no anomaly for the tree. -/
theorem detectAnomaly_normal (h : Ordinary cfg) (rand : ℕ → ℕ) :
    detectAnomaly (Sample.normal cfg rand).v (Sample.normal cfg rand).i = false := by
  have hrand := Nat.mod_lt (rand 2) cfg.i_pos
  have hv := h.v_base
  have hi := h.i_base
  apply detectAnomaly_of_digits
  · show 1 ≤ cfg.sensorVBase + rand 0 % cfg.sensorVRange
    omega
  · show cfg.sensorIBase + rand 2 % cfg.sensorIRange ≤ 72
    omega

/-- What a build injects is no anomaly for the tree either. -/
theorem detectAnomaly_fault (h : Ordinary cfg) (rand : ℕ → ℕ) :
    detectAnomaly (Sample.fault cfg rand).v (Sample.fault cfg rand).i = false := by
  have hrand := Nat.mod_lt (rand 6) cfg.i_pos
  have hv := h.v_base
  have hi := h.i_base
  apply detectAnomaly_of_digits
  · show 1 ≤ cfg.sensorVBase / 4
    omega
  · show cfg.sensorIBase * 3 + rand 6 % cfg.sensorIRange ≤ 72
    omega

/-- The firmware asks the tree about what it has measured. -/
theorem anomaly_normal (cfg : SensorBuild) (rand : ℕ → ℕ) :
    (Sample.normal cfg rand).anomaly =
      detectAnomaly (Sample.normal cfg rand).v (Sample.normal cfg rand).i := rfl

/-- A fault is injected for these random numbers. -/
def Injects (cfg : SensorBuild) (rand : ℕ → ℕ) : Prop := rand 4 % 100 < cfg.anomalyInjectPercent

/-- An anomaly in a measurement is an injected fault. -/
theorem anomaly_measure_iff (h : Ordinary cfg) (rand : ℕ → ℕ) (device_on : Bool) :
    (Sample.measure cfg rand device_on).anomaly = true ↔ device_on = true ∧ Injects cfg rand := by
  unfold Sample.measure Injects
  split_ifs with hon hinject
  · exact ⟨fun _ => ⟨hon, hinject⟩, fun _ => rfl⟩
  · rw [anomaly_normal, detectAnomaly_normal h]
    simp [hinject]
  · simp [Sample.zero, hon]

/-- The tree's verdict on a measurement tells that the device is off. -/
theorem detectAnomaly_measure (h : Ordinary cfg) (rand : ℕ → ℕ) (device_on : Bool) :
    detectAnomaly (Sample.measure cfg rand device_on).v (Sample.measure cfg rand device_on).i =
      !device_on := by
  unfold Sample.measure
  split_ifs with hon hinject
  · rw [detectAnomaly_fault h, hon]
    rfl
  · rw [detectAnomaly_normal h, hon]
    rfl
  · have hv : Sample.zero.v = 0 := by norm_num [Sample.zero, Sample.v]
    have hi : Sample.zero.i = 0 := by norm_num [Sample.zero, Sample.i]
    rw [hv, hi, detectAnomaly_zero, Bool.eq_false_iff.mpr hon]
    rfl

variable {b : Build}

/-- The packet of an event is the one of a publish. -/
theorem packet_eq_some {s : State} {e : Event} {m : TelemetryMessage} (h : packet b s e = some m) :
    ∃ uptime_ms rand ok, e = .publish uptime_ms rand ok ∧
      m.sample = .measure b.sensor rand s.producer.device_on := by
  cases e with
  | publish uptime_ms rand ok =>
    cases h
    exact ⟨uptime_ms, rand, ok, rfl, rfl⟩
  | status body => cases h
  | sampling body => cases h
  | tick => cases h
  | fire => cases h

/-- The event is a request that switches the device off. -/
def IsOff : Event → Prop
  | .status body => hasPrefix (ascii "off") body = true
  | _ => False

/-- The event calls `publish_telemetry` with random numbers for which a fault is injected. -/
def IsInjection (cfg : SensorBuild) : Event → Prop
  | .publish _ rand _ => Injects cfg rand
  | _ => False

/-- Nothing is injected where the probability of a fault is zero. -/
theorem not_isInjection (h : cfg.anomalyInjectPercent = 0) (e : Event) : ¬ IsInjection cfg e := by
  cases e with
  | publish uptime_ms rand ok =>
    show ¬ rand 4 % 100 < cfg.anomalyInjectPercent
    rw [h]
    exact Nat.not_lt_zero _
  | status body => exact id
  | sampling body => exact id
  | tick => exact id
  | fire => exact id

/-- A device that is on stays on, where it is neither switched off nor publishes an injected
fault. -/
theorem on_step (h : Ordinary b.sensor) {s : State} (hon : s.producer.device_on = true) {e : Event}
    (hoff : ¬ IsOff e) (hinject : ¬ IsInjection b.sensor e) :
    (step b s e).producer.device_on = true := by
  by_contra hafter
  -- A device that is off after the step has been shut down, by a command or by an anomaly.
  have hshut : ShutsDown b s e := by
    refine ⟨hon, Bool.eq_false_iff.mpr hafter, fun hcommand => ?_⟩
    cases e with
    | status body =>
      have hnot : ¬ hasPrefix (ascii "off") body = true := hoff
      simp only [powerEvent, Option.bind_some, WarmUp.Event.command, WarmUp.commanded,
        if_neg hnot] at hcommand
      split_ifs at hcommand
      cases hcommand
    | sampling body => cases hcommand
    | tick => cases hcommand
    | fire => cases hcommand
    | publish uptime_ms rand ok => cases hcommand
  -- An anomaly of an ordinary build is an injected fault.
  obtain ⟨-, uptime_ms, rand, ok, rfl, hanomaly⟩ := (shutsDown_iff s e).mp hshut
  exact hinject ((anomaly_measure_iff h rand true).mp hanomaly).2

/-- What the tree says in a build. -/
structure Silent (b : Build) : Prop where
  /-- Its verdict on a packet tells that the device is off. -/
  verdict : ∀ s e m, packet b s e = some m →
    detectAnomaly m.sample.v m.sample.i = !s.producer.device_on
  /-- The anomaly of a packet is a fault that has been injected into a device that is on. -/
  anomaly : ∀ s e m, packet b s e = some m →
    (m.sample.anomaly = true ↔ s.producer.device_on = true ∧ IsInjection b.sensor e)
  /-- A build that injects no faults publishes no anomaly. -/
  quiet : b.sensor.anomalyInjectPercent = 0 → ∀ s e m, packet b s e = some m →
    m.sample.anomaly = false
  /-- Between two states of a run of which the first is on and the second is off, the device has
  been switched off by request or a fault has been injected. -/
  stays_on : ∀ pre mid, (run (step b) (boot b) pre).producer.device_on = true →
    (run (step b) (boot b) (pre ++ mid)).producer.device_on = false →
    ∃ e ∈ mid, IsOff e ∨ IsInjection b.sensor e

/-- In every run of a build whose readings and faults are ordinary for the tree: its verdict on what
a packet carries is an anomaly exactly where the device is off, the anomaly of a packet is an
injected fault, and a device that is on goes off by a request or by an injected fault only. -/
theorem tree_speaks_for_zeros (h : Ordinary b.sensor) : Silent b where
  verdict s e m hpacket := by
    obtain ⟨uptime_ms, rand, ok, -, hsample⟩ := packet_eq_some hpacket
    rw [hsample]
    exact detectAnomaly_measure h rand _
  anomaly s e m hpacket := by
    obtain ⟨uptime_ms, rand, ok, rfl, hsample⟩ := packet_eq_some hpacket
    rw [hsample]
    exact anomaly_measure_iff h rand _
  quiet hpercent s e m hpacket := by
    obtain ⟨uptime_ms, rand, ok, rfl, hsample⟩ := packet_eq_some hpacket
    rw [hsample, Bool.eq_false_iff]
    exact fun hanomaly => not_isInjection hpercent (.publish uptime_ms rand ok)
      ((anomaly_measure_iff h rand _).mp hanomaly).2
  stays_on pre mid hon hoff := by
    by_contra hnone
    push Not at hnone
    have hstays : (run (step b) (boot b) (pre ++ mid)).producer.device_on = true := by
      rw [run_append]
      exact run_invariant (I := fun s : State => s.producer.device_on = true)
        (C := fun _ e => ¬ IsOff e ∧ ¬ IsInjection b.sensor e)
        (fun s e hs he => on_step h hs he.1 he.2) hon (along_of_forall_mem hnone)
    rw [hoff] at hstays
    cases hstays

theorem tree_speaks_for_zeros_wind : Silent windBuild :=
  tree_speaks_for_zeros (b := windBuild) ordinary_builds.1

end EnergyStation.Firmware.DecisionTree
