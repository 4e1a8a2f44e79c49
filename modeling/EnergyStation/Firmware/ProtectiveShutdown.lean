import EnergyStation.Firmware.Telemetry
import EnergyStation.Firmware.WarmUp

/-!
# The shutdown after an anomaly

`publish_telemetry` publishes the packet of an anomaly first and shuts the device down after it,
whatever `mqtt_publish` has returned. So a shutdown has been reported exactly where the publish of
every anomaly is accepted (`protected_iff`). What a device that has shut itself down publishes are
zeros, until it is switched on and has warmed up: its power state follows the machine of `WarmUp`
(`run_producer`).
-/

namespace EnergyStation.Firmware.ProtectiveShutdown

open CStdlib Numeral Runs WarmUp

/-- What a build and a device fix. -/
structure Build where
  /-- The power state. -/
  producer : ProducerBuild
  /-- The measurements. -/
  sensor : SensorBuild
  /-- The sampling interval. -/
  sampling : SamplingBuild
  /-- The node. -/
  node : ProducerNode

/-- The state of a producer node, without its connections. -/
structure State where
  /-- The power state. -/
  producer : Producer
  /-- The sampling interval. -/
  sampling : Sampling
  /-- `mqtt_seq` -/
  mqtt_seq : UInt32

/-- What happens to a producer node. -/
inductive Event where
  /-- A PUT request to `actuators/status`. -/
  | status (body : Bytes)
  /-- A PUT request to `actuators/sampling`. -/
  | sampling (body : Bytes)
  /-- A clock tick. -/
  | tick
  /-- The timer process runs. -/
  | fire
  /-- `publish_telemetry` is called, with the values of `random_rand`. `ok` says that its
  `mqtt_publish` returns `MQTT_STATUS_OK`. -/
  | publish (uptime_ms : ℕ) (rand : ℕ → ℕ) (ok : Bool)

/-- The node after boot. -/
def boot (b : Build) : State := ⟨.boot b.producer, .boot b.sampling, 0⟩

/-- The call of `publish_telemetry`. -/
def publishCall (b : Build) (s : State) (uptime_ms : ℕ) (rand : ℕ → ℕ) :
    TelemetryMessage × Producer × UInt32 :=
  publishTelemetry b.sensor b.node s.sampling uptime_ms rand s.producer s.mqtt_seq

/-- One event. -/
def step (b : Build) (s : State) : Event → State
  | .status body => { s with producer := (s.producer.resPutHandler b.producer body).2 }
  | .sampling body => { s with sampling := (s.sampling.resPutHandler b.sampling body).2 }
  | .tick => { s with producer := s.producer.tick }
  | .fire => { s with producer := s.producer.fire }
  -- What `mqtt_publish` returns is only logged.
  | .publish uptime_ms rand _ =>
    { s with
      producer := (publishCall b s uptime_ms rand).2.1
      mqtt_seq := (publishCall b s uptime_ms rand).2.2 }

/-- The packet of an event. -/
def packet (b : Build) (s : State) : Event → Option TelemetryMessage
  | .publish uptime_ms rand _ => some (publishCall b s uptime_ms rand).1
  | _ => none

/-- What an event does to the power state. -/
def powerEvent (b : Build) : Event → Option WarmUp.Event
  | .status body => some (.put body)
  | .sampling _ => none
  | .tick => some .tick
  | .fire => some .fire
  | .publish _ rand _ => some (.publish (Sample.measure b.sensor rand true).anomaly)

/-- The device goes off without an accepted `off` request. -/
def ShutsDown (b : Build) (s : State) (e : Event) : Prop :=
  s.producer.device_on = true ∧ (step b s e).producer.device_on = false ∧
    (powerEvent b e).bind WarmUp.Event.command ≠ some false

/-- A shutdown is the end of a publish whose packet carries the anomaly with the status `ON` and
what was measured, and which has been accepted. -/
def Reported (b : Build) (s : State) (e : Event) : Prop :=
  ShutsDown b s e → ∃ uptime_ms rand m, e = .publish uptime_ms rand true ∧ packet b s e = some m ∧
    m.sample.anomaly = true ∧ m.status = text "ON" ∧ m.sample = .measure b.sensor rand true

/-- The events switch a device on that is off in the power state `p`: there is an `on` request among
them, and a warm-up after it where the build has one. -/
def SwitchesOn (cfg : ProducerBuild) (p : Producer) (es : List WarmUp.Event) : Prop :=
  if 0 < cfg.sensorStartupDelayS then ∃ q r, es = q ++ .fire :: r ∧ WarmedUp cfg p q
  else ∃ e ∈ es, e.command = some true

/-- After a shutdown every packet carries zeros, no anomaly and a status other than `ON`, until the
device is switched on. -/
def Silent (b : Build) (es : List Event) : Prop :=
  ∀ pre e mid f m, pre ++ e :: (mid ++ [f]) <+: es → ShutsDown b (run (step b) (boot b) pre) e →
    ¬ SwitchesOn b.producer (run (step b) (boot b) (pre ++ [e])).producer
      (mid.filterMap (powerEvent b)) →
    packet b (run (step b) (boot b) (pre ++ e :: mid)) f = some m →
    m.sample = .zero ∧ m.status ≠ text "ON"

/-- Every shutdown of the run has been reported, and is followed by silence. -/
def Protected (b : Build) (es : List Event) : Prop :=
  Along (step b) (Reported b) (boot b) es ∧ Silent b es

/-- The publish of an anomaly is accepted. -/
def AnomalyAccepted (b : Build) (s : State) : Event → Prop
  | .publish _ rand ok =>
    (Sample.measure b.sensor rand s.producer.device_on).anomaly = true → ok = true
  | _ => True

variable {b : Build}

/-- A measurement of a device that is off is no anomaly. -/
theorem anomalyShutdown_measure (cfg : SensorBuild) (rand : ℕ → ℕ) (p : Producer) :
    p.anomalyShutdown (Sample.measure cfg rand p.device_on).anomaly =
      p.anomalyShutdown (Sample.measure cfg rand true).anomaly := by
  rcases hon : p.device_on with _ | _
  · simp [Producer.anomalyShutdown, hon]
  · rfl

/-- The power state follows the machine of the warm-up. -/
theorem run_producer (s : State) (es : List Event) :
    (run (step b) s es).producer =
      run (WarmUp.step b.producer) s.producer (es.filterMap (powerEvent b)) := by
  refine run_project State.producer (powerEvent b) ?_ ?_ s es
  · intro s e d hd
    cases e with
    | status body => cases hd; rfl
    | sampling body => cases hd
    | tick => cases hd; rfl
    | fire => cases hd; rfl
    | publish uptime_ms rand ok =>
      cases hd
      exact anomalyShutdown_measure b.sensor rand s.producer
  · intro s e hd
    cases e with
    | sampling body => rfl
    | status body => cases hd
    | tick => cases hd
    | fire => cases hd
    | publish uptime_ms rand ok => cases hd

/-- A packet of a device that is off carries zeros. -/
theorem packet_of_off {s : State} (hoff : s.producer.device_on = false) {e : Event}
    {m : TelemetryMessage} (h : packet b s e = some m) :
    m.sample = .zero ∧ m.status ≠ text "ON" := by
  cases e with
  | publish uptime_ms rand ok =>
    rw [← Option.some.inj h]
    have hsample : (publishCall b s uptime_ms rand).1.sample = .zero :=
      if_neg (by rw [hoff]; exact Bool.false_ne_true)
    have hstatus : (publishCall b s uptime_ms rand).1.status =
        if s.producer.device_starting then text "STARTING" else text "OFF" :=
      if_neg (by show ¬ s.producer.device_on = true; rw [hoff]; exact Bool.false_ne_true)
    refine ⟨hsample, ?_⟩
    rw [hstatus]
    split_ifs <;> decide
  | status body => cases h
  | sampling body => cases h
  | tick => cases h
  | fire => cases h

/-- A device that is on shuts itself down exactly where it publishes an anomaly. -/
theorem shutsDown_iff (s : State) (e : Event) :
    ShutsDown b s e ↔ s.producer.device_on = true ∧ ∃ uptime_ms rand ok,
      e = .publish uptime_ms rand ok ∧ (Sample.measure b.sensor rand true).anomaly = true := by
  constructor
  · rintro ⟨hon, hoff, hcommand⟩
    refine ⟨hon, ?_⟩
    have hkept : ∀ p : Producer, p.device_on = true → (step b s e).producer = p → False :=
      fun p hp heq => by rw [heq, hp] at hoff; cases hoff
    cases e with
    | status body =>
      have hnot : ¬ hasPrefix (ascii "off") body = true := fun h => hcommand (if_pos h)
      have hafter : (step b s (.status body)).producer =
          if hasPrefix (ascii "on") body then s.producer.turnOn b.producer else s.producer := by
        rw [step, Producer.resPutHandler_snd, if_neg hnot]
      refine absurd hafter (hkept _ ?_)
      -- A device that is on stays on, whatever the build's warm-up is.
      unfold Producer.turnOn
      split_ifs <;> first | exact hon | rfl
    | sampling body => exact absurd rfl (hkept s.producer hon)
    | tick => exact absurd rfl (hkept s.producer.tick hon)
    | fire =>
      refine absurd rfl (hkept s.producer.fire ?_)
      unfold Producer.fire
      split_ifs <;> first | exact hon | rfl
    | publish uptime_ms rand ok =>
      refine ⟨uptime_ms, rand, ok, rfl, ?_⟩
      by_contra hnormal
      have hafter : (step b s (.publish uptime_ms rand ok)).producer = s.producer := by
        refine (anomalyShutdown_measure b.sensor rand s.producer).trans ?_
        rw [Producer.anomalyShutdown, Bool.eq_false_iff.mpr hnormal, Bool.and_false,
          if_neg Bool.false_ne_true]
      exact hkept s.producer hon hafter
  · rintro ⟨hon, uptime_ms, rand, ok, rfl, hanomaly⟩
    refine ⟨hon, ?_, ?_⟩
    · show (s.producer.anomalyShutdown
        (Sample.measure b.sensor rand s.producer.device_on).anomaly).device_on = false
      rw [anomalyShutdown_measure, Producer.anomalyShutdown, hon, hanomaly]
      rfl
    · exact fun h => by cases h

/-- A shutdown has been reported exactly where the publish of an anomaly is accepted. -/
theorem reported_iff (s : State) (e : Event) : Reported b s e ↔ AnomalyAccepted b s e := by
  constructor
  · intro h
    cases e with
    | publish uptime_ms rand ok =>
      intro hanomaly
      -- Only a device that is on measures anything.
      have hon : s.producer.device_on = true := by
        by_contra hoff
        rw [Bool.eq_false_iff.mpr hoff] at hanomaly
        exact Bool.false_ne_true hanomaly
      rw [hon] at hanomaly
      obtain ⟨uptime_ms', rand', m, heq, -⟩ :=
        h ((shutsDown_iff s _).mpr ⟨hon, uptime_ms, rand, ok, rfl, hanomaly⟩)
      cases heq
      rfl
    | status body => trivial
    | sampling body => trivial
    | tick => trivial
    | fire => trivial
  · intro h hshut
    obtain ⟨hon, uptime_ms, rand, ok, rfl, hanomaly⟩ := (shutsDown_iff s e).mp hshut
    have hok : ok = true := h (by rw [hon]; exact hanomaly)
    have hsample : (publishCall b s uptime_ms rand).1.sample = .measure b.sensor rand true :=
      congrArg (Sample.measure b.sensor rand) hon
    refine ⟨uptime_ms, rand, (publishCall b s uptime_ms rand).1, by rw [hok], rfl, ?_, if_pos hon,
      hsample⟩
    rw [hsample]
    exact hanomaly

/-- Without a warm-up no startup is ever pending. -/
theorem step_no_timer {cfg : ProducerBuild} (hcfg : ¬ 0 < cfg.sensorStartupDelayS) {p : Producer}
    (hp : p.startup_timer = none) (e : WarmUp.Event) :
    (WarmUp.step cfg p e).startup_timer = none := by
  cases e with
  | put body =>
    rw [WarmUp.step, Producer.resPutHandler_snd, Producer.turnOff, Producer.turnOn, if_neg hcfg,
      if_neg hcfg]
    split_ifs <;> exact hp
  | tick => simp [WarmUp.step, Producer.tick, hp]
  | fire =>
    rw [WarmUp.step, Producer.fire, hp, if_neg (Option.some_ne_none 0).symm]
    exact hp
  | publish fault =>
    rw [WarmUp.step, Producer.anomalyShutdown]
    split_ifs <;> exact hp

/-- Without a warm-up and a pending startup, a device that is off comes on by a request only. -/
theorem step_off_stays {cfg : ProducerBuild} (hcfg : ¬ 0 < cfg.sensorStartupDelayS) {p : Producer}
    (hoff : p.device_on = false) (hp : p.startup_timer = none) {e : WarmUp.Event}
    (he : e.command ≠ some true) : (WarmUp.step cfg p e).device_on = false := by
  cases e with
  | put body =>
    rw [WarmUp.step, Producer.resPutHandler_snd, Producer.turnOff, if_neg hcfg]
    split_ifs with hoffBody hon
    · rfl
    · exact absurd (by simp [WarmUp.Event.command, commanded, hoffBody, hon]) he
    · exact hoff
  | tick => exact hoff
  | fire =>
    rw [WarmUp.step, Producer.fire, hp, if_neg (Option.some_ne_none 0).symm]
    exact hoff
  | publish fault =>
    rw [WarmUp.step, Producer.anomalyShutdown, hoff]
    exact hoff

/-- Without a warm-up, a run in which nobody asks for it does not switch a device on. -/
theorem run_off_stays {cfg : ProducerBuild} (hcfg : ¬ 0 < cfg.sensorStartupDelayS) {p : Producer}
    (hoff : p.device_on = false) (hp : p.startup_timer = none) {es : List WarmUp.Event}
    (hes : ∀ e ∈ es, e.command ≠ some true) : (run (WarmUp.step cfg) p es).device_on = false := by
  have hboth : (run (WarmUp.step cfg) p es).device_on = false ∧
      (run (WarmUp.step cfg) p es).startup_timer = none :=
    run_invariant (I := fun p : Producer => p.device_on = false ∧ p.startup_timer = none)
      (fun p e h he => ⟨step_off_stays hcfg h.1 h.2 he, step_no_timer hcfg h.2 e⟩) ⟨hoff, hp⟩
      (along_of_forall_mem hes)
  exact hboth.1

/-- With a warm-up, the boot is one of the three phases. -/
theorem boot_eq_toProducer (cfg : ProducerBuild) :
    Producer.boot cfg =
      (if cfg.sensorDefaultOn then Phase.on else Phase.off).toProducer (warmUpTicks cfg) := by
  unfold Producer.boot
  rcases cfg.sensorDefaultOn with _ | _
  · rfl
  · rfl

/-- With a warm-up, a device that goes off goes into the phase `off`. -/
theorem phase_of_off {delay : ℕ} {ph : Phase} {e : WarmUp.Event}
    (hon : (ph.toProducer delay).device_on = true)
    (hoff : ((ph.step delay e).toProducer delay).device_on = false) : ph.step delay e = .off := by
  rcases hafter : ph.step delay e with _ | n | _
  · rfl
  · -- A device that starts was off or starting.
    rw [device_on_toProducer.mp hon] at hafter
    rcases step_eq_starting hafter with ⟨m, hm, -⟩ | ⟨hm, -⟩
    · cases hm
    · cases hm
  · rw [hafter] at hoff
    cases hoff

/-- With a warm-up, a device that has shut itself down is in the phase `off`. -/
theorem producer_of_shutsDown (hcfg : 0 < b.producer.sensorStartupDelayS) {pre : List Event}
    {e : Event} (h : ShutsDown b (run (step b) (boot b) pre) e) :
    (run (step b) (boot b) (pre ++ [e])).producer =
      Phase.off.toProducer (warmUpTicks b.producer) := by
  obtain ⟨-, uptime_ms, rand, ok, rfl, -⟩ := (shutsDown_iff _ e).mp h
  obtain ⟨hon, hoff, -⟩ := h
  have hbefore : (run (step b) (boot b) pre).producer = _ :=
    (run_producer (boot b) pre).trans (by rw [boot, boot_eq_toProducer, run_toProducer hcfg])
  have hafter : (run (step b) (boot b) (pre ++ [.publish uptime_ms rand ok])).producer =
      WarmUp.step b.producer (run (step b) (boot b) pre).producer
        (.publish (Sample.measure b.sensor rand true).anomaly) := by
    rw [run_concat]
    exact anomalyShutdown_measure b.sensor rand _
  have hoff' : (run (step b) (boot b) (pre ++ [.publish uptime_ms rand ok])).producer.device_on =
      false := by
    rw [run_concat]
    exact hoff
  rw [hafter, hbefore, step_toProducer hcfg] at hoff'
  rw [hbefore] at hon
  rw [hafter, hbefore, step_toProducer hcfg, phase_of_off hon hoff']

/-- What a device publishes after a shutdown are zeros, until it is switched on. -/
theorem silent (b : Build) (es : List Event) : Silent b es := by
  intro pre e mid f m _ hshut hunswitched hpacket
  refine packet_of_off ?_ hpacket
  by_contra hon
  have hsplit : run (step b) (boot b) (pre ++ e :: mid) =
      run (step b) (run (step b) (boot b) (pre ++ [e])) mid := by
    rw [← run_append, List.append_assoc]
    rfl
  rw [hsplit, run_producer] at hon
  apply hunswitched
  unfold SwitchesOn
  split_ifs with hcfg
  · -- The phase leaves `off` and gets to `on` in a step of the timer process.
    rw [producer_of_shutsDown hcfg hshut] at hon ⊢
    rw [run_toProducer hcfg, Bool.not_eq_false, device_on_toProducer] at hon
    obtain ⟨q, e', r, heq, hbefore, hafter⟩ :=
      exists_leave (P := (· ≠ Phase.on)) (fun h => by cases h) (not_not.mpr hon)
    obtain ⟨rfl, hwarm⟩ := warmedUp_of_on hcfg hbefore (not_not.mp hafter)
    exact ⟨q, r, heq, hwarm⟩
  · -- Without a warm-up no startup is pending, so only a request switches the device on.
    have hoff : (run (step b) (boot b) (pre ++ [e])).producer.device_on = false := by
      rw [run_concat]
      exact hshut.2.1
    have htimer : (run (step b) (boot b) (pre ++ [e])).producer.startup_timer = none := by
      rw [run_producer]
      exact run_invariant' (I := fun p : Producer => p.startup_timer = none)
        (fun p e hp => step_no_timer hcfg hp e) rfl _
    by_contra hnone
    push Not at hnone
    exact hon (run_off_stays hcfg hoff htimer hnone)

/-- Every shutdown of a run has been reported, and is followed by packets with zeros until the
device is switched on, exactly if the publish of every anomaly of the run is accepted. -/
theorem protected_iff (b : Build) (es : List Event) :
    Protected b es ↔ Along (step b) (AnomalyAccepted b) (boot b) es := by
  unfold Protected
  rw [along_congr reported_iff]
  exact and_iff_left (silent b es)

/-- A wind node, on at boot. -/
def windBuild : Build where
  producer := ⟨true, 0, 128⟩
  sensor := windSensor
  sampling := windSampling
  node := windNode

/-- A solar node, on at boot. -/
def solarBuild : Build where
  producer := ⟨true, 0, 128⟩
  sensor := solarSensor
  sampling := solarSampling
  node := solarNode

/-- An anomaly whose publish is refused switches the device off all the same. -/
theorem unreported_shutdown : ¬ ∀ es, Protected solarBuild es := by
  intro h
  obtain ⟨⟨hreported, -⟩, -⟩ := h [.publish 0 (fun _ => 0) false]
  exact absurd ((reported_iff _ _).mp hreported rfl) Bool.false_ne_true

end EnergyStation.Firmware.ProtectiveShutdown
