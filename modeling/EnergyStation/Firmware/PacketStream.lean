import EnergyStation.Firmware.KeepAlive
import EnergyStation.Firmware.ProtectiveShutdown
import EnergyStation.Firmware.PublishRate
import EnergyStation.Lib.Outputs

/-!
# The packets of a producer node

The publishing process, the sampling interval and the power state of one producer node, with the
packets that it hands to the MQTT library. Each part has a machine of its own (`MqttSensor`,
`WarmUp`), and over a run of the node both do what their machine does (`run_mqtt`, `run_producer`):
one clock moves the timers of both. `packet_stream` says what the packets of a boot tell their
receiver.
-/

namespace EnergyStation.Firmware.PacketStream

open CStdlib MqttSensor Numeral Runs

/-- What a build and a device fix. -/
structure Build extends ProtectiveShutdown.Build where
  /-- A second has at least one tick. -/
  clock_pos : 0 < producer.clockSecond

/-- The platform of a build. -/
def Build.platform (b : Build) : Platform := ⟨b.producer.clockSecond, b.clock_pos⟩

/-- The state of a producer node. -/
structure State where
  /-- The publishing process, with the sampling interval and the clock. -/
  mqtt : MqttSensor
  /-- The power state. -/
  producer : Producer
  /-- `mqtt_seq` -/
  mqtt_seq : UInt32

/-- What happens to a producer node. -/
inductive Event where
  /-- A PUT request to `actuators/status`. -/
  | status (body : Bytes)
  /-- The timer process looks at `startup_timer`. -/
  | fire
  /-- An event of the publishing process, with the values that `random_rand` returns if it
  publishes. -/
  | mqtt (e : MqttSensorEvent) (rand : ℕ → ℕ)

/-- A packet, and the tick at which `publish_telemetry` is called for it. -/
structure Packet where
  /-- `clock_time()` -/
  clock : ℕ
  /-- The message. -/
  message : TelemetryMessage

/-- The node after boot, at some time of the clock. -/
def boot (b : Build) (clock : ℕ) : State :=
  ⟨MqttSensor.boot b.sampling b.platform clock, .boot b.producer, 0⟩

/-- The call of `publish_telemetry`. -/
def publishCall (b : Build) (s : State) (rand : ℕ → ℕ) : TelemetryMessage × Producer × UInt32 :=
  publishTelemetry b.sensor b.node s.mqtt.sampling
    (s.mqtt.clock * 1000 / b.producer.clockSecond) rand s.producer s.mqtt_seq

/-- The publishing process calls `publish_telemetry` in the event. -/
def Publishes (b : Build) (s : State) (e : MqttSensorEvent) : Prop :=
  s.mqtt.call b.sampling b.platform e = some .publishTelemetry

instance (b : Build) (s : State) (e : MqttSensorEvent) : Decidable (Publishes b s e) :=
  inferInstanceAs (Decidable (_ = _))

/-- The ticks that pass in an event of the publishing process. -/
def elapsed (b : Build) (s : State) (e : MqttSensorEvent) : ℕ :=
  (s.mqtt.step b.sampling b.platform e).clock - s.mqtt.clock

/-- One event. -/
def step (b : Build) (s : State) : Event → State
  | .status body => { s with producer := (s.producer.resPutHandler b.producer body).2 }
  | .fire => { s with producer := s.producer.fire }
  | .mqtt e rand =>
    let (producer, mqtt_seq) :=
      if Publishes b s e then (publishCall b s rand).2 else (s.producer, s.mqtt_seq)
    -- The startup timer counts the ticks of the same clock.
    ⟨s.mqtt.step b.sampling b.platform e, Producer.tick^[elapsed b s e] producer, mqtt_seq⟩

/-- The packet of an event, if there is one. -/
def packets (b : Build) (s : State) : Event → List Packet
  | .mqtt e rand => if Publishes b s e then [⟨s.mqtt.clock, (publishCall b s rand).1⟩] else []
  | _ => []

/-- What an event is to the publishing process. -/
def mqttEvent : Event → Option MqttSensorEvent
  | .mqtt e _ => some e
  | _ => none

/-- What an event is to the power state. -/
def powerEvents (b : Build) (s : State) : Event → List WarmUp.Event
  | .status body => [.put body]
  | .fire => [.fire]
  | .mqtt e rand =>
    (if Publishes b s e then [.publish (Sample.measure b.sensor rand true).anomaly] else []) ++
      List.replicate (elapsed b s e) .tick

/-- The PUT request that commands an interval. -/
def command (interval_ms : ℕ) (rand : ℕ → ℕ) :
    Event := .mqtt (.sampling (Sampling.intervalBody interval_ms)) rand

/-- The packets of a run. -/
def stream (b : Build) (clock : ℕ) (es : List Event) : List Packet :=
  outputs (step b) (packets b) (boot b clock) es

/-- The run publishes `m₁` and later `m₂`, and passes through the states between them. -/
def Between (b : Build) (clock : ℕ) (es : List Event) (m₁ m₂ : Packet) (states : List State) :
    Prop :=
  ∃ pre e₁ mid e₂, pre ++ e₁ :: (mid ++ [e₂]) <+: es ∧
    m₁ ∈ packets b (run (step b) (boot b clock) pre) e₁ ∧
    m₂ ∈ packets b (run (step b) (boot b clock) (pre ++ e₁ :: mid)) e₂ ∧
    states = visited (step b) (run (step b) (boot b clock) (pre ++ [e₁])) mid

/-- What the packets of a boot tell their receiver. -/
structure Told (b : Build) (clock : ℕ) (es : List Event) : Prop where
  /-- The packets are numbered from zero on, so that the numbers of those that arrive tell how many
  are lost. -/
  numbered : ∀ i m, (stream b clock es)[i]? = some m → m.message.seq = UInt32.ofNat i
  /-- A packet carries the second in which it is published. -/
  stamped : ∀ m ∈ stream b clock es,
    m.message.sent_ms.toNat = m.clock / b.producer.clockSecond * 1000 % 2 ^ 32
  /-- In a part of the run in which no interval is below `δ` ticks there are no more packets than
  one, and one for each `δ` ticks of the part. -/
  bounded : ∀ pre mid δ, pre ++ mid <+: es →
    (∀ t ∈ visited (step b) (run (step b) (boot b clock) pre) mid, δ ≤ ticks b.platform t.mqtt) →
    (run (step b) (boot b clock) pre).mqtt.clock +
        ((outputs (step b) (packets b) (run (step b) (boot b clock) pre) mid).length - 1) * δ ≤
      (run (step b) (boot b clock) (pre ++ mid)).mqtt.clock
  /-- So it is with the ticks of a commanded interval, from the request on that commands it to the
  next one. -/
  commanded : ∀ pre n rand mid, pre ++ command n rand :: mid <+: es → 0 < n →
    n ≤ mqttPublishIntervalStressedMs → (∀ body rand', .mqtt (.sampling body) rand' ∉ mid) →
    (run (step b) (boot b clock) pre).mqtt.clock +
        ((outputs (step b) (packets b)
          (run (step b) (boot b clock) (pre ++ [command n rand])) mid).length - 1) *
          publishIntervalToTicks b.platform n ≤
      (run (step b) (boot b clock) (pre ++ command n rand :: mid)).mqtt.clock
  /-- The next packet does not come before the interval that a packet announces is over, unless the
  interval is changed. -/
  announced : ∀ m₁ m₂ states, Between b clock es m₁ m₂ states →
    (∀ t ∈ states, t.mqtt.publishIntervalMs = m₁.message.publish_interval_ms) →
    m₁.clock + publishIntervalToTicks b.platform m₁.message.publish_interval_ms ≤ m₂.clock
  /-- A device that is not on reports zeros. -/
  zeros : ∀ m ∈ stream b clock es, m.message.status ≠ text "ON" → m.message.sample = .zero
  /-- A device that was off, or that has reported an anomaly, is not on again before a whole warm-up
  is over. The time stamps say so too, where they have not wrapped. -/
  warm : ∀ m₁ m₂ states, Between b clock es m₁ m₂ states → 0 < b.producer.sensorStartupDelayS →
    m₁.message.status = text "OFF" ∨ m₁.message.sample.anomaly = true →
      m₂.message.status = text "ON" →
    m₁.clock + WarmUp.warmUpTicks b.producer ≤ m₂.clock ∧
      (m₂.clock / b.producer.clockSecond * 1000 < 2 ^ 32 →
        m₁.message.sent_ms.toNat + 1000 * b.producer.sensorStartupDelayS ≤ m₂.message.sent_ms.toNat)

variable {b : Build}

/-- A packet comes from a call of `publish_telemetry`. -/
theorem mem_packets_iff {s : State} {e : Event} {m : Packet} :
    m ∈ packets b s e ↔
      ∃ e' rand, e = .mqtt e' rand ∧ Publishes b s e' ∧
        m = ⟨s.mqtt.clock, (publishCall b s rand).1⟩ := by
  cases e with
  | status body =>
    refine iff_of_false List.not_mem_nil ?_
    rintro ⟨e', rand, heq, -⟩
    cases heq
  | fire =>
    refine iff_of_false List.not_mem_nil ?_
    rintro ⟨e', rand, heq, -⟩
    cases heq
  | mqtt e rand =>
    rw [packets]
    split_ifs with hpublishes
    · rw [List.mem_singleton]
      refine ⟨fun h => ⟨e, rand, rfl, hpublishes, h⟩, ?_⟩
      rintro ⟨e', rand', heq, -, rfl⟩
      cases heq
      rfl
    · refine iff_of_false List.not_mem_nil ?_
      rintro ⟨e', rand', heq, hpublishes', -⟩
      cases heq
      exact hpublishes hpublishes'

/-- An event publishes one packet and counts it, or none. -/
theorem packets_cases (s : State) (e : Event) :
    (packets b s e = [] ∧ (step b s e).mqtt_seq = s.mqtt_seq ∧ ∀ e' rand, e = .mqtt e' rand →
    ¬ Publishes b s e') ∨ (∃ e' rand, e = .mqtt e' rand ∧ Publishes b s e' ∧
      packets b s e = [⟨s.mqtt.clock, (publishCall b s rand).1⟩] ∧
      (step b s e).mqtt_seq = s.mqtt_seq + 1) := by
  cases e with
  | status body => exact .inl ⟨rfl, rfl, fun _ _ h => by cases h⟩
  | fire => exact .inl ⟨rfl, rfl, fun _ _ h => by cases h⟩
  | mqtt e rand =>
    by_cases hpublishes : Publishes b s e
    · refine .inr ⟨e, rand, rfl, hpublishes, if_pos hpublishes, ?_⟩
      simp only [step, if_pos hpublishes]
      rfl
    · refine .inl ⟨if_neg hpublishes, ?_, ?_⟩
      · simp only [step, if_neg hpublishes]
      · rintro e' rand' heq
        cases heq
        exact hpublishes

/-- The publishing process of the node is the one of `MqttSensor`. -/
theorem run_mqtt (s : State) (es : List Event) :
    (run (step b) s es).mqtt =
      run (MqttSensor.step b.sampling b.platform) s.mqtt (es.filterMap mqttEvent) := by
  refine run_project State.mqtt mqttEvent ?_ ?_ s es
  · intro s e d hd
    cases e with
    | status body => cases hd
    | fire => cases hd
    | mqtt e rand =>
      cases hd
      rfl
  · intro s e hd
    cases e with
    | status body => rfl
    | fire => rfl
    | mqtt e rand => cases hd

/-- Ticks that pass are events of the power state. -/
theorem run_ticks (cfg : ProducerBuild) (p : Producer) (n : ℕ) :
    run (WarmUp.step cfg) p (List.replicate n .tick) = Producer.tick^[n] p := by
  induction n generalizing p with
  | zero => rfl
  | succ n ih =>
    rw [List.replicate_succ, run_cons, ih, Function.iterate_succ_apply]
    rfl

/-- The power state of the node is the one of `WarmUp`. -/
theorem run_producer (s : State) (es : List Event) :
    (run (step b) s es).producer =
      run (WarmUp.step b.producer) s.producer (outputs (step b) (powerEvents b) s es) := by
  refine run_project_outputs State.producer (fun s e => ?_) s es
  cases e with
  | status body => rfl
  | fire => rfl
  | mqtt e rand =>
    rw [powerEvents, run_append, run_ticks]
    simp only [step]
    split_ifs with hpublishes
    · exact congrArg _ (ProtectiveShutdown.anomalyShutdown_measure b.sensor rand s.producer)
    · rfl

/-- The power state sees the ticks of the one clock. -/
theorem clock_add_ticks (s : State) (es : List Event) :
    s.mqtt.clock + WarmUp.ticks (outputs (step b) (powerEvents b) s es) =
      (run (step b) s es).mqtt.clock := by
  have happend : ∀ fs gs, WarmUp.ticks (fs ++ gs) = WarmUp.ticks fs + WarmUp.ticks gs :=
    fun fs gs => List.countP_append
  have hstep : ∀ s e, s.mqtt.clock + WarmUp.ticks (powerEvents b s e) =
      (step b s e).mqtt.clock := by
    intro s e
    cases e with
    | status body => rfl
    | fire => rfl
    | mqtt e rand =>
      have hle : s.mqtt.clock ≤ (s.mqtt.step b.sampling b.platform e).clock :=
        clock_le_step s.mqtt e
      have hticks : WarmUp.ticks (List.replicate (elapsed b s e) .tick) = elapsed b s e := by
        rw [WarmUp.ticks, List.countP_replicate]
        rfl
      have hpublish : WarmUp.ticks (if Publishes b s e
          then [.publish (Sample.measure b.sensor rand true).anomaly] else []) = 0 := by
        split_ifs <;> rfl
      rw [powerEvents, happend, hpublish, hticks, Nat.zero_add, elapsed]
      exact Nat.add_sub_cancel' hle
  induction es generalizing s with
  | nil => rfl
  | cons e es ih => rw [outputs_cons, happend, ← Nat.add_assoc, hstep, ih, run_cons]

/-- The packets of a run are numbered from the counter on. -/
theorem seq_run (s : State) (es : List Event) :
    (run (step b) s es).mqtt_seq =
        s.mqtt_seq + UInt32.ofNat (outputs (step b) (packets b) s es).length ∧
      ∀ i m, (outputs (step b) (packets b) s es)[i]? = some m →
        m.message.seq = s.mqtt_seq + UInt32.ofNat i := by
  induction es using List.reverseRecOn with
  | nil => exact ⟨(UInt32.add_zero _).symm, fun i m h => by cases h⟩
  | append_singleton es e ih =>
    obtain ⟨hseq, hmem⟩ := ih
    rw [run_concat, outputs_concat]
    rcases packets_cases (b := b) (run (step b) s es) e with
      ⟨hnone, hkept, -⟩ | ⟨e', rand, -, -, hone, hcounted⟩
    · rw [hnone, hkept, List.append_nil]
      exact ⟨hseq, hmem⟩
    · rw [hone, hcounted, hseq, List.length_append, List.length_singleton]
      refine ⟨by rw [UInt32.ofNat_add, UInt32.add_assoc]; rfl, fun i m hm => ?_⟩
      rcases Nat.lt_or_ge i (outputs (step b) (packets b) s es).length with hlt | hge
      · rw [List.getElem?_append_left hlt] at hm
        exact hmem i m hm
      · rw [List.getElem?_append_right hge, List.getElem?_singleton] at hm
        split_ifs at hm with hi
        rw [← Option.some.inj hm]
        show (run (step b) s es).mqtt_seq = _
        rw [hseq, Nat.le_antisymm (Nat.sub_eq_zero_iff_le.mp hi) hge]

/-- The publishing process has been started, and its timer is as the clock says. -/
structure Started (s : State) : Prop where
  /-- The timer has a period. -/
  running : Running s.mqtt
  /-- An expired timer is past its deadline. -/
  sound : s.mqtt.pub_timer.Sound s.mqtt.clock

/-- So it is in every state of a run. -/
theorem started_run (b : Build) (clock : ℕ) (es : List Event) :
    Started (run (step b) (boot b clock) es) := by
  constructor
  · rw [run_mqtt]
    exact running_run b.sampling b.platform clock _
  · rw [run_mqtt]
    exact sound_run b.sampling b.platform clock _

/-- An event that publishes nothing leaves the deadline, or sets it from the present on. -/
theorem deadline_le {s : State} (hs : Started s) {δ : ℕ} (hδ : δ ≤ ticks b.platform s.mqtt)
    (e : Event) : s.mqtt.clock ≤ (step b s e).mqtt.clock ∧
      (s.mqtt.pub_timer.deadline ≤ (step b s e).mqtt.pub_timer.deadline ∨
        s.mqtt.clock + δ ≤ (step b s e).mqtt.pub_timer.deadline) := by
  cases e with
  | status body => exact ⟨le_refl _, .inl (le_refl _)⟩
  | fire => exact ⟨le_refl _, .inl (le_refl _)⟩
  | mqtt e rand =>
    refine ⟨clock_le_step s.mqtt e, ?_⟩
    rcases @deadline_step b.sampling b.platform _ hs.sound e with hle | hset
    · exact .inl hle
    · exact .inr ((Nat.add_le_add_left hδ _).trans hset.ge)

/-- The packets of a part of a run in which no interval is below `δ` ticks. Each of them moves the
deadline by `δ` ticks, and none is published before the deadline. -/
theorem packets_bounded {s : State} (hs : ∀ es, Started (run (step b) s es)) {es : List Event}
    {δ : ℕ} (hδ : ∀ t ∈ visited (step b) s es, δ ≤ ticks b.platform t.mqtt) :
    let n := (outputs (step b) (packets b) s es).length
    s.mqtt.clock + (n - 1) * δ ≤ (run (step b) s es).mqtt.clock ∧
      (0 < n → s.mqtt.clock + n * δ ≤ (run (step b) s es).mqtt.pub_timer.deadline) := by
  induction es using List.reverseRecOn with
  | nil => exact ⟨by simp, fun h => by cases h⟩
  | append_singleton es e ih =>
    rw [visited_concat] at hδ
    obtain ⟨hclock, hdeadline⟩ := ih fun t ht => hδ t (List.mem_append_left _ ht)
    have hδs := hδ _ (List.mem_append_left _ (mem_visited_iff.mpr ⟨es, List.prefix_rfl, rfl⟩))
    have hδt := hδ _ (List.mem_append_right _ (List.mem_singleton_self _))
    rw [run_concat] at hδt
    rw [run_concat, outputs_concat]
    generalize hn : (outputs (step b) (packets b) s es).length = n at hclock hdeadline
    obtain ⟨hmono, hkeep⟩ := deadline_le (hs es) hδs e
    rcases packets_cases (b := b) (run (step b) s es) e with
      ⟨hnone, -, -⟩ | ⟨e', rand, rfl, hpublishes, hone, -⟩
    · rw [hnone, List.append_nil, hn]
      refine ⟨hclock.trans hmono, fun hpos => ?_⟩
      rcases hkeep with hle | hset
      · exact (hdeadline hpos).trans hle
      · -- A new interval starts at the present, which is past the start of the last packet.
        calc s.mqtt.clock + n * δ = s.mqtt.clock + (n - 1) * δ + δ := by
              rw [Nat.add_assoc, ← Nat.succ_mul, Nat.succ_eq_add_one, Nat.sub_add_cancel hpos]
          _ ≤ (run (step b) s es).mqtt.clock + δ := Nat.add_le_add_right hclock δ
          _ ≤ _ := hset
    · obtain ⟨hexp, hnext⟩ := deadline_of_call hpublishes
      have hpast := (hs es).sound hexp
      have hnow : s.mqtt.clock + n * δ ≤ (run (step b) s es).mqtt.clock := by
        rcases Nat.eq_zero_or_pos n with rfl | hpos
        · exact (by simpa using hclock)
        · exact (hdeadline hpos).trans hpast
      rw [hone, List.length_append, List.length_singleton, hn]
      refine ⟨hnow.trans hmono, fun _ => ?_⟩
      calc s.mqtt.clock + (n + 1) * δ = s.mqtt.clock + n * δ +
            δ := by rw [Nat.succ_mul, Nat.add_assoc]
        _ ≤ (run (step b) s es).mqtt.clock + _ := Nat.add_le_add hnow hδt
        _ ≤ _ := hnext

/-- Only a PUT request changes the interval. -/
theorem interval_step {s : State} {e : Event} (he : ∀ body rand, e ≠ .mqtt (.sampling body) rand) :
    (step b s e).mqtt.publishIntervalMs = s.mqtt.publishIntervalMs := by
  cases e with
  | status body => rfl
  | fire => rfl
  | mqtt e rand =>
    show (s.mqtt.step b.sampling b.platform e).publishIntervalMs = _
    rcases e with body | event | ticks | _ | ⟨ev, w⟩
    · exact absurd rfl (he body rand)
    · rcases event with call | _ | _ | _ | _ <;> rfl
    · rfl
    · rfl
    · exact (resume_frame b.platform s.mqtt ev w).1

/-- A command within the bounds holds until the next one. -/
theorem interval_run {s : State} {n : ℕ} (hs : s.mqtt.publishIntervalMs = n) {es : List Event}
    (hes : ∀ body rand, Event.mqtt (.sampling body) rand ∉ es) :
    ∀ t ∈ visited (step b) s es, t.mqtt.publishIntervalMs = n := by
  refine visited_invariant (I := fun t : State => t.mqtt.publishIntervalMs = n)
    (C := fun _ e => ∀ body rand, e ≠ Event.mqtt (.sampling body) rand)
    (fun t e ht he => (interval_step he).trans ht) hs
    (along_of_forall_mem fun e he body rand heq => ?_)
  exact hes body rand (heq ▸ he)

/-- The next packet waits for the interval of the last one. -/
theorem announced_le {clock : ℕ} {es : List Event} {m₁ m₂ : Packet} {states : List State}
    (h : Between b clock es m₁ m₂ states)
    (hkept : ∀ t ∈ states, t.mqtt.publishIntervalMs = m₁.message.publish_interval_ms) :
    m₁.clock + publishIntervalToTicks b.platform m₁.message.publish_interval_ms ≤ m₂.clock := by
  obtain ⟨pre, e₁, mid, e₂, -, hm₁, hm₂, rfl⟩ := h
  obtain ⟨e₁, rand₁, rfl, hpublishes₁, rfl⟩ := mem_packets_iff.mp hm₁
  obtain ⟨e₂, rand₂, rfl, hpublishes₂, rfl⟩ := mem_packets_iff.mp hm₂
  rw [run_concat] at hkept
  set s := run (step b) (boot b clock) pre with hs
  have hinterval : (publishCall b s rand₁).1.publish_interval_ms = s.mqtt.publishIntervalMs := rfl
  simp only [hinterval] at hkept ⊢
  have hrun : run (step b) (boot b clock) (pre ++ .mqtt e₁ rand₁ :: mid) =
      run (step b) s (.mqtt e₁ rand₁ :: mid) := run_append _ pre _
  have hstarted : ∀ es, Started (run (step b) s es) := fun es => by
    rw [hs, ← run_append]
    exact started_run b clock _
  -- No state between the two packets has another interval.
  have hδ : ∀ t ∈ visited (step b) s (.mqtt e₁ rand₁ :: mid), ticks b.platform s.mqtt ≤
      ticks b.platform t.mqtt := by
    intro t ht
    rcases List.mem_cons.mp ht with rfl | ht
    · exact le_refl _
    · rw [ticks, ticks, hkept t ht]
  obtain ⟨-, hdeadline⟩ := packets_bounded hstarted hδ
  have hcount : 1 ≤ (outputs (step b) (packets b) s (.mqtt e₁ rand₁ :: mid)).length := by
    rw [outputs_cons, List.length_append]
    exact (List.length_pos_of_mem hm₁).trans_le (Nat.le_add_right _ _)
  have hsound := (hstarted (.mqtt e₁ rand₁ :: mid)).sound (deadline_of_call (hrun ▸ hpublishes₂)).1
  rw [hrun]
  calc s.mqtt.clock + ticks b.platform s.mqtt
      ≤ s.mqtt.clock + _ * ticks b.platform s.mqtt :=
        Nat.add_le_add_left (Nat.le_mul_of_pos_left _ hcount) _
    _ ≤ _ := hdeadline hcount
    _ ≤ _ := hsound

/-- The status of a message is `ON` exactly for a device that is on. -/
theorem status_on_iff (m : TelemetryMessage) : m.status = text "ON" ↔ m.device_on = true := by
  unfold TelemetryMessage.status
  rcases m.device_on with _ | _
  · rcases m.device_starting with _ | _ <;> decide
  · exact iff_of_true rfl rfl

/-- It is `OFF` exactly for one that is neither on nor starting. -/
theorem status_off_iff (m : TelemetryMessage) :
    m.status = text "OFF" ↔ m.device_on = false ∧ m.device_starting = false := by
  unfold TelemetryMessage.status
  rcases m.device_on with _ | _
  · rcases m.device_starting with _ | _ <;> decide
  · rcases m.device_starting with _ | _ <;> decide

/-- A device that is not on measures zeros. -/
theorem sample_of_off {s : State} {rand : ℕ → ℕ} (hoff : s.producer.device_on = false) :
    (publishCall b s rand).1.sample = .zero := if_neg (by rw [hoff]; exact Bool.false_ne_true)

/-- A packet of a device that is off, or of an anomaly, leaves the device off. -/
theorem phase_of_packet {s : State} {ph : WarmUp.Phase} {rand : ℕ → ℕ}
    (hph : s.producer = ph.toProducer (WarmUp.warmUpTicks b.producer))
    (h : (publishCall b s rand).1.status = text "OFF" ∨
      (publishCall b s rand).1.sample.anomaly = true) :
    ph.step (WarmUp.warmUpTicks b.producer) (.publish (Sample.measure b.sensor rand true).anomaly) =
      .off := by
  rcases h with hoff | hanomaly
  · obtain ⟨hon, hstarting⟩ := (status_off_iff _).mp hoff
    change s.producer.device_on = false at hon
    change s.producer.device_starting = false at hstarting
    rw [hph] at hon hstarting
    cases ph with
    | off => exact if_neg (fun h => by cases h.2)
    | starting n => cases hstarting
    | on => cases hon
  · have hon : s.producer.device_on = true := by
      by_contra hoff
      rw [sample_of_off (Bool.eq_false_iff.mpr hoff)] at hanomaly
      cases hanomaly
    have hsample : (publishCall b s rand).1.sample = .measure b.sensor rand true :=
      congrArg (Sample.measure b.sensor rand) hon
    rw [hsample] at hanomaly
    rw [hph] at hon
    exact if_pos ⟨hanomaly, WarmUp.device_on_toProducer.mp hon⟩

/-- A device that comes on takes the ticks of a warm-up. -/
theorem warmUpTicks_le {cfg : ProducerBuild} (hcfg : 0 < cfg.sensorStartupDelayS)
    {es : List WarmUp.Event}
    (hon : run (WarmUp.Phase.step (WarmUp.warmUpTicks cfg)) .off es = .on) :
    WarmUp.warmUpTicks cfg ≤ WarmUp.ticks es := by
  obtain ⟨q, e, r, rfl, hbefore, hafter⟩ :=
    exists_leave (P := (· ≠ WarmUp.Phase.on)) (fun h => by cases h) (not_not.mpr hon)
  obtain ⟨rfl, mid, ⟨pre, e', rfl, -⟩, hticks⟩ :=
    WarmUp.warmedUp_of_on hcfg hbefore (not_not.mp hafter)
  refine hticks.trans (List.Sublist.countP_le ?_)
  rw [List.append_assoc, List.cons_append]
  exact ((List.sublist_append_left mid _).cons e').trans (List.sublist_append_right pre _)

/-- A device that was off, or has shut itself down, comes on after a warm-up. -/
theorem warm_le {clock : ℕ} {es : List Event} {m₁ m₂ : Packet} {states : List State}
    (h : Between b clock es m₁ m₂ states) (hcfg : 0 < b.producer.sensorStartupDelayS)
    (hoff : m₁.message.status = text "OFF" ∨ m₁.message.sample.anomaly = true)
    (hon : m₂.message.status = text "ON") :
    m₁.clock + WarmUp.warmUpTicks b.producer ≤ m₂.clock := by
  obtain ⟨pre, e₁, mid, e₂, -, hm₁, hm₂, -⟩ := h
  obtain ⟨e₁, rand₁, rfl, hpublishes₁, rfl⟩ := mem_packets_iff.mp hm₁
  obtain ⟨e₂, rand₂, rfl, -, rfl⟩ := mem_packets_iff.mp hm₂
  have hon₂ : (run (step b) (boot b clock) (pre ++ .mqtt e₁ rand₁ :: mid)).producer.device_on =
      true :=
    (status_on_iff _).mp hon
  rw [run_append] at hon₂ ⊢
  set s := run (step b) (boot b clock) pre with hs
  -- The device has gone through phases since its boot.
  obtain ⟨ph, hph⟩ : ∃ ph : WarmUp.Phase, s.producer =
    ph.toProducer (WarmUp.warmUpTicks b.producer) := by
    rw [hs, run_producer, boot, ProtectiveShutdown.boot_eq_toProducer, WarmUp.run_toProducer hcfg]
    exact ⟨_, rfl⟩
  -- The first packet leaves it off, and the second one finds it on.
  have hpower : outputs (step b) (powerEvents b) s (.mqtt e₁ rand₁ :: mid) =
      .publish (Sample.measure b.sensor rand₁ true).anomaly ::
        (List.replicate (elapsed b s e₁) .tick ++
          outputs (step b) (powerEvents b) (step b s (.mqtt e₁ rand₁)) mid) := by
    rw [outputs_cons, powerEvents, if_pos hpublishes₁]
    rfl
  rw [run_producer, hph, WarmUp.run_toProducer hcfg, WarmUp.device_on_toProducer, hpower, run_cons,
    phase_of_packet hph hoff] at hon₂
  have hticks := warmUpTicks_le hcfg hon₂
  calc s.mqtt.clock + WarmUp.warmUpTicks b.producer
      ≤ s.mqtt.clock +
          WarmUp.ticks (outputs (step b) (powerEvents b) s (.mqtt e₁ rand₁ :: mid)) := by
        rw [hpower, WarmUp.ticks_cons]
        exact Nat.add_le_add_left (hticks.trans (Nat.le_add_left _ _)) _
    _ = _ := clock_add_ticks s _

/-- A packet carries the second of its tick. -/
theorem sent_ms_eq (b : Build) (s : State) (rand : ℕ → ℕ) :
    (publishCall b s rand).1.sent_ms.toNat = s.mqtt.clock / b.producer.clockSecond *
    1000 % 2 ^ 32 := by
  have hseconds : s.mqtt.clock * 1000 / b.producer.clockSecond / 1000 =
      s.mqtt.clock / b.producer.clockSecond := by
    rw [Nat.div_div_eq_div_mul, Nat.mul_div_mul_right _ _ (by norm_num)]
  show (sentMs (s.mqtt.clock * 1000 / b.producer.clockSecond)) % 2 ^ 32 = _
  rw [sentMs, clockSeconds, hseconds, Nat.mod_mul_mod, Nat.mod_mod]

/-- What is in the stream is the packet of an event of the run. -/
theorem mem_stream_iff {clock : ℕ} {es : List Event} {m : Packet} :
    m ∈ stream b clock es ↔ ∃ pre e rand, pre ++ [.mqtt e rand] <+: es ∧
      Publishes b (run (step b) (boot b clock) pre) e ∧
      m = ⟨(run (step b) (boot b clock) pre).mqtt.clock,
        (publishCall b (run (step b) (boot b clock) pre) rand).1⟩ := by
  rw [stream, mem_outputs_iff]
  constructor
  · rintro ⟨pre, e, hprefix, hm⟩
    obtain ⟨e', rand, rfl, hpublishes, rfl⟩ := mem_packets_iff.mp hm
    exact ⟨pre, e', rand, hprefix, hpublishes, rfl⟩
  · rintro ⟨pre, e, rand, hprefix, hpublishes, rfl⟩
    exact ⟨pre, _, hprefix, mem_packets_iff.mpr ⟨e, rand, rfl, hpublishes, rfl⟩⟩

/-- What the packets of a boot tell, over every run of the node: whatever requests it gets, whatever
the MQTT library reports, however the timers are looked at, and whatever it measures. -/
theorem packet_stream (b : Build) (clock : ℕ) (es : List Event) : Told b clock es where
  numbered i m hm := by
    rw [(seq_run (boot b clock) es).2 i m hm]
    exact UInt32.zero_add _
  stamped m hm := by
    obtain ⟨pre, e, rand, -, -, rfl⟩ := mem_stream_iff.mp hm
    exact sent_ms_eq b _ rand
  bounded pre mid δ _ hδ := by
    rw [run_append]
    refine (packets_bounded (fun es => ?_) hδ).1
    rw [← run_append]
    exact started_run b clock _
  commanded pre n rand mid _ hpos hle hmid := by
    set s := run (step b) (boot b clock) pre with hs
    have hset : (step b s (command n rand)).mqtt.publishIntervalMs = n :=
      (Sampling.resPutHandler_intervalBody b.sampling _ hpos hle).2
    have hstarted : ∀ es, Started (run (step b) (step b s (command n rand)) es) := by
      intro es
      rw [← run_cons, hs, ← run_append]
      exact started_run b clock _
    rw [run_concat, run_append, run_cons]
    exact (packets_bounded hstarted fun t ht =>
      (congrArg (publishIntervalToTicks b.platform) (interval_run hset hmid t ht)).ge).1
  announced m₁ m₂ states h hkept := announced_le h hkept
  zeros m hm hstatus := by
    obtain ⟨pre, e, rand, -, -, rfl⟩ := mem_stream_iff.mp hm
    exact sample_of_off (Bool.eq_false_iff.mpr fun hon => hstatus ((status_on_iff _).mpr hon))
  warm m₁ m₂ states h hcfg hoff hon := by
    have hle := warm_le h hcfg hoff hon
    refine ⟨hle, fun hwrap => ?_⟩
    obtain ⟨pre, e₁, mid, e₂, -, hm₁, hm₂, -⟩ := h
    obtain ⟨e₁, rand₁, -, -, rfl⟩ := mem_packets_iff.mp hm₁
    obtain ⟨e₂, rand₂, -, -, rfl⟩ := mem_packets_iff.mp hm₂
    rw [sent_ms_eq, sent_ms_eq, Nat.mod_eq_of_lt hwrap]
    have hseconds := Nat.div_le_div_right (c := b.producer.clockSecond) hle
    rw [WarmUp.warmUpTicks, Nat.add_mul_div_right _ _ b.clock_pos] at hseconds
    calc _ ≤ _ / b.producer.clockSecond * 1000 + 1000 * b.producer.sensorStartupDelayS :=
          Nat.add_le_add_right (Nat.mod_le _ _) _
      _ = (_ / b.producer.clockSecond + b.producer.sensorStartupDelayS) * 1000 := by ring
      _ ≤ _ := Nat.mul_le_mul_right 1000 hseconds

end EnergyStation.Firmware.PacketStream
