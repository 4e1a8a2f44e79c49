import EnergyStation.Firmware.Sampling
import EnergyStation.Lib.Timer

/-!
# The publishing process

`mqtt_sensor_process` of `coap-mqtt-sensor.c`, with `mqtt_event_handler` and the sampling interval
that the PUT handler of `res-sampling.c` changes while the process is suspended. The process runs
when it is resumed with an event, from one `PROCESS_YIELD` to the next, and nothing else runs
meanwhile. It makes at most one call of the MQTT library or of `publish_telemetry` in a resumption.
-/

namespace EnergyStation.Firmware

open CStdlib

/-- `mqtt_state` -/
inductive MqttState where
  /-- `MQTT_STATE_INIT` -/
  | init
  /-- `MQTT_STATE_CONNECTING` -/
  | connecting
  /-- `MQTT_STATE_CONNECTED` -/
  | connected
  /-- `MQTT_STATE_DISCONNECTED` -/
  | disconnected
  deriving DecidableEq

/-- `mqtt_keepalive_seconds`, for the interval that `get_publish_interval_ms` returns. -/
def mqttKeepaliveSeconds (interval_ms : ℕ) : ℕ :=
  let keepalive_ms := interval_ms * 3 % 2 ^ 32
  let keepalive_s := (keepalive_ms + 999) % 2 ^ 32 / 1000
  let keepalive_s := if 0 < interval_ms ∧ keepalive_s = 0 then 1 else keepalive_s
  if 0xFFFF < keepalive_s then 0xFFFF else keepalive_s

/-- The keep-alive of an interval within the bounds is three times the interval, in whole
seconds. -/
theorem mqttKeepaliveSeconds_of_bounds {interval_ms : ℕ} (hpos : 0 < interval_ms)
    (hle : interval_ms ≤ mqttPublishIntervalStressedMs) :
    mqttKeepaliveSeconds interval_ms = (3 * interval_ms + 999) / 1000 := by
  unfold mqttPublishIntervalStressedMs at hle
  -- Neither of the two sums of 32 bits wraps.
  have hms : interval_ms * 3 % 2 ^ 32 = 3 * interval_ms := by omega
  have hs : (3 * interval_ms + 999) % 2 ^ 32 = 3 * interval_ms + 999 := by omega
  unfold mqttKeepaliveSeconds
  simp only [hms, hs]
  split_ifs <;> omega

/-- `MQTT_RECONNECT_DELAY` -/
def mqttReconnectDelay (p : Platform) : ℕ := 5 * p.clockSecond

/-- A call of `mqtt_connect`. -/
structure ConnectCall where
  /-- The publish interval at the time of the call. -/
  publish_interval_ms : ℕ
  /-- The keep-alive that was passed. -/
  keepalive_seconds : ℕ
  deriving DecidableEq

/-- The variables of the process, and the clock. -/
structure MqttSensor where
  /-- The sampling interval, and the poll that was requested for the process. -/
  sampling : Sampling
  /-- `mqtt_state` -/
  mqtt_state : MqttState
  /-- `connect_attempts` -/
  connect_attempts : ℕ
  /-- `pub_timer` -/
  pub_timer : Timer
  /-- `clock_time()` -/
  clock : ℕ
  /-- The calls of `mqtt_connect` so far, in order. -/
  connects : List ConnectCall
  /-- The call that has opened the last connection, where one has. -/
  session : Option ConnectCall

/-- What the process is resumed with. -/
inductive ProcessEvent where
  /-- `PROCESS_EVENT_POLL`, with which the requests of `process_poll` so far are delivered. -/
  | poll
  /-- Any other event. -/
  | other

/-- What a resumption of the process finds. -/
structure Surroundings where
  /-- `have_connectivity()` -/
  connectivity : Bool
  /-- `mqtt_ready(&mqtt_conn)` -/
  ready : Bool
  /-- The ticks that `publish_telemetry` takes. -/
  publishing : ℕ

/-- What the MQTT library reports. -/
inductive MqttEvent where
  /-- `MQTT_EVENT_CONNECTED`, for the connection that a call of `mqtt_connect` has opened. -/
  | connected (call : ℕ)
  /-- `MQTT_EVENT_PUBLISH` -/
  | publish
  /-- `MQTT_EVENT_DISCONNECTED` -/
  | disconnected
  /-- `MQTT_EVENT_SUBACK` -/
  | suback
  /-- `MQTT_EVENT_PUBACK`, or any other event. -/
  | other

/-- The calls that the process makes. -/
inductive Call where
  /-- `mqtt_connect` -/
  | mqttConnect
  /-- `mqtt_disconnect` -/
  | mqttDisconnect
  /-- `publish_telemetry` -/
  | publishTelemetry
  deriving DecidableEq

/-- What can happen. -/
inductive MqttSensorEvent where
  /-- A PUT to `actuators/sampling`. -/
  | sampling (body : Bytes)
  /-- The MQTT library calls `mqtt_event_handler`. -/
  | mqtt (event : MqttEvent)
  /-- Time passes. -/
  | elapse (ticks : ℕ)
  /-- The timer process looks at `pub_timer`. -/
  | timer
  /-- The process is resumed. -/
  | resume (ev : ProcessEvent) (w : Surroundings)

namespace MqttSensor

/-- `get_publish_interval_ms()` -/
def publishIntervalMs (s : MqttSensor) : ℕ := s.sampling.current_publish_interval_ms

/-- The process has just been started, at some time of the clock. -/
def boot (cfg : SamplingBuild) (p : Platform) (clock : ℕ) : MqttSensor where
  sampling := Sampling.boot cfg
  mqtt_state := .init
  connect_attempts := 0
  pub_timer := .set clock (mqttReconnectDelay p)
  clock := clock
  connects := []
  session := none

/-- `process_poll(&mqtt_sensor_process)` -/
def processPoll (s : MqttSensor) : MqttSensor :=
  { s with sampling := { s.sampling with polled := true } }

/-- `mqtt_event_handler`, without the LEDs that a message switches. -/
def mqttEventHandler (s : MqttSensor) : MqttEvent → MqttSensor
  | .connected call =>
    processPoll
      { s with mqtt_state := .connected, connect_attempts := 0, session := s.connects[call]? }
  | .publish => s
  | .disconnected => processPoll { s with mqtt_state := .disconnected }
  | .suback => processPoll s
  | .other => s

/-- The poll is delivered with the event. -/
def deliver (s : MqttSensor) : ProcessEvent → MqttSensor
  | .poll => { s with sampling := { s.sampling with polled := false } }
  | .other => s

/-- The first `if` of the loop: a new interval is applied. -/
def applyInterval (p : Platform) (s : MqttSensor) : ProcessEvent → MqttSensor
  | .poll =>
    if s.sampling.publish_interval_dirty = true ∧ s.mqtt_state = .connected then
      { s with
        pub_timer := .set s.clock (publishIntervalToTicks p s.publishIntervalMs)
        sampling := s.sampling.publishIntervalClearDirty }
    else s
  | .other => s

/-- `etimer_set(&pub_timer, MQTT_RECONNECT_DELAY)`, which ends the second `if` of the loop where no
`continue` has come before. -/
def rearm (p : Platform) (s : MqttSensor) : MqttSensor :=
  { s with pub_timer := .set s.clock (mqttReconnectDelay p) }

/-- The second `if` of the loop, for a timer that has expired. -/
def onTimer (p : Platform) (s : MqttSensor) (w : Surroundings) : MqttSensor × Option Call :=
  if w.connectivity = false then ({ s with pub_timer := s.pub_timer.reset }, none)
  else
    match s.mqtt_state with
    | .init | .disconnected =>
      let call : ConnectCall := ⟨s.publishIntervalMs, mqttKeepaliveSeconds s.publishIntervalMs⟩
      (rearm p { s with
          connect_attempts := 0, connects := s.connects ++ [call], mqtt_state := .connecting },
        some .mqttConnect)
    | .connecting =>
      let connect_attempts := (s.connect_attempts + 1) % 2 ^ 8
      -- The answer of the broker never came.
      if 4 ≤ connect_attempts then
        (rearm p { s with connect_attempts := connect_attempts, mqtt_state := .disconnected },
          some .mqttDisconnect)
      else (rearm p { s with connect_attempts := connect_attempts }, none)
    | .connected =>
      if w.ready = false then ({ s with pub_timer := .set s.clock p.clockSecond }, none)
      else
        ({ s with
            clock := s.clock + w.publishing
            pub_timer := .set (s.clock + w.publishing)
              (publishIntervalToTicks p s.publishIntervalMs) },
          some .publishTelemetry)

/-- One round of the loop, from one `PROCESS_YIELD` to the next. -/
def resume (p : Platform) (s : MqttSensor) (ev : ProcessEvent) (w : Surroundings) :
    MqttSensor × Option Call :=
  let s := applyInterval p (s.deliver ev) ev
  if s.pub_timer.expired then onTimer p s w else (s, none)

/-- One event, and the call that the process makes in it. -/
def perform (cfg : SamplingBuild) (p : Platform) (s : MqttSensor) :
    MqttSensorEvent → MqttSensor × Option Call
  | .sampling body => ({ s with sampling := (s.sampling.resPutHandler cfg body).2 }, none)
  | .mqtt event => (s.mqttEventHandler event, none)
  | .elapse ticks => ({ s with clock := s.clock + ticks }, none)
  | .timer => ({ s with pub_timer := s.pub_timer.poll s.clock }, none)
  | .resume ev w => s.resume p ev w

/-- The state after an event. -/
def step (cfg : SamplingBuild) (p : Platform) (s : MqttSensor) (e : MqttSensorEvent) : MqttSensor :=
  (s.perform cfg p e).1

/-- The call that the process makes in an event. -/
def call (cfg : SamplingBuild) (p : Platform) (s : MqttSensor) (e : MqttSensorEvent) :
    Option Call :=
  (s.perform cfg p e).2

@[simp] theorem step_sampling (cfg : SamplingBuild) (p : Platform) (s : MqttSensor) (body : Bytes) :
    step cfg p s (.sampling body) =
      { s with sampling := (s.sampling.resPutHandler cfg body).2 } := rfl

@[simp] theorem step_mqtt (cfg : SamplingBuild) (p : Platform) (s : MqttSensor)
    (event : MqttEvent) : step cfg p s (.mqtt event) = s.mqttEventHandler event := rfl

@[simp] theorem step_elapse (cfg : SamplingBuild) (p : Platform) (s : MqttSensor) (ticks : ℕ) :
    step cfg p s (.elapse ticks) = { s with clock := s.clock + ticks } := rfl

@[simp] theorem step_timer (cfg : SamplingBuild) (p : Platform) (s : MqttSensor) :
    step cfg p s .timer = { s with pub_timer := s.pub_timer.poll s.clock } := rfl

@[simp] theorem step_resume (cfg : SamplingBuild) (p : Platform) (s : MqttSensor)
    (ev : ProcessEvent) (w : Surroundings) :
    step cfg p s (.resume ev w) = (s.resume p ev w).1 := rfl

/-- What the second `if` of the loop does with an expired timer, and the call that it makes. -/
inductive TimerStep (p : Platform) (s : MqttSensor) (w : Surroundings) :
    MqttSensor × Option Call → Prop where
  /-- There is no connectivity. -/
  | offline (hw : w.connectivity = false) :
      TimerStep p s w ({ s with pub_timer := s.pub_timer.reset }, none)
  /-- The process connects. -/
  | connect (hw : w.connectivity = true)
      (hstate : s.mqtt_state = .init ∨ s.mqtt_state = .disconnected) :
      TimerStep p s w (rearm p { s with
          connect_attempts := 0
          connects := s.connects ++
            [⟨s.publishIntervalMs, mqttKeepaliveSeconds s.publishIntervalMs⟩]
          mqtt_state := .connecting },
        some .mqttConnect)
  /-- The process gives the connection up. -/
  | timeout (hw : w.connectivity = true) (hstate : s.mqtt_state = .connecting)
      (hattempts : 4 ≤ (s.connect_attempts + 1) % 2 ^ 8) :
      TimerStep p s w (rearm p { s with
          connect_attempts := (s.connect_attempts + 1) % 2 ^ 8, mqtt_state := .disconnected },
        some .mqttDisconnect)
  /-- The process goes on waiting for the connection. -/
  | wait (hw : w.connectivity = true) (hstate : s.mqtt_state = .connecting)
      (hattempts : (s.connect_attempts + 1) % 2 ^ 8 < 4) :
      TimerStep p s w
        (rearm p { s with connect_attempts := (s.connect_attempts + 1) % 2 ^ 8 }, none)
  /-- The library is not ready. -/
  | notReady (hw : w.connectivity = true) (hstate : s.mqtt_state = .connected)
      (hready : w.ready = false) :
      TimerStep p s w ({ s with pub_timer := .set s.clock p.clockSecond }, none)
  /-- The process publishes. -/
  | publish (hw : w.connectivity = true) (hstate : s.mqtt_state = .connected)
      (hready : w.ready = true) :
      TimerStep p s w
        ({ s with
            clock := s.clock + w.publishing
            pub_timer := .set (s.clock + w.publishing)
              (publishIntervalToTicks p s.publishIntervalMs) },
          some .publishTelemetry)

/-- The second `if` of the loop takes one of these ways. -/
theorem onTimer_cases (p : Platform) (s : MqttSensor) (w : Surroundings) :
    TimerStep p s w (onTimer p s w) := by
  unfold onTimer
  rcases hw : w.connectivity with _ | _
  · exact .offline hw
  · rw [if_neg (by decide)]
    split
    · rename_i hstate
      exact .connect hw (.inl hstate)
    · rename_i hstate
      exact .connect hw (.inr hstate)
    · rename_i hstate
      simp only
      split_ifs with hattempts
      · exact .timeout hw hstate hattempts
      · exact .wait hw hstate (not_le.mp hattempts)
    · rename_i hstate
      split_ifs with hready
      · exact .notReady hw hstate hready
      · exact .publish hw hstate (Bool.eq_true_of_not_eq_false hready)

/-- A round of the loop leaves an armed timer alone, and takes one of the ways above with an expired
one. -/
theorem resume_cases (p : Platform) (s : MqttSensor) (ev : ProcessEvent) (w : Surroundings) :
    ((applyInterval p (s.deliver ev) ev).pub_timer.expired = false ∧
      s.resume p ev w = (applyInterval p (s.deliver ev) ev, none)) ∨
    ((applyInterval p (s.deliver ev) ev).pub_timer.expired = true ∧
      TimerStep p (applyInterval p (s.deliver ev) ev) w (s.resume p ev w)) := by
  unfold resume
  simp only
  rcases hexp : (applyInterval p (s.deliver ev) ev).pub_timer.expired with _ | _
  · exact .inl ⟨rfl, rfl⟩
  · exact .inr ⟨rfl, onTimer_cases p _ w⟩

/-- The first `if` of the loop applies a new interval where the poll finds one in a session, and
changes nothing elsewhere. -/
theorem applyInterval_cases (p : Platform) (s : MqttSensor) (ev : ProcessEvent) :
    (s.sampling.publish_interval_dirty = true ∧ s.mqtt_state = .connected ∧
      applyInterval p s ev = { s with
        pub_timer := .set s.clock (publishIntervalToTicks p s.publishIntervalMs)
        sampling := s.sampling.publishIntervalClearDirty }) ∨
    (applyInterval p s ev = s ∧ (ev = .poll → s.sampling.publish_interval_dirty = true →
      s.mqtt_state ≠ .connected)) := by
  rcases ev with _ | _
  · unfold applyInterval
    split_ifs with h
    · exact .inl ⟨h.1, h.2, rfl⟩
    · exact .inr ⟨rfl, fun _ hdirty hstate => h ⟨hdirty, hstate⟩⟩
  · exact .inr ⟨rfl, fun h => nomatch h⟩

end MqttSensor

end EnergyStation.Firmware
