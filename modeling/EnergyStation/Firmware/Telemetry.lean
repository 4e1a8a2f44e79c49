import EnergyStation.Firmware.Clock
import EnergyStation.Firmware.Sampling
import EnergyStation.Firmware.Status

/-!
# The messages of a producer node

`publish_telemetry` and the payload of `coap_register_process` in `coap-mqtt-sensor.c`: what the
node measures, which message it makes of it, and the text that `snprintf` leaves in the buffer. A
measurement carries the bounds that every build's ranges give it.
-/

namespace EnergyStation.Firmware

open CStdlib Numeral

/-- `NODE_TYPE` of a producer. -/
inductive NodeType where
  /-- `"solar"` -/
  | solar
  /-- `"wind"` -/
  | wind
  /-- `"diesel"` -/
  | diesel
  deriving DecidableEq

/-- The text of `NODE_TYPE`. -/
def NodeType.text : NodeType → List ℕ
  | .solar => Numeral.text "solar"
  | .wind => Numeral.text "wind"
  | .diesel => Numeral.text "diesel"

/-- A lower-case hexadecimal digit. -/
def hexDigit (d : ℕ) : ℕ := if d < 10 then 48 + d else 87 + d

/-- What `%02x` prints of a byte. -/
def formatHex (b : UInt8) : List ℕ := [hexDigit (b.toNat / 16), hexDigit (b.toNat % 16)]

/-- A producer node on its network. -/
structure ProducerNode where
  /-- `NODE_TYPE` -/
  type : NodeType
  /-- `linkaddr_node_addr.u8[6]` and `linkaddr_node_addr.u8[7]` -/
  linkaddr : UInt8 × UInt8
  /-- `node_ip_str`: an IPv6 address, or `unknown`. -/
  node_ip_str : List ℕ
  /-- The text of an address takes up to 39 characters. -/
  ip_length : node_ip_str.length ≤ 39
  /-- It is made of printable characters, without quotes and backslashes. -/
  ip_plain : ∀ c ∈ node_ip_str, 32 ≤ c ∧ c < 127 ∧ c ≠ 34 ∧ c ≠ 92

/-- `node_id` -/
def ProducerNode.nodeId (node : ProducerNode) : List ℕ :=
  snprintf 32 (text "prod_" ++ node.type.text ++ text "_" ++ formatHex node.linkaddr.1 ++
    formatHex node.linkaddr.2)

/-- The constants of a build that the measurements depend on. -/
structure SensorBuild where
  /-- `SENSOR_V_BASE` -/
  sensorVBase : ℕ
  /-- `SENSOR_V_RANGE` -/
  sensorVRange : ℕ
  /-- `SENSOR_I_BASE` -/
  sensorIBase : ℕ
  /-- `SENSOR_I_RANGE` -/
  sensorIRange : ℕ
  /-- `ANOMALY_INJECT_PERCENT` -/
  anomalyInjectPercent : ℕ
  /-- There is a voltage. -/
  v_pos : 0 < sensorVRange
  /-- There is a current. -/
  i_pos : 0 < sensorIRange
  /-- A voltage has three digits before the point. -/
  v_le : sensorVBase + sensorVRange ≤ 1000
  /-- So has the current of a fault. -/
  i_le : sensorIBase * 3 + sensorIRange ≤ 1000

/-- The readings that a `project-conf.h` defines. -/
def readingsOf (sensorVBase sensorVRange sensorIBase sensorIRange anomalyInjectPercent : ℕ)
    (h : 0 < sensorVRange ∧ 0 < sensorIRange ∧ sensorVBase + sensorVRange ≤ 1000 ∧
      sensorIBase * 3 + sensorIRange ≤ 1000) : SensorBuild where
  sensorVBase := sensorVBase
  sensorVRange := sensorVRange
  sensorIBase := sensorIBase
  sensorIRange := sensorIRange
  anomalyInjectPercent := anomalyInjectPercent
  v_pos := h.1
  i_pos := h.2.1
  v_le := h.2.2.1
  i_le := h.2.2.2

/-- The readings of `coap-mqtt-sensor/project-conf.h`. -/
def windSensor : SensorBuild := readingsOf 22 3 15 3 0 (by decide)

/-- The readings of `coap-mqtt-solar-sensor/project-conf.h`. -/
def solarSensor : SensorBuild := readingsOf 32 5 15 3 5 (by decide)

/-- The readings of `coap-mqtt-diesel-sensor/project-conf.h`. -/
def dieselSensor : SensorBuild := readingsOf 220 11 5 11 0 (by decide)

/-- A wind node. -/
def windNode : ProducerNode := ⟨.wind, (3, 3), text "fd00::203:3:3:3", by decide, by decide⟩

/-- A solar node. -/
def solarNode : ProducerNode := ⟨.solar, (5, 5), text "fd00::205:5:5:5", by decide, by decide⟩

/-- The second output of `_anomaly_score`. -/
def anomalyScore (v i : ℚ) : ℚ :=
  if i ≤ 72.90320587158203 then
    if v ≤ 0.5086576044559479 then
      if i ≤ 19.780384063720703 then 0.848605577689243 else 0.187515923566879
    else if v ≤ 0.5185004472732544 then 0.02727272727272727 else 0
  else if i ≤ 83.65932083129883 then
    if v ≤ 0.07334069348871708 then 1 else 0.38095238095238093
  else if i ≤ 90.39396667480469 then 0.9166666666666666 else 0.999412455934195

/-- `detect_anomaly` -/
def detectAnomaly (v i : ℚ) : Bool := 1 / 2 < anomalyScore v i

/-- What `publish_telemetry` has measured. -/
structure Sample where
  /-- `v_int` -/
  v_int : ℕ
  /-- `v_frac` -/
  v_frac : ℕ
  /-- `i_int` -/
  i_int : ℕ
  /-- `i_frac` -/
  i_frac : ℕ
  /-- `anomaly` -/
  anomaly : Bool
  /-- The voltage has three digits before the point. -/
  v_int_lt : v_int < 1000
  /-- It has one digit after it. -/
  v_frac_lt : v_frac < 10
  /-- The current has three digits before the point. -/
  i_int_lt : i_int < 1000
  /-- It has one digit after it. -/
  i_frac_lt : i_frac < 10

namespace Sample

/-- The voltage. -/
def v (m : Sample) : ℚ := m.v_int + m.v_frac / 10

/-- The current. -/
def i (m : Sample) : ℚ := m.i_int + m.i_frac / 10

/-- The zeros that a device which is not on reports. -/
def zero : Sample := ⟨0, 0, 0, 0, false, by decide, by decide, by decide, by decide⟩

/-- The simulated readings within the ranges of the build, which the model judges. -/
def normal (cfg : SensorBuild) (rand : ℕ → ℕ) : Sample where
  v_int := cfg.sensorVBase + rand 0 % cfg.sensorVRange
  v_frac := rand 1 % 10
  i_int := cfg.sensorIBase + rand 2 % cfg.sensorIRange
  i_frac := rand 3 % 10
  anomaly := detectAnomaly
    ((cfg.sensorVBase + rand 0 % cfg.sensorVRange : ℕ) + (rand 1 % 10 : ℕ) / 10)
    ((cfg.sensorIBase + rand 2 % cfg.sensorIRange : ℕ) + (rand 3 % 10 : ℕ) / 10)
  v_int_lt := by
    have hrand := Nat.mod_lt (rand 0) cfg.v_pos
    have hle := cfg.v_le
    omega
  v_frac_lt := Nat.mod_lt _ (by decide)
  i_int_lt := by
    have hrand := Nat.mod_lt (rand 2) cfg.i_pos
    have hle := cfg.i_le
    omega
  i_frac_lt := Nat.mod_lt _ (by decide)

/-- An injected fault: too little voltage, and too much current. -/
def fault (cfg : SensorBuild) (rand : ℕ → ℕ) : Sample where
  v_int := cfg.sensorVBase / 4
  v_frac := rand 5 % 10
  i_int := cfg.sensorIBase * 3 + rand 6 % cfg.sensorIRange
  i_frac := rand 7 % 10
  anomaly := true
  v_int_lt := by
    have hpos := cfg.v_pos
    have hle := cfg.v_le
    omega
  v_frac_lt := Nat.mod_lt _ (by decide)
  i_int_lt := by
    have hrand := Nat.mod_lt (rand 6) cfg.i_pos
    have hle := cfg.i_le
    omega
  i_frac_lt := Nat.mod_lt _ (by decide)

/-- The measurement of `publish_telemetry`, with the values that `random_rand` returns in order. -/
def measure (cfg : SensorBuild) (rand : ℕ → ℕ) (device_on : Bool) : Sample :=
  if device_on then
    if rand 4 % 100 < cfg.anomalyInjectPercent then fault cfg rand else normal cfg rand
  else zero

end Sample

/-- What `publish_telemetry` prints. -/
structure TelemetryMessage where
  /-- The node. -/
  node : ProducerNode
  /-- `mqtt_seq`, an `unsigned long` of 32 bits. -/
  seq : UInt32
  /-- The measurement. -/
  sample : Sample
  /-- `get_publish_interval_ms()` -/
  publish_interval_ms : ℕ
  /-- The interval is not above the stressed one. -/
  interval_le : publish_interval_ms ≤ mqttPublishIntervalStressedMs
  /-- `sent_ms`, an `unsigned long` of 32 bits. -/
  sent_ms : UInt32
  /-- `device_on` -/
  device_on : Bool
  /-- `device_starting` -/
  device_starting : Bool

namespace TelemetryMessage

/-- `anomaly ? "anomaly" : "normal"` -/
def mode (m : TelemetryMessage) : List ℕ :=
  if m.sample.anomaly then text "anomaly" else text "normal"

/-- `device_on ? "ON" : (device_starting ? "STARTING" : "OFF")` -/
def status (m : TelemetryMessage) : List ℕ :=
  if m.device_on then text "ON" else if m.device_starting then text "STARTING" else text "OFF"

/-- The format of `publish_telemetry`. -/
def format (m : TelemetryMessage) : List ℕ :=
  text "\x7b" ++
  text "\"node_id\":\"" ++ m.node.nodeId ++ text "\"," ++
  text "\"type\":\"" ++ m.node.type.text ++ text "\"," ++
  text "\"proto\":\"MQTT\"," ++
  text "\"ip\":\"" ++ m.node.node_ip_str ++ text "\"," ++
  text "\"seq\":" ++ decimal m.seq.toNat ++ text "," ++
  text "\"v\":" ++ decimal m.sample.v_int ++ text "." ++ decimal m.sample.v_frac ++ text "," ++
  text "\"i\":" ++ decimal m.sample.i_int ++ text "." ++ decimal m.sample.i_frac ++ text "," ++
  text "\"anomaly\":" ++ decimal m.sample.anomaly.toNat ++ text "," ++
  text "\"publish_interval_ms\":" ++ decimal m.publish_interval_ms ++ text "," ++
  text "\"sent_ms\":" ++ decimal m.sent_ms.toNat ++ text "," ++
  text "\"mode\":\"" ++ m.mode ++ text "\"," ++
  text "\"status\":\"" ++ m.status ++ text "\"" ++
  text "\x7d"

/-- `mqtt_app_buf` -/
def mqttAppBuf (m : TelemetryMessage) : Bytes := (snprintf 256 m.format).map UInt8.ofNat

end TelemetryMessage

/-- `publish_telemetry`: the message, and the state of the device and `mqtt_seq` after it. -/
def publishTelemetry (cfg : SensorBuild) (node : ProducerNode) (sampling : Sampling) (uptime_ms : ℕ)
    (rand : ℕ → ℕ) (p : Producer) (mqtt_seq : UInt32) : TelemetryMessage × Producer × UInt32 :=
  let m : TelemetryMessage :=
    { node := node, seq := mqtt_seq, sample := .measure cfg rand p.device_on,
      publish_interval_ms := sampling.current_publish_interval_ms, interval_le := sampling.le,
      sent_ms := .ofNat (sentMs uptime_ms), device_on := p.device_on,
      device_starting := p.device_starting }
  (m, p.anomalyShutdown m.sample.anomaly, mqtt_seq + 1)

/-- The format of the payload of `coap_register_process`. -/
def registerFormat (node : ProducerNode) (sent_ms : UInt32) : List ℕ :=
  text "\x7b\"node_id\":\"" ++ node.nodeId ++ text "\",\"ip\":\"" ++ node.node_ip_str ++
  text "\",\"port\":5683," ++
  text "\"type\":\"" ++ node.type.text ++ text "\",\"proto\":\"coap\",\"sent_ms\":" ++
  decimal sent_ms.toNat ++ text "\x7d"

/-- `payload` of `coap_register_process`. -/
def registerPayload (node : ProducerNode) (sent_ms : UInt32) : Bytes :=
  (snprintf 160 (registerFormat node sent_ms)).map UInt8.ofNat

end EnergyStation.Firmware
