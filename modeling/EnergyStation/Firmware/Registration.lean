import EnergyStation.Battery.Override
import EnergyStation.Firmware.Telemetry
import EnergyStation.Lib.Runs
import EnergyStation.Lib.Timer

/-!
# How a node registers

`coap_register_process` of the two firmwares, and what `coap_server_process` activates. The process
looks for a route every 15 seconds, sends one POST when it finds one, and ends: it does not send
twice (`Sent.step`).
-/

namespace EnergyStation.Firmware

open Battery CStdlib Numeral Runs

/-- A battery node on its network. -/
structure BatteryNode where
  /-- `linkaddr_node_addr.u8[6]` and `linkaddr_node_addr.u8[7]` -/
  linkaddr : UInt8 × UInt8
  /-- `node_ip_str` -/
  node_ip_str : List ℕ
  /-- The text of an address takes up to 39 characters. -/
  ip_length : node_ip_str.length ≤ 39
  /-- It is made of printable characters, without quotes and backslashes. -/
  ip_plain : ∀ c ∈ node_ip_str, 32 ≤ c ∧ c < 127 ∧ c ≠ 34 ∧ c ≠ 92

namespace BatteryNode

/-- `node_id` -/
def nodeId (node : BatteryNode) : List ℕ :=
  snprintf 32 (text "prod_" ++ text "battery" ++ text "_" ++ formatHex node.linkaddr.1 ++
    formatHex node.linkaddr.2)

/-- The format of the payload of the battery's `coap_register_process`. -/
def registerFormat (node : BatteryNode) : List ℕ :=
  text "\x7b\"node_id\":\"" ++ node.nodeId ++ text "\",\"ip\":\"" ++ node.node_ip_str ++
  text "\",\"port\":5683," ++
  text "\"type\":\"" ++ text "battery" ++ text "\",\"proto\":\"coap\"\x7d"

/-- `payload` of the battery's `coap_register_process`. -/
def registerPayload (node : BatteryNode) : Bytes :=
  (snprintf 160 node.registerFormat).map UInt8.ofNat

end BatteryNode

/-- A node of one of the two firmwares. -/
inductive Device where
  /-- `coap-mqtt-sensor.c`, and the solar and diesel builds of it. -/
  | producer (node : ProducerNode)
  /-- `coap-mqtt-battery-sensor.c` -/
  | battery (node : BatteryNode)

namespace Device

/-- `node_id` -/
def nodeId : Device → List ℕ
  | producer node => node.nodeId
  | battery node => node.nodeId

/-- `node_ip_str` -/
def ip : Device → List ℕ
  | producer node => node.node_ip_str
  | battery node => node.node_ip_str

/-- `NODE_TYPE` -/
def type : Device → List ℕ
  | producer node => node.type.text
  | battery _ => text "battery"

/-- `payload` of `coap_register_process`, where the battery does not send the time. -/
def registerPayload (d : Device) (sent_ms : UInt32) : Bytes :=
  match d with
  | producer node => Firmware.registerPayload node sent_ms
  | battery node => node.registerPayload

/-- What `coap_server_process` activates, with the methods that have a handler. -/
def activatedResources (platformHasLeds : Bool) : Device → List (String × List RequestMethod)
  | producer _ =>
    [("actuators/leds", [.post, .put]), ("test/push", [.get]), ("actuators/status", [.get, .put]),
      ("actuators/sampling", [.get, .put])] ++
    (if platformHasLeds then [("actuators/toggle", [.post])] else [])
  | battery _ => [("actuators/battery", [.get, .put])]

/-- The engine has a handler for the method at the path. -/
def serves (platformHasLeds : Bool) (d : Device) (method : RequestMethod) (path : String) : Bool :=
  (d.activatedResources platformHasLeds).any fun r => r.1 == path && r.2.contains method

end Device

/-- `REGISTER_DELAY` -/
def registerDelay (p : Platform) : ℕ := 15 * p.clockSecond

/-- Where `coap_register_process` is. -/
inductive RegisterPhase where
  /-- In `PROCESS_WAIT_UNTIL(etimer_expired(&t))`. -/
  | waiting
  /-- In `COAP_BLOCKING_REQUEST`. -/
  | requesting
  /-- It has ended. -/
  | ended
  deriving DecidableEq

/-- The variables of the process, and the clock. -/
structure RegisterProcess where
  /-- `t` -/
  t : Timer
  /-- `clock_time()` -/
  clock : ℕ
  /-- Where the process is. -/
  phase : RegisterPhase

/-- What happens to the process. -/
inductive RegisterEvent where
  /-- Time passes. -/
  | elapse (ticks : ℕ)
  /-- The timer process looks at `t`. -/
  | timer
  /-- The process is resumed, with what `have_connectivity()` returns then. -/
  | resume (connectivity : Bool)
  /-- The cloud has answered, or the request has timed out. -/
  | answered

namespace RegisterProcess

/-- The process has just been started, at some time of the clock. -/
def boot (p : Platform) (clock : ℕ) :
    RegisterProcess := ⟨.set clock (registerDelay p), clock, .waiting⟩

/-- The process sends its request when it is resumed. -/
def sends (s : RegisterProcess) : RegisterEvent → Bool
  | .resume connectivity => decide (s.phase = .waiting) && s.t.expired && connectivity
  | _ => false

/-- The process after an event. -/
def step (p : Platform) (s : RegisterProcess) : RegisterEvent → RegisterProcess
  | .elapse ticks => { s with clock := s.clock + ticks }
  | .timer => { s with t := s.t.poll s.clock }
  | .resume connectivity =>
    if s.phase = .waiting ∧ s.t.expired = true then
      if connectivity then { s with phase := .requesting }
      else { s with t := .set s.clock (registerDelay p) }
    else s
  | .answered => if s.phase = .requesting then { s with phase := .ended } else s

@[simp] theorem step_elapse (p : Platform) (s : RegisterProcess) (ticks : ℕ) :
    step p s (.elapse ticks) = { s with clock := s.clock + ticks } := rfl

@[simp] theorem step_timer (p : Platform) (s : RegisterProcess) :
    step p s .timer = { s with t := s.t.poll s.clock } := rfl

theorem step_resume (p : Platform) (s : RegisterProcess) (connectivity : Bool) :
    step p s (.resume connectivity) =
      if s.phase = .waiting ∧ s.t.expired = true then
        if connectivity then { s with phase := .requesting }
        else { s with t := .set s.clock (registerDelay p) }
      else s := rfl

theorem step_answered (p : Platform) (s : RegisterProcess) :
    step p s .answered = if s.phase = .requesting then { s with phase := .ended } else s := rfl

/-- The process has sent its request. -/
def Sent (s : RegisterProcess) : Prop := s.phase ≠ .waiting

instance (s : RegisterProcess) : Decidable s.Sent := inferInstanceAs (Decidable (_ ≠ _))

/-- The request is sent in a step where it has not been sent before, and has been sent after it. -/
theorem sends_iff (p : Platform) (s : RegisterProcess) (e : RegisterEvent) :
    s.sends e = true ↔ ¬ s.Sent ∧ (step p s e).Sent := by
  unfold Sent
  cases e with
  | elapse ticks => simp [sends]
  | timer => simp [sends]
  | resume connectivity =>
    rw [step_resume]
    by_cases hphase : s.phase = .waiting
    · cases hexpired : s.t.expired <;> cases connectivity <;> simp [sends, hphase, hexpired]
    · simp [sends, hphase]
  | answered =>
    rw [step_answered]
    split_ifs with hphase
    · simp [sends, hphase]
    · simp [sends]

/-- A request that has been sent is not sent again. -/
theorem Sent.step {p : Platform} {s : RegisterProcess} (h : s.Sent) (e : RegisterEvent) :
    (step p s e).Sent := by
  cases e with
  | elapse ticks => exact h
  | timer => exact h
  | resume connectivity =>
    rw [step_resume, if_neg fun hboth => h hboth.1]
    exact h
  | answered =>
    rw [step_answered]
    split_ifs with hphase
    · exact fun hended => by cases hended
    · exact h

/-- The request has been sent after a step where it has been sent before it, or is sent in it. -/
theorem sent_step_iff (p : Platform) (s : RegisterProcess) (e : RegisterEvent) :
    (step p s e).Sent ↔ s.Sent ∨ s.sends e = true := by
  rw [sends_iff p s e]
  constructor
  · intro hafter
    by_cases hbefore : s.Sent
    · exact .inl hbefore
    · exact .inr ⟨hbefore, hafter⟩
  · rintro (hbefore | ⟨-, hafter⟩)
    · exact hbefore.step e
    · exact hafter

end RegisterProcess

end EnergyStation.Firmware
