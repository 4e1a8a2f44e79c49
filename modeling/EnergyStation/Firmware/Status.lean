import EnergyStation.Coap

/-!
# The power state of a producer node

`device_on`, `device_starting` and the startup timer of a solar, wind or diesel node, with the
handlers of `res-status.c`, the timer's callback `startup_complete`, and the shutdown that ends
`publish_telemetry` after an anomaly.
-/

namespace EnergyStation.Firmware

open CStdlib

/-- The constants of a producer's build that its power state depends on. -/
structure ProducerBuild where
  /-- `SENSOR_DEFAULT_ON`. -/
  sensorDefaultOn : Bool
  /-- `SENSOR_STARTUP_DELAY_S`. -/
  sensorStartupDelayS : ℕ
  /-- `CLOCK_SECOND`. -/
  clockSecond : ℕ

/-- The diesel node's `project-conf.h`, on a platform with `clockSecond` ticks in a second. -/
def dieselBuild (clockSecond : ℕ) : ProducerBuild where
  sensorDefaultOn := false
  sensorStartupDelayS := 40
  clockSecond := clockSecond

/-- The power state of a producer node. -/
structure Producer where
  /-- `device_on`. -/
  device_on : Bool
  /-- `device_starting`. -/
  device_starting : Bool
  /-- `startup_timer`: the ticks left, where it is pending. -/
  startup_timer : Option ℕ
  deriving DecidableEq

namespace Producer

/-- The state after boot. -/
def boot (cfg : ProducerBuild) : Producer where
  device_on := cfg.sensorDefaultOn
  device_starting := false
  startup_timer := none

/-- `startup_complete`, which the timer calls when it has expired and is no longer pending. -/
def startupComplete (_ : Producer) : Producer where
  device_on := true
  device_starting := false
  startup_timer := none

/-- One clock tick. -/
def tick (p : Producer) : Producer := { p with startup_timer := p.startup_timer.map (· - 1) }

/-- The timer process runs, and calls back where the timer has expired. -/
def fire (p : Producer) : Producer :=
  if p.startup_timer = some 0 then p.startupComplete else p

/-- What `publish_telemetry` does to the power state: a device that is on shuts down when a fault
was injected or the model detects one. A device that is off never reports an anomaly. -/
def anomalyShutdown (p : Producer) (fault : Bool) : Producer :=
  if p.device_on && fault then { p with device_on := false } else p

/-- The GET handler of `res-status.c`. -/
def resGetHandler (p : Producer) : Response :=
  ⟨.content, ascii (if p.device_on then "on" else if p.device_starting then "starting" else "off")⟩

/-- The PUT handler of `res-status.c`. -/
def resPutHandler (cfg : ProducerBuild) (p : Producer) (body : Bytes) : Response × Producer :=
  if body = [] then (⟨.badRequest, ascii "Missing body: on|off"⟩, p)
  -- Only the first characters of the body are compared.
  else if hasPrefix (ascii "off") body then
    let p := if 0 < cfg.sensorStartupDelayS then
        { p with startup_timer := none, device_starting := false } else p
    (⟨.changed, ascii "off"⟩, { p with device_on := false })
  else if hasPrefix (ascii "on") body then
    if 0 < cfg.sensorStartupDelayS then
      -- A device that is on or starting is not started again.
      if p.device_on = false ∧ p.device_starting = false then
        (⟨.changed, ascii "starting"⟩,
          { p with device_starting := true,
                   startup_timer := some (cfg.sensorStartupDelayS * cfg.clockSecond) })
      else (⟨.changed, ascii (if p.device_on then "on" else "starting")⟩, p)
    else (⟨.changed, ascii "on"⟩, { p with device_on := true })
  else (⟨.badRequest, ascii "Invalid body: use on|off"⟩, p)

/-- The body that the cloud sends to switch the device on or off. -/
def statusBody (run : Bool) : Bytes := ascii (if run then "on" else "off")

/-- Neither on nor starting, and no startup pending. -/
structure Idle (p : Producer) : Prop where
  /-- The device is not on. -/
  off : p.device_on = false
  /-- It is not starting. -/
  notStarting : p.device_starting = false
  /-- No startup will complete later. -/
  noTimer : p.startup_timer = none

theorem boot_idle {cfg : ProducerBuild} (h : cfg.sensorDefaultOn = false) : Idle (boot cfg) :=
  ⟨h, rfl, rfl⟩

theorem Idle.tick {p : Producer} (h : Idle p) : Idle p.tick :=
  ⟨h.off, h.notStarting, by simp [Producer.tick, h.noTimer]⟩

theorem Idle.fire {p : Producer} (h : Idle p) : Idle p.fire := by
  unfold Producer.fire
  rw [h.noTimer, if_neg (by simp)]
  exact h

theorem Idle.anomalyShutdown {p : Producer} (h : Idle p) (fault : Bool) :
    Idle (p.anomalyShutdown fault) := by
  unfold Producer.anomalyShutdown
  rw [h.off, Bool.false_and, if_neg Bool.false_ne_true]
  exact h

/-- The power state after a request that switches the device off. -/
def turnOff (cfg : ProducerBuild) (p : Producer) : Producer :=
  if 0 < cfg.sensorStartupDelayS then ⟨false, false, none⟩ else { p with device_on := false }

/-- The power state after a request that switches the device on. -/
def turnOn (cfg : ProducerBuild) (p : Producer) : Producer :=
  if 0 < cfg.sensorStartupDelayS then
    if p.device_on = false ∧ p.device_starting = false then
      { p with device_starting := true,
               startup_timer := some (cfg.sensorStartupDelayS * cfg.clockSecond) }
    else p
  else { p with device_on := true }

/-- The PUT handler switches the device off or on, or leaves it as it is. -/
theorem resPutHandler_snd (cfg : ProducerBuild) (p : Producer) (body : Bytes) :
    (p.resPutHandler cfg body).2 =
      if hasPrefix (ascii "off") body then p.turnOff cfg
      else if hasPrefix (ascii "on") body then p.turnOn cfg
      else p := by
  by_cases hbody : body = []
  · subst hbody
    rfl
  · unfold resPutHandler turnOff turnOn
    rw [if_neg hbody]
    split_ifs <;> rfl

/-- With a warm-up delay, `off` makes the device idle from every state. -/
theorem resPutHandler_off {cfg : ProducerBuild} (hcfg : 0 < cfg.sensorStartupDelayS)
    (p : Producer) : Idle (p.resPutHandler cfg (statusBody false)).2 := by
  have hoff : hasPrefix (ascii "off") (statusBody false) = true := by decide
  rw [resPutHandler_snd, if_pos hoff, turnOff, if_pos hcfg]
  exact ⟨rfl, rfl, rfl⟩

/-- With a warm-up delay, `on` leaves the device on or starting from every state. -/
theorem resPutHandler_on {cfg : ProducerBuild} (hcfg : 0 < cfg.sensorStartupDelayS)
    (p : Producer) : (p.resPutHandler cfg (statusBody true)).2.device_on = true ∨
      (p.resPutHandler cfg (statusBody true)).2.device_starting = true := by
  have hoff : ¬ hasPrefix (ascii "off") (statusBody true) = true := by decide
  have hon : hasPrefix (ascii "on") (statusBody true) = true := by decide
  -- A device that is not started was on or starting.
  rw [resPutHandler_snd, if_neg hoff, if_pos hon, turnOn, if_pos hcfg]
  by_cases h : p.device_on = false ∧ p.device_starting = false
  · rw [if_pos h]
    exact Or.inr rfl
  · rw [if_neg h]
    simpa only [not_and_or, Bool.not_eq_false] using h

end Producer

end EnergyStation.Firmware
