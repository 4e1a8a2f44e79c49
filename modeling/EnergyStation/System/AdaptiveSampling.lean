import EnergyStation.Cloud.Congestion
import EnergyStation.Firmware.Sampling

/-!
# Adaptive sampling: the monitor and the nodes

The congestion monitor together with the firmware of the nodes whose intervals it sets. Everything
else is an event that may come at any moment at which the monitor is suspended: registrations and
removals change the registry, nodes restart, and each wake-up of the monitor finds whatever delay
state the telemetry has produced by then. A request travels in two steps, first to the node and then
back, and can be lost before either.

What a pass owes to the nodes of its snapshot is `due`, and `Agrees` says that a node has it.
-/

namespace EnergyStation.System.AdaptiveSampling

open Python Firmware Cloud

/-- The registry, the monitor and the nodes. -/
structure State where
  /-- The registry. -/
  registry : Registry
  /-- The monitor. -/
  monitor : Monitor
  /-- The node that registers with each id. A request to a registered node reaches it. -/
  fleet : Key → Sampling
  /-- The node has restarted, and has not registered since. -/
  pending : Key → Bool
  /-- The node has restarted since the last pass began, or had not registered by then. -/
  disturbed : Key → Bool

/-- What can happen. -/
inductive Event where
  /-- `add_node` is called, after a request to `/register`. -/
  | register (now_ms : ℤ) (node_info : Obj)
  /-- `remove_node` is called, by the heartbeat loop or after a request to `/unregister`. -/
  | remove (node_id : Val)
  /-- A node restarts. -/
  | reboot (node_id : Key)
  /-- The monitor's sleep ends, with the delay state of that moment. -/
  | wake (delay_state : Dict Key DelayState)
  /-- The monitor runs on. -/
  | run
  /-- The request that the monitor awaits reaches its node. -/
  | deliver
  /-- The response reaches the monitor. -/
  | reply
  /-- The request, or its response, is lost, and the monitor's call raises. -/
  | lose

/-- The registration is stored under the id. -/
def registersAs (node_info : Obj) (k : Key) : Bool :=
  match hashKey (storedId node_info) with
  | .ok k' => k = k'
  | .error _ => false

/-- The node handles the request that the monitor awaits. -/
def deliver (cfg : Key → SamplingBuild) (s : State) : State :=
  match s.monitor.task with
  | .getting pass k node rest none =>
    { s with
      monitor :=
        { s.monitor with task := .getting pass k node rest (some (s.fleet k).resGetHandler) } }
  | .putting pass k node target_interval body rest none =>
    { s with
      monitor :=
        { s.monitor with
          task := .putting pass k node target_interval body rest
            (some ((s.fleet k).resPutHandler (cfg k) body).1) }
      fleet := Function.update s.fleet k ((s.fleet k).resPutHandler (cfg k) body).2 }
  | _ => s

/-- One event. An event that cannot happen changes nothing. -/
def step (py : Interp) (rejects : Uri → Bool) (cfg : Key → SamplingBuild) (s : State) :
    Event → State
  | .register now_ms node_info =>
    if s.monitor.task.busy then s
    else
      match s.registry.addNode now_ms node_info with
      | .error _ => s
      | .ok registry =>
        { s with
          registry := registry
          pending := fun k => s.pending k && !registersAs node_info k }
  | .remove node_id =>
    if s.monitor.task.busy then s
    else
      match s.registry.removeNode node_id with
      | .error _ => s
      | .ok registry => { s with registry := registry }
  | .reboot k =>
    { s with
      fleet := Function.update s.fleet k (Sampling.boot (cfg k))
      pending := Function.update s.pending k true
      disturbed := Function.update s.disturbed k true }
  | .wake delay_state =>
    if s.monitor.task.asleep then
      { s with monitor := s.monitor.wake s.registry delay_state, disturbed := s.pending }
    else s
  | .run => { s with monitor := s.monitor.run py rejects }
  | .deliver => deliver cfg s
  | .reply => { s with monitor := s.monitor.reply py rejects }
  | .lose => { s with monitor := s.monitor.lose }

/-- The cloud has just started, with nodes that have been running. -/
def boot (fleet : Key → Sampling) : State :=
  ⟨Registry.boot, Monitor.boot, fleet, fun _ => false, fun _ => false⟩

/-- The interval of a node. -/
def State.interval (s : State) (k : Key) : ℤ := (s.fleet k).current_publish_interval_ms

/-- The interval that a pass owes to a node of its snapshot: a node that is not a battery, has at
least three samples and a known baseline is to publish every 5000 ms if it is congested, and at its
baseline otherwise. -/
def due (pass : Pass) (baselines : Dict Key ℤ) (k : Key) (node : Node) : Option ℤ :=
  if isStr "battery" (node.info.get "type") then none
  else
    match pass.delay_state.get? k, baselines.get? k with
    | some state, some baseline =>
      if state.samples < 3 then none
      else some (if state.congested then congestedPublishIntervalMs else baseline)
    | _, _ => none

/-- A node of the snapshot has the interval that the pass owes it. -/
def Agrees (s : State) (pass : Pass) (k : Key) : Prop :=
  ∀ node t, pass.registered_nodes.get? k = some node →
    due pass s.monitor.sensor_baseline_interval_ms k node = some t → s.interval k = t

/-- Every node of the snapshot whose interval the pass has still to set has an address that a
request can be sent to. -/
def Addressable (py : Interp) (rejects : Uri → Bool) (s : State) (pass : Pass) : Prop :=
  ∀ k node t, pass.registered_nodes.get? k = some node →
    due pass s.monitor.sensor_baseline_interval_ms k node = some t →
    s.monitor.sampling_interval_state.get? k ≠ some t →
    ∃ uri, samplingUri py rejects node.info = .ok uri

section

variable {py : Interp} {rejects : Uri → Bool} {cfg : Key → SamplingBuild}

/-- A registration stores the node under its id and vouches for it, or changes nothing. -/
theorem step_register_cases (s : State) (now_ms : ℤ) (node_info : Obj) :
    step py rejects cfg s (.register now_ms node_info) = s ∨
      ∃ k, hashKey (storedId node_info) = .ok k ∧
        step py rejects cfg s (.register now_ms node_info) =
          { s with
            registry := s.registry.insert k now_ms node_info
            pending := fun k' => s.pending k' && !registersAs node_info k' } := by
  simp only [step]
  split_ifs
  · exact .inl rfl
  · cases hadd : s.registry.addNode now_ms node_info with
    | error e => exact .inl rfl
    | ok registry =>
      obtain ⟨k, hk, rfl⟩ := Registry.addNode_eq_ok.mp hadd
      exact .inr ⟨k, hk, rfl⟩

/-- A removal deletes a key of the registry, or changes nothing. -/
theorem step_remove_cases (s : State) (node_id : Val) :
    step py rejects cfg s (.remove node_id) = s ∨
      ∃ k, step py rejects cfg s (.remove node_id) =
        { s with registry := s.registry.delete k } := by
  simp only [step]
  split_ifs
  · exact .inl rfl
  · cases hremove : s.registry.removeNode node_id with
    | error e => exact .inl rfl
    | ok registry =>
      obtain ⟨k, -, rfl⟩ := Registry.removeNode_eq_ok.mp hremove
      exact .inr ⟨k, rfl⟩

@[simp] theorem step_register_monitor (s : State) (now_ms : ℤ) (node_info : Obj) :
    (step py rejects cfg s (.register now_ms node_info)).monitor = s.monitor := by
  rcases step_register_cases s now_ms node_info with heq | ⟨k, -, heq⟩ <;> rw [heq]

@[simp] theorem step_register_fleet (s : State) (now_ms : ℤ) (node_info : Obj) :
    (step py rejects cfg s (.register now_ms node_info)).fleet = s.fleet := by
  rcases step_register_cases s now_ms node_info with heq | ⟨k, -, heq⟩ <;> rw [heq]

@[simp] theorem step_remove_monitor (s : State) (node_id : Val) :
    (step py rejects cfg s (.remove node_id)).monitor = s.monitor := by
  rcases step_remove_cases s node_id with heq | ⟨k, heq⟩ <;> rw [heq]

@[simp] theorem step_remove_fleet (s : State) (node_id : Val) :
    (step py rejects cfg s (.remove node_id)).fleet = s.fleet := by
  rcases step_remove_cases s node_id with heq | ⟨k, heq⟩ <;> rw [heq]

end

end EnergyStation.System.AdaptiveSampling
