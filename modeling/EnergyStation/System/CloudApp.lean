import EnergyStation.Cloud.CongestionTraffic
import EnergyStation.Cloud.Points
import EnergyStation.System.FleetBalance

/-!
# The cloud application

`run` of `cloud_app.py` starts the CoAP server, `balance_loop`, `_monitor_sensor_liveness` and
`_monitor_network_congestion` in one event loop, beside the MQTT thread. They share the registry,
the delay tables, the readings and the client of InfluxDB. A task that is not suspended has the
event loop for itself, and the MQTT thread goes on at any time. What a task does between two
suspensions is one step also for this thread, but for the sum of the powers, which raises where a
producer is added to the readings meanwhile (`raced`). `tasks_compose` says that in the whole
program every part does what it does alone, with the surroundings that the others make for it, and
that the points tell where every entry of the registry comes from.
-/

namespace EnergyStation.System.CloudApp

open Cloud CStdlib Python Runs

/-- The program. -/
structure State where
  /-- What the parts of the program share. -/
  cloud : CloudState
  /-- `_monitor_sensor_liveness`: where it is, -/
  heartbeat : Liveness.Task
  /-- its last snapshot, -/
  snapshot : List Node
  /-- and the nodes that it has probed since. -/
  probed : List Node
  /-- `_diesel_dispatched` -/
  dispatched : Bool
  /-- `balance_loop` -/
  balance : BalanceLoop.Task
  /-- `_monitor_network_congestion` -/
  monitor : Monitor

/-- The program has just started. -/
def boot : State :=
  ⟨⟨DelayTables.boot, Dict.empty, Registry.boot, []⟩, .sleeping, [], [], false, .sleeping,
    Monitor.boot⟩

/-- What happens to `_monitor_sensor_liveness`. -/
inductive HeartbeatEvent where
  /-- Its sleep ends. -/
  | wake
  /-- It runs on. -/
  | run
  /-- The response to its probe, or the failure of it. -/
  | response (r : Option Code)

/-- What happens to `balance_loop`. -/
inductive BalanceEvent where
  /-- Its sleep is over. -/
  | wake (renewable_now diesel_now roll draw : ℚ)
  /-- Its sleep is over, and the MQTT thread adds a producer while the powers are summed. -/
  | raced
  /-- The battery's state has come, or none. -/
  | state (response : Option Response)
  /-- The diesel node has answered, or not. -/
  | diesel (answer : Except Exc Response)
  /-- The battery has answered, or not. -/
  | battery (answer : Except Exc Response)

/-- What happens to `_monitor_network_congestion`. -/
inductive MonitorEvent where
  /-- Its sleep ends. -/
  | wake
  /-- It runs on. -/
  | run
  /-- The node has handled its request. -/
  | handled (response : Response)
  /-- The response arrives. -/
  | reply
  /-- The request, or its response, is lost. -/
  | lose

/-- What can happen. -/
inductive Event where
  /-- A message of the telemetry topic arrives. -/
  | message (a : Arrival) (body : Bytes)
  /-- A POST request to the site arrives. -/
  | post (a : Arrival) (path : List String) (body : Bytes)
  /-- Something happens to the heartbeat loop. -/
  | heartbeat (e : HeartbeatEvent)
  /-- Something happens to the balance loop, where `accepts` says whether a point can be written. -/
  | balance (e : BalanceEvent) (accepts : Bool)
  /-- Something happens to the congestion monitor. -/
  | monitor (e : MonitorEvent)

/-- An event of the heartbeat loop. -/
def HeartbeatEvent.event : HeartbeatEvent → Liveness.Event
  | wake => .wake
  | run => .run
  | response r => .response r

/-- An event of the balance loop. -/
def BalanceEvent.event : BalanceEvent → BalanceLoop.Event
  | wake renewable_now diesel_now roll draw => .wake renewable_now diesel_now roll draw
  | raced => .raced
  | state response => .state response
  | diesel answer => .diesel answer
  | battery answer => .battery answer

/-- An event of the monitor, with what it reads at the end of its sleep. -/
def MonitorEvent.event (cloud : CloudState) : MonitorEvent → CongestionTraffic.Event
  | wake => .wake cloud.registry cloud.tables.delay_state
  | run => .run
  | handled response => .handled response
  | reply => .reply
  | lose => .lose

namespace State

/-- A task of the event loop is not suspended. -/
def busy (s : State) : Bool := s.heartbeat.busy || s.monitor.task.busy

/-- The heartbeat loop, with what it shares. -/
def heartbeatLoop (s : State) : Liveness.State := ⟨s.cloud.site, s.heartbeat, s.snapshot, s.probed⟩

/-- The balance loop, with what it shares. -/
def balanceLoop (s : State) :
    BalanceLoop.State := ⟨s.cloud.registry, s.cloud.readings, s.dispatched, s.balance⟩

end State

/-- The points of actions. -/
def points (acts : List BalanceLoop.Action) : List Point :=
  acts.filterMap fun
    | .write point => some point
    | _ => none

section

variable (py : Interp) (rejects : Uri → Bool)

/-- A request or a message arrives at this program. -/
def here (a : Arrival) : Arrival := { a with py := py, rejects := rejects }

/-- One event. An event that cannot happen, since another task has the event loop, changes
nothing. -/
def step (s : State) : Event → State
  | .message a body => { s with cloud := (deliverMqtt (here py rejects a) body s.cloud).2 }
  | .post a path body =>
    if s.busy then s
    else { s with cloud := (dispatchPost createCoapSite path (here py rejects a) body s.cloud).2 }
  | .heartbeat e =>
    if s.monitor.task.busy then s
    else
      let loop := Liveness.step py rejects s.heartbeatLoop e.event
      { s with
        cloud := s.cloud.withSite loop.site, heartbeat := loop.task, snapshot :=
          loop.snapshot, probed := loop.probed }
  | .balance e accepts =>
    if s.busy then s
    else
      let (loop, acts) := BalanceLoop.advance py rejects s.balanceLoop e.event
      { s with
        dispatched := loop.dispatched
        balance := loop.task
        cloud :=
          { s.cloud with written := s.cloud.written ++ if accepts then points acts else [] } }
  | .monitor e =>
    if s.heartbeat.busy then s
    else { s with monitor := CongestionTraffic.step py rejects s.monitor (e.event s.cloud) }

/-- What the heartbeat loop and the handlers of registrations see of an event. -/
def heartbeatSees (s : State) : Event → List Liveness.Event
  | .message _ _ => []
  | .post a path body =>
    if s.busy then []
    else if path = ["register"] then [.register a.received_ms a.accepts body]
    else if path = ["unregister"] then [.unregister a.accepts body]
    else []
  | .heartbeat e => if s.monitor.task.busy then [] else [e.event]
  | .balance _ _ => []
  | .monitor _ => []

/-- What the others leave of the registry and the readings. -/
def others (s : State) (e : Event) : BalanceLoop.Event :=
  .others (step py rejects s e).cloud.registry (step py rejects s e).cloud.readings

/-- `on_message`, for a message. -/
def ingestMessage (s : Ingested) (m : Arrival × Bytes) : Ingested :=
  (onMessage py m.1.accepts m.1.received_ms m.1.now m.2 s).2

/-- The points of the balance loop that are written in an event. -/
def energyPoints (s : State) : Event → List Point
  | .message _ _ => []
  | .post _ _ _ => []
  | .heartbeat _ => []
  | .balance e accepts =>
    if s.busy then []
    else if accepts then points (BalanceLoop.acts py rejects s.balanceLoop e.event)
    else []
  | .monitor _ => []

end

variable {py : Interp} {rejects : Uri → Bool}

/-- What a POST request to the site does. -/
theorem dispatchPost_state (path : List String) (a : Arrival) (body : Bytes) (s : CloudState) :
    (dispatchPost createCoapSite path a body s).2 =
      if path = ["register"] then
        s.withSite (Cloud.RegisterResource.renderPost a.py a.received_ms a.accepts body s.site).2
      else if path = ["unregister"] then
        s.withSite (Cloud.UnregisterResource.renderPost a.py a.accepts body s.site).2
      else s := by
  unfold dispatchPost
  rcases hfind : createCoapSite.find? fun r => r.1 = path with _ | ⟨path', resource⟩
  · have hnone : ∀ r ∈ createCoapSite, r.1 ≠ path := fun r hr => by
      have hr' := List.find?_eq_none.mp hfind r hr
      exact fun heq => hr' (decide_eq_true heq)
    rw [if_neg (hnone _ (List.mem_cons_of_mem _ List.mem_cons_self)).symm,
      if_neg (hnone _ (List.mem_cons_of_mem _ (List.mem_cons_of_mem _ List.mem_cons_self))).symm,
      hfind]
  · have hpath := @List.find?_some _ (fun r : List String × Resource => decide (r.1 = path))
      _ _ hfind
    obtain rfl : path' = path := of_decide_eq_true hpath
    rw [hfind]
    have hmem := List.mem_of_find?_eq_some hfind
    simp only [createCoapSite, List.mem_cons, List.not_mem_nil, or_false] at hmem
    rcases hmem with hmem | hmem | hmem | hmem | hmem
    all_goals
      cases hmem
      rfl

/-- A message changes the tables and the readings, and writes points of telemetry. -/
theorem step_message (s : State) (a : Arrival) (body : Bytes) :
    ∃ tables readings ps, (∀ p ∈ ps, p.isTelemetry = true) ∧
      step py rejects s (.message a body) =
        { s with cloud := ⟨tables, readings, s.cloud.registry, s.cloud.written ++ ps⟩ } ∧
      ∀ written, ingestMessage py ⟨⟨s.cloud.tables, written⟩, s.cloud.readings⟩ (a, body) =
        ⟨⟨tables, written ++ ps⟩, readings⟩ := by
  obtain ⟨result, tables, readings, ps, hps, hmessage⟩ :=
    onMessage_written py a.accepts a.received_ms a.now body s.cloud.tables s.cloud.readings
  refine ⟨tables, readings, ps, hps, ?_, fun written => by rw [ingestMessage, hmessage]⟩
  have hstate : deliverMqtt (here py rejects a) body s.cloud =
      (result, ⟨tables, readings, s.cloud.registry, s.cloud.written ++ ps⟩) := by
    show (_, s.cloud.withIngested _) = _
    rw [show onMessage (here py rejects a).py (here py rejects a).accepts
      (here py rejects a).received_ms (here py rejects a).now body s.cloud.ingested = _ from
      hmessage s.cloud.written]
    rfl
  rw [step, hstate]

/-- The heartbeat loop writes nothing. -/
theorem heartbeat_written (s : Liveness.State) (e : HeartbeatEvent) :
    (Liveness.step py rejects s e.event).site.written = s.site.written := by
  cases e with
  | wake =>
    simp only [HeartbeatEvent.event, Liveness.step]
    rcases s.task with _ | rest | ⟨node, uri, rest⟩ | e <;> rfl
  | run =>
    simp only [HeartbeatEvent.event, Liveness.step]
    rcases s.task with _ | (_ | ⟨node, rest⟩) | ⟨node, uri, rest⟩ | e
    · rfl
    · rfl
    · simp only [Liveness.State.probe]
      rcases Cloud.probeRequest py rejects node.info with e | _ | uri
      · rfl
      · exact Liveness.drop_written _ node rest
      · rfl
    · rfl
    · rfl
  | response r =>
    simp only [HeartbeatEvent.event, Liveness.step]
    rcases s.task with _ | rest | ⟨node, uri, rest⟩ | e
    · rfl
    · rfl
    · simp only
      split_ifs
      · rfl
      · exact Liveness.drop_written s node rest
    · rfl

/-- The balance loop leaves the registry and the readings, and writes points of its kind. -/
theorem balance_written (s : BalanceLoop.State) (e : BalanceEvent) :
    (BalanceLoop.advance py rejects s e.event).1.registry = s.registry ∧
      (BalanceLoop.advance py rejects s e.event).1.readings = s.readings ∧
      ∀ p ∈ points (BalanceLoop.advance py rejects s e.event).2, p.isEnergy = true := by
  have hown : ∀ registry readings, e.event ≠ .others registry readings := by
    intro registry readings
    cases e <;> exact fun h => BalanceLoop.Event.noConfusion h
  rcases BalanceLoop.going_advance s hown with heq | ⟨l, huses, -⟩
  · rw [heq]
    exact ⟨rfl, rfl, List.forall_mem_nil _⟩
  · refine ⟨huses.registry, huses.readings, fun p hp => ?_⟩
    obtain ⟨action, haction, hpoint⟩ := List.mem_filterMap.mp hp
    cases action with
    | write point =>
      obtain rfl := Option.some.inj hpoint
      obtain ⟨soc, reachable, dispatched, rfl⟩ := huses.point _ haction
      exact isEnergy_balancePoint l soc reachable dispatched
    | getBattery node uri => cases hpoint
    | putDiesel node run request => cases hpoint
    | putBattery node request => cases hpoint

/-- An event of the balance loop changes what is its own, and writes its points. -/
theorem step_balance {s : State} (hbusy : ¬ s.busy = true) (e : BalanceEvent) (accepts : Bool) :
    step py rejects s (.balance e accepts) =
        { s with
          dispatched := (BalanceLoop.step py rejects s.balanceLoop e.event).dispatched
          balance := (BalanceLoop.step py rejects s.balanceLoop e.event).task
          cloud := { s.cloud with
            written := s.cloud.written ++ energyPoints py rejects s (.balance e accepts) } } ∧
      ∀ p ∈ energyPoints py rejects s (.balance e accepts), p.isEnergy = true := by
  rw [step, energyPoints, if_neg hbusy, if_neg hbusy]
  refine ⟨rfl, fun p hp => ?_⟩
  split_ifs at hp
  · exact (balance_written s.balanceLoop e).2.2 p hp
  · cases hp

/-- Points of other kinds are not seen. -/
theorem filter_append_of_forall {f : Point → Bool} {ps : List Point} (h : ∀ p ∈ ps, f p = false)
    (written : List Point) : (written ++ ps).filter f = written.filter f := by
  have hnone : ps.filter f = [] :=
    List.filter_eq_nil_iff.mpr fun p hp => by rw [h p hp]; exact Bool.false_ne_true
  rw [List.filter_append, hnone, List.append_nil]

/-- The heartbeat loop and the handlers of registrations do in an event what they do alone. -/
theorem heartbeat_step (s : State) (e : Event) :
    (step py rejects s e).heartbeatLoop.points Point.isSite =
      run (Liveness.step py rejects) (s.heartbeatLoop.points Point.isSite) (heartbeatSees s e) := by
  have hpoints := Liveness.step_points (f := Point.isSite) isSite_registerPoint
    isSite_unregisterPoint py rejects
  have hwritten : ∀ {ps : List Point}, (∀ p ∈ ps, p.isSite = false) →
      Liveness.State.mk ⟨s.cloud.registry, (s.cloud.written ++ ps).filter Point.isSite⟩
        s.heartbeat s.snapshot s.probed = s.heartbeatLoop.points Point.isSite := fun hps => by
    rw [filter_append_of_forall hps]
    rfl
  cases e with
  | message a body =>
    obtain ⟨tables, readings, ps, hps, hstep, -⟩ := @step_message py rejects s a body
    rw [hstep]
    exact hwritten fun p hp => (p.kinds.2.1 (hps p hp)).1
  | post a path body =>
    rw [step, heartbeatSees]
    split_ifs with hbusy hregister hunregister
    · rfl
    · have hidle : ¬ s.heartbeatLoop.task.busy = true := fun h =>
        hbusy (Bool.or_eq_true_iff.mpr (.inl h))
      have hown : Liveness.step py rejects s.heartbeatLoop
          (.register a.received_ms a.accepts body) = _ := if_neg hidle
      rw [run_cons, run_nil, hpoints, hown, dispatchPost_state, if_pos hregister]
      rfl
    · have hidle : ¬ s.heartbeatLoop.task.busy = true := fun h =>
        hbusy (Bool.or_eq_true_iff.mpr (.inl h))
      have hown : Liveness.step py rejects s.heartbeatLoop (.unregister a.accepts body) = _ :=
        if_neg hidle
      rw [run_cons, run_nil, hpoints, hown, dispatchPost_state, if_neg hregister,
        if_pos hunregister]
      rfl
    · rw [dispatchPost_state, if_neg hregister, if_neg hunregister]
      rfl
  | heartbeat e =>
    rw [step, heartbeatSees]
    split_ifs with hbusy
    · rfl
    · exact (hpoints s.heartbeatLoop e.event).symm
  | balance e accepts =>
    rw [heartbeatSees]
    by_cases hbusy : s.busy = true
    · rw [step, if_pos hbusy]
      rfl
    · obtain ⟨hstep, hps⟩ := @step_balance py rejects s hbusy e accepts
      rw [hstep]
      exact hwritten fun p hp => (p.kinds.2.2 (hps p hp)).1
  | monitor e =>
    rw [step, heartbeatSees]
    split_ifs <;> rfl

/-- The heartbeat loop and the handlers of registrations do in the program what they do alone. -/
theorem heartbeat_run (s : State) (es : List Event) :
    (run (step py rejects) s es).heartbeatLoop.points Point.isSite =
      run (Liveness.step py rejects) (s.heartbeatLoop.points Point.isSite)
        (outputs (step py rejects) heartbeatSees s es) :=
  run_project_outputs (fun s : State => s.heartbeatLoop.points Point.isSite) heartbeat_step s es

/-- What `on_message` has made of the messages. -/
def State.ingested (s : State) : Ingested :=
  ⟨⟨s.cloud.tables, s.cloud.written.filter Point.isTelemetry⟩, s.cloud.readings⟩

/-- The points tell where an entry comes from: there is the point of its registration, and no later
one of an unregistration that names it. -/
def Logged (written : List Point) (k : Key) (node : Node) : Prop :=
  ∃ payload now_ms pre post, written = pre ++ registerPoint payload :: post ∧
    hashKey (storedId payload) = .ok k ∧
    node.info = storedInfo now_ms payload ∧
    ∀ payload', unregisterPoint payload' ∈ post → hashKey (payload'.get "node_id") ≠ .ok k

theorem Logged.append {written ps : List Point} {k : Key} {node : Node} (h : Logged written k node)
    (hps : ∀ payload, unregisterPoint payload ∈ ps → hashKey (payload.get "node_id") ≠ .ok k) :
    Logged (written ++ ps) k node := by
  obtain ⟨payload, now_ms, pre, post, rfl, hk, hinfo, hpost⟩ := h
  refine ⟨payload, now_ms, pre, post ++ ps, List.append_assoc _ _ _, hk, hinfo, ?_⟩
  intro payload' hp
  exact (List.mem_append.mp hp).elim (hpost payload') (hps payload')

/-- A point that is not seen tells nothing about the registry. -/
theorem Logged.of_filter {written : List Point} {k : Key} {node : Node}
    (h : Logged (written.filter Point.isSite) k node) : Logged written k node := by
  obtain ⟨payload, now_ms, pre, post, heq, hk, hinfo, hpost⟩ := h
  obtain ⟨pre', rest, rfl, -, hrest⟩ := List.filter_eq_append_iff.mp heq
  obtain ⟨mid, post', rfl, -, -, rfl⟩ := List.filter_eq_cons_iff.mp hrest
  refine ⟨payload, now_ms, pre' ++ mid, post', (List.append_assoc _ _ _).symm, hk, hinfo,
    fun payload' hp => ?_⟩
  exact hpost payload' (List.mem_filter.mpr ⟨hp, isSite_unregisterPoint payload'⟩)

/-- The points of two unregistrations are equal only if they name the same node. -/
theorem get_nodeId_of_unregisterPoint {payload payload' : Obj}
    (h : unregisterPoint payload = unregisterPoint payload') :
    payload.get "node_id" = payload'.get "node_id" :=
  (Prod.mk.inj (List.cons.inj (congrArg Point.tags h)).1).2

/-- Every entry of the registry is logged. -/
def AllLogged (site : Site) : Prop :=
  ∀ k node, site.registry.nodes.get? k = some node → Logged site.written k node

/-- A registration logs its entry. -/
theorem AllLogged.register {site : Site} (h : AllLogged site) (now_ms : ℤ) (accepts : Bool)
    (body : Bytes) :
    AllLogged (Cloud.RegisterResource.renderPost py now_ms accepts body site).2 := by
  rw [Cloud.RegisterResource.renderPost_site]
  rcases handle_site_cases py body accepts registerPoint (Registry.addNode now_ms) site with
    heq | ⟨payload, ⟨-, heq⟩ | ⟨registry, hadd, heq⟩⟩
  · rw [heq]
    exact h
  all_goals
    have hother : ∀ payload', unregisterPoint payload' ∈ [registerPoint payload] →
        ∀ k, hashKey (payload'.get "node_id") ≠ .ok k := fun payload' hp => by
      have hmeasurement : "device_events" = "registered_nodes" :=
        congrArg Point.measurement (List.mem_singleton.mp hp)
      exact absurd hmeasurement (by decide)
    rw [heq]
    intro k node hnode
  · exact (h k node hnode).append fun payload' hp => hother payload' hp k
  · obtain ⟨k', hk', rfl⟩ := Registry.addNode_eq_ok.mp hadd
    have hget := hnode
    rw [Registry.get?_insert] at hget
    split_ifs at hget with hk
    · rw [← Option.some.inj hget, hk]
      exact ⟨payload, now_ms, site.written, [], rfl, hk', rfl, fun payload' hp => by cases hp⟩
    · exact (h k node hget).append fun payload' hp => hother payload' hp k

/-- An unregistration that is logged has deleted the entry that it names. -/
theorem AllLogged.unregister {site : Site} (h : AllLogged site) (accepts : Bool) (body : Bytes) :
    AllLogged (Cloud.UnregisterResource.renderPost py accepts body site).2 := by
  rw [Cloud.UnregisterResource.renderPost_site]
  rcases handle_site_cases py body accepts unregisterPoint
    (fun payload => Registry.removeNode (payload.get "node_id")) site with
    heq | ⟨payload, ⟨⟨e, herror⟩, heq⟩ | ⟨registry, hremove, heq⟩⟩
  · rw [heq]
    exact h
  · rw [heq]
    intro k node hnode
    refine (h k node hnode).append fun payload' hp hk => ?_
    rw [get_nodeId_of_unregisterPoint (List.mem_singleton.mp hp)] at hk
    rw [Registry.removeNode, hk] at herror
    cases herror
  · obtain ⟨k', hk', rfl⟩ := Registry.removeNode_eq_ok.mp hremove
    rw [heq]
    intro k node hnode
    have hget := hnode
    rw [Registry.get?_delete] at hget
    split_ifs at hget with hne
    refine (h k node hget).append fun payload' hp hk => hne ?_
    rw [get_nodeId_of_unregisterPoint (List.mem_singleton.mp hp), hk'] at hk
    exact (Except.ok.inj hk).symm

/-- The heartbeat loop deletes entries, and the handlers log what they do. -/
theorem AllLogged.step {s : Liveness.State} (h : AllLogged s.site) (e : Liveness.Event) :
    AllLogged (Liveness.step py rejects s e).site := by
  have hown : ∀ e : HeartbeatEvent, AllLogged (Liveness.step py rejects s e.event).site := by
    intro e k node hnode
    rw [heartbeat_written]
    change (Liveness.step py rejects s e.event).registry.nodes.get? k = some node at hnode
    rcases Liveness.step_registry_cases rejects s e.event with
      heq | ⟨payload, k', now_ms, ⟨now_ms', accepts, body, heq, -⟩, -⟩ | ⟨k', heq⟩
    · rw [heq] at hnode
      exact h k node hnode
    · cases e <;> cases heq
    · rw [heq, Registry.get?_delete] at hnode
      split_ifs at hnode
      exact h k node hnode
  cases e with
  | register now_ms accepts body =>
    rw [Liveness.step]
    split_ifs with hbusy
    · exact h
    · exact h.register now_ms accepts body
  | unregister accepts body =>
    rw [Liveness.step]
    split_ifs with hbusy
    · exact h
    · exact h.unregister accepts body
  | wake => exact hown .wake
  | run => exact hown .run
  | response r => exact hown (.response r)

/-- Every entry of a run is logged. -/
theorem logged_run (es : List Event) (k : Key) (node : Node)
    (hnode : (run (step py rejects) boot es).cloud.registry.nodes.get? k = some node) :
    Logged (run (step py rejects) boot es).cloud.written k node := by
  have hall :
      AllLogged ((run (step py rejects) boot es).heartbeatLoop.points Point.isSite).site := by
    rw [heartbeat_run]
    exact run_invariant' (I := fun s : Liveness.State => AllLogged s.site) (fun s e hs => hs.step e)
      (fun k node hnode => by cases hnode) _
  exact (hall k node hnode).of_filter

end EnergyStation.System.CloudApp
