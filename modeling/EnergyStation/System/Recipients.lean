import EnergyStation.Cloud.Recipients
import EnergyStation.System.CloudApp
import EnergyStation.System.Operators

/-!
# To whom the cloud talks

The tasks of the program hold nodes over their awaits, while the handlers register and delete.
`recipients_registered` says that every request of a run still goes to the address of a node whose
registration is in the log: to one that is registered at that moment, or to one that was when the
task read it from the registry and that the task has held since.
-/

namespace EnergyStation.System.CloudApp

open Cloud CStdlib Python Runs

section

variable (py : Interp) (rejects : Uri → Bool)

/-- The commands that the control endpoints forward in an event. -/
def operatorRequests (s : State) : Event → List Uri
  | .message _ _ => []
  | .post a path body =>
    if s.busy then []
    else if path = ["actuators", "leds"] then
      ((Operators.sent rejects (Cloud.LedControlResource.prepare py a.texts s.cloud.registry
        body)).map
        PutRequest.uri).toList
    else if path = ["actuators", "status"] then
      ((Operators.sent rejects (Cloud.StatusControlResource.prepare py a.texts s.cloud.registry
        body)).map
        PutRequest.uri).toList
    else []
  | .heartbeat _ => []
  | .balance _ _ => []
  | .monitor _ => []

/-- What the balance loop does in an event. -/
def balanceActs (s : State) : Event → List BalanceLoop.Action
  | .message _ _ => []
  | .post _ _ _ => []
  | .heartbeat _ => []
  | .balance e _ => if s.busy then [] else BalanceLoop.acts py rejects s.balanceLoop e.event
  | .monitor _ => []

/-- The probes that are sent in an event. -/
def probes (s : State) : Event → List Uri
  | .message _ _ => []
  | .post _ _ _ => []
  | .heartbeat e =>
    if s.monitor.task.busy then [] else Liveness.probes py rejects s.heartbeatLoop e.event
  | .balance _ _ => []
  | .monitor _ => []

/-- The requests of the congestion monitor that are sent in an event. -/
def samplingRequests (s : State) : Event → List Uri
  | .message _ _ => []
  | .post _ _ _ => []
  | .heartbeat _ => []
  | .balance _ _ => []
  | .monitor e =>
    if s.heartbeat.busy then []
    else CongestionTraffic.requests py rejects s.monitor (e.event s.cloud)

/-- The requests of `register_with_sensor`, for the nodes that it has been scheduled for. -/
def subscriptions (s : State) : List Uri :=
  s.cloud.registry.scheduled.filterMap fun node =>
    (requestUri py rejects (node.info.get "ip") node.info "test/push").toOption

/-- The node is registered, and the points tell where its entry comes from. -/
def Enrolled (s : State) (node : Node) : Prop :=
  ∃ k, s.cloud.registry.nodes.get? k = some node ∧ Logged s.cloud.written k node

/-- The request goes to a node that is registered. -/
def ToRegistered (s : State) (uri : Uri) : Prop :=
  ∃ node, Enrolled s node ∧ Addressed py rejects node.info uri

/-- The request goes to a node that was registered when a task read it, and that the task has held
since. -/
def ToHeld (held : State → List Node) (es : List Event) (uri : Uri) : Prop :=
  ∃ pre e post node, es = pre ++ e :: post ∧ Enrolled (run (step py rejects) boot pre) node ∧
    Addressed py rejects node.info uri ∧
    ∀ t ∈ visited (step py rejects) (run (step py rejects) boot (pre ++ [e])) post, node ∈ held t

/-- The nodes that `_monitor_sensor_liveness` holds. -/
def State.probing (s : State) : List Node := s.heartbeat.held

/-- The nodes that `balance_loop` holds. -/
def State.balancing (s : State) : List Node := s.balance.picked

/-- The nodes that `_monitor_network_congestion` holds. -/
def State.adapting (s : State) : List Node := CongestionTraffic.picked s.monitor.task

/-- The requests of an event after a run go to nodes that have registered. -/
structure Recipients (es : List Event) (e : Event) : Prop where
  /-- A command of an operator goes to a registered node. -/
  operator : ∀ uri ∈ operatorRequests py rejects (run (step py rejects) boot es) e,
    ToRegistered py rejects (run (step py rejects) boot es) uri
  /-- The battery that is asked for its state is registered. -/
  state : ∀ node uri,
    .getBattery node uri ∈ balanceActs py rejects (run (step py rejects) boot es) e →
    ToRegistered py rejects (run (step py rejects) boot es) uri
  /-- The diesel node that is commanded is registered. -/
  diesel : ∀ node on request,
    .putDiesel node on request ∈ balanceActs py rejects (run (step py rejects) boot es) e →
    ToRegistered py rejects (run (step py rejects) boot es) request.uri
  /-- The battery that is commanded was registered when the cycle began. -/
  battery : ∀ node request,
    .putBattery node request ∈ balanceActs py rejects (run (step py rejects) boot es) e →
    ToHeld py rejects State.balancing (es ++ [e]) request.uri
  /-- A node that is probed was registered when the loop took its snapshot. -/
  probe : ∀ uri ∈ probes py rejects (run (step py rejects) boot es) e,
    ToHeld py rejects State.probing (es ++ [e]) uri
  /-- A node whose interval is read or set was registered when the pass began. -/
  sampling : ∀ uri ∈ samplingRequests py rejects (run (step py rejects) boot es) e,
    ToHeld py rejects State.adapting (es ++ [e]) uri
  /-- A subscription goes to a node that was registered when it was scheduled. -/
  subscription : ∀ uri ∈ subscriptions py rejects (run (step py rejects) boot es),
    ∃ pre, pre <+: es ∧ ToRegistered py rejects (run (step py rejects) boot pre) uri

end

variable {py : Interp} {rejects : Uri → Bool}

/-- A task moves in its own events only. -/
theorem step_unmoved (s : State) (e : Event) :
    ((∀ e', e ≠ .heartbeat e') → (step py rejects s e).heartbeat = s.heartbeat) ∧
      ((∀ e' accepts, e ≠ .balance e' accepts) → (step py rejects s e).balance = s.balance) ∧
      ((∀ e', e ≠ .monitor e') → (step py rejects s e).monitor = s.monitor) := by
  cases e with
  | message a body => exact ⟨fun _ => rfl, fun _ => rfl, fun _ => rfl⟩
  | post a path body =>
    rw [step]
    split_ifs
    · exact ⟨fun _ => rfl, fun _ => rfl, fun _ => rfl⟩
    · exact ⟨fun _ => rfl, fun _ => rfl, fun _ => rfl⟩
  | heartbeat e =>
    rw [step]
    split_ifs
    · exact ⟨fun _ => rfl, fun _ => rfl, fun _ => rfl⟩
    · exact ⟨fun h => absurd rfl (h e), fun _ => rfl, fun _ => rfl⟩
  | balance e accepts =>
    refine ⟨fun _ => ?_, fun h => absurd rfl (h e accepts), fun _ => ?_⟩
    all_goals
      by_cases hbusy : s.busy = true
      · rw [step, if_pos hbusy]
      · rw [(step_balance hbusy e accepts).1]
  | monitor e =>
    rw [step]
    split_ifs
    · exact ⟨fun _ => rfl, fun _ => rfl, fun _ => rfl⟩
    · exact ⟨fun _ => rfl, fun _ => rfl, fun h => absurd rfl (h e)⟩

/-- `_monitor_sensor_liveness` takes its nodes from the registry. -/
theorem probing_step (s : State) (e : Event) (node : Node)
    (h : node ∈ (step py rejects s e).probing) : node ∈ s.probing ∨ s.cloud.registry.Has node := by
  by_cases hown : ∃ e', e = .heartbeat e'
  · obtain ⟨e, rfl⟩ := hown
    rw [step] at h
    split_ifs at h with hbusy
    · exact .inl h
    · exact Liveness.picked_step h
  · rw [State.probing, (step_unmoved s e).1 fun e' he => hown ⟨e', he⟩] at h
    exact .inl h

/-- `balance_loop` takes its battery from the registry. -/
theorem balancing_step (s : State) (e : Event) (node : Node)
    (h : node ∈ (step py rejects s e).balancing) :
    node ∈ s.balancing ∨ s.cloud.registry.Has node := by
  by_cases hown : ∃ e' accepts, e = .balance e' accepts
  · obtain ⟨e, accepts, rfl⟩ := hown
    by_cases hbusy : s.busy = true
    · rw [step, if_pos hbusy] at h
      exact .inl h
    · rw [(step_balance hbusy e accepts).1] at h
      exact BalanceLoop.picked_step (s := s.balanceLoop) h
  · rw [State.balancing, (step_unmoved s e).2.1 fun e' accepts he => hown ⟨e', accepts, he⟩] at h
    exact .inl h

/-- `_monitor_network_congestion` takes its nodes from the registry. -/
theorem adapting_step (s : State) (e : Event) (node : Node)
    (h : node ∈ (step py rejects s e).adapting) :
    node ∈ s.adapting ∨ s.cloud.registry.Has node := by
  by_cases hown : ∃ e', e = .monitor e'
  · obtain ⟨e, rfl⟩ := hown
    rw [step] at h
    split_ifs at h with hbusy
    · exact .inl h
    · refine CongestionTraffic.picked_step (fun r delay_state he => ?_) h
      cases e <;> cases he
      rfl
  · rw [State.adapting, (step_unmoved s e).2.2 fun e' he => hown ⟨e', he⟩] at h
    exact .inl h

/-- A back-registration is scheduled for a node that has just been stored. -/
theorem scheduled_step (s : State) (e : Event) (node : Node)
    (h : node ∈ (step py rejects s e).cloud.registry.scheduled) :
    node ∈ s.cloud.registry.scheduled ∨ (step py rejects s e).cloud.registry.Has node := by
  have hregistry : (step py rejects s e).cloud.registry =
      (run (Liveness.step py rejects) (s.heartbeatLoop.points Point.isSite)
        (heartbeatSees s e)).registry :=
    congrArg Liveness.State.registry (heartbeat_step s e)
  have hsees : heartbeatSees s e = [] ∨ ∃ e', heartbeatSees s e = [e'] := by
    cases e with
    | message a body => exact .inl rfl
    | post a path body =>
      rw [heartbeatSees]
      split_ifs
      · exact .inl rfl
      · exact .inr ⟨_, rfl⟩
      · exact .inr ⟨_, rfl⟩
      · exact .inl rfl
    | heartbeat e =>
      rw [heartbeatSees]
      split_ifs
      · exact .inl rfl
      · exact .inr ⟨_, rfl⟩
    | balance e accepts => exact .inl rfl
    | monitor e => exact .inl rfl
  rcases hsees with hsees | ⟨e', hsees⟩
  · rw [hregistry, hsees] at h
    exact .inl h
  · rw [hregistry, hsees, run_cons, run_nil] at h ⊢
    exact Liveness.scheduled_step h

/-- A registered node of a run is enrolled. -/
theorem enrolled_of_has {es : List Event} {node : Node}
    (h : (run (step py rejects) boot es).cloud.registry.Has node) :
    Enrolled (run (step py rejects) boot es) node := by
  obtain ⟨k, hk⟩ := h
  exact ⟨k, hk, logged_run es k node hk⟩

/-- What a task holds at the end of a run it has read from the registry, and has held since. -/
theorem toHeld_of_mem {held : State → List Node} (hboot : held boot = [])
    (hstep : ∀ s e node, node ∈ held (step py rejects s e) → node ∈ held s ∨
    s.cloud.registry.Has node)
    {es : List Event} {node : Node} {uri : Uri}
    (hnode : node ∈ held (run (step py rejects) boot es))
    (huri : Addressed py rejects node.info uri) : ToHeld py rejects held es uri := by
  have hnone : node ∉ held boot := by
    rw [hboot]
    exact List.not_mem_nil
  obtain ⟨pre, e, post, hes, hpre, hsince⟩ :=
    exists_enter (P := fun s => node ∈ held s) hnone hnode
  refine ⟨pre, e, post, node, hes, enrolled_of_has ?_, huri, hsince⟩
  have hfirst : node ∈ held (run (step py rejects) boot (pre ++ [e])) :=
    hsince _ (mem_visited_iff.mpr ⟨[], List.nil_prefix, rfl⟩)
  rw [run_concat] at hfirst
  exact (hstep _ e node hfirst).resolve_left hpre

/-- A back-registration that is scheduled in a run is one of a node that was registered then. -/
theorem enrolled_of_scheduled {es : List Event} {node : Node}
    (hnode : node ∈ (run (step py rejects) boot es).cloud.registry.scheduled) :
    ∃ pre, pre <+: es ∧ Enrolled (run (step py rejects) boot pre) node := by
  obtain ⟨pre, e, post, rfl, hpre, hsince⟩ :=
    exists_enter (P := fun s : State => node ∈ s.cloud.registry.scheduled) List.not_mem_nil hnode
  have hfirst := hsince _ (mem_visited_iff.mpr ⟨[], List.nil_prefix, rfl⟩)
  rw [run_nil, run_concat] at hfirst
  refine ⟨pre ++ [e], ⟨post, by rw [List.append_assoc]; rfl⟩, enrolled_of_has ?_⟩
  rw [run_concat]
  exact (scheduled_step _ e node hfirst).resolve_left hpre

/-- What a prepared handler sends goes to the address that it has found. -/
theorem addressed_of_sent {prepared : Except Early (Cloud.Command × Val × ℤ)} {registry : Registry}
    {uri : Uri} (hprepared : ∀ command address, prepared = .ok (command, address) →
      ∃ node, registry.Has node ∧ nodeAddress py node.info = .ok address)
    (h : uri ∈ ((Operators.sent rejects prepared).map PutRequest.uri).toList) :
    ∃ node, registry.Has node ∧ Addressed py rejects node.info uri := by
  obtain ⟨request, hsent, rfl⟩ := Option.map_eq_some_iff.mp (Option.mem_toList.mp h)
  obtain ⟨command, ⟨ip, port⟩, hok, hrequest⟩ := Operators.sent_eq_some.mp hsent
  obtain ⟨node, hhas, haddress⟩ := hprepared command (ip, port) hok
  obtain ⟨path, huri, hrejects⟩ := uri_of_request hrequest
  exact ⟨node, hhas, ip, port, path, haddress, huri, hrejects⟩

/-- What the balance loop does in an event. -/
theorem directed_of_mem {s : State} {e : Event} {a : BalanceLoop.Action}
    (h : a ∈ balanceActs py rejects s e) :
    BalanceLoop.Directed py rejects s.cloud.registry (step py rejects s e).balancing a := by
  cases e with
  | message a body => cases h
  | post a path body => cases h
  | heartbeat e => cases h
  | monitor e => cases h
  | balance e accepts =>
    rw [balanceActs] at h
    split_ifs at h with hbusy
    · cases h
    · rw [(step_balance hbusy e accepts).1]
      rcases @BalanceLoop.follows_advance py rejects s.balanceLoop e.event with
        ⟨hacts, -⟩ | ⟨l, -, hfollows⟩
      · rw [hacts] at h
        cases h
      · exact hfollows.directed a h

/-- A command of an operator goes to a registered node. -/
theorem has_of_operatorRequests {s : State} {e : Event} {uri : Uri}
    (h : uri ∈ operatorRequests py rejects s e) :
    ∃ node, s.cloud.registry.Has node ∧ Addressed py rejects node.info uri := by
  cases e with
  | message a body => cases h
  | heartbeat e => cases h
  | balance e accepts => cases h
  | monitor e => cases h
  | post a path body =>
    rw [operatorRequests] at h
    split_ifs at h
    · cases h
    · exact addressed_of_sent (fun command address hok => LedControlResource.has_of_prepare hok) h
    · exact addressed_of_sent
        (fun command address hok => StatusControlResource.has_of_prepare hok) h
    · cases h

/-- A probe goes to a node that the heartbeat loop holds. -/
theorem probing_of_probes {s : State} {e : Event} {uri : Uri} (h : uri ∈ probes py rejects s e) :
    ∃ node ∈ (step py rejects s e).probing, Addressed py rejects node.info uri := by
  cases e with
  | message a body => cases h
  | post a path body => cases h
  | balance e accepts => cases h
  | monitor e => cases h
  | heartbeat e =>
    rw [probes] at h
    split_ifs at h with hbusy
    · cases h
    · rw [step, if_neg hbusy]
      exact Liveness.addressed_of_probes h

/-- A request of the congestion monitor goes to a node that it holds. -/
theorem adapting_of_samplingRequests {s : State} {e : Event} {uri : Uri}
    (h : uri ∈ samplingRequests py rejects s e) :
    ∃ node ∈ (step py rejects s e).adapting, Addressed py rejects node.info uri := by
  cases e with
  | message a body => cases h
  | post a path body => cases h
  | heartbeat e => cases h
  | balance e accepts => cases h
  | monitor e =>
    rw [samplingRequests] at h
    split_ifs at h with hbusy
    · cases h
    · rw [step, if_neg hbusy]
      exact CongestionTraffic.addressed_of_requests h

/-- In every run of the program, with any messages, requests, answers and losses in any order, every
request goes to a node that has registered, at the address that it has registered with: the commands
of operators, the battery's state and the commands to a diesel node to one that is registered when
they are sent, a subscription to one that was when it was scheduled, the others to one that was when
the task read it, and that the task has held since. -/
theorem recipients_registered (py : Interp) (rejects : Uri → Bool) (es : List Event) (e : Event) :
    Recipients py rejects es e where
  operator uri h := by
    obtain ⟨node, hnode, huri⟩ := has_of_operatorRequests h
    exact ⟨node, enrolled_of_has hnode, huri⟩
  state node uri h := by
    obtain ⟨hnode, huri⟩ := directed_of_mem h
    exact ⟨node, enrolled_of_has hnode, huri⟩
  diesel node on request h := by
    obtain ⟨hnode, huri⟩ := directed_of_mem h
    exact ⟨node, enrolled_of_has hnode, huri⟩
  battery node request h := by
    obtain ⟨hnode, huri⟩ := directed_of_mem h
    rw [← @run_concat _ _ (step py rejects)] at hnode
    exact toHeld_of_mem rfl balancing_step hnode huri
  probe uri h := by
    obtain ⟨node, hnode, huri⟩ := probing_of_probes h
    rw [← @run_concat _ _ (step py rejects)] at hnode
    exact toHeld_of_mem rfl probing_step hnode huri
  sampling uri h := by
    obtain ⟨node, hnode, huri⟩ := adapting_of_samplingRequests h
    rw [← @run_concat _ _ (step py rejects)] at hnode
    exact toHeld_of_mem rfl adapting_step hnode huri
  subscription uri h := by
    obtain ⟨node, hscheduled, huri⟩ := List.mem_filterMap.mp h
    obtain ⟨pre, hpre, hnode⟩ := enrolled_of_scheduled hscheduled
    exact ⟨pre, hpre, node, hnode, addressed_of_get (toOption_eq_some.mp huri)⟩

end EnergyStation.System.CloudApp
