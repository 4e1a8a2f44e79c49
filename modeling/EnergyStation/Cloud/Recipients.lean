import EnergyStation.Cloud.BalanceLoop
import EnergyStation.Cloud.CongestionTraffic
import EnergyStation.Cloud.Liveness

/-!
# The recipients of the requests

A task reads nodes from the registry, holds them over its awaits, and sends requests to their
addresses. For each of the three tasks: the nodes that it holds, that it takes a node from the
registry and not from elsewhere (`picked_step`), and that a request goes to the address of a node
that it holds or that is in the registry.
-/

namespace EnergyStation.Cloud

open Python

/-- The node is in the registry. -/
def Registry.Has (r : Registry) (node : Node) : Prop := ∃ k, r.nodes.get? k = some node

/-- The request goes to the address that the node has registered with. -/
def Addressed (py : Interp) (rejects : Uri → Bool) (info : Obj) (uri : Uri) : Prop :=
  ∃ ip port path, nodeAddress py info = .ok (ip, port) ∧ makeUri ip port path = .ok uri ∧
    rejects uri = false

section

variable {py : Interp} {rejects : Uri → Bool}

/-- `int(node.get("port", 5683))`, `_make_uri` and the construction of the message. -/
theorem addressed_of_requestUri {ip : Val} {info : Obj} {path : String} {uri : Uri}
    (hip : info.get? "ip" = some ip) (h : requestUri py rejects ip info path = .ok uri) :
    Addressed py rejects info uri := by
  obtain ⟨port, hport, h⟩ := bind_eq_ok.mp h
  obtain ⟨uri', huri, h⟩ := bind_eq_ok.mp h
  split_ifs at h with hrejects
  obtain rfl := Except.ok.inj h
  refine ⟨ip, port, path, ?_, huri, Bool.eq_false_iff.mpr hrejects⟩
  rw [nodeAddress, hip]
  exact map_eq_ok.mpr ⟨port, hport, rfl⟩

/-- A request to `node_info.get("ip")` is made only where there is one. -/
theorem addressed_of_get {info : Obj} {path : String} {uri : Uri}
    (h : requestUri py rejects (info.get "ip") info path = .ok uri) :
    Addressed py rejects info uri := by
  refine addressed_of_requestUri ?_ h
  rcases hget : info.get? "ip" with _ | ip
  · obtain ⟨port, -, h⟩ := bind_eq_ok.mp h
    obtain ⟨uri', huri, -⟩ := bind_eq_ok.mp h
    rw [Obj.get, Obj.getD, hget] at huri
    cases huri
  · rw [Obj.get, Obj.getD, hget]
    rfl

/-- `probe_node` asks at the address of the node. -/
theorem addressed_of_probeRequest {info : Obj} {uri : Uri}
    (h : probeRequest py rejects info = .ok (some uri)) : Addressed py rejects info uri := by
  unfold probeRequest at h
  split_ifs at h with hip
  · cases h
  · obtain ⟨uri', huri, hsome⟩ := map_eq_ok.mp h
    rw [Option.some.inj hsome] at huri
    exact addressed_of_get huri

/-- `get_sampling_interval` and `set_sampling_interval` go to the address of the node. -/
theorem addressed_of_samplingUri {info : Obj} {uri : Uri}
    (h : samplingUri py rejects info = .ok uri) : Addressed py rejects info uri := by
  unfold samplingUri at h
  rcases hip : info.get? "ip" with _ | ip
  · rw [hip] at h
    cases h
  · rw [hip] at h
    exact addressed_of_requestUri hip h

/-- The URI of a PUT request. -/
theorem uri_of_putRequest {ip : Val} {port : ℤ} {path : String} {payload : CStdlib.Bytes}
    {request : PutRequest} (h : putRequest rejects ip port path payload = .ok request) :
    makeUri ip port path = .ok request.uri ∧ rejects request.uri = false := by
  obtain ⟨uri, huri, h⟩ := bind_eq_ok.mp h
  split_ifs at h with hrejects
  rw [← Except.ok.inj h]
  exact ⟨huri, Bool.eq_false_iff.mpr hrejects⟩

/-- Every operation is a PUT request at the address that it is called with. -/
theorem uri_of_request {command : Command} {ip : Val} {port : ℤ} {request : PutRequest}
    (h : command.request rejects ip port = .ok request) :
    ∃ path, makeUri ip port path = .ok request.uri ∧ rejects request.uri = false := by
  cases command with
  | setLed color mode =>
    obtain ⟨color, -, h⟩ := bind_eq_ok.mp h
    rcases hcode : colorCode color with _ | code
    · rw [hcode] at h
      cases h
    · rw [hcode] at h
      obtain ⟨mode, -, h⟩ := bind_eq_ok.mp h
      split_ifs at h
      exact ⟨_, uri_of_putRequest h⟩
  | setStatus status =>
    obtain ⟨status_val, -, h⟩ := bind_eq_ok.mp h
    split_ifs at h
    exact ⟨_, uri_of_putRequest h⟩
  | setBatteryOverride enabled => exact ⟨_, uri_of_putRequest h⟩
  | adjustBattery delta_kwh => exact ⟨_, uri_of_putRequest h⟩
  | setSamplingInterval interval_ms =>
    obtain ⟨payload, -, h⟩ := bind_eq_ok.mp h
    exact ⟨_, uri_of_putRequest h⟩

/-- An operation at the address of a stored node. -/
theorem addressed_of_requestAt {info : Obj} {command : Command} {request : PutRequest}
    (h : BalanceLoop.requestAt py rejects info command = .ok request) :
    Addressed py rejects info request.uri := by
  obtain ⟨⟨ip, port⟩, haddress, h⟩ := bind_eq_ok.mp h
  obtain ⟨path, huri, hrejects⟩ := uri_of_request h
  exact ⟨ip, port, path, haddress, huri, hrejects⟩

/-- The battery is asked at its address. -/
theorem addressed_of_batteryStateUri {info : Obj} {uri : Uri}
    (h : BalanceLoop.batteryStateUri py rejects info = .ok uri) :
    Addressed py rejects info uri := by
  obtain ⟨⟨ip, port⟩, haddress, h⟩ := bind_eq_ok.mp h
  obtain ⟨uri', huri, h⟩ := bind_eq_ok.mp h
  split_ifs at h with hrejects
  obtain rfl := Except.ok.inj h
  exact ⟨ip, port, _, haddress, huri, Bool.eq_false_iff.mpr hrejects⟩

/-- The first node of a type is in the registry. -/
theorem has_of_firstOfType {node_type : String} {r : Registry} {node : Node}
    (h : firstOfType node_type r = some node) : r.Has node :=
  (r.mem_getAllNodes_iff node).mp (List.mem_of_find?_eq_some h)

/-- The lookup of a node gives the address of one that is in the registry. -/
theorem has_of_lookup {texts : Texts} {registry : Registry} {node_id : Val} {address : Val × ℤ}
    (h : lookup py texts registry node_id = .ok address) :
    ∃ node, registry.Has node ∧ nodeAddress py node.info = .ok address := by
  cases hid : hashable node_id with
  | false =>
    rw [lookup_of_not_hashable hid] at h
    cases h
  | true =>
    obtain ⟨k, hk⟩ := (hashable_iff _).mp hid
    rw [lookup_eq hk] at h
    rcases hnode : registry.nodes.get? k with _ | node
    · rw [hnode] at h
      cases h
    · rw [hnode] at h
      change raised (nodeAddress py node.info) = .ok address at h
      refine ⟨node, ⟨k, hnode⟩, ?_⟩
      rcases haddress : nodeAddress py node.info with e | address'
      · rw [haddress] at h
        cases h
      · rw [haddress] at h
        cases h
        rfl

/-- The LED endpoint forwards to a node that is in the registry. -/
theorem LedControlResource.has_of_prepare {texts : Texts} {registry : Registry}
    {body : CStdlib.Bytes} {command : Command} {address : Val × ℤ}
    (h : prepare py texts registry body = .ok (command, address)) :
    ∃ node, registry.Has node ∧ nodeAddress py node.info = .ok address := by
  obtain ⟨payload, -, h⟩ := bind_eq_ok.mp h
  obtain ⟨payload, -, h⟩ := bind_eq_ok.mp h
  simp only at h
  split_ifs at h
  obtain ⟨address', hlookup, heq⟩ := map_eq_ok.mp h
  rw [← (Prod.mk.inj heq).2]
  exact has_of_lookup hlookup

/-- The status endpoint forwards to a node that is in the registry. -/
theorem StatusControlResource.has_of_prepare {texts : Texts} {registry : Registry}
    {body : CStdlib.Bytes} {command : Command} {address : Val × ℤ}
    (h : prepare py texts registry body = .ok (command, address)) :
    ∃ node, registry.Has node ∧ nodeAddress py node.info = .ok address := by
  obtain ⟨payload, -, h⟩ := bind_eq_ok.mp h
  obtain ⟨payload, -, h⟩ := bind_eq_ok.mp h
  simp only at h
  split_ifs at h
  obtain ⟨status_val, -, h⟩ := bind_eq_ok.mp h
  split_ifs at h
  obtain ⟨address', hlookup, heq⟩ := map_eq_ok.mp h
  rw [← (Prod.mk.inj heq).2]
  exact has_of_lookup hlookup

end

/-- What holds of every node of the list holds of every node that `registered_nodes` has. -/
theorem forall_registeredNodes {P : Node → Prop} {nodes : List Node} {d d' : Dict Key Node}
    (h : nodes.foldlM collect d = .ok d') (hd : ∀ e ∈ d.entries, P e.2)
    (hnodes : ∀ node ∈ nodes, P node) : ∀ e ∈ d'.entries, P e.2 := by
  induction nodes generalizing d with
  | nil =>
    rw [← Except.ok.inj h]
    exact hd
  | cons node nodes ih =>
    rw [List.foldlM_cons] at h
    obtain ⟨d₁, hcollect, hfold⟩ := bind_eq_ok.mp h
    refine ih hfold ?_ fun n hn => hnodes n (List.mem_cons_of_mem node hn)
    unfold collect at hcollect
    split_ifs at hcollect with hid
    · obtain ⟨k, hk, rfl⟩ := map_eq_ok.mp hcollect
      rintro ⟨k', n⟩ hn
      have hget := (Dict.get?_eq_some_iff _ k' n).mpr hn
      rw [Dict.get?_set] at hget
      split_ifs at hget
      · rw [← Option.some.inj hget]
        exact hnodes node List.mem_cons_self
      · exact hd (k', n) ((Dict.get?_eq_some_iff d k' n).mp hget)
    · rwa [← Except.ok.inj hcollect]

end EnergyStation.Cloud

namespace EnergyStation.Cloud.Liveness

open Python

variable {py : Interp} {rejects : Uri → Bool}

/-- The probe that the task sends in an event. -/
def probes (py : Interp) (rejects : Uri → Bool) (s : State) (e : Event) : List Uri :=
  match s.task, (step py rejects s e).task with
  | .running _, .probing _ uri _ => [uri]
  | _, _ => []

/-- A probe goes to a node that the task holds. -/
theorem addressed_of_probes {s : State} {e : Event} {uri : Uri} (h : uri ∈ probes py rejects s e) :
    ∃ node ∈ (step py rejects s e).task.held, Addressed py rejects node.info uri := by
  unfold probes at h
  rcases htask : s.task with _ | rest | ⟨node, uri', rest⟩ | e'
  · rw [htask] at h
    cases h
  · rw [htask] at h
    -- Where the task runs on, no other event moves it.
    have hother : (step py rejects s e).task = .running rest → False := fun hstep => by
      rw [hstep] at h
      cases h
    cases e with
    | register now_ms accepts body =>
      obtain ⟨site, hstep, -⟩ := step_register_cases py rejects s now_ms accepts body
      exact absurd (by rw [hstep, htask]) hother
    | unregister accepts body =>
      obtain ⟨site, hstep, -⟩ := step_unregister_cases py rejects s accepts body
      exact absurd (by rw [hstep, htask]) hother
    | wake => exact absurd (by simp only [step, htask]) hother
    | response r => exact absurd (by simp only [step, htask]) hother
    | run =>
      have hrun := step_run_cases py rejects s
      generalize step py rejects s .run = s' at hrun h
      rcases hrun with hdone | ⟨node, rest', e, hnext, hprobe⟩ | ⟨node, rest', hnext, hprobe⟩ |
        ⟨node, rest', uri', hnext, hprobe⟩ | hidle
      · cases h
      · cases h
      · rcases drop_cases { s with probed := s.probed ++ [node] } node rest' with
          ⟨k, -, -, hafter⟩ | ⟨-, -, hafter⟩
        · rw [hafter] at h
          cases h
        · rw [hafter] at h
          cases h
      · obtain rfl := List.mem_singleton.mp h
        exact ⟨node, List.mem_cons_self, addressed_of_probeRequest hprobe⟩
      · rw [htask] at hidle
        cases hidle
  · rw [htask] at h
    cases h
  · rw [htask] at h
    cases h

/-- A back-registration is scheduled for a node that has just been stored. -/
theorem scheduled_step {s : State} {e : Event} {node : Node}
    (h : node ∈ (step py rejects s e).registry.scheduled) :
    node ∈ s.registry.scheduled ∨ (step py rejects s e).registry.Has node := by
  rcases step_registry_cases rejects s e with heq | ⟨payload, k, now_ms, -, -, heq⟩ | ⟨k, heq⟩
  · rw [heq] at h
    exact .inl h
  · rw [heq] at h ⊢
    rcases List.mem_append.mp h with h | h
    · exact .inl h
    · refine .inr ⟨k, ?_⟩
      rw [List.mem_singleton.mp h, Registry.get?_insert, if_pos rfl]
  · rw [heq] at h
    exact .inl h

/-- The task takes a node from the registry. -/
theorem picked_step {s : State} {e : Event} {node : Node}
    (h : node ∈ (step py rejects s e).task.held) : node ∈ s.task.held ∨ s.registry.Has node := by
  refine held_step (P := fun n => n ∈ s.task.held ∨ s.registry.Has n) (fun k n hn => .inr ⟨k, hn⟩)
    (fun n hn => .inl hn) e node h

end EnergyStation.Cloud.Liveness

namespace EnergyStation.Cloud.BalanceLoop

open Python

variable {py : Interp} {rejects : Uri → Bool}

/-- The battery that the cycle has picked. -/
def Task.picked : Task → List Node
  | .sleeping => []
  | .readingSoc l => l.battery_node.toList
  | .dispatching l _ _ _ => l.battery_node.toList
  | .adjusting l _ _ => l.battery_node.toList

/-- An action goes to the address of its node, which is in the registry or, for the command to the
battery, held. -/
def Directed (py : Interp) (rejects : Uri → Bool) (r : Registry) (held : List Node) : Action → Prop
  | .getBattery node uri => r.Has node ∧ Addressed py rejects node.info uri
  | .putDiesel node _ request => r.Has node ∧ Addressed py rejects node.info request.uri
  | .putBattery node request => node ∈ held ∧ Addressed py rejects node.info request.uri
  | .write _ => True

/-- What a cycle with these locals does and holds. -/
structure Follows (py : Interp) (rejects : Uri → Bool) (r : Registry) (l : Locals)
    (q : State × List Action) : Prop where
  /-- Its actions are directed. -/
  directed : ∀ a ∈ q.2, Directed py rejects r q.1.task.picked a
  /-- It holds the battery that it has read. -/
  picked : ∀ node ∈ q.1.task.picked, l.battery_node = some node

theorem follows_finishCycle (r : Registry) (s : State) (l : Locals) (soc : Option ExtRat)
    (reachable : Bool) : Follows py rejects r l (finishCycle s l soc reachable) where
  directed a ha := by
    rw [List.mem_singleton.mp ha]
    trivial
  picked node hnode := by cases hnode

theorem follows_adjust (r : Registry) (s : State) (l : Locals) (soc : Option ExtRat) :
    Follows py rejects r l (adjust py rejects s l soc) := by
  unfold adjust
  rcases hrequest : l.batteryRequest py rejects with _ | ⟨node, request⟩
  · exact follows_finishCycle r s l soc false
  · obtain ⟨node', hbattery, h⟩ := Option.bind_eq_some_iff.mp hrequest
    split_ifs at h
    obtain ⟨request', hat, heq⟩ := Option.map_eq_some_iff.mp h
    obtain ⟨rfl, rfl⟩ := Prod.mk.inj heq
    refine ⟨fun a ha => ?_, fun n hn => Option.mem_toList.mp hn⟩
    rw [List.mem_singleton.mp ha]
    exact ⟨Option.mem_toList.mpr hbattery, addressed_of_requestAt (toOption_eq_some.mp hat)⟩

theorem follows_dispatch (s : State) (l : Locals) (soc : Option ExtRat) :
    Follows py rejects s.registry l (dispatch py rejects s l soc) := by
  unfold dispatch
  rcases hrequest : dieselRequest py rejects s.dispatched (firstOfType dieselType s.registry) soc
    l.renewable_surplus_w with _ | ⟨node, run, request⟩
  · exact follows_adjust s.registry s l soc
  · obtain ⟨⟨node', run'⟩, hcommand, h⟩ := Option.bind_eq_some_iff.mp hrequest
    obtain ⟨request', hat, heq⟩ := Option.map_eq_some_iff.mp h
    simp only [Prod.mk.injEq] at heq
    obtain ⟨rfl, rfl, rfl⟩ := heq
    obtain ⟨-, hnode, -⟩ := dieselCommand_eq_some hcommand
    refine ⟨fun a ha => ?_, fun n hn => Option.mem_toList.mp hn⟩
    rw [List.mem_singleton.mp ha]
    exact ⟨has_of_firstOfType hnode, addressed_of_requestAt (toOption_eq_some.mp hat)⟩

theorem follows_beginCycle {s : State} {l : Locals}
    (hl : ∀ node, l.battery_node = some node → s.registry.Has node) :
    Follows py rejects s.registry l (beginCycle py rejects s l) := by
  unfold beginCycle
  rcases hrequest : l.stateRequest py rejects with _ | ⟨node, uri⟩
  · exact follows_dispatch s l none
  · obtain ⟨node', hbattery, h⟩ := Option.bind_eq_some_iff.mp hrequest
    obtain ⟨uri', hat, heq⟩ := Option.map_eq_some_iff.mp h
    obtain ⟨rfl, rfl⟩ := Prod.mk.inj heq
    refine ⟨fun a ha => ?_, fun n hn => Option.mem_toList.mp hn⟩
    rw [List.mem_singleton.mp ha]
    exact ⟨hl _ hbattery, addressed_of_batteryStateUri (toOption_eq_some.mp hat)⟩

/-- What the task does in an event, it does for a cycle whose battery it holds or has just read. -/
theorem follows_advance (s : State) (e : Event) :
    (acts py rejects s e = [] ∧ (step py rejects s e).task = s.task) ∨
      ∃ l : Locals,
        (∀ node, l.battery_node = some node → node ∈ s.task.picked ∨ s.registry.Has node) ∧
        Follows py rejects s.registry l (advance py rejects s e) := by
  have hcases := @advance_cases py rejects s e
  unfold acts step
  generalize advance py rejects s e = q at hcases
  cases hcases with
  | others registry readings => exact .inl ⟨rfl, rfl⟩
  | idle e => exact .inl ⟨rfl, rfl⟩
  | wake renewable_now diesel_now roll draw htask =>
    have hl : ∀ node, firstOfType "battery" s.registry = some node → s.registry.Has node :=
      fun node hnode => has_of_firstOfType hnode
    exact .inr ⟨_, fun node hnode => .inr (hl node hnode), follows_beginCycle hl⟩
  | state l response htask =>
    refine .inr ⟨l, fun node hnode => .inl ?_, follows_dispatch s l _⟩
    rw [htask]
    exact Option.mem_toList.mpr hnode
  | diesel l soc node run answer htask =>
    refine .inr ⟨l, fun node hnode => .inl ?_, follows_adjust _ _ l soc⟩
    rw [htask]
    exact Option.mem_toList.mpr hnode
  | battery l soc node answer htask =>
    refine .inr ⟨l, fun node hnode => .inl ?_, follows_finishCycle _ s l soc _⟩
    rw [htask]
    exact Option.mem_toList.mpr hnode

/-- The task takes a battery from the registry. -/
theorem picked_step {s : State} {e : Event} {node : Node}
    (h : node ∈ (step py rejects s e).task.picked) :
    node ∈ s.task.picked ∨ s.registry.Has node := by
  rcases @follows_advance py rejects s e with ⟨-, htask⟩ | ⟨l, hl, hfollows⟩
  · rw [htask] at h
    exact .inl h
  · exact hl node (hfollows.picked node h)

end EnergyStation.Cloud.BalanceLoop

namespace EnergyStation.Cloud.CongestionTraffic

open Python

variable {py : Interp} {rejects : Uri → Bool}

/-- The nodes that the pass has still to come to, and the one that is awaited. -/
def picked : MonitorTask → List Node
  | .sleeping _ => []
  | .running _ rest => rest.map Prod.snd
  | .getting _ _ node rest _ => node :: rest.map Prod.snd
  | .putting _ _ node _ _ rest _ => node :: rest.map Prod.snd

/-- The node whose request no node has handled yet. -/
def recipient : MonitorTask → Option Node
  | .sleeping _ => none
  | .running _ _ => none
  | .getting _ _ node _ none => some node
  | .getting _ _ _ _ (some _) => none
  | .putting _ _ node _ _ _ none => some node
  | .putting _ _ _ _ _ _ (some _) => none

/-- The request that the task sends in an event. -/
def requests (py : Interp) (rejects : Uri → Bool) (m : Monitor) (e : Event) : List Uri :=
  match recipient m.task, recipient (step py rejects m e).task with
  | none, some node => ((samplingUri py rejects node.info).toOption).toList
  | _, _ => []

/-- The loop's body takes no nodes but its own. -/
theorem Turn.picked {m m' : Monitor} {pass : Pass} {k : Key} {node : Node}
    {rest : List (Key × Node)} (h : Turn m pass k node rest m') :
    ∀ n ∈ picked m'.task, n ∈ node :: rest.map Prod.snd := by
  cases h with
  | next => exact fun n hn => List.mem_cons_of_mem node hn
  | sleep => exact List.forall_mem_nil _
  | get hbaseline => exact fun n hn => hn
  | put t body htable htarget => exact fun n hn => hn

/-- The task takes its nodes from the registry. -/
theorem picked_step {m : Monitor} {registry : Registry} {e : Event}
    (he : ∀ r delay_state, e = .wake r delay_state → r = registry) {node : Node}
    (h : node ∈ picked (step py rejects m e).task) : node ∈ picked m.task ∨ registry.Has node := by
  have hmove := @step_move py rejects m e
  generalize step py rejects m e = m' at hmove h
  cases hmove with
  | idle => exact .inl h
  | wake r delay_state hasleep =>
    obtain rfl := he r delay_state rfl
    rcases wake_cases m r delay_state with heq | ⟨registered_nodes, hnodes, heq⟩
    · rw [heq] at h
      cases h
    · rw [heq] at h
      obtain ⟨entry, hentry, rfl⟩ := List.mem_map.mp h
      exact .inr (forall_registeredNodes hnodes (List.forall_mem_nil _)
        (fun n hn => (r.mem_getAllNodes_iff n).mp hn) entry hentry)
  | finish pass htask => cases h
  | visit pass k n rest m' htask hturn =>
    rw [htask]
    exact .inl (hturn.picked node h)
  | read pass k n rest response htask =>
    rw [htask]
    exact .inl h
  | applied pass k n t body rest response htask =>
    rw [htask]
    exact .inl h
  | learn pass k n rest response b m' htask hturn =>
    rw [htask]
    exact .inl (hturn.picked node h)
  | unread e pass k n rest response htask hfails =>
    rw [htask]
    exact .inl (List.mem_cons_of_mem n h)
  | confirm pass k n t body rest response htask =>
    rw [htask]
    exact .inl (List.mem_cons_of_mem n h)
  | unconfirmed e pass k n t body rest response htask hfails => cases h

/-- The recipient of a request is held. -/
theorem mem_picked_of_recipient {task : MonitorTask} {node : Node}
    (h : recipient task = some node) : node ∈ picked task := by
  rcases task with ended | ⟨pass, rest⟩ | ⟨pass, k, n, rest, _ | r⟩ | ⟨pass, k, n, t, body,
    rest, _ | r⟩
  · cases h
  · cases h
  · rw [← Option.some.inj h]
    exact List.mem_cons_self
  · cases h
  · rw [← Option.some.inj h]
    exact List.mem_cons_self
  · cases h

/-- A request goes to a node that the task holds. -/
theorem addressed_of_requests {m : Monitor} {e : Event} {uri : Uri}
    (h : uri ∈ requests py rejects m e) :
    ∃ node ∈ picked (step py rejects m e).task, Addressed py rejects node.info uri := by
  unfold requests at h
  rcases hbefore : recipient m.task with _ | node₀
  · rcases hafter : recipient (step py rejects m e).task with _ | node
    · rw [hbefore, hafter] at h
      cases h
    · rw [hbefore, hafter] at h
      have huri := toOption_eq_some.mp (Option.mem_toList.mp h)
      exact ⟨node, mem_picked_of_recipient hafter, addressed_of_samplingUri huri⟩
  · rw [hbefore] at h
    cases h

end EnergyStation.Cloud.CongestionTraffic
