import EnergyStation.Cloud.BalanceLoop
import EnergyStation.System.Members

/-!
# Where the requests of the cloud go

Every request that the cloud sends to a node is built from the dictionary that it has stored of the
node's registration: by the heartbeat, by the congestion monitor, by the balance loop, by the
subscription to a new node, and by the control endpoints for an operator. It goes to the address of
the node that has registered, at the port of its server, and to a resource that the firmware has
activated, except where the subscription or an operator addresses a battery (`requests_are_served`).
-/

namespace EnergyStation.System.Requests

open Cloud CStdlib Firmware Members Numeral Python Runs Telemetry

/-- A request of the cloud to a node that it has stored. -/
inductive Request where
  /-- `probe_node` of the heartbeat. -/
  | probe
  /-- `get_sampling_interval` of the congestion monitor. -/
  | getSamplingInterval
  /-- `set_sampling_interval` of the congestion monitor. -/
  | setSamplingInterval (interval_ms : ℤ)
  /-- `get_battery_state` of the balance loop. -/
  | getBatteryState
  /-- `adjust_battery` of the balance loop. -/
  | adjustBattery (delta_kwh : ExtRat)
  /-- `set_status` of the balance loop. -/
  | dispatchDiesel (run : Bool)
  /-- The subscription of `register_with_sensor`. -/
  | registerWithSensor
  /-- `set_led` of `LedControlResource`. -/
  | controlLed (color mode : Val)
  /-- `set_status` of `StatusControlResource`. -/
  | controlStatus (status : Val)

namespace Request

/-- The method. -/
def method : Request → Battery.RequestMethod
  | probe | getSamplingInterval | getBatteryState | registerWithSensor => .get
  | setSamplingInterval _ | adjustBattery _ | dispatchDiesel _ | controlLed _ _ | controlStatus _ =>
      .put

/-- The resource, for the dictionary of the node. -/
def resource (info : Obj) : Request → String
  | probe => probePath info
  | getSamplingInterval | setSamplingInterval _ => "actuators/sampling"
  | getBatteryState | adjustBattery _ => "actuators/battery"
  | dispatchDiesel _ | controlStatus _ => "actuators/status"
  | registerWithSensor => "test/push"
  | controlLed _ _ => "actuators/leds"

/-- The URI that the request is sent to, or the exception that comes before it. A probe of a node
without an address is not sent. -/
def uri (py : Interp) (rejects : Uri → Bool) (info : Obj) : Request → Except Exc (Option Uri)
  | probe => probeRequest py rejects info
  | getSamplingInterval => (samplingUri py rejects info).map some
  | setSamplingInterval interval_ms => sent (.setSamplingInterval interval_ms)
  | getBatteryState => (BalanceLoop.batteryStateUri py rejects info).map some
  | adjustBattery delta_kwh => sent (.adjustBattery delta_kwh)
  | dispatchDiesel run => sent (dieselStatus run)
  | registerWithSensor => (requestUri py rejects (info.get "ip") info "test/push").map some
  | controlLed color mode => sent (.setLed color mode)
  | controlStatus status => sent (.setStatus status)
where
  /-- The URI of an operation at the address of the node. -/
  sent (command : Command) : Except Exc (Option Uri) :=
    (BalanceLoop.requestAt py rejects info command).map fun request => some request.uri

/-- The cloud makes the request to the stored node. -/
def MadeTo (registry : Registry) (node : Node) : Request → Prop
  | probe => node ∈ registry.getAllNodes
  | getSamplingInterval | setSamplingInterval _ =>
    node ∈ registry.getAllNodes ∧ isStr "battery" (node.info.get "type") = false
  | getBatteryState | adjustBattery _ => firstOfType "battery" registry = some node
  | dispatchDiesel _ => firstOfType dieselType registry = some node
  | registerWithSensor => node ∈ registry.scheduled
  | controlLed _ _ | controlStatus _ => ∃ node_id, registry.getNodeById node_id = .ok (some node)

/-- The request is made without a look at the type of the node. -/
def Untyped : Request → Prop
  | registerWithSensor | controlLed _ _ | controlStatus _ => True
  | _ => False

end Request

/-- The URI is that of a resource of the node: its address in brackets, the port of its server, and
the path of the resource, with the color of a LED as a query where there is one. -/
structure AddressedTo (d : Device) (resource : String) (uri : Uri) : Prop where
  /-- The address is in brackets. -/
  bracketed : uri.bracketed = true
  /-- It is the address of the node. -/
  addr : uri.addr = .str d.ip
  /-- The port is the one of the server. -/
  port : uri.port = 5683
  /-- The path. -/
  path : uri.path = resource ∨ ∃ color, uri.path = resource ++ ("?color=" ++ color)

section

variable {ι : Type*} {F : Fleet ι} {py : Interp} {rejects : Uri → Bool}

/-- The fields of an entry are those of the node's registration. -/
theorem getD_of_storedOf {i : ι} {info : Obj} (h : F.StoredOf i info) {name : String}
    (hname : text name ≠ text "last_seen_ms") {v : Val}
    (hv : ∀ sent_ms, (deviceFields sent_ms (F.device i)).get? name = some v) (default : Val) :
    info.getD name default = v := by
  obtain ⟨sent_ms, now_ms, rfl⟩ := h
  rw [storedInfo_getD hname, Obj.getD, hv, Option.getD_some]

theorem get?_ip_of_storedOf {i : ι} {info : Obj} (h : F.StoredOf i info) :
    info.get? "ip" = some (.str (F.device i).ip) := by
  have hget : ∀ default, info.getD "ip" default = .str (F.device i).ip :=
    getD_of_storedOf h (by decide) (deviceFields_ip (F.device i))
  rcases hip : info.get? "ip" with _ | v
  · have hnone := hget .none
    rw [Obj.getD, hip] at hnone
    cases hnone
  · have hsome := hget .none
    rw [Obj.getD, hip] at hsome
    rw [← hsome]
    rfl

theorem getD_port_of_storedOf {i : ι} {info : Obj} (h : F.StoredOf i info) :
    info.getD "port" (.int 5683) = .int 5683 :=
  getD_of_storedOf h (by decide) (deviceFields_port (F.device i)) _

theorem getD_type_of_storedOf {i : ι} {info : Obj} (h : F.StoredOf i info) (default : Val) :
    info.getD "type" default = .str (F.device i).type :=
  getD_of_storedOf h (by decide) (deviceFields_type (F.device i)) _

/-- `_make_uri` puts the address of a node into brackets. -/
theorem makeUri_ip (F : Fleet ι) (i : ι) (port : ℤ) (path : String) :
    makeUri (.str (F.device i).ip) port path = .ok ⟨true, .str (F.device i).ip, port, path⟩ := by
  have hcolon := F.ip_colon i
  have hhead := F.ip_head i
  simp [makeUri, hcolon, hhead]

theorem nodeAddress_of_storedOf {i : ι} {info : Obj} (h : F.StoredOf i info) :
    nodeAddress py info = .ok (.str (F.device i).ip, 5683) := by
  rw [nodeAddress, get?_ip_of_storedOf h]
  simp only [getD_port_of_storedOf h]
  rfl

/-- A request to a node is sent to its address and port. -/
theorem requestUri_of_storedOf {i : ι} {info : Obj} (h : F.StoredOf i info) {path : String}
    {uri : Uri} (huri : requestUri py rejects (.str (F.device i).ip) info path = .ok uri) :
    uri = ⟨true, .str (F.device i).ip, 5683, path⟩ := by
  rw [requestUri, getD_port_of_storedOf h] at huri
  obtain ⟨port, hport, huri⟩ := bind_eq_ok.mp huri
  obtain rfl : 5683 = port := Except.ok.inj hport
  rw [makeUri_ip] at huri
  obtain ⟨uri', hmake, huri⟩ := bind_eq_ok.mp huri
  obtain rfl := Except.ok.inj hmake
  split_ifs at huri
  exact (Except.ok.inj huri).symm

/-- A PUT request to the address of a node. -/
theorem putRequest_ip {i : ι} {path : String} {payload : Bytes} {request : PutRequest}
    (h : putRequest rejects (.str (F.device i).ip) 5683 path payload = .ok request) :
    request.uri = ⟨true, .str (F.device i).ip, 5683, path⟩ := by
  rw [putRequest, makeUri_ip] at h
  obtain ⟨uri', hmake, h⟩ := bind_eq_ok.mp h
  obtain rfl := Except.ok.inj hmake
  split_ifs at h
  rw [← Except.ok.inj h]

/-- An operation is requested at the address of the node. -/
theorem sent_of_storedOf {i : ι} {info : Obj} (h : F.StoredOf i info) {command : Command}
    {uri : Uri} (huri : Request.uri.sent py rejects info command = .ok (some uri)) :
    ∃ request, command.request rejects (.str (F.device i).ip) 5683 = .ok request ∧
      request.uri = uri := by
  rw [Request.uri.sent, BalanceLoop.requestAt, nodeAddress_of_storedOf h] at huri
  obtain ⟨request, hrequest, huri⟩ := map_eq_ok.mp huri
  exact ⟨request, hrequest, Option.some.inj huri⟩

/-- `set_status` goes to the status of the node. -/
theorem setStatus_uri {i : ι} {status : Val} {request : PutRequest}
    (h : setStatusRequest rejects (.str (F.device i).ip) 5683 status = .ok request) :
    request.uri = ⟨true, .str (F.device i).ip, 5683, "actuators/status"⟩ := by
  obtain ⟨status_val, -, h⟩ := bind_eq_ok.mp h
  split_ifs at h
  exact putRequest_ip h

/-- `set_led` goes to the LEDs of the node. -/
theorem setLed_uri {i : ι} {color mode : Val} {request : PutRequest}
    (h : setLedRequest rejects (.str (F.device i).ip) 5683 color mode = .ok request) :
    ∃ code, request.uri = ⟨true, .str (F.device i).ip, 5683, "actuators/leds?color=" ++ code⟩ := by
  obtain ⟨color, -, h⟩ := bind_eq_ok.mp h
  rcases hcode : colorCode color with _ | code
  · rw [hcode] at h
    cases h
  · rw [hcode] at h
    obtain ⟨mode, -, h⟩ := bind_eq_ok.mp h
    split_ifs at h
    exact ⟨code, putRequest_ip h⟩

/-- Every request for an entry goes to the node whose entry it is. -/
theorem addressedTo {i : ι} {info : Obj} (h : F.StoredOf i info) {q : Request} {uri : Uri}
    (huri : q.uri py rejects info = .ok (some uri)) :
    AddressedTo (F.device i) (q.resource info) uri := by
  -- The fields of the registration stand in the entry as the node has printed them.
  have hip : info.get "ip" = .str (F.device i).ip := by
    rw [Obj.get, Obj.getD, get?_ip_of_storedOf h, Option.getD_some]
  have haddressed : ∀ path, uri = ⟨true, .str (F.device i).ip, 5683, path⟩ →
      AddressedTo (F.device i) path uri := by
    rintro path rfl
    exact ⟨rfl, rfl, rfl, .inl rfl⟩
  -- One case for each operation of the client: the path that it builds its URI with.
  cases q with
  | probe =>
    rw [Request.uri, probeRequest, hip] at huri
    split_ifs at huri
    · cases huri
    · obtain ⟨uri', hsent, heq⟩ := map_eq_ok.mp huri
      obtain rfl := Option.some.inj heq
      exact haddressed _ (requestUri_of_storedOf h hsent)
  | getSamplingInterval =>
    rw [Request.uri, samplingUri, get?_ip_of_storedOf h] at huri
    obtain ⟨uri', hsent, heq⟩ := map_eq_ok.mp huri
    obtain rfl := Option.some.inj heq
    exact haddressed _ (requestUri_of_storedOf h hsent)
  | setSamplingInterval interval_ms =>
    obtain ⟨request, hrequest, rfl⟩ := sent_of_storedOf h huri
    obtain ⟨payload, -, hrequest⟩ := bind_eq_ok.mp hrequest
    exact haddressed _ (putRequest_ip hrequest)
  | getBatteryState =>
    rw [Request.uri, BalanceLoop.batteryStateUri, nodeAddress_of_storedOf h] at huri
    obtain ⟨uri', hsent, heq⟩ := map_eq_ok.mp huri
    obtain rfl := Option.some.inj heq
    obtain ⟨address, haddress, hsent⟩ := bind_eq_ok.mp hsent
    obtain rfl := Except.ok.inj haddress
    obtain ⟨made, hmade, hsent⟩ := bind_eq_ok.mp hsent
    rw [makeUri_ip] at hmade
    obtain rfl := Except.ok.inj hmade
    split_ifs at hsent
    exact haddressed _ (Except.ok.inj hsent).symm
  | adjustBattery delta_kwh =>
    obtain ⟨request, hrequest, rfl⟩ := sent_of_storedOf h huri
    exact haddressed _ (putRequest_ip hrequest)
  | dispatchDiesel run =>
    obtain ⟨request, hrequest, rfl⟩ := sent_of_storedOf h huri
    exact haddressed _ (setStatus_uri hrequest)
  | registerWithSensor =>
    rw [Request.uri, hip] at huri
    obtain ⟨uri', hsent, heq⟩ := map_eq_ok.mp huri
    obtain rfl := Option.some.inj heq
    exact haddressed _ (requestUri_of_storedOf h hsent)
  | controlLed color mode =>
    obtain ⟨request, hrequest, rfl⟩ := sent_of_storedOf h huri
    obtain ⟨code, heq⟩ := setLed_uri hrequest
    rw [heq]
    -- The color is a query, which is no part of the resource's path.
    refine ⟨rfl, rfl, rfl, .inr ⟨code, ?_⟩⟩
    show "actuators/leds?color=" ++ code = "actuators/leds" ++ ("?color=" ++ code)
    rw [← String.append_assoc]
    rfl
  | controlStatus status =>
    obtain ⟨request, hrequest, rfl⟩ := sent_of_storedOf h huri
    exact haddressed _ (setStatus_uri hrequest)

/-- The types of the producers are not the battery's. -/
theorem type_eq_battery_iff (d : Device) :
    isStr "battery" (.str d.type) = true ↔ ∃ node, d = .battery node := by
  cases d with
  | producer node =>
    have hnone : isStr "battery" (.str node.type.text) = false := by cases node.type <;> decide
    simp [Device.type, hnone]
  | battery node => simpa [Device.type] using by decide

/-- `probe_node` knows a battery by its type. -/
theorem probePath_of_storedOf {i : ι} {info : Obj} (h : F.StoredOf i info) :
    probePath info = match F.device i with
      | .producer _ => "actuators/status"
      | .battery _ => "actuators/battery" := by
  rw [probePath, getD_type_of_storedOf h]
  cases F.device i with
  | producer node =>
    have hnone : isWord "battery" (.str node.type.text) = false := by cases node.type <;> decide
    simp [Device.type, hnone]
  | battery node =>
    have hbattery : isWord "battery" (.str (text "battery")) = true := by decide
    simp [Device.type, hbattery]

/-- The first node of a type has the type. -/
theorem type_of_firstOfType {node_type : String} {registry : Registry} {node : Node}
    (h : firstOfType node_type registry = some node) :
    isStr node_type (node.info.get "type") = true :=
  @List.find?_some _ (fun n : Node => isStr node_type (n.info.get "type")) _ _ h

theorem mem_of_firstOfType {node_type : String} {registry : Registry} {node : Node}
    (h : firstOfType node_type registry = some node) : node ∈ registry.getAllNodes :=
  List.mem_of_find?_eq_some h

/-- What the cloud makes a request to is an entry of a node of the fleet. -/
theorem storedOf_of_madeTo {s : State ι} (hs : Sound F s) {q : Request} {node : Node}
    (h : q.MadeTo s.cloud.registry node) : ∃ i, F.StoredOf i node.info := by
  -- A task finds its node in the registry, an operator by its identifier.
  have hall : node ∈ s.cloud.registry.getAllNodes → ∃ i, F.StoredOf i node.info := by
    intro hmem
    obtain ⟨k, hk⟩ := (s.cloud.registry.mem_getAllNodes_iff node).mp hmem
    exact (hs.stored k node hk).imp fun _ hi => hi.2
  have hid : (∃ node_id, s.cloud.registry.getNodeById node_id = .ok (some node)) →
      ∃ i, F.StoredOf i node.info := by
    rintro ⟨node_id, hnode⟩
    obtain ⟨k, -, hk⟩ := map_eq_ok.mp hnode
    exact (hs.stored k node hk).imp fun _ hi => hi.2
  cases q with
  | probe => exact hall h
  | getSamplingInterval => exact hall h.1
  | setSamplingInterval interval_ms => exact hall h.1
  | getBatteryState => exact hall (mem_of_firstOfType h)
  | adjustBattery delta_kwh => exact hall (mem_of_firstOfType h)
  | dispatchDiesel run => exact hall (mem_of_firstOfType h)
  | registerWithSensor => exact hs.scheduled node h
  | controlLed color mode => exact hid h
  | controlStatus status => exact hid h

/-- What a producer serves. -/
theorem serves_producer (platformHasLeds : Bool) (node : ProducerNode) :
    ∀ r ∈ [(.put, "actuators/leds"), (.get, "test/push"), (.get, "actuators/status"),
      (.put, "actuators/status"), (.get, "actuators/sampling"), (.put, "actuators/sampling")],
      (Device.producer node).serves platformHasLeds r.1 r.2 = true := by
  cases platformHasLeds <;> simp [Device.serves, Device.activatedResources]

/-- What a battery serves. -/
theorem serves_battery (platformHasLeds : Bool) (node : BatteryNode)
    (method : Battery.RequestMethod) (path : String) :
    (Device.battery node).serves platformHasLeds method path =
      (path == "actuators/battery" && [.get, .put].contains method) := by
  simp only [Device.serves, Device.activatedResources, List.any_cons, List.any_nil, Bool.or_false]
  rw [Bool.beq_comm]

/-- A request that the cloud makes to an entry of a producer is served. -/
theorem served_by_producer {i : ι} {producer : ProducerNode} (hd : F.device i = .producer producer)
    {registry : Registry} {node : Node} (h : F.StoredOf i node.info) {q : Request}
    (hq : q.MadeTo registry node) (platformHasLeds : Bool) :
    (Device.producer producer).serves platformHasLeds q.method (q.resource node.info) = true := by
  have hserves := serves_producer platformHasLeds producer
  have hprobe : probePath node.info = "actuators/status" := by rw [probePath_of_storedOf h, hd]
  -- The entry of a producer is not the first of the batteries.
  have hnot : ¬ isStr "battery" (node.info.get "type") = true := by
    rw [Obj.get, getD_type_of_storedOf h, type_eq_battery_iff, hd]
    rintro ⟨battery, hbattery⟩
    cases hbattery
  cases q with
  | probe =>
    rw [Request.resource, hprobe]
    exact hserves (.get, "actuators/status") (by simp)
  | getSamplingInterval => exact hserves (.get, "actuators/sampling") (by simp)
  | setSamplingInterval interval_ms => exact hserves (.put, "actuators/sampling") (by simp)
  | getBatteryState => exact absurd (type_of_firstOfType hq) hnot
  | adjustBattery delta_kwh => exact absurd (type_of_firstOfType hq) hnot
  | dispatchDiesel run => exact hserves (.put, "actuators/status") (by simp)
  | registerWithSensor => exact hserves (.get, "test/push") (by simp)
  | controlLed color mode => exact hserves (.put, "actuators/leds") (by simp)
  | controlStatus status => exact hserves (.put, "actuators/status") (by simp)

/-- A request that the cloud makes to an entry of a battery is served, unless it is made without a
look at the type. -/
theorem served_by_battery_iff {i : ι} {battery : BatteryNode} (hd : F.device i = .battery battery)
    {registry : Registry} {node : Node} (h : F.StoredOf i node.info) {q : Request}
    (hq : q.MadeTo registry node) (platformHasLeds : Bool) :
    (Device.battery battery).serves platformHasLeds q.method (q.resource node.info) = false ↔
      q.Untyped := by
  have hprobe : probePath node.info = "actuators/battery" := by rw [probePath_of_storedOf h, hd]
  have htype : node.info.get "type" = .str (text "battery") := by
    rw [Obj.get, getD_type_of_storedOf h, hd]
    rfl
  rw [serves_battery]
  cases q with
  | probe => simp [Request.resource, Request.method, Request.Untyped, hprobe]
  | getSamplingInterval =>
    -- The congestion monitor leaves batteries out.
    have hnot := hq.2
    rw [htype] at hnot
    exact absurd hnot (by decide)
  | setSamplingInterval interval_ms =>
    have hnot := hq.2
    rw [htype] at hnot
    exact absurd hnot (by decide)
  | getBatteryState => simp [Request.resource, Request.method, Request.Untyped]
  | adjustBattery delta_kwh => simp [Request.resource, Request.method, Request.Untyped]
  | dispatchDiesel run =>
    -- A diesel node is no battery.
    have hdiesel := type_of_firstOfType hq
    rw [htype] at hdiesel
    exact absurd hdiesel (by decide)
  | registerWithSensor => simp [Request.resource, Request.Untyped]
  | controlLed color mode => simp [Request.resource, Request.Untyped]
  | controlStatus status => simp [Request.resource, Request.Untyped]

variable [DecidableEq ι]

/-- Over every run of a fleet, whatever is lost, removed and restarted: every request that the cloud
makes to a stored node is made to the entry of a node of the fleet, where it is sent it goes to the
address and the port that this node serves, and the node has a handler for it, except for the
subscription to a battery and for an operator's command to a battery. -/
theorem requests_are_served (hdepth : 0 < py.recursionLimit) (F : Fleet ι) (p : Platform)
    (rejects : Uri → Bool) (platformHasLeds : Bool) (es : List (Event ι)) (q : Request)
    (node : Node) (hq : q.MadeTo (run (step F p py rejects) (boot p) es).cloud.registry node) :
    ∃ i, F.StoredOf i node.info ∧
      (∀ uri, q.uri py rejects node.info = .ok (some uri) →
        AddressedTo (F.device i) (q.resource node.info) uri) ∧
      ((F.device i).serves platformHasLeds q.method (q.resource node.info) = false ↔
        q.Untyped ∧ ∃ battery, F.device i = .battery battery) := by
  obtain ⟨i, hi⟩ := storedOf_of_madeTo (sound_run hdepth es) hq
  refine ⟨i, hi, fun uri => addressedTo hi, ?_⟩
  rcases hd : F.device i with producer | battery
  · rw [served_by_producer hd hi hq]
    simp
  · rw [served_by_battery_iff hd hi hq]
    simp

end

/-- Both nodes look for a route after their first 15 s. The battery sends its POST after the solar
node, and is registered before it. -/
def pairRun : List (Event Bool) :=
  [.process true (.elapse 1920) 0, .process false (.elapse 1930) 0, .process true .timer 0,
    .process false .timer 0, .process true (.resume true) 15000,
      .process false (.resume true) 15100,
    .deliver 1 90000 true, .deliver 0 90100 true]

/-- The registry after it. -/
def pairRegistry : Registry :=
  (run (step pair ⟨128, by decide⟩ .cpython fun _ => false) (boot ⟨128, by decide⟩)
    pairRun).cloud.registry

/-- The probes of both nodes are served. -/
theorem requests_are_served_pair :
    pairRegistry.getAllNodes.length = 2 ∧
      ∀ node ∈ pairRegistry.getAllNodes, ∃ i, pair.StoredOf i node.info ∧
        (∀ uri, Request.probe.uri .cpython (fun _ => false) node.info = .ok (some uri) →
          AddressedTo (pair.device i) (Request.probe.resource node.info) uri) ∧
        ((pair.device i).serves true Request.probe.method (Request.probe.resource node.info) =
            false ↔
          Request.probe.Untyped ∧ ∃ battery, pair.device i = .battery battery) :=
  ⟨by decide +kernel, fun node hnode =>
    requests_are_served (by decide) pair ⟨128, by decide⟩ (fun _ => false) true pairRun
      .probe node hnode⟩

end EnergyStation.System.Requests
