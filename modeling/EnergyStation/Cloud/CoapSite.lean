import EnergyStation.Cloud.ControlResources
import EnergyStation.Cloud.CoapResources
import EnergyStation.Cloud.MqttClient

/-!
# The CoAP site

`create_coap_site` of `coap_resources.py`, with the telemetry of both entrances going into one
state. The body of `class TelemetryResource` is its docstring: the `render_post` that follows it is
not indented, and so is a function of the module. A POST to `/telemetry` therefore finds a resource
without the method, is answered 4.05 and changes nothing, whatever its payload (`post_telemetry`).
-/

namespace EnergyStation.Cloud

open CStdlib Numeral Python

/-- What the handlers of the cloud read and change. -/
structure CloudState where
  /-- The delay tables. -/
  tables : DelayTables
  /-- `_latest_readings` -/
  readings : Dict Key Reading
  /-- The registry. -/
  registry : Registry
  /-- The points that `write_api.write` has accepted, in order. -/
  written : List Point

namespace CloudState

/-- What the ingestion of telemetry sees. -/
def ingested (s : CloudState) : Ingested := ⟨⟨s.tables, s.written⟩, s.readings⟩

/-- What the handlers of a registration see. -/
def site (s : CloudState) : Site := ⟨s.registry, s.written⟩

/-- The state after an ingestion. -/
def withIngested (s : CloudState) (i : Ingested) : CloudState :=
  { s with tables := i.store.tables, readings := i.readings, written := i.store.written }

/-- The state after a handler of a registration. -/
def withSite (s : CloudState) (t : Site) : CloudState :=
  { s with registry := t.registry, written := t.written }

end CloudState

/-- What is outside the cloud when a message arrives. -/
structure Arrival where
  /-- The interpreter. -/
  py : Interp
  /-- `int(time.time() * 1000)` -/
  received_ms : ℤ
  /-- `time.time()` -/
  now : ℚ
  /-- `write_api.write` accepts a point. -/
  accepts : Bool
  /-- The URIs that the library refuses. -/
  rejects : Uri → Bool
  /-- The texts that depend on values. -/
  texts : Texts
  /-- What a node answers to a command. -/
  answer : Except Exc Response
  /-- The payload of the library's own answers. -/
  diagnostic : Code → Bytes

/-- A method of a resource: its answer, or the exception it raises, and the state after it. -/
abbrev Method := Arrival → Bytes → CloudState → Except Exc Response × CloudState

/-- An instance of a subclass of `resource.Resource`, as far as a POST finds it. -/
structure Resource where
  /-- Its method `render_post`, where the class has one. -/
  render_post : Option Method

/-- `class TelemetryResource`, whose body is a docstring. The function `render_post` that follows it
is one of the module, and nothing calls it. -/
def TelemetryResource : Resource := ⟨none⟩

/-- `class RegisterResource` -/
def RegisterResource : Resource where
  render_post := some fun a body s =>
    let r := RegisterResource.renderPost a.py a.received_ms a.accepts body s.site
    (.ok r.1, s.withSite r.2)

/-- `class UnregisterResource` -/
def UnregisterResource : Resource where
  render_post := some fun a body s =>
    let r := UnregisterResource.renderPost a.py a.accepts body s.site
    (.ok r.1, s.withSite r.2)

/-- `class LedControlResource` -/
def LedControlResource : Resource where
  render_post := some fun a body s =>
    (LedControlResource.handle a.py a.rejects a.texts s.registry body a.answer, s)

/-- `class StatusControlResource` -/
def StatusControlResource : Resource where
  render_post := some fun a body s =>
    (StatusControlResource.handle a.py a.rejects a.texts s.registry body a.answer, s)

/-- `create_coap_site` -/
def createCoapSite : List (List String × Resource) :=
  [(["telemetry"], TelemetryResource), (["register"], RegisterResource),
    (["unregister"], UnregisterResource), (["actuators", "leds"], LedControlResource),
    (["actuators", "status"], StatusControlResource)]

/-- The library's answer with a code of its own. -/
def Arrival.refusal (a : Arrival) (code : Code) : Response := ⟨code, a.diagnostic code⟩

/-- The dispatch of a POST to a site: to the method of the resource at the path. -/
def dispatchPost (site : List (List String × Resource)) (path : List String) : Method :=
  fun a body s =>
    match site.find? fun r => r.1 = path with
    | none => (.ok (a.refusal .notFound), s)
    | some (_, resource) =>
      match resource.render_post with
      | none => (.ok (a.refusal .methodNotAllowed), s)
      | some method => method a body s

/-- The delivery of a payload over MQTT. -/
def deliverMqtt (a : Arrival) (body : Bytes) (s : CloudState) : Except Exc Unit × CloudState :=
  let r := onMessage a.py a.accepts a.received_ms a.now body s.ingested
  (r.1, s.withIngested r.2)

/-- A POST to `/telemetry` is refused, and changes nothing. -/
theorem post_telemetry (a : Arrival) (body : Bytes) (s : CloudState) :
    dispatchPost createCoapSite ["telemetry"] a body s =
      (.ok (a.refusal .methodNotAllowed), s) := by
  have hfind : createCoapSite.find? (fun r => r.1 = ["telemetry"]) =
      some (["telemetry"], TelemetryResource) := by
    rw [createCoapSite, List.find?_cons_of_pos]
    decide
  unfold dispatchPost
  rw [hfind]
  rfl

/-- A POST of telemetry and its delivery over MQTT agree: the effect is the same, and the answer
says whether the payload is valid. -/
structure IngestionAgrees (valid : Prop) (a : Arrival) (body : Bytes) (s : CloudState) : Prop where
  /-- The effect is that of the delivery over MQTT. -/
  effect : (dispatchPost createCoapSite ["telemetry"] a body s).2 = (deliverMqtt a body s).2
  /-- A valid payload is answered 2.04. -/
  accepted : valid → ∃ r, (dispatchPost createCoapSite ["telemetry"] a body s).1 = .ok r ∧
    r.code = .changed
  /-- Any other payload is answered 4.00, and changes nothing. -/
  rejected : ¬ valid → (∃ r, (dispatchPost createCoapSite ["telemetry"] a body s).1 = .ok r ∧
    r.code = .badRequest) ∧ (dispatchPost createCoapSite ["telemetry"] a body s).2 = s

/-- The two entrances agree on no payload in no state, whichever payloads are valid. -/
theorem ingestion_disagrees (valid : Bytes → Prop) (a : Arrival) (body : Bytes) (s : CloudState) :
    ¬ IngestionAgrees (valid body) a body s := by
  intro h
  have hcode : ∀ r, (dispatchPost createCoapSite ["telemetry"] a body s).1 = .ok r →
      r.code = .methodNotAllowed := by
    intro r hr
    rw [post_telemetry] at hr
    rw [← Except.ok.inj hr]
    rfl
  by_cases hvalid : valid body
  · obtain ⟨r, hr, hchanged⟩ := h.accepted hvalid
    rw [hcode r hr] at hchanged
    exact absurd hchanged (by decide)
  · obtain ⟨⟨r, hr, hbad⟩, -⟩ := h.rejected hvalid
    rw [hcode r hr] at hbad
    exact absurd hbad (by decide)

/-- The reading of a wind node is stored when it is delivered over MQTT, and not when it is
posted. -/
theorem reading_is_refused :
    let a : Arrival := ⟨.cpython, 0, 0, true, fun _ => false,
      ⟨fun _ => .ok [], fun _ => .ok [], fun _ => .ok []⟩, .error .external, fun _ => []⟩
    let s : CloudState := ⟨.boot, Dict.empty, .boot, []⟩
    let body := ascii
      "\x7b\"node_id\":\"prod_wind_0001\",\"type\":\"wind\",\"v\":22.5,\"i\":15.5\x7d"
    (loadObject a.py body).isOk = true ∧ ∀ valid, ¬ IngestionAgrees valid a body s := by
  refine ⟨by decide +kernel, fun valid h => ?_⟩
  have heffect := h.effect
  rw [post_telemetry] at heffect
  have hreading := congrArg
    (fun s => (s.readings.get? (.str (text "prod_wind_0001"))).isSome) heffect
  exact absurd hreading (by decide +kernel)

end EnergyStation.Cloud
