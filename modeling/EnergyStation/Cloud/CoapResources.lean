import EnergyStation.Cloud.InfluxdbConnect
import EnergyStation.Cloud.NodeRegistry
import EnergyStation.Coap

/-!
# The cloud's CoAP resources

The handlers of `coap_resources.py` that change the registry. Each decodes its payload, writes a
point to InfluxDB, changes the registry and answers, and answers 4.00 whatever exception one of
these steps raises, with what the steps before have done left in place.
-/

namespace EnergyStation.Cloud

open Python CStdlib

/-- What the handlers change: the registry, and the points written. -/
structure Site where
  /-- The registry. -/
  registry : Registry
  /-- The points that `write_api.write` has accepted, in order. -/
  written : List Point

/-- The point of a registration. -/
def registerPoint (payload : Obj) : Point where
  measurement := "registered_nodes"
  tags := [("node_id", payload.get "node_id"), ("type", payload.get "type"),
    ("protocol", payload.get "proto"), ("ip_address", payload.get "ip"),
    ("event_type", .str (Numeral.text "register"))]
  fields := [("status", .int 1)]

/-- The point of an unregistration. -/
def unregisterPoint (payload : Obj) : Point where
  measurement := "device_events"
  tags := [("node_id", payload.get "node_id"), ("type", payload.get "type"),
    ("protocol", payload.get "proto"), ("event_type", .str (Numeral.text "unregister"))]
  fields := [("status", .int 0)]

/-- The body of a handler: it writes a point, then it changes the registry. On an exception the
second component is the site as the steps before have left it. -/
def handle (py : Interp) (body : Bytes) (accepts : Bool) (point : Obj → Point)
    (change : Obj → Registry → Except Exc Registry) (s : Site) : Except Exc Unit × Site :=
  match loadObject py body with
  | .error e => (.error e, s)
  | .ok payload =>
    match writePoint accepts (point payload) s.written with
    | .error e => (.error e, s)
    | .ok written =>
      match change payload s.registry with
      -- The point has been written all the same.
      | .error e => (.error e, { s with written := written })
      | .ok registry => (.ok (), ⟨registry, written⟩)

/-- `RegisterResource.render_post`. -/
def RegisterResource.renderPost (py : Interp) (now_ms : ℤ) (accepts : Bool) (body : Bytes)
    (s : Site) : Response × Site :=
  match handle py body accepts registerPoint (Registry.addNode now_ms) s with
  | (.ok _, s) => (⟨.created, ascii "Registered"⟩, s)
  | (.error _, s) => (⟨.badRequest, ascii "Invalid Registration Data"⟩, s)

/-- `UnregisterResource.render_post`. -/
def UnregisterResource.renderPost (py : Interp) (accepts : Bool) (body : Bytes) (s : Site) :
    Response × Site :=
  match handle py body accepts unregisterPoint
      (fun payload => Registry.removeNode (payload.get "node_id")) s with
  | (.ok _, s) => (⟨.deleted, ascii "UNREGISTERED"⟩, s)
  | (.error _, s) => (⟨.badRequest, ascii "Invalid"⟩, s)

/-- A handler changes the registry as its last step, or not at all. -/
theorem handle_cases (py : Interp) (body : Bytes) (accepts : Bool) (point : Obj → Point)
    (change : Obj → Registry → Except Exc Registry) (s : Site) :
    (∃ payload r, loadObject py body = .ok payload ∧ accepts = true ∧
      change payload s.registry = .ok r ∧
      handle py body accepts point change s = (.ok (), ⟨r, s.written ++ [point payload]⟩)) ∨
    (∃ e s', handle py body accepts point change s = (.error e, s') ∧
      s'.registry = s.registry) := by
  unfold handle writePoint
  cases loadObject py body with
  | error e => exact .inr ⟨e, s, rfl, rfl⟩
  | ok payload =>
    cases accepts with
    | false => exact .inr ⟨.external, s, rfl, rfl⟩
    | true =>
      cases hchange : change payload s.registry with
      | error e => exact .inr ⟨e, { s with written := s.written ++ [point payload] },
          by simp [hchange], rfl⟩
      | ok r => exact .inl ⟨payload, r, rfl, rfl, hchange, by simp [hchange]⟩

/-- A registration answered 2.01 has stored its payload under a hashable id, and any other answer
has left the registry as it was. -/
theorem RegisterResource.renderPost_cases (py : Interp) (now_ms : ℤ) (accepts : Bool)
    (body : Bytes) (s : Site) :
    (∃ payload k, loadObject py body = .ok payload ∧ hashKey (storedId payload) = .ok k ∧
      (renderPost py now_ms accepts body s).1.code = .created ∧
      (renderPost py now_ms accepts body s).2.registry = s.registry.insert k now_ms payload) ∨
    ((renderPost py now_ms accepts body s).1.code = .badRequest ∧
      (renderPost py now_ms accepts body s).2.registry = s.registry) := by
  unfold renderPost
  rcases handle_cases py body accepts registerPoint (Registry.addNode now_ms) s with
    ⟨payload, r, hbody, -, hadd, heq⟩ | ⟨e, s', heq, hs'⟩
  · obtain ⟨k, hk, rfl⟩ := Registry.addNode_eq_ok.mp hadd
    rw [heq]
    exact .inl ⟨payload, k, hbody, hk, rfl, rfl⟩
  · rw [heq]
    exact .inr ⟨rfl, hs'⟩

/-- An unregistration answered 2.02 has deleted the id of its payload, and any other answer has left
the registry as it was. -/
theorem UnregisterResource.renderPost_cases (py : Interp) (accepts : Bool) (body : Bytes)
    (s : Site) :
    (∃ payload k, loadObject py body = .ok payload ∧ hashKey (payload.get "node_id") = .ok k ∧
      (renderPost py accepts body s).1.code = .deleted ∧
      (renderPost py accepts body s).2.registry = s.registry.delete k) ∨
    ((renderPost py accepts body s).1.code = .badRequest ∧
      (renderPost py accepts body s).2.registry = s.registry) := by
  unfold renderPost
  rcases handle_cases py body accepts unregisterPoint
      (fun payload => Registry.removeNode (payload.get "node_id")) s with
    ⟨payload, r, hbody, -, hremove, heq⟩ | ⟨e, s', heq, hs'⟩
  · obtain ⟨k, hk, rfl⟩ := Registry.removeNode_eq_ok.mp hremove
    rw [heq]
    exact .inl ⟨payload, k, hbody, hk, rfl, rfl⟩
  · rw [heq]
    exact .inr ⟨rfl, hs'⟩

end EnergyStation.Cloud
