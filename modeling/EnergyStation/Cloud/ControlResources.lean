import EnergyStation.Cloud.Commands

/-!
# The control endpoints

`_handle` of `LedControlResource` and of `StatusControlResource` in `coap_resources.py`, and the
call of `set_status` by `_update_diesel_dispatch`. A handler checks the request and finds the node
(`prepare`), where it may answer or raise at once, and then forwards the command inside a `try`
(`respond`). An exception that leaves a handler is answered by the library, not by the handler.
-/

namespace EnergyStation.Cloud

open CStdlib Numeral Python

/-- The texts that depend on values, encoded. Encoding raises for a text with lone surrogates. -/
structure Texts where
  /-- `f"Node '{node_id}' not registered".encode()` -/
  notRegistered : Val → Except Exc Bytes
  /-- `str(e).encode()` -/
  ofError : Exc → Except Exc Bytes
  /-- `f"Could not reach node: {e}".encode()` -/
  unreachable : Exc → Except Exc Bytes

/-- What ends a handler before it forwards: an answer, or an exception. -/
abbrev Early := Except Exc Response

/-- An exception that is not caught. -/
def raised {α : Type} (x : Except Exc α) : Except Early α := x.mapError .error

/-- `node["ip"]` and `int(node.get("port", 5683))`. -/
def nodeAddress (py : Interp) (node : Obj) : Except Exc (Val × ℤ) :=
  match node.get? "ip" with
  | none => .error .keyError
  | some ip => (toInt py (node.getD "port" (.int 5683))).map fun port => (ip, port)

/-- `node_registry.get_node_by_id(node_id)`, and the address of the node. -/
def lookup (py : Interp) (texts : Texts) (registry : Registry) (node_id : Val) :
    Except Early (Val × ℤ) :=
  (raised (registry.getNodeById node_id)).bind fun
    | none => .error ((texts.notRegistered node_id).map fun payload => ⟨.notFound, payload⟩)
    | some node => raised (nodeAddress py node.info)

/-- What the lookup of a node finds for a key. -/
theorem lookup_eq {py : Interp} {T : Texts} {registry : Registry} {node_id : Val} {k : Key}
    (hk : hashKey node_id = .ok k) :
    lookup py T registry node_id =
      match registry.nodes.get? k with
      | none => .error ((T.notRegistered node_id).map fun payload => ⟨.notFound, payload⟩)
      | some node => raised (nodeAddress py node.info) := by
  unfold lookup Registry.getNodeById
  rw [hk]
  rfl

/-- A value that is no key ends the lookup with an exception. -/
theorem lookup_of_not_hashable {py : Interp} {T : Texts} {registry : Registry} {node_id : Val}
    (h : hashable node_id = false) : lookup py T registry node_id = .error (.error .typeError) := by
  unfold lookup Registry.getNodeById
  rw [hashKey_of_not_hashable h]
  rfl

/-- The payload of a request, decoded. Every exception of the decoding is caught. -/
def requestPayload (py : Interp) (body : Bytes) : Except Early Val :=
  (loadBody py body).mapError fun _ => .ok ⟨.badRequest, ascii "Invalid JSON payload"⟩

/-- `LedControlResource._handle`, up to the `try`. -/
def LedControlResource.prepare (py : Interp) (texts : Texts) (registry : Registry) (body : Bytes) :
    Except Early (Command × Val × ℤ) :=
  (requestPayload py body).bind fun payload =>
    (raised (asDict payload)).bind fun payload =>
      let node_id := payload.get "node_id"
      let color := payload.get "color"
      let mode := payload.get "mode"
      if !truthy node_id || !truthy color || !truthy mode then
        .error (.ok ⟨.badRequest, ascii "Missing field(s). Required: node_id, color, mode"⟩)
      else (lookup py texts registry node_id).map fun address => (.setLed color mode, address)

/-- `StatusControlResource._handle`, up to the `try`. -/
def StatusControlResource.prepare (py : Interp) (texts : Texts) (registry : Registry)
    (body : Bytes) : Except Early (Command × Val × ℤ) :=
  (requestPayload py body).bind fun payload =>
    (raised (asDict payload)).bind fun payload =>
      let node_id := payload.get "node_id"
      let status := payload.get "status"
      if !truthy node_id || !truthy status then
        .error (.ok ⟨.badRequest, ascii "Missing field(s). Required: node_id, status"⟩)
      else
        (raised (lowerStr status)).bind fun status_val =>
          if !isOnOff status_val then
            .error (.ok ⟨.badRequest, ascii "Invalid status value. Use: on / off"⟩)
          else (lookup py texts registry node_id).map fun address => (.setStatus status, address)

/-- The answer to a forwarded command. -/
def forwarded (texts : Texts) : Except Exc Str → Except Exc Response
  | .ok reply => .ok ⟨.changed, utf8Encode reply⟩
  | .error e =>
    if e.isValueError then (texts.ofError e).map fun payload => ⟨.badRequest, payload⟩
    else (texts.unreachable e).map fun payload => ⟨.serviceUnavailable, payload⟩

/-- A handler, once it has prepared. -/
def respond (rejects : Uri → Bool) (texts : Texts) (prepared : Except Early (Command × Val × ℤ))
    (answer : Except Exc Response) : Except Exc Response :=
  match prepared with
  | .error early => early
  | .ok (command, ip, port) => forwarded texts (command.perform rejects ip port answer)

/-- `LedControlResource._handle`. -/
def LedControlResource.handle (py : Interp) (rejects : Uri → Bool) (texts : Texts)
    (registry : Registry) (body : Bytes) (answer : Except Exc Response) : Except Exc Response :=
  respond rejects texts (prepare py texts registry body) answer

/-- `StatusControlResource._handle`. -/
def StatusControlResource.handle (py : Interp) (rejects : Uri → Bool) (texts : Texts)
    (registry : Registry) (body : Bytes) (answer : Except Exc Response) : Except Exc Response :=
  respond rejects texts (prepare py texts registry body) answer

/-- An operation at the address of a stored node. -/
def Command.performAt (py : Interp) (rejects : Uri → Bool) (node : Obj) (command : Command)
    (answer : Except Exc Response) : Except Exc Str :=
  (nodeAddress py node).bind fun address => command.perform rejects address.1 address.2 answer

/-- The call of `set_status` by `_update_diesel_dispatch`. -/
def dieselStatus (run : Bool) : Command := .setStatus (.str (text (if run then "on" else "off")))

/-- `_diesel_dispatched` after a cycle whose call of `set_status`, if it makes one, is answered. -/
def dieselCycle (py : Interp) (rejects : Uri → Bool) (dispatched : Bool) (registry : Registry)
    (soc : Option ExtRat) (renewable_surplus_w : ExtRat) (answer : Except Exc Response) : Bool :=
  let diesel_node := firstOfType dieselType registry
  let returned := match dieselCommand dispatched diesel_node soc renewable_surplus_w with
    | some (node, run) => ((dieselStatus run).performAt py rejects node.info answer).isOk
    | none => false
  updateDieselDispatch dispatched diesel_node soc renewable_surplus_w returned

/-- Where the computation ends early with an answer, the answer is not 2.04. -/
def EndsUnchanged {α : Type} (x : Except Early α) : Prop :=
  ∀ r : Response, x = .error (.ok r) → r.code ≠ .changed

theorem endsUnchanged_raised {α : Type} (x : Except Exc α) : EndsUnchanged (raised x) := by
  intro r h
  rcases x with e | a
  · cases h
  · cases h

theorem endsUnchanged_error {α : Type} {early : Early}
    (h : ∀ r, early = .ok r → r.code ≠ .changed) :
    EndsUnchanged (.error early : Except Early α) := fun r hr => h r (Except.error.inj hr)

theorem endsUnchanged_bind {α β : Type} {x : Except Early α} {f : α → Except Early β}
    (hx : EndsUnchanged x) (hf : ∀ a, EndsUnchanged (f a)) : EndsUnchanged (x.bind f) := by
  rcases x with early | a
  · exact fun r h => hx r (congrArg Except.error (Except.error.inj h))
  · exact hf a

theorem endsUnchanged_map {α β : Type} {x : Except Early α} (hx : EndsUnchanged x) (f : α → β) :
    EndsUnchanged (x.map f) := by
  rcases x with early | a
  · exact fun r h => hx r (congrArg Except.error (Except.error.inj h))
  · exact fun r h => nomatch h

theorem endsUnchanged_requestPayload (py : Interp) (body : Bytes) :
    EndsUnchanged (requestPayload py body) := by
  unfold requestPayload
  rcases loadBody py body with e | payload
  · refine endsUnchanged_error fun r h => ?_
    rw [← Except.ok.inj h]
    exact Code.badRequest_ne_changed
  · exact fun r h => nomatch h

theorem endsUnchanged_lookup (py : Interp) (texts : Texts) (registry : Registry) (node_id : Val) :
    EndsUnchanged (lookup py texts registry node_id) := by
  refine endsUnchanged_bind (endsUnchanged_raised _) fun node => ?_
  rcases node with _ | node
  · refine endsUnchanged_error fun r h => ?_
    obtain ⟨payload, -, rfl⟩ := map_eq_ok.mp h
    exact Code.notFound_ne_changed
  · exact endsUnchanged_raised _

/-- What the LED endpoint answers before it forwards is not 2.04. -/
theorem LedControlResource.endsUnchanged (py : Interp) (texts : Texts) (registry : Registry)
    (body : Bytes) : EndsUnchanged (prepare py texts registry body) := by
  refine endsUnchanged_bind (endsUnchanged_requestPayload py body) fun payload => ?_
  refine endsUnchanged_bind (endsUnchanged_raised _) fun payload => ?_
  simp only
  split_ifs
  · refine endsUnchanged_error fun r h => ?_
    rw [← Except.ok.inj h]
    exact Code.badRequest_ne_changed
  · exact endsUnchanged_map (endsUnchanged_lookup py texts registry _) _

/-- What the status endpoint answers before it forwards is not 2.04. -/
theorem StatusControlResource.endsUnchanged (py : Interp) (texts : Texts) (registry : Registry)
    (body : Bytes) : EndsUnchanged (prepare py texts registry body) := by
  refine endsUnchanged_bind (endsUnchanged_requestPayload py body) fun payload => ?_
  refine endsUnchanged_bind (endsUnchanged_raised _) fun payload => ?_
  simp only
  split_ifs
  · refine endsUnchanged_error fun r h => ?_
    rw [← Except.ok.inj h]
    exact Code.badRequest_ne_changed
  · refine endsUnchanged_bind (endsUnchanged_raised _) fun status_val => ?_
    split_ifs
    · refine endsUnchanged_error fun r h => ?_
      rw [← Except.ok.inj h]
      exact Code.badRequest_ne_changed
    · exact endsUnchanged_map (endsUnchanged_lookup py texts registry _) _

/-- The LED endpoint forwards a `set_led`. -/
theorem LedControlResource.prepare_command {py : Interp} {texts : Texts} {registry : Registry}
    {body : Bytes} {command : Command} {address : Val × ℤ}
    (h : prepare py texts registry body = .ok (command, address)) :
    ∃ color mode, command = .setLed color mode := by
  obtain ⟨payload, -, h⟩ := bind_eq_ok.mp h
  obtain ⟨payload, -, h⟩ := bind_eq_ok.mp h
  simp only at h
  split_ifs at h
  obtain ⟨address', -, h⟩ := map_eq_ok.mp h
  exact ⟨_, _, (Prod.mk.inj h).1.symm⟩

/-- The status endpoint forwards a `set_status`. -/
theorem StatusControlResource.prepare_command {py : Interp} {texts : Texts} {registry : Registry}
    {body : Bytes} {command : Command} {address : Val × ℤ}
    (h : prepare py texts registry body = .ok (command, address)) :
    ∃ status, command = .setStatus status := by
  obtain ⟨payload, -, h⟩ := bind_eq_ok.mp h
  obtain ⟨payload, -, h⟩ := bind_eq_ok.mp h
  simp only at h
  split_ifs at h
  obtain ⟨status_val, -, h⟩ := bind_eq_ok.mp h
  split_ifs at h
  obtain ⟨address', -, h⟩ := map_eq_ok.mp h
  exact ⟨_, (Prod.mk.inj h).1.symm⟩

/-- The answer to a forwarded command is 2.04 where the command returned. -/
theorem forwarded_changed_iff (texts : Texts) (result : Except Exc Str) :
    (∃ r, forwarded texts result = .ok r ∧ r.code = .changed) ↔ ∃ reply, result = .ok reply := by
  constructor
  · rintro ⟨r, h, hcode⟩
    rcases result with e | reply
    · -- An exception is answered 4.00 or 5.03, where its text can be encoded.
      simp only [forwarded] at h
      split_ifs at h
      · obtain ⟨payload, -, rfl⟩ := map_eq_ok.mp h
        exact absurd hcode Code.badRequest_ne_changed
      · obtain ⟨payload, -, rfl⟩ := map_eq_ok.mp h
        exact absurd hcode Code.serviceUnavailable_ne_changed
    · exact ⟨reply, rfl⟩
  · rintro ⟨reply, rfl⟩
    exact ⟨_, rfl, rfl⟩

/-- A handler answers 2.04 where it forwards a command, and the command returns. -/
theorem respond_changed_iff {rejects : Uri → Bool} {texts : Texts}
    {prepared : Except Early (Command × Val × ℤ)} (hprepared : EndsUnchanged prepared)
    (answer : Except Exc Response) :
    (∃ r, respond rejects texts prepared answer = .ok r ∧ r.code = .changed) ↔
      ∃ command ip port reply, prepared = .ok (command, ip, port) ∧
        command.perform rejects ip port answer = .ok reply := by
  rcases prepared with early | ⟨command, ip, port⟩
  · constructor
    · rintro ⟨r, h, hcode⟩
      exact absurd hcode (hprepared r (congrArg Except.error h))
    · rintro ⟨command, ip, port, reply, h, -⟩
      cases h
  · rw [respond, forwarded_changed_iff]
    constructor
    · rintro ⟨reply, h⟩
      exact ⟨command, ip, port, reply, rfl, h⟩
    · rintro ⟨command', ip', port', reply, h, hreply⟩
      cases h
      exact ⟨reply, hreply⟩

end EnergyStation.Cloud
