import EnergyStation.Cloud.Commands
import EnergyStation.Firmware.BatteryReport

/-!
# The manual bypass of the charge lock

`set_battery_override` of the cloud's client against the CoAP server of the battery node. The
firmware declares the resource `res_battery_override` and activates `res_battery` only, so the
engine answers 4.04 for the path of the override. The client does not look at the code, and returns.
The bypass is therefore never taken, and a call that asks for it works only where it raises
(`bypass_works_iff`).
-/

namespace EnergyStation.Firmware.Battery

open Cloud CStdlib Numeral Python Runs

/-- The method of a request. -/
inductive RequestMethod where
  /-- GET -/
  | get
  /-- POST -/
  | post
  /-- PUT -/
  | put
  /-- DELETE -/
  | delete
  deriving DecidableEq

/-- A request to the node. -/
structure CoapRequest where
  /-- Its method. -/
  method : RequestMethod
  /-- Its path. -/
  path : String
  /-- Its payload. -/
  payload : Bytes

/-- The resources of `res-battery.c`. -/
inductive Resource where
  /-- `res_battery` -/
  | res_battery
  /-- `res_battery_override` -/
  | res_battery_override

/-- The GET handler of a resource. -/
def Resource.getHandler : Resource → Battery → Option Response
  | .res_battery => resGetBatteryHandler
  | .res_battery_override => fun b => some b.resGetOverrideHandler

/-- The PUT handler of a resource. -/
def Resource.putHandler : Resource → Battery → Bytes → Response × Battery
  | .res_battery => resPutBatteryHandler
  | .res_battery_override => resPutOverrideHandler

/-- What `coap_server_process` activates. -/
def activatedResources : List (String × Resource) := [("actuators/battery", .res_battery)]

/-- The CoAP engine answers a request, with the payload `diagnostic` in the answers of its own.
Neither resource has a handler for POST and for DELETE. -/
def serve (diagnostic : Code → Bytes) (b : Battery) (r : CoapRequest) : Option Response × Battery :=
  match activatedResources.find? fun a => a.1 = r.path with
  | none => (some ⟨.notFound, diagnostic .notFound⟩, b)
  | some (_, resource) =>
    match r.method with
    | .get => (resource.getHandler b, b)
    | .put =>
      let (response, b) := resource.putHandler b r.payload
      (some response, b)
    | .post | .delete => (some ⟨.methodNotAllowed, diagnostic .methodNotAllowed⟩, b)

/-- The node after a request. -/
def serveStep (diagnostic : Code → Bytes) (b : Battery) (r : CoapRequest) : Battery :=
  (serve diagnostic b r).2

/-- A call of `set_battery_override` whose request, if one is sent, is delivered to the node: what
the call returns or raises, and the node after it. -/
def callOverride (diagnostic : Code → Bytes) (rejects : Uri → Bool) (ip : Val) (port : ℤ)
    (enabled : Bool) (b : Battery) : Except Exc Str × Battery :=
  match setBatteryOverrideRequest rejects ip port enabled with
  | .error e => (.error e, b)
  | .ok sent =>
    let r := serve diagnostic b ⟨.put, sent.uri.path, sent.payload⟩
    let answer := match r.1 with
      | some response => .ok response
      | none => .error .external
    (setBatteryOverride rejects ip port enabled answer, r.2)

/-- The request switches the override off. -/
def CoapRequest.IsOff (r : CoapRequest) : Prop :=
  r.method = .put ∧ r.path = "actuators/battery/override" ∧ hasPrefix (ascii "off") r.payload = true

/-- What a call of `set_battery_override` is for. -/
structure BypassWorks (diagnostic : Code → Bytes) (rejects : Uri → Bool) (ip : Val) (port : ℤ)
    (enabled : Bool) (b : Battery) : Prop where
  /-- A call that returns has set the override. -/
  takes : ∀ reply, (callOverride diagnostic rejects ip port enabled b).1 = .ok reply →
    (callOverride diagnostic rejects ip port enabled b).2.override_active = enabled
  /-- After one that has asked for the bypass, every charge is accepted until the override is
  switched off. -/
  accepts : ∀ reply, (callOverride diagnostic rejects ip port enabled b).1 = .ok reply →
    enabled = true → ∀ es : List CoapRequest, (∀ r ∈ es, ¬ r.IsOff) →
      ∀ body, body ≠ [] → ExtRat.lt (.fin 0) (parseDelta body) = true →
        ∃ response, (serve diagnostic
          (run (serveStep diagnostic) (callOverride diagnostic rejects ip port enabled b).2 es)
          ⟨.put, "actuators/battery", body⟩).1 = some response ∧ response.code = .changed

/-- The request of the call can be built: the address is a text whose URI the library takes. -/
def Sendable (rejects : Uri → Bool) (ip : Val) (port : ℤ) : Prop :=
  ∃ uri, makeUri ip port "actuators/battery/override" = .ok uri ∧ rejects uri = false

/-- No request moves the override, since its resource is not activated. -/
theorem serve_override_active (diagnostic : Code → Bytes) (b : Battery) (r : CoapRequest) :
    (serve diagnostic b r).2.override_active = b.override_active := by
  unfold serve
  split
  · rfl
  · rename_i path resource hfind
    have hmem := List.mem_of_find?_eq_some hfind
    rw [activatedResources, List.mem_singleton] at hmem
    obtain ⟨rfl, rfl⟩ := Prod.mk.inj hmem
    obtain ⟨method, path, payload⟩ := r
    rcases method with _ | _ | _ | _
    · rfl
    · rfl
    · show (b.resPutBatteryHandler payload).2.override_active = b.override_active
      unfold resPutBatteryHandler
      split_ifs
      · rfl
      · exact putDelta_override_active b _
    · rfl

/-- The override is off in every reachable state. -/
theorem override_inactive (diagnostic : Code → Bytes) (m c : ℚ) (es : List CoapRequest) :
    (run (serveStep diagnostic) (boot m c) es).override_active = false := by
  have hstep : ∀ b r, b.override_active = false →
      (serveStep diagnostic b r).override_active = false :=
    fun b r hb => (serve_override_active diagnostic b r).trans hb
  exact run_invariant' hstep rfl es

/-- The engine has no resource at the path of the override. -/
theorem serve_override (diagnostic : Code → Bytes) (b : Battery) (method : RequestMethod)
    (payload : Bytes) :
    serve diagnostic b ⟨method, "actuators/battery/override", payload⟩ =
      (some ⟨.notFound, diagnostic .notFound⟩, b) := by
  have hfind : activatedResources.find? (fun a => a.1 = "actuators/battery/override") = none := by
    decide
  unfold serve
  simp only [hfind]

/-- The path of a URI is the one that it is made from. -/
theorem path_of_makeUri {ip : Val} {port : ℤ} {path : String} {uri : Uri}
    (h : makeUri ip port path = .ok uri) : uri.path = path := by
  unfold makeUri at h
  split at h
  · rw [← Except.ok.inj h]
  · split_ifs at h
    rw [← Except.ok.inj h]
  · split_ifs at h
    rw [← Except.ok.inj h]
  · cases h

/-- The request of a call is made where it is sendable, and goes to the path of the override. -/
theorem setBatteryOverrideRequest_ok_iff (rejects : Uri → Bool) (ip : Val) (port : ℤ)
    (enabled : Bool) :
    (∃ sent, setBatteryOverrideRequest rejects ip port enabled = .ok sent) ↔
      Sendable rejects ip port := by
  unfold setBatteryOverrideRequest putRequest Sendable
  simp only [bind_eq_ok]
  constructor
  · rintro ⟨sent, uri, huri, h⟩
    refine ⟨uri, huri, Bool.eq_false_iff.mpr fun hrejects => ?_⟩
    rw [if_pos hrejects] at h
    cases h
  · rintro ⟨uri, huri, hrejects⟩
    exact ⟨_, uri, huri, if_neg (Bool.eq_false_iff.mp hrejects)⟩

/-- A call is answered 4.04, and leaves the node as it is. -/
theorem callOverride_eq (diagnostic : Code → Bytes) (rejects : Uri → Bool) (ip : Val) (port : ℤ)
    (enabled : Bool) (b : Battery) :
    callOverride diagnostic rejects ip port enabled b =
      (setBatteryOverride rejects ip port enabled (.ok ⟨.notFound, diagnostic .notFound⟩), b) := by
  unfold callOverride
  rcases hrequest : setBatteryOverrideRequest rejects ip port enabled with e | sent
  · rw [setBatteryOverride, hrequest]
    rfl
  · have hpath : sent.uri.path = "actuators/battery/override" := by
      obtain ⟨uri, huri, hsent⟩ := bind_eq_ok.mp hrequest
      split at hsent
      · cases hsent
      · rw [← Except.ok.inj hsent]
        exact path_of_makeUri huri
    simp only [hpath, serve_override]

/-- A call returns where its request can be built and the text of the 4.04 is decoded. -/
theorem callOverride_returns_iff (diagnostic : Code → Bytes) (rejects : Uri → Bool) (ip : Val)
    (port : ℤ) (enabled : Bool) (b : Battery) :
    (∃ reply, (callOverride diagnostic rejects ip port enabled b).1 = .ok reply) ↔
      Sendable rejects ip port ∧ utf8Decode (diagnostic .notFound) ≠ none := by
  have hreply : ∀ reply,
      setBatteryOverride rejects ip port enabled (.ok ⟨.notFound, diagnostic .notFound⟩) =
        .ok reply ↔
        Sendable rejects ip port ∧ utf8Decode (diagnostic .notFound) = some reply := by
    intro reply
    rw [setBatteryOverride, Command.bind_answer_eq_ok, Command.replyText_eq_ok,
      setBatteryOverrideRequest_ok_iff]
  rw [callOverride_eq]
  simp only [hreply, exists_and_left, Option.ne_none_iff_exists']

/-- A call of `set_battery_override` in a reachable state does what it is for exactly if it asks for
no bypass, or its request cannot be built, or the text of the 4.04 cannot be decoded. -/
theorem bypass_works_iff (diagnostic : Code → Bytes) (rejects : Uri → Bool) (ip : Val) (port : ℤ)
    (enabled : Bool) (m c : ℚ) (es : List CoapRequest) :
    BypassWorks diagnostic rejects ip port enabled (run (serveStep diagnostic) (boot m c) es) ↔
      enabled = false ∨ ¬ Sendable rejects ip port ∨ utf8Decode (diagnostic .notFound) = none := by
  have hinactive := override_inactive diagnostic m c es
  generalize run (serveStep diagnostic) (boot m c) es = b at hinactive ⊢
  have hreturns := callOverride_returns_iff diagnostic rejects ip port enabled b
  have hnode : (callOverride diagnostic rejects ip port enabled b).2 = b := by rw [callOverride_eq]
  constructor
  · intro h
    by_contra hbad
    push Not at hbad
    obtain ⟨hasks, hsend, hdecode⟩ := hbad
    obtain ⟨reply, hreply⟩ := hreturns.mpr ⟨hsend, hdecode⟩
    have htakes := h.takes reply hreply
    rw [hnode, hinactive] at htakes
    exact hasks htakes.symm
  · rintro (rfl | hraises)
    · refine ⟨fun reply _ => ?_, fun reply _ hasks => absurd hasks Bool.false_ne_true⟩
      rw [hnode, hinactive]
    · have hnot : ∀ reply, (callOverride diagnostic rejects ip port enabled b).1 ≠ .ok reply := by
        intro reply hreply
        obtain ⟨hsend, hdecode⟩ := hreturns.mp ⟨reply, hreply⟩
        exact hraises.elim (fun h => h hsend) hdecode
      exact ⟨fun reply hreply => absurd hreply (hnot reply),
        fun reply hreply => absurd hreply (hnot reply)⟩

/-- A battery that has locked itself at 9.6 of 10 kWh: the call returns, the override is still off,
and the next charge is refused with 4.03. -/
theorem bypass_is_not_taken :
    let diagnostic : Code → Bytes := fun _ => []
    let b := run (serveStep diagnostic) (boot 10 5) [⟨.put, "actuators/battery", ascii "4.6"⟩]
    ¬ BypassWorks diagnostic (fun _ => false) (.str (text "fd00::212:4b00:1:1")) 5683 true b ∧
      (serve diagnostic
        (callOverride diagnostic (fun _ => false) (.str (text "fd00::212:4b00:1:1")) 5683 true b).2
        ⟨.put, "actuators/battery", ascii "0.1"⟩).1 =
          some ⟨.forbidden, ascii "charging_locked"⟩ := by
  intro diagnostic b
  have hinactive : b.override_active = false := override_inactive diagnostic 10 5 _
  refine ⟨fun h => ?_, by decide +kernel⟩
  obtain ⟨reply, hreply⟩ := (callOverride_returns_iff diagnostic (fun _ => false)
    (.str (text "fd00::212:4b00:1:1")) 5683 true b).mpr ⟨⟨_, rfl, rfl⟩, by decide⟩
  have htakes := h.takes reply hreply
  rw [callOverride_eq, hinactive] at htakes
  cases htakes

end EnergyStation.Firmware.Battery
