import EnergyStation.Cloud.Outcomes
import EnergyStation.Firmware.ProtectiveShutdown
import EnergyStation.System.LedCommands
import EnergyStation.System.Requests

/-!
# What an operator asks for

An operator sends JSON to `actuators/leds` or `actuators/status` of the cloud, which passes the
command on to the node that it names. `Asks` says what a body asks for, without the steps of the
handlers, and `operators_are_obeyed` that over every run of a fleet exactly what is asked of a
registered node is sent, to this node, and that the node does it and stays so until it is told
otherwise.
-/

namespace EnergyStation.System.Operators

open Cloud CStdlib Firmware Firmware.Leds LedCommands Members Numeral Python Requests Runs Telemetry

/-- What an operator can ask of a node. -/
inductive Ask where
  /-- The LED is to be on, or off. -/
  | light (led : Led) (on : Bool)
  /-- The device is to be on, or off. -/
  | power (on : Bool)

/-- The PUT request to the node. -/
def Ask.request (d : Device) : Ask → PutRequest
  | .light led on =>
    ⟨⟨true, .str d.ip, 5683, "actuators/leds?color=" ++ letterString led⟩, ascii "mode" ++
      61 :: modeWord on⟩
  | .power on => ⟨⟨true, .str d.ip, 5683, "actuators/status"⟩, Producer.statusBody on⟩

/-- The fields of a body that name what is asked for. -/
def Ask.NamedBy (payload : Obj) : Ask → Prop
  | .light led on => NamesLed (payload.get "color") led ∧ NamesMode (payload.get "mode") on
  | .power on => NamesMode (payload.get "status") on

variable {ι : Type*}

/-- The body asks it of the node: it is a JSON object that names the node and what is asked for. -/
def Asks (F : Fleet ι) (py : Interp) (body : Bytes) (i : ι) (ask : Ask) : Prop :=
  ∃ payload, loadObject py body = .ok payload ∧ payload.get "node_id" = .str (F.device i).nodeId ∧
    ask.NamedBy payload

/-- It is asked of a registered node, to which a request can be sent. -/
structure Asked (F : Fleet ι) (py : Interp) (rejects : Uri → Bool) (registry : Registry)
    (body : Bytes) (i : ι) (ask : Ask) : Prop where
  /-- The body asks for it. -/
  asks : Asks F py body i ask
  /-- The node is registered. -/
  registered : (registry.nodes.get? (F.key i)).isSome = true
  /-- The library makes the URI. -/
  accepted : rejects (ask.request (F.device i)).uri = false

/-- The request that a prepared handler sends. -/
def sent (rejects : Uri → Bool) : Except Early (Cloud.Command × Val × ℤ) → Option PutRequest
  | .ok (command, ip, port) => (command.request rejects ip port).toOption
  | .error _ => none

/-- A producer that handles the request does what is asked for, without an error, and stays so until
it is told otherwise. A device that is on shuts down after an anomaly. -/
def CarriesOut (V : Variables) (request : PutRequest) : Ask → Prop
  | .light led on =>
    (∀ leds, (ResLeds.resPostPutHandler (V.queryVariable request.uri (ascii "color"))
      (V.postVariable request.payload (ascii "mode")) leds).1 = none) ∧
    ∀ pre mid leds, (∀ r ∈ mid, ∀ c, Leds.Commands r c → c.led ≠ led) →
      run Leds.step leds (pre ++ V.delivered request :: mid) led = on
  | .power on => ∀ cfg : ProducerBuild,
    (∀ p : Producer, (p.resPutHandler cfg request.payload).1.code = .changed) ∧
    ∀ pre mid, (∀ e ∈ mid, e.command ≠ some !on) →
      let p := run (WarmUp.step cfg) (Producer.boot cfg) (pre ++ .put request.payload :: mid)
      if on then (∀ e ∈ mid, e ≠ .publish true) → p.device_on = true ∨ p.device_starting = true
      else p.device_on = false

/-- What becomes of what operators send. -/
structure Operated (F : Fleet ι) (py : Interp) (rejects : Uri → Bool) (V : Variables)
    (registry : Registry) (body : Bytes) : Prop where
  /-- The LED endpoint sends exactly what is asked of a registered node. -/
  led : ∀ T request, sent rejects (LedControlResource.prepare py T registry body) = some request ↔
    ∃ i led on, Asked F py rejects registry body i (.light led on) ∧
      request = (Ask.light led on).request (F.device i)
  /-- So does the status endpoint. -/
  status : ∀ T request,
    sent rejects (StatusControlResource.prepare py T registry body) = some request ↔
    ∃ i on, Asked F py rejects registry body i (.power on) ∧
      request = (Ask.power on).request (F.device i)
  /-- A body asks something of one node at most. -/
  unique : ∀ i j ask ask', Asks F py body i ask → Asks F py body j ask' → i = j
  /-- A producer does what it is asked for. -/
  done : ∀ i ask, CarriesOut V (ask.request (F.device i)) ask

section

variable {F : Fleet ι} {py : Interp} {rejects : Uri → Bool}

/-- A text names something only where it is not empty. -/
theorem truthy_of_lowerStr {v : Val} {s : Str} (h : lowerStr v = .ok s) (hne : s ≠ []) :
    truthy v = true := by
  rcases lowerStr_cases v with ⟨w, rfl⟩ | ⟨-, herror⟩
  · refine decide_eq_true ?_
    rintro rfl
    exact hne (Except.ok.inj h).symm
  · rw [herror] at h
    cases h

/-- The letters are those of different LEDs. -/
theorem letterString_injective : Function.Injective letterString := by
  intro led led'
  cases led <;> cases led' <;> decide

/-- A color names an LED exactly if `COLOR_MAP` has its letter for it. -/
theorem namesLed_iff {color : Val} {led : Led} :
    NamesLed color led ↔ ∃ s, lowerStr color = .ok s ∧ colorCode s = some (letterString led) := by
  constructor
  · rintro ⟨name, hname, hcolor⟩
    refine ⟨_, hcolor, ?_⟩
    have hall : ∀ led, ∀ name ∈ ledNames led, colorCode (text name) = some (letterString led) := by
      intro led
      cases led <;> decide
    exact hall led name hname
  · rintro ⟨s, hs, hcode⟩
    obtain ⟨led', hled', hletter⟩ := namesLed_of_colorCode hs hcode
    rwa [letterString_injective hletter]

/-- A color names one LED at most. -/
theorem namesLed_unique {color : Val} {led led' : Led} (h : NamesLed color led)
    (h' : NamesLed color led') : led = led' := by
  obtain ⟨s, hs, hcode⟩ := namesLed_iff.mp h
  obtain ⟨s', hs', hcode'⟩ := namesLed_iff.mp h'
  obtain rfl := Except.ok.inj (hs.symm.trans hs')
  exact letterString_injective (Option.some.inj (hcode.symm.trans hcode'))

/-- A mode is one of the two words. -/
theorem namesMode_unique {mode : Val} {on on' : Bool} (h : NamesMode mode on)
    (h' : NamesMode mode on') : on = on' := by
  have hwords : ∀ on on' : Bool, text (if on then "on" else "off") =
      text (if on' then "on" else "off") →
      on = on' := by decide
  exact hwords on on' (Except.ok.inj (h.symm.trans h'))

/-- A mode is one of the two words exactly if `isOnOff` has it. -/
theorem namesMode_iff {mode : Val} {on : Bool} :
    NamesMode mode on ↔ ∃ s, lowerStr mode = .ok s ∧ isOnOff s = true ∧
      s = text (if on then "on" else "off") := by
  constructor
  · intro h
    refine ⟨_, h, ?_, rfl⟩
    cases on <;> decide
  · rintro ⟨s, hs, -, rfl⟩
    exact hs

/-- In a registry that holds what the nodes of a fleet have registered, the lookup finds a node by
its identifier, at its address. -/
theorem lookup_iff {s : State ι} (hs : Sound F s) {T : Texts} {node_id : Val} {address : Val × ℤ} :
    lookup py T s.cloud.registry node_id = .ok address ↔
      ∃ i, node_id = .str (F.device i).nodeId ∧
        (s.cloud.registry.nodes.get? (F.key i)).isSome = true ∧
        address = (.str (F.device i).ip, 5683) := by
  have hfound : ∀ i node, s.cloud.registry.nodes.get? (F.key i) = some node →
      nodeAddress py node.info = .ok (.str (F.device i).ip, 5683) := by
    intro i node hnode
    obtain ⟨j, hkey, hstored⟩ := hs.stored _ _ hnode
    rw [F.key_injective hkey]
    exact nodeAddress_of_storedOf hstored
  constructor
  · intro h
    by_cases hhash : hashable node_id = true
    · obtain ⟨k, hk⟩ := (hashable_iff node_id).mp hhash
      rw [lookup_eq hk] at h
      rcases hnode : s.cloud.registry.nodes.get? k with _ | node
      · rw [hnode] at h
        cases h
      · obtain ⟨i, rfl, -⟩ := hs.stored k node hnode
        rw [hnode] at h
        simp only [hfound i node hnode] at h
        refine ⟨i, ?_, by rw [hnode]; rfl, (Except.ok.inj h).symm⟩
        -- Only a string has the key of a string.
        cases node_id <;> cases hk
        rfl
    · rw [lookup_of_not_hashable (Bool.eq_false_iff.mpr hhash)] at h
      cases h
  · rintro ⟨i, rfl, hregistered, rfl⟩
    obtain ⟨node, hnode⟩ := Option.isSome_iff_exists.mp hregistered
    rw [lookup_eq (k := F.key i) rfl, hnode]
    simp only [hfound i node hnode]
    rfl

/-- A PUT request to a node is made unless the library refuses its URI. -/
theorem putRequest_iff {i : ι} {path : String} {payload : Bytes} {request : PutRequest} :
    putRequest rejects (.str (F.device i).ip) 5683 path payload = .ok request ↔
      rejects ⟨true, .str (F.device i).ip, 5683, path⟩ = false ∧
        request = ⟨⟨true, .str (F.device i).ip, 5683, path⟩, payload⟩ := by
  rw [putRequest, makeUri_ip]
  simp only [Except.bind]
  split_ifs with hrejects
  · exact iff_of_false (fun h => by cases h) fun h => by rw [hrejects] at h; cases h.1
  · rw [Except.ok.injEq]
    exact ⟨fun h => ⟨Bool.eq_false_iff.mpr hrejects, h.symm⟩, fun h => h.2.symm⟩

/-- `set_led` makes a request exactly for the names of an LED and of a mode. -/
theorem setLedRequest_iff {i : ι} {color mode : Val} {request : PutRequest} :
    setLedRequest rejects (.str (F.device i).ip) 5683 color mode = .ok request ↔
      ∃ led on, (NamesLed color led ∧ NamesMode mode on) ∧
        rejects ((Ask.light led on).request (F.device i)).uri = false ∧
        request = (Ask.light led on).request (F.device i) := by
  have hpayload : ∀ on, utf8Encode (text "mode=" ++ text (if on then "on" else "off")) =
      ascii "mode" ++ 61 :: modeWord on := by decide
  constructor
  · intro h
    obtain ⟨s, hs, h⟩ := bind_eq_ok.mp h
    rcases hcode : colorCode s with _ | code
    · rw [hcode] at h
      cases h
    · rw [hcode] at h
      obtain ⟨mode', hmode, h⟩ := bind_eq_ok.mp h
      split_ifs at h with hnot
      rw [Bool.not_eq_true', Bool.not_eq_false] at hnot
      obtain ⟨led, hled, rfl⟩ := namesLed_of_colorCode hs hcode
      obtain ⟨on, hon, rfl⟩ := namesMode_of_isOnOff hmode hnot
      rw [hpayload] at h
      exact ⟨led, on, ⟨hled, hon⟩, putRequest_iff.mp h⟩
  · rintro ⟨led, on, ⟨hled, hon⟩, hrequest⟩
    obtain ⟨s, hs, hcode⟩ := namesLed_iff.mp hled
    obtain ⟨mode', hmode, honOff, rfl⟩ := namesMode_iff.mp hon
    refine bind_eq_ok.mpr ⟨s, hs, ?_⟩
    rw [hcode]
    refine bind_eq_ok.mpr ⟨_, hmode, ?_⟩
    rw [honOff, if_neg (by decide), hpayload]
    exact putRequest_iff.mpr hrequest

/-- `set_status` makes a request exactly for the name of a mode. -/
theorem setStatusRequest_iff {i : ι} {status : Val} {request : PutRequest} :
    setStatusRequest rejects (.str (F.device i).ip) 5683 status = .ok request ↔
      ∃ on, NamesMode status on ∧ rejects ((Ask.power on).request (F.device i)).uri = false ∧
        request = (Ask.power on).request (F.device i) := by
  have hpayload : ∀ on, utf8Encode (text (if on then "on" else "off")) =
      Producer.statusBody on := by decide
  constructor
  · intro h
    obtain ⟨s, hs, h⟩ := bind_eq_ok.mp h
    split_ifs at h with hnot
    rw [Bool.not_eq_true', Bool.not_eq_false] at hnot
    obtain ⟨on, hon, rfl⟩ := namesMode_of_isOnOff hs hnot
    rw [hpayload] at h
    exact ⟨on, hon, putRequest_iff.mp h⟩
  · rintro ⟨on, hon, hrequest⟩
    obtain ⟨s, hs, honOff, rfl⟩ := namesMode_iff.mp hon
    refine bind_eq_ok.mpr ⟨_, hs, ?_⟩
    rw [honOff, if_neg (by decide), hpayload]
    exact putRequest_iff.mpr hrequest

/-- The status of a producer stays on or starting after an `on`, until an `off` or an anomaly. -/
theorem on_run {cfg : ProducerBuild} {p : Producer}
    (hp : p.device_on = true ∨ p.device_starting = true) {es : List WarmUp.Event}
    (hes : ∀ e ∈ es, e.command ≠ some false ∧ e ≠ .publish true) :
    (run (WarmUp.step cfg) p es).device_on = true ∨
    (run (WarmUp.step cfg) p es).device_starting = true := by
  refine run_invariant (I := fun p : Producer => p.device_on = true ∨ p.device_starting = true)
    (C := fun _ e => e.command ≠ some false ∧ e ≠ WarmUp.Event.publish true)
      (fun p e hp he => ?_) hp
    (along_of_forall_mem hes)
  obtain ⟨hoff, hfault⟩ := he
  cases e with
  | put body =>
    have hnot : ¬ hasPrefix (ascii "off") body = true := fun h => hoff (if_pos h)
    rw [WarmUp.step, Producer.resPutHandler_snd, if_neg hnot, Producer.turnOn]
    split_ifs
    · exact .inr rfl
    · exact hp
    · exact .inl rfl
    · exact hp
  | tick => exact hp
  | fire =>
    rw [WarmUp.step, Producer.fire]
    split_ifs
    · exact .inl rfl
    · exact hp
  | publish fault =>
    cases fault with
    | true => exact absurd rfl hfault
    | false =>
      rw [WarmUp.step, Producer.anomalyShutdown, Bool.and_false, if_neg Bool.false_ne_true]
      exact hp

/-- A phase stays `off` until an `on`. -/
theorem off_step {delay : ℕ} {e : WarmUp.Event} (he : e.command ≠ some true) :
    WarmUp.Phase.step delay .off e = .off := by
  cases e with
  | put body =>
    have hbody : WarmUp.commanded body ≠ some true := he
    rw [WarmUp.Phase.step]
    rcases hcommand : WarmUp.commanded body with _ | on
    · rfl
    · cases on with
      | true => exact absurd hcommand hbody
      | false => rfl
  | tick => rfl
  | fire => rfl
  | publish fault => exact if_neg fun h => by cases h.2

/-- A device that an accepted `off` has switched off stays off until an `on`. -/
theorem off_run (cfg : ProducerBuild) (pre : List WarmUp.Event) {off : WarmUp.Event}
    (hoff : off.command = some false) {mid : List WarmUp.Event}
    (hmid : ∀ e ∈ mid, e.command ≠ some true) :
    (run (WarmUp.step cfg) (Producer.boot cfg) (pre ++ off :: mid)).device_on = false := by
  rw [run_append, run_cons]
  by_cases hcfg : 0 < cfg.sensorStartupDelayS
  · rw [ProtectiveShutdown.boot_eq_toProducer, WarmUp.run_toProducer hcfg,
      WarmUp.step_toProducer hcfg,
      WarmUp.step_off hoff, WarmUp.run_toProducer hcfg]
    have hphase : run (WarmUp.Phase.step (WarmUp.warmUpTicks cfg)) .off mid = .off :=
      run_invariant (I := (· = WarmUp.Phase.off)) (C := fun _ e => e.command ≠ some true)
        (fun ph e hph he => by rw [hph, off_step he]) rfl (along_of_forall_mem hmid)
    rw [hphase]
    rfl
  · have htimer : (run (WarmUp.step cfg) (Producer.boot cfg) pre).startup_timer = none :=
      run_invariant' (I := fun p : Producer => p.startup_timer = none)
        (fun p e hp => ProtectiveShutdown.step_no_timer hcfg hp e) rfl pre
    refine ProtectiveShutdown.run_off_stays hcfg ?_
      (ProtectiveShutdown.step_no_timer hcfg htimer off) hmid
    cases off with
    | put body =>
      have hbody : hasPrefix (ascii "off") body = true := by
        by_contra hnot
        change WarmUp.commanded body = some false at hoff
        rw [WarmUp.commanded, if_neg hnot] at hoff
        split_ifs at hoff
        cases hoff
      rw [WarmUp.step, Producer.resPutHandler_snd, if_pos hbody, Producer.turnOff, if_neg hcfg]
    | tick => cases hoff
    | fire => cases hoff
    | publish fault => cases hoff

/-- An `on` switches a device on, or starts it. -/
theorem on_step (cfg : ProducerBuild) (p : Producer) :
    (WarmUp.step cfg p (.put (Producer.statusBody true))).device_on = true ∨
      (WarmUp.step cfg p (.put (Producer.statusBody true))).device_starting = true := by
  by_cases hcfg : 0 < cfg.sensorStartupDelayS
  · exact Producer.resPutHandler_on hcfg p
  · have hoff : ¬ hasPrefix (ascii "off") (Producer.statusBody true) = true := by decide
    have hon : hasPrefix (ascii "on") (Producer.statusBody true) = true := by decide
    rw [WarmUp.step, Producer.resPutHandler_snd, if_neg hoff, if_pos hon, Producer.turnOn,
      if_neg hcfg]
    exact .inl rfl

/-- A producer carries out what it is asked for. -/
theorem carriesOut {V : Variables} (hV : V.Documented) (F : Fleet ι) (i : ι) (ask : Ask) :
    CarriesOut V (ask.request (F.device i)) ask := by
  cases ask with
  | light led on =>
    -- The request is the one that `set_led` makes of the letter and the word.
    have hled : NamesLed (.str (text (letterString led))) led :=
      ⟨letterString led, by cases led <;> decide, by cases led <;> rfl⟩
    have hon : NamesMode (.str (text (if on then "on" else "off"))) on := by cases on <;> rfl
    have hrequest : setLedRequest (fun _ => false) (.str (F.device i).ip) 5683
        (.str (text (letterString led)))
        (.str (text (if on then "on" else "off"))) =
          .ok ((Ask.light led on).request (F.device i)) :=
      setLedRequest_iff.mpr ⟨led, on, ⟨hled, hon⟩, rfl, rfl⟩
    obtain ⟨led', on', hled', hon', hcommands⟩ := commands_delivered hV hrequest
    obtain rfl := namesLed_unique hled hled'
    obtain rfl := namesMode_unique hon hon'
    exact obeyed_of_commands hcommands
  | power on =>
    have hcommand : WarmUp.commanded (Producer.statusBody on) = some on := by cases on <;> decide
    have hpayload : ((Ask.power on).request (F.device i)).payload = Producer.statusBody on := rfl
    intro cfg
    rw [hpayload]
    refine ⟨fun p => (WarmUp.resPutHandler_changed_iff cfg p _).mpr ?_, fun pre mid hmid => ?_⟩
    · rw [hcommand]
      rfl
    · simp only
      cases on with
      | true =>
        rw [if_pos rfl]
        intro hfault
        rw [run_append, run_cons]
        exact on_run (on_step cfg _) fun e he => ⟨hmid e he, hfault e he⟩
      | false =>
        rw [if_neg Bool.false_ne_true]
        have hoff : WarmUp.Event.command (.put (Producer.statusBody false)) = some false := hcommand
        exact off_run cfg pre hoff hmid

/-- What a handler makes of a body, it makes of the object in it. -/
theorem onObject_eq_ok {α : Type} {body : Bytes} {f : Obj → Except Early α} {a : α} :
    ((requestPayload py body).bind fun payload => (raised (asDict payload)).bind f) = .ok a ↔
      ∃ payload, loadObject py body = .ok payload ∧ f payload = .ok a := by
  have hcaught : ∀ {β γ ε : Type} {x : Except β γ} {g : β → ε} {c : γ},
      x.mapError g = .ok c ↔ x = .ok c := by
    intro β γ ε x g c
    rcases x with e | c'
    · exact iff_of_false (fun h => by cases h) fun h => by cases h
    · exact ⟨fun h => by rw [Except.ok.inj h], fun h => by rw [Except.ok.inj h]; rfl⟩
  constructor
  · intro h
    obtain ⟨v, hv, h⟩ := bind_eq_ok.mp h
    obtain ⟨payload, hpayload, h⟩ := bind_eq_ok.mp h
    exact ⟨payload, bind_eq_ok.mpr ⟨v, hcaught.mp hv, hcaught.mp hpayload⟩, h⟩
  · rintro ⟨payload, hpayload, h⟩
    obtain ⟨v, hv, hdict⟩ := bind_eq_ok.mp hpayload
    exact bind_eq_ok.mpr ⟨v, hcaught.mpr hv, bind_eq_ok.mpr ⟨payload, hcaught.mpr hdict, h⟩⟩

/-- A handler sends the request of what it has prepared. -/
theorem sent_eq_some {prepared : Except Early (Cloud.Command × Val × ℤ)} {request : PutRequest} :
    sent rejects prepared = some request ↔
      ∃ command address, prepared = .ok (command, address) ∧
        command.request rejects address.1 address.2 = .ok request := by
  rcases prepared with early | ⟨command, address⟩
  · exact iff_of_false (fun h => by cases h) fun ⟨_, _, h, _⟩ => by cases h
  · constructor
    · intro h
      exact ⟨command, address, rfl, toOption_eq_some.mp h⟩
    · rintro ⟨command', address', hprepared, hrequest⟩
      cases hprepared
      exact toOption_eq_some.mpr hrequest

/-- Identifiers are not empty. -/
theorem truthy_nodeId (i : ι) : truthy (.str (F.device i).nodeId) = true :=
  decide_eq_true (deviceId_ne_nil _)

/-- A name of an LED is not empty. -/
theorem truthy_of_namesLed {color : Val} {led : Led} (h : NamesLed color led) :
    truthy color = true := by
  obtain ⟨name, hname, hcolor⟩ := h
  refine truthy_of_lowerStr hcolor ?_
  have hall : ∀ led, ∀ name ∈ ledNames led, text name ≠ [] := by
    intro led
    cases led <;> decide
  exact hall led name hname

/-- A name of a mode is not empty. -/
theorem truthy_of_namesMode {mode : Val} {on : Bool} (h : NamesMode mode on) : truthy mode = true :=
  truthy_of_lowerStr h (by cases on <;> decide)

/-- The LED endpoint sends what is asked of a registered node. -/
theorem led_sent_iff {s : State ι} (hs : Sound F s) {T : Texts} {body : Bytes}
    {request : PutRequest} :
    sent rejects (LedControlResource.prepare py T s.cloud.registry body) = some request ↔
      ∃ i led on, Asked F py rejects s.cloud.registry body i (.light led on) ∧
        request = (Ask.light led on).request (F.device i) := by
  rw [sent_eq_some]
  constructor
  · rintro ⟨command, address, hprepared, hrequest⟩
    obtain ⟨payload, hload, h⟩ := onObject_eq_ok.mp hprepared
    simp only at h
    split_ifs at h
    obtain ⟨address', hlookup, h⟩ := map_eq_ok.mp h
    cases h
    obtain ⟨i, hid, hregistered, rfl⟩ := (lookup_iff hs).mp hlookup
    obtain ⟨led, on, hnamed, haccepted, rfl⟩ := setLedRequest_iff.mp hrequest
    exact ⟨i, led, on, ⟨⟨payload, hload, hid, hnamed⟩, hregistered, haccepted⟩, rfl⟩
  · rintro ⟨i, led, on, ⟨⟨payload, hload, hid, hnamed⟩, hregistered, haccepted⟩, rfl⟩
    refine ⟨.setLed (payload.get "color") (payload.get "mode"), (.str (F.device i).ip, 5683), ?_,
      setLedRequest_iff.mpr ⟨led, on, hnamed, haccepted, rfl⟩⟩
    refine onObject_eq_ok.mpr ⟨payload, hload, ?_⟩
    have htruthy : ¬ (!truthy (payload.get "node_id") || !truthy (payload.get "color") ||
        !truthy (payload.get "mode")) = true := by
      rw [hid, truthy_nodeId, truthy_of_namesLed hnamed.1, truthy_of_namesMode hnamed.2]
      exact Bool.false_ne_true
    simp only
    rw [if_neg htruthy]
    exact map_eq_ok.mpr ⟨_, (lookup_iff hs).mpr ⟨i, hid, hregistered, rfl⟩, rfl⟩

/-- The status endpoint sends what is asked of a registered node. -/
theorem status_sent_iff {s : State ι} (hs : Sound F s) {T : Texts} {body : Bytes}
    {request : PutRequest} :
    sent rejects (StatusControlResource.prepare py T s.cloud.registry body) = some request ↔
      ∃ i on, Asked F py rejects s.cloud.registry body i (.power on) ∧
        request = (Ask.power on).request (F.device i) := by
  rw [sent_eq_some]
  constructor
  · rintro ⟨command, address, hprepared, hrequest⟩
    obtain ⟨payload, hload, h⟩ := onObject_eq_ok.mp hprepared
    simp only at h
    split_ifs at h
    obtain ⟨status_val, -, h⟩ := bind_eq_ok.mp h
    split_ifs at h
    obtain ⟨address', hlookup, h⟩ := map_eq_ok.mp h
    cases h
    obtain ⟨i, hid, hregistered, rfl⟩ := (lookup_iff hs).mp hlookup
    obtain ⟨on, hnamed, haccepted, rfl⟩ := setStatusRequest_iff.mp hrequest
    exact ⟨i, on, ⟨⟨payload, hload, hid, hnamed⟩, hregistered, haccepted⟩, rfl⟩
  · rintro ⟨i, on, ⟨⟨payload, hload, hid, hnamed⟩, hregistered, haccepted⟩, rfl⟩
    refine ⟨.setStatus (payload.get "status"), (.str (F.device i).ip, 5683), ?_,
      setStatusRequest_iff.mpr ⟨on, hnamed, haccepted, rfl⟩⟩
    refine onObject_eq_ok.mpr ⟨payload, hload, ?_⟩
    have htruthy :
        ¬ (!truthy (payload.get "node_id") || !truthy (payload.get "status")) = true := by
      rw [hid, truthy_nodeId, truthy_of_namesMode hnamed]
      exact Bool.false_ne_true
    obtain ⟨status_val, hstatus, hword, -⟩ := namesMode_iff.mp hnamed
    simp only
    rw [if_neg htruthy]
    refine bind_eq_ok.mpr ⟨status_val, by rw [hstatus]; rfl, ?_⟩
    rw [hword, if_neg (by decide)]
    exact map_eq_ok.mpr ⟨_, (lookup_iff hs).mpr ⟨i, hid, hregistered, rfl⟩, rfl⟩

/-- A body names one node at most. -/
theorem asks_unique {body : Bytes} {i j : ι} {ask ask' : Ask} (h : Asks F py body i ask)
    (h' : Asks F py body j ask') : i = j := by
  obtain ⟨payload, hload, hid, -⟩ := h
  obtain ⟨payload', hload', hid', -⟩ := h'
  obtain rfl := Except.ok.inj (hload.symm.trans hload')
  exact F.nodeId_injective (Val.str.inj (hid.symm.trans hid'))

/-- Over every run of a fleet, what the two endpoints send is exactly what is asked of registered
nodes, each request goes to the node that the body names, and a producer does what it is asked
for. -/
theorem operators_are_obeyed [DecidableEq ι] (hdepth : 0 < py.recursionLimit) {V : Variables}
    (hV : V.Documented) (F : Fleet ι) (p : Platform) (rejects : Uri → Bool) (es : List (Event ι))
    (body : Bytes) :
    Operated F py rejects V (run (Members.step F p py rejects) (Members.boot p) es).cloud.registry
      body where
  led _ _ := led_sent_iff (sound_run hdepth es)
  status _ _ := status_sent_iff (sound_run hdepth es)
  unique _ _ _ _ := asks_unique
  done := carriesOut hV F

end

/-- The body that switches the solar node off. -/
def switchOff : Bytes := ascii "\x7b\"node_id\":\"prod_solar_0505\",\"status\":\"Off\"\x7d"

/-- Encoders of texts without lone surrogates. -/
def texts : Texts := ⟨fun _ => .ok [], fun _ => .ok [], fun _ => .ok []⟩

/-- The request is sent after both nodes have registered, and obeyed. -/
theorem operators_are_obeyed_pair :
    (sent (fun _ => false)
        (StatusControlResource.prepare .cpython texts pairRegistry switchOff)).isSome = true ∧
      Operated pair .cpython (fun _ => false) soleVariables pairRegistry switchOff :=
  ⟨by decide +kernel,
    operators_are_obeyed (by decide) soleVariables_documented pair ⟨128, by decide⟩
      (fun _ => false) pairRun
      switchOff⟩

end EnergyStation.System.Operators
