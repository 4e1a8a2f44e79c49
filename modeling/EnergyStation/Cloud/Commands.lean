import EnergyStation.Cloud.Balance
import EnergyStation.Python.Utf8

/-!
# The commands to the nodes

The five operations of `coap_client.py` that change a node. Each checks its arguments, builds a PUT
request, awaits the response and makes its result of it. They are given in these parts: the request,
and the whole operation for the response, or for the exception that takes its place. The context of
the client is set before any task starts.
-/

namespace EnergyStation.Cloud

open CStdlib Numeral Python

/-- A PUT request. -/
structure PutRequest where
  /-- The URI. -/
  uri : Uri
  /-- The payload. -/
  payload : Bytes

/-- `_make_uri`, and `aiocoap.Message(code=aiocoap.PUT, uri=uri, payload=payload)`. -/
def putRequest (rejects : Uri → Bool) (ip : Val) (port : ℤ) (path : String) (payload : Bytes) :
    Except Exc PutRequest :=
  (makeUri ip port path).bind fun uri =>
    if rejects uri then .error .external else .ok ⟨uri, payload⟩

/-- A URI that cannot be built raises no `ValueError`. -/
theorem putRequest_error {rejects : Uri → Bool} {ip : Val} {port : ℤ} {path : String}
    {payload : Bytes} {e : Exc} (h : putRequest rejects ip port path payload = .error e) :
    e.isValueError = false := by
  unfold putRequest makeUri at h
  rcases ip with _ | _ | _ | _ | s | l | items
  · cases h
    rfl
  · cases h
    rfl
  · cases h
    rfl
  · cases h
    rfl
  · simp only [Except.bind] at h
    split_ifs at h
    cases h
    rfl
  · simp only [Except.bind] at h
    split_ifs at h
    · cases h
      rfl
    · simp only at h
      split_ifs at h
      cases h
      rfl
  · simp only [Except.bind] at h
    split_ifs at h
    · cases h
      rfl
    · simp only at h
      split_ifs at h
      cases h
      rfl

/-- The words `on` and `off`. -/
def isOnOff (s : Str) : Bool := s == text "on" || s == text "off"

/-- `COLOR_MAP` -/
def colorMap : List (String × String) :=
  [("red", "r"), ("green", "g"), ("blue", "b"), ("r", "r"), ("g", "g"), ("b", "b")]

/-- `COLOR_MAP.get(color)` -/
def colorCode (color : Str) : Option String :=
  (colorMap.find? fun p => text p.1 == color).map Prod.snd

/-- The request of `set_led`. -/
def setLedRequest (rejects : Uri → Bool) (ip : Val) (port : ℤ) (color mode : Val) :
    Except Exc PutRequest :=
  (lowerStr color).bind fun color =>
    match colorCode color with
    | none => .error .valueError
    | some color_code =>
      (lowerStr mode).bind fun mode =>
        if !isOnOff mode then .error .valueError
        else putRequest rejects ip port ("actuators/leds?color=" ++ color_code)
          (utf8Encode (text "mode=" ++ mode))

/-- The request of `set_status`. -/
def setStatusRequest (rejects : Uri → Bool) (ip : Val) (port : ℤ) (status : Val) :
    Except Exc PutRequest :=
  (lowerStr status).bind fun status_val =>
    if !isOnOff status_val then .error .valueError
    else putRequest rejects ip port "actuators/status" (utf8Encode status_val)

/-- The request of `set_battery_override`. -/
def setBatteryOverrideRequest (rejects : Uri → Bool) (ip : Val) (port : ℤ) (enabled : Bool) :
    Except Exc PutRequest :=
  putRequest rejects ip port "actuators/battery/override"
    (if enabled then ascii "on" else ascii "off")

/-- The request of `adjust_battery`. -/
def adjustBatteryRequest (rejects : Uri → Bool) (ip : Val) (port : ℤ) (delta_kwh : ExtRat) :
    Except Exc PutRequest :=
  putRequest rejects ip port "actuators/battery" (adjustBatteryBody delta_kwh)

/-- The request of `set_sampling_interval`. -/
def setSamplingIntervalRequest (rejects : Uri → Bool) (ip : Val) (port : ℤ) (interval_ms : ℤ) :
    Except Exc PutRequest :=
  (samplingBody interval_ms).bind fun payload =>
    putRequest rejects ip port "actuators/sampling" payload

/-- `set_led`, whose result is the reply whatever its code. -/
def setLed (rejects : Uri → Bool) (ip : Val) (port : ℤ) (color mode : Val)
    (answer : Except Exc Response) : Except Exc Str :=
  (setLedRequest rejects ip port color mode).bind fun _ => answer.bind replyText

/-- `set_status`, whose result is the reply whatever its code. -/
def setStatus (rejects : Uri → Bool) (ip : Val) (port : ℤ) (status : Val)
    (answer : Except Exc Response) : Except Exc Str :=
  (setStatusRequest rejects ip port status).bind fun _ => answer.bind replyText

/-- `set_battery_override`, whose result is the reply whatever its code. -/
def setBatteryOverride (rejects : Uri → Bool) (ip : Val) (port : ℤ) (enabled : Bool)
    (answer : Except Exc Response) : Except Exc Str :=
  (setBatteryOverrideRequest rejects ip port enabled).bind fun _ => answer.bind replyText

/-- `adjust_battery`, which raises for a code that is not a success. -/
def adjustBattery (rejects : Uri → Bool) (ip : Val) (port : ℤ) (delta_kwh : ExtRat)
    (answer : Except Exc Response) : Except Exc Str :=
  (adjustBatteryRequest rejects ip port delta_kwh).bind fun _ =>
    answer.bind fun response =>
      (replyText response).bind fun reply =>
        -- `BatteryChargeLockedError`
        if response.code = .forbidden then .error .external
        else if !response.code.isSuccessful then .error .external
        else .ok reply

/-- `set_sampling_interval`, which raises for a code that is not a success. -/
def setSamplingInterval (rejects : Uri → Bool) (ip : Val) (port : ℤ) (interval_ms : ℤ)
    (answer : Except Exc Response) : Except Exc Str :=
  (setSamplingIntervalRequest rejects ip port interval_ms).bind fun _ =>
    answer.bind fun response =>
      (replyText response).bind fun reply =>
        if !response.code.isSuccessful then .error .external else .ok reply

/-- One of the five operations, with its arguments. -/
inductive Command where
  /-- `set_led` -/
  | setLed (color mode : Val)
  /-- `set_status` -/
  | setStatus (status : Val)
  /-- `set_battery_override` -/
  | setBatteryOverride (enabled : Bool)
  /-- `adjust_battery` -/
  | adjustBattery (delta_kwh : ExtRat)
  /-- `set_sampling_interval` -/
  | setSamplingInterval (interval_ms : ℤ)

namespace Command

/-- The request of the operation. -/
def request (rejects : Uri → Bool) (ip : Val) (port : ℤ) : Command → Except Exc PutRequest
  | setLed color mode => setLedRequest rejects ip port color mode
  | setStatus status => setStatusRequest rejects ip port status
  | setBatteryOverride enabled => setBatteryOverrideRequest rejects ip port enabled
  | adjustBattery delta_kwh => adjustBatteryRequest rejects ip port delta_kwh
  | setSamplingInterval interval_ms => setSamplingIntervalRequest rejects ip port interval_ms

/-- The operation. -/
def perform (rejects : Uri → Bool) (ip : Val) (port : ℤ) (command : Command)
    (answer : Except Exc Response) : Except Exc Str :=
  match command with
  | setLed color mode => Cloud.setLed rejects ip port color mode answer
  | setStatus status => Cloud.setStatus rejects ip port status answer
  | setBatteryOverride enabled => Cloud.setBatteryOverride rejects ip port enabled answer
  | adjustBattery delta_kwh => Cloud.adjustBattery rejects ip port delta_kwh answer
  | setSamplingInterval interval_ms => Cloud.setSamplingInterval rejects ip port interval_ms answer

/-- The operation looks at the code of the response. -/
def checksCode : Command → Bool
  | setLed .. => false
  | setStatus .. => false
  | setBatteryOverride .. => false
  | adjustBattery .. => true
  | setSamplingInterval .. => true

/-- A request that is answered gives what is made of the answer, where it can be sent. -/
theorem bind_answer_eq_ok {request : Except Exc PutRequest} {response : Response}
    {f : Response → Except Exc Str} {reply : Str} :
    (request.bind fun _ => (Except.ok response).bind f) = .ok reply ↔
      (∃ sent, request = .ok sent) ∧ f response = .ok reply := by
  rw [bind_eq_ok, ← exists_and_right]
  rfl

/-- A request that is not answered gives no result. -/
theorem bind_error_ne_ok {request : Except Exc PutRequest} {e : Exc}
    {f : Response → Except Exc Str} {reply : Str} :
    (request.bind fun _ => (Except.error e).bind f) ≠ .ok reply := by
  intro h
  obtain ⟨sent, -, h⟩ := bind_eq_ok.mp h
  cases h

/-- A reply is text where it decodes. -/
theorem replyText_eq_ok {response : Response} {reply : Str} :
    replyText response = .ok reply ↔ utf8Decode response.payload = some reply := by
  unfold replyText
  rcases utf8Decode response.payload with _ | s
  · simp
  · simp

/-- An operation returns the reply where its request can be sent and the reply is text, and those
that check the code do so for a success only. -/
theorem perform_eq_ok_iff (rejects : Uri → Bool) (ip : Val) (port : ℤ) (command : Command)
    (response : Response) (reply : Str) :
    command.perform rejects ip port (.ok response) = .ok reply ↔
      (∃ sent, command.request rejects ip port = .ok sent) ∧
        utf8Decode response.payload = some reply ∧
        (command.checksCode = true → response.code.isSuccessful = true) := by
  rcases command with ⟨color, mode⟩ | status | enabled | delta_kwh | interval_ms
  · rw [perform, Cloud.setLed, bind_answer_eq_ok, replyText_eq_ok]
    simp [request, checksCode]
  · rw [perform, Cloud.setStatus, bind_answer_eq_ok, replyText_eq_ok]
    simp [request, checksCode]
  · rw [perform, Cloud.setBatteryOverride, bind_answer_eq_ok, replyText_eq_ok]
    simp [request, checksCode]
  · rw [perform, Cloud.adjustBattery, bind_answer_eq_ok, bind_eq_ok]
    simp only [replyText_eq_ok, request, checksCode, forall_const]
    refine and_congr_right fun _ => ?_
    constructor
    · rintro ⟨s, hs, h⟩
      split_ifs at h with hforbidden hfailed
      rw [← Except.ok.inj h]
      exact ⟨hs, by simpa using hfailed⟩
    · rintro ⟨hs, hcode⟩
      -- A refusal of the charge is no success.
      have hforbidden : response.code ≠ .forbidden := by
        intro h
        rw [h] at hcode
        exact Bool.false_ne_true hcode
      exact ⟨reply, hs, by simp [hforbidden, hcode]⟩
  · rw [perform, Cloud.setSamplingInterval, bind_answer_eq_ok, bind_eq_ok]
    simp only [replyText_eq_ok, request, checksCode, forall_const]
    refine and_congr_right fun _ => ?_
    constructor
    · rintro ⟨s, hs, h⟩
      split_ifs at h with hfailed
      rw [← Except.ok.inj h]
      exact ⟨hs, by simpa using hfailed⟩
    · rintro ⟨hs, hcode⟩
      exact ⟨reply, hs, by simp [hcode]⟩

/-- No operation returns without a response. -/
theorem perform_error_ne_ok (rejects : Uri → Bool) (ip : Val) (port : ℤ) (command : Command)
    (e : Exc) (reply : Str) : command.perform rejects ip port (.error e) ≠ .ok reply := by
  rcases command with ⟨color, mode⟩ | status | enabled | delta_kwh | interval_ms
  · exact bind_error_ne_ok
  · exact bind_error_ne_ok
  · exact bind_error_ne_ok
  · exact bind_error_ne_ok
  · exact bind_error_ne_ok

/-- An operation whose request cannot be made raises the same exception. -/
theorem perform_of_request_error {rejects : Uri → Bool} {ip : Val} {port : ℤ} {command : Command}
    {e : Exc} (h : command.request rejects ip port = .error e) (answer : Except Exc Response) :
    command.perform rejects ip port answer = .error e := by
  rcases command with ⟨color, mode⟩ | status | enabled | delta_kwh | interval_ms
  · rw [perform, Cloud.setLed, show setLedRequest rejects ip port color mode = .error e from h]
    rfl
  · rw [perform, Cloud.setStatus, show setStatusRequest rejects ip port status = .error e from h]
    rfl
  · rw [perform, Cloud.setBatteryOverride,
      show setBatteryOverrideRequest rejects ip port enabled = .error e from h]
    rfl
  · rw [perform, Cloud.adjustBattery,
      show adjustBatteryRequest rejects ip port delta_kwh = .error e from h]
    rfl
  · rw [perform, Cloud.setSamplingInterval,
      show setSamplingIntervalRequest rejects ip port interval_ms = .error e from h]
    rfl

end Command

end EnergyStation.Cloud
