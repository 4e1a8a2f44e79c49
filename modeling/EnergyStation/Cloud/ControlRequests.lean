import EnergyStation.Cloud.Outcomes

/-!
# The requests of the control endpoints

A command is well formed if its payload is a JSON object whose required fields are strings. The two
endpoints check that the payload is JSON and that the fields are there, and then use them as
strings. A value of another type, a text that cannot be encoded, or a node without an address ends a
handler with an exception or with the wrong answer. `handle_clean_iff` says for which requests each
of the endpoints does what it is for.
-/

namespace EnergyStation.Cloud.ControlRequests

open CStdlib Numeral Outcomes Python

/-- The texts that the interpreter and the libraries make, which have no lone surrogates. -/
structure Messages where
  /-- `str(value)`, for a value that is no string. -/
  ofVal : Val → Str
  /-- `str(e)`, for an exception that is not raised by this repository. -/
  ofExc : Exc → Str
  /-- A number and `None` are written in ASCII. -/
  ofVal_encodable : ∀ v, hashable v = true → encodable (ofVal v) = true
  /-- So are the messages of the exceptions. -/
  ofExc_encodable : ∀ e, encodable (ofExc e) = true

/-- `f"{value}"`. -/
def Messages.format (m : Messages) : Val → Str
  | .str s => s
  | v => m.ofVal v

/-- The word in a command that `set_led` refuses: a color that it does not know, or a mode that it
does not know after a color that it does. -/
def refusedWord (payload : Obj) : Option Str :=
  match payload.get "color" with
  | .str color =>
    if colorCode (color.map lowerAscii) = none then some color
    else
      match payload.get "mode" with
      | .str mode => if isOnOff (mode.map lowerAscii) then none else some mode
      | _ => none
  | _ => none

/-- The message of the `ValueError` that `set_led` raises for its arguments, if it raises one. -/
def ledRejection (payload : Obj) : Option Str :=
  match payload.get "color" with
  | .str color =>
    if colorCode (color.map lowerAscii) = none then
      some (text "Invalid color '" ++ color ++ text "'. Use: red / green / blue")
    else
      match payload.get "mode" with
      | .str mode =>
        if isOnOff (mode.map lowerAscii) then none
        else some (text "Invalid mode '" ++ mode ++ text "'. Use: on / off")
      | _ => none
  | _ => none

/-- The message of the `ValueError` that `set_status` raises for its argument, if it raises one. -/
def statusRejection (payload : Obj) : Option Str :=
  match payload.get "status" with
  | .str status =>
    if isOnOff (status.map lowerAscii) then none
    else some (text "Invalid status '" ++ status ++ text "'. Use: on / off")
  | _ => none

/-- The texts of a handler, for the message of its operation's `ValueError`. -/
def texts (m : Messages) (rejection : Option Str) : Texts where
  notRegistered node_id := encode (text "Node '" ++ m.format node_id ++ text "' not registered")
  ofError e := encode (rejection.getD (m.ofExc e))
  unreachable e := encode (text "Could not reach node: " ++ m.ofExc e)

/-- The object in a request, and an empty one where there is none. -/
def payloadOf (py : Interp) (body : Bytes) : Obj := (loadObject py body).toOption.getD []

/-- The texts of a request to `LedControlResource`. -/
def ledTexts (py : Interp) (m : Messages) (body : Bytes) : Texts :=
  texts m (ledRejection (payloadOf py body))

/-- The texts of a request to `StatusControlResource`. -/
def statusTexts (py : Interp) (m : Messages) (body : Bytes) : Texts :=
  texts m (statusRejection (payloadOf py body))

/-- What an endpoint requires: its fields, and the admissible values of those that are words. -/
structure Endpoint where
  /-- The required fields. -/
  fields : List String
  /-- The words are among those that the operation knows. -/
  Admissible : Obj → Prop

/-- `LedControlResource` -/
def led : Endpoint where
  fields := ["node_id", "color", "mode"]
  Admissible payload := ∃ color mode, payload.get "color" = .str color ∧
    payload.get "mode" = .str mode ∧ colorCode (color.map lowerAscii) ≠ none ∧
    isOnOff (mode.map lowerAscii) = true

/-- `StatusControlResource` -/
def status : Endpoint where
  fields := ["node_id", "status"]
  Admissible payload := ∃ status, payload.get "status" = .str status ∧
    isOnOff (status.map lowerAscii) = true

/-- The required fields are strings. -/
def Endpoint.Strings (endpoint : Endpoint) (payload : Obj) : Prop :=
  ∀ name ∈ endpoint.fields, ∃ s, payload.get name = .str s

/-- The body is an object with the required fields as strings. -/
def Endpoint.WellFormed (endpoint : Endpoint) (py : Interp) (body : Bytes) (payload : Obj) : Prop :=
  loadObject py body = .ok payload ∧ endpoint.Strings payload

/-- The command names a registered node. -/
def Registered (registry : Registry) (payload : Obj) : Prop :=
  ∃ id node, payload.get "node_id" = .str id ∧ registry.nodes.get? (.str id) = some node

/-- The handler returns a response with one of the codes. -/
def Answers (handled : Except Exc Response) (codes : List Code) : Prop :=
  ∃ r, handled = .ok r ∧ r.code ∈ codes

/-- What an endpoint is for: it answers every request, refuses what is no command for a registered
node and sends nothing then, and forwards the other commands. -/
structure Clean (endpoint : Endpoint) (py : Interp) (rejects : Uri → Bool) (registry : Registry)
    (body : Bytes) (prepared : Except Early (Command × Val × ℤ)) (handled : Except Exc Response) :
    Prop where
  /-- The handler does not raise. -/
  returns : ∃ r, handled = .ok r
  /-- What is no command is answered 4.00. -/
  malformed : (¬ ∃ payload, endpoint.WellFormed py body payload) →
    Answers handled [.badRequest] ∧ ¬ Forwards rejects prepared
  /-- A command with another word, or for a node that is not registered, is answered 4.00 or
  4.04. -/
  refused : ∀ payload, endpoint.WellFormed py body payload →
    ¬ endpoint.Admissible payload ∨ ¬ Registered registry payload →
    Answers handled [.badRequest, .notFound] ∧ ¬ Forwards rejects prepared
  /-- Any other command is forwarded, and answered by its outcome. -/
  answered : ∀ payload, endpoint.WellFormed py body payload → endpoint.Admissible payload →
    Registered registry payload → Answers handled [.changed, .badRequest, .serviceUnavailable]

/-- The entry of a node has an `ip`, and a `port` that `int()` accepts or none. -/
def HasAddress (py : Interp) (node : Obj) : Prop :=
  (∃ ip, node.get? "ip" = some ip) ∧ ∃ port, toInt py (node.getD "port" (.int 5683)) = .ok port

/-- No required field is missing or false. -/
def Endpoint.Complete (endpoint : Endpoint) (payload : Obj) : Prop :=
  ∀ name ∈ endpoint.fields, truthy (payload.get name) = true

/-- A payload that is JSON is an object, and where it is complete, it meets a condition. -/
def Endpoint.Fits (endpoint : Endpoint) (py : Interp) (C : Obj → Prop) (body : Bytes) : Prop :=
  ∀ v, loadBody py body = .ok v → ∃ payload : Obj, v = .dict payload ∧
    (endpoint.Complete payload → C payload)

/-- The condition on a complete payload for `LedControlResource`: its `node_id` is a key. Where that
is the key of no node, the fields are strings, and the `node_id` can be encoded. Where it is the key
of a node, the node has an address, and either the color or the mode is refused and can be encoded,
or the fields are strings. -/
def LedFits (py : Interp) (registry : Registry) (payload : Obj) : Prop :=
  ∃ k, hashKey (payload.get "node_id") = .ok k ∧
    (registry.nodes.get? k = none →
      led.Strings payload ∧ ∀ id, payload.get "node_id" = .str id → encodable id = true) ∧
    ∀ node, registry.nodes.get? k = some node → HasAddress py node.info ∧
      (refusedWord payload = none → led.Strings payload) ∧
      ∀ word, refusedWord payload = some word → encodable word = true

/-- The condition on a complete payload for `StatusControlResource`: its `status` is a string. Where
that is an admissible word, the `node_id` is a string, which can be encoded where it is not
registered, and the node has an address where it is. -/
def StatusFits (py : Interp) (registry : Registry) (payload : Obj) : Prop :=
  ∃ s, payload.get "status" = .str s ∧
    (isOnOff (s.map lowerAscii) = true → ∃ id, payload.get "node_id" = .str id ∧
      (registry.nodes.get? (.str id) = none → encodable id = true) ∧
      ∀ node, registry.nodes.get? (.str id) = some node → HasAddress py node.info)

theorem hasAddress_iff {py : Interp} {node : Obj} :
    HasAddress py node ↔ ∃ address, nodeAddress py node = .ok address := by
  unfold HasAddress nodeAddress
  rcases hip : node.get? "ip" with _ | ip
  · simp
  · rcases hport : toInt py (node.getD "port" (.int 5683)) with e | port
    · simp [Except.map]
    · simp [Except.map]

/-- A refused word is quoted in the message, which is ASCII but for it. -/
theorem ledRejection_eq (payload : Obj) :
    (refusedWord payload = none ∧ ledRejection payload = none) ∨
    ∃ word message, refusedWord payload = some word ∧ ledRejection payload = some message ∧
      encodable message = encodable word := by
  have hcolor : encodable (text "Invalid color '") = true := by decide
  have hcolors : encodable (text "'. Use: red / green / blue") = true := by decide
  have hmode : encodable (text "Invalid mode '") = true := by decide
  have hmodes : encodable (text "'. Use: on / off") = true := by decide
  unfold refusedWord ledRejection
  generalize payload.get "color" = color
  generalize payload.get "mode" = mode
  rcases color with _ | _ | _ | _ | color | _ | _
  case str =>
    by_cases hcode : colorCode (color.map lowerAscii) = none
    · right
      refine ⟨color, _, if_pos hcode, if_pos hcode, ?_⟩
      rw [encodable_append, encodable_append, hcolor, hcolors, Bool.true_and, Bool.and_true]
    · simp only [if_neg hcode]
      rcases mode with _ | _ | _ | _ | mode | _ | _
      case str =>
        by_cases honoff : isOnOff (mode.map lowerAscii) = true
        · left
          exact ⟨if_pos honoff, if_pos honoff⟩
        · right
          refine ⟨mode, _, if_neg honoff, if_neg honoff, ?_⟩
          rw [encodable_append, encodable_append, hmode, hmodes, Bool.true_and, Bool.and_true]
      all_goals exact .inl ⟨rfl, rfl⟩
  all_goals exact .inl ⟨rfl, rfl⟩

/-- The message for a node that is not registered can be encoded where a `node_id` that is a string
can. -/
theorem notRegistered_eq_ok_iff (m : Messages) (rejection : Option Str) {v : Val}
    (hv : hashable v = true) :
    (∃ b, (texts m rejection).notRegistered v = .ok b) ↔ ∀ id, v = .str id →
    encodable id = true := by
  have hhead : encodable (text "Node '") = true := by decide
  have htail : encodable (text "' not registered") = true := by decide
  have hformat : (∃ b, (texts m rejection).notRegistered v = .ok b) ↔
      encodable (m.format v) = true := by
    rw [texts, encode_eq_ok_iff, encodable_append, encodable_append, hhead, htail]
    simp
  rw [hformat]
  rcases v with _ | _ | _ | _ | s | _ | _
  · exact iff_of_true (m.ofVal_encodable _ hv) fun _ h => nomatch h
  · exact iff_of_true (m.ofVal_encodable _ hv) fun _ h => nomatch h
  · exact iff_of_true (m.ofVal_encodable _ hv) fun _ h => nomatch h
  · exact iff_of_true (m.ofVal_encodable _ hv) fun _ h => nomatch h
  · simp [Messages.format]
  · cases hv
  · cases hv

/-- A node that cannot be reached has a message that can be encoded. -/
theorem unreachable_eq_ok (m : Messages) (rejection : Option Str) (e : Exc) :
    ∃ b, (texts m rejection).unreachable e = .ok b := by
  have hhead : encodable (text "Could not reach node: ") = true := by decide
  rw [texts, encode_eq_ok_iff, encodable_append, hhead, m.ofExc_encodable]
  rfl

/-- The answer to a forwarded command is made where the message of a refusal, if there is one, can
be encoded. -/
theorem answers_forwarded {m : Messages} {rejection : Option Str}
    (h : ∀ message, rejection = some message → encodable message = true) (result : Except Exc Str) :
    Answers (forwarded (texts m rejection) result)
      [.changed, .badRequest, .serviceUnavailable] := by
  rcases result with e | reply
  · unfold forwarded
    simp only
    split_ifs with hvalue
    · obtain ⟨b, hb⟩ : ∃ b, (texts m rejection).ofError e = .ok b := by
        rw [texts, encode_eq_ok_iff]
        rcases rejection with _ | message
        · exact m.ofExc_encodable e
        · exact h message rfl
      refine ⟨⟨.badRequest, b⟩, ?_, by simp⟩
      rw [hb]
      rfl
    · obtain ⟨b, hb⟩ := unreachable_eq_ok m rejection e
      refine ⟨⟨.serviceUnavailable, b⟩, ?_, by simp⟩
      rw [hb]
      rfl
  · exact ⟨_, rfl, by simp⟩

section

variable {endpoint : Endpoint} {py : Interp} {rejects : Uri → Bool} {registry : Registry}
  {body : Bytes} {prepared : Except Early (Command × Val × ℤ)} {handled : Except Exc Response}

/-- What ends early sends nothing. -/
theorem not_forwards_error (rejects : Uri → Bool) (early : Early) :
    ¬ Forwards rejects (.error early) := by
  rintro ⟨command, ip, port, sent, h, -⟩
  cases h

/-- A 4.00 without a command is always in order. -/
theorem clean_of_badRequest (hanswer : Answers handled [.badRequest])
    (hsent : ¬ Forwards rejects prepared) :
    Clean endpoint py rejects registry body prepared handled := by
  obtain ⟨r, hr, hcode⟩ := hanswer
  rw [List.mem_singleton] at hcode
  exact ⟨⟨r, hr⟩, fun _ => ⟨⟨r, hr, by simp [hcode]⟩, hsent⟩,
    fun _ _ _ => ⟨⟨r, hr, by simp [hcode]⟩, hsent⟩, fun _ _ _ _ => ⟨r, hr, by simp [hcode]⟩⟩

/-- An exception never is. -/
theorem not_clean_of_raised {e : Exc} :
    ¬ Clean endpoint py rejects registry body prepared (.error e) := by
  rintro ⟨⟨r, hr⟩, -⟩
  cases hr

/-- An object whose fields are not all strings is answered 4.00. -/
theorem Clean.of_not_strings {payload : Obj}
    (h : Clean endpoint py rejects registry body prepared handled)
    (hload : loadObject py body = .ok payload) (hstrings : ¬ endpoint.Strings payload) :
    Answers handled [.badRequest] ∧ ¬ Forwards rejects prepared := by
  refine h.malformed ?_
  rintro ⟨payload', hload', hstrings'⟩
  rw [Except.ok.inj (hload'.symm.trans hload)] at hstrings'
  exact hstrings hstrings'

/-- A 4.04 without a command is in order where the fields are strings and the node is not
registered. -/
theorem clean_notFound_iff {payload : Obj} (hload : loadObject py body = .ok payload)
    (hnone : ¬ Registered registry payload) (hanswer : Answers handled [.notFound])
    (hsent : ¬ Forwards rejects prepared) :
    Clean endpoint py rejects registry body prepared handled ↔ endpoint.Strings payload := by
  obtain ⟨r, hr, hcode⟩ := hanswer
  rw [List.mem_singleton] at hcode
  constructor
  · intro h
    by_contra hstrings
    obtain ⟨⟨r', hr', hcode'⟩, -⟩ := h.of_not_strings hload hstrings
    rw [← Except.ok.inj (hr.symm.trans hr'), hcode] at hcode'
    exact absurd hcode' (by decide)
  · intro hstrings
    refine ⟨⟨r, hr⟩, fun hno => absurd ⟨payload, hload, hstrings⟩ hno,
      fun _ _ _ => ⟨⟨r, hr, by simp [hcode]⟩, hsent⟩, fun payload' hwell _ hregistered => ?_⟩
    rw [Except.ok.inj (hwell.1.symm.trans hload)] at hregistered
    exact absurd hregistered hnone

/-- A command that is forwarded is in order where it is admissible and its fields are strings. -/
theorem clean_of_forwarded {payload : Obj} (hload : loadObject py body = .ok payload)
    (hstrings : endpoint.Strings payload) (hadmissible : endpoint.Admissible payload)
    (hregistered : Registered registry payload)
    (hanswer : Answers handled [.changed, .badRequest, .serviceUnavailable]) :
    Clean endpoint py rejects registry body prepared handled := by
  obtain ⟨r, hr, hcode⟩ := hanswer
  refine ⟨⟨r, hr⟩, fun hno => absurd ⟨payload, hload, hstrings⟩ hno, fun payload' hwell hno => ?_,
    fun _ _ _ _ => ⟨r, hr, hcode⟩⟩
  rw [Except.ok.inj (hwell.1.symm.trans hload)] at hno
  exact absurd hno (by tauto)

end

section

variable {endpoint : Endpoint} {py : Interp} {rejects : Uri → Bool} {registry : Registry}
  {body : Bytes} {payload : Obj} {command : Command} {ip : Val} {port : ℤ}

/-- A command that the operation does not refuse is in order exactly where the fields are strings:
if they are not, it is sent, or answered 5.03. -/
theorem clean_forwarded_iff (hload : loadObject py body = .ok payload)
    (hadmissible : endpoint.Strings payload → endpoint.Admissible payload)
    (hregistered : endpoint.Strings payload → Registered registry payload)
    (hrequest : ∀ e, command.request rejects ip port = .error e → e.isValueError = false)
    (m : Messages) (answer : Except Exc Response) :
    Clean endpoint py rejects registry body (.ok (command, ip, port))
      (forwarded (texts m none) (command.perform rejects ip port answer)) ↔
        endpoint.Strings payload := by
  constructor
  · intro h
    by_contra hstrings
    obtain ⟨⟨r, hr, hcode⟩, hsent⟩ := h.of_not_strings hload hstrings
    rcases hsend : command.request rejects ip port with e | sent
    · obtain ⟨b, hb⟩ := unreachable_eq_ok m none e
      rw [Command.perform_of_request_error hsend, forwarded, hrequest e hsend,
        if_neg Bool.false_ne_true, hb]
        at hr
      rw [← Except.ok.inj hr] at hcode
      have hbad : Code.serviceUnavailable = .badRequest := List.mem_singleton.mp hcode
      exact absurd hbad (by decide)
    · exact hsent ⟨command, ip, port, sent, rfl, hsend⟩
  · intro hstrings
    have hnone : ∀ message, (none : Option Str) = some message → encodable message = true := by simp
    exact clean_of_forwarded hload hstrings (hadmissible hstrings) (hregistered hstrings)
      (answers_forwarded hnone _)

/-- A command that the operation refuses is in order exactly where the message can be encoded. -/
theorem clean_rejected_iff (hrequest : command.request rejects ip port = .error .valueError)
    (m : Messages) (message : Str) (answer : Except Exc Response) :
    Clean endpoint py rejects registry body (.ok (command, ip, port))
      (forwarded (texts m (some message)) (command.perform rejects ip port answer)) ↔
        encodable message = true := by
  have hforwarded : forwarded (texts m (some message)) (command.perform rejects ip port answer) =
      (encode message).map fun payload => ⟨.badRequest, payload⟩ := by
    rw [Command.perform_of_request_error hrequest]
    rfl
  have hsent : ¬ Forwards rejects (.ok (command, ip, port)) := by
    rintro ⟨command', ip', port', sent, h, hsend⟩
    cases h
    rw [hrequest] at hsend
    cases hsend
  rw [hforwarded]
  by_cases hmessage : encodable message = true
  · rw [encode_of_encodable hmessage]
    exact iff_of_true (clean_of_badRequest ⟨_, rfl, by simp⟩ hsent) hmessage
  · rw [encode, if_neg hmessage]
    exact iff_of_false not_clean_of_raised hmessage

/-- The node of a `node_id` that is a string is registered exactly if the lookup finds it. -/
theorem registered_iff {k : Key} (hk : hashKey (payload.get "node_id") = .ok k) {id : Str}
    (hid : payload.get "node_id" = .str id) :
    Registered registry payload ↔ ∃ node, registry.nodes.get? k = some node := by
  have hkey : k = .str id := by
    rw [hid] at hk
    exact (Except.ok.inj hk).symm
  rw [hkey]
  constructor
  · rintro ⟨id', node, hid', hnode⟩
    rw [Val.str.inj (hid.symm.trans hid')]
    exact ⟨node, hnode⟩
  · rintro ⟨node, hnode⟩
    exact ⟨id, node, hid, hnode⟩

end

/-- A color and a mode that `set_led` does not refuse are admissible where they are strings. -/
theorem led_admissible {payload : Obj} (hnone : ledRejection payload = none)
    (hstrings : led.Strings payload) : led.Admissible payload := by
  obtain ⟨color, hcolor⟩ := hstrings "color" (by simp [led])
  obtain ⟨mode, hmode⟩ := hstrings "mode" (by simp [led])
  unfold ledRejection at hnone
  rw [hcolor, hmode] at hnone
  simp only at hnone
  split_ifs at hnone with hcode honoff
  exact ⟨color, mode, hcolor, hmode, hcode, honoff⟩

/-- `set_led` refuses a color or a mode with a `ValueError`, and raises no other `ValueError` before
it has its request. -/
theorem setLed_request_error (payload : Obj) (rejects : Uri → Bool) (ip : Val) (port : ℤ) :
    (∀ message, ledRejection payload = some message →
      (Command.setLed (payload.get "color") (payload.get "mode")).request rejects ip port =
        .error .valueError) ∧
    (ledRejection payload = none → ∀ e,
      (Command.setLed (payload.get "color") (payload.get "mode")).request rejects ip port =
        .error e → e.isValueError = false) := by
  unfold ledRejection Command.request setLedRequest
  generalize payload.get "color" = color
  generalize payload.get "mode" = mode
  rcases color with _ | _ | _ | _ | color | _ | _
  case str =>
    by_cases hcode : colorCode (color.map lowerAscii) = none
    · simp [lowerStr, Except.bind, hcode]
    · obtain ⟨color_code, hsome⟩ := Option.ne_none_iff_exists'.mp hcode
      rcases mode with _ | _ | _ | _ | mode | _ | _
      case str =>
        by_cases honoff : isOnOff (mode.map lowerAscii) = true
        · have hput : ∀ body e,
              putRequest rejects ip port ("actuators/leds?color=" ++ color_code) body = .error e →
                e.isValueError = false := fun _ _ => putRequest_error
          simpa [lowerStr, Except.bind, hsome, honoff] using hput _
        · simp [lowerStr, Except.bind, hsome, honoff]
      all_goals simp [lowerStr, Except.bind, hsome, Exc.isValueError]
  all_goals simp [lowerStr, Except.bind, Exc.isValueError]

/-- `set_status` raises no `ValueError` for an admissible word before it has its request. -/
theorem setStatus_request_error {rejects : Uri → Bool} {ip : Val} {port : ℤ} {s : Str}
    (honoff : isOnOff (s.map lowerAscii) = true) {e : Exc}
    (h : (Command.setStatus (.str s)).request rejects ip port = .error e) :
    e.isValueError = false := by
  have hput : putRequest rejects ip port "actuators/status" (utf8Encode (s.map lowerAscii)) =
      .error e := by
    simpa [Command.request, setStatusRequest, lowerStr, Except.bind, honoff] using h
  exact putRequest_error hput

section

variable (py : Interp) (m : Messages) (rejects : Uri → Bool) (registry : Registry) (body : Bytes)
  (answer : Except Exc Response)

/-- `LedControlResource._handle` does what it is for. -/
def LedClean : Prop :=
  Clean led py rejects registry body
    (LedControlResource.prepare py (ledTexts py m body) registry body)
    (LedControlResource.handle py rejects (ledTexts py m body) registry body answer)

/-- `StatusControlResource._handle` does what it is for. -/
def StatusClean : Prop :=
  Clean status py rejects registry body
    (StatusControlResource.prepare py (statusTexts py m body) registry body)
    (StatusControlResource.handle py rejects (statusTexts py m body) registry body answer)

/-- An endpoint is in order where a body is not JSON, and not where it is JSON but no object. For an
object it depends on the checks of the endpoint. -/
theorem clean_iff_of_check {endpoint : Endpoint} {T : Texts} {C : Obj → Prop}
    {check : Obj → Except Early (Command × Val × ℤ)}
    (hcheck : ∀ payload, loadObject py body = .ok payload →
      (Clean endpoint py rejects registry body (check payload)
        (respond rejects T (check payload) answer) ↔ (endpoint.Complete payload → C payload))) :
    Clean endpoint py rejects registry body
      ((requestPayload py body).bind fun payload => (raised (asDict payload)).bind check)
      (respond rejects T
        ((requestPayload py body).bind fun payload => (raised (asDict payload)).bind check)
        answer) ↔
      endpoint.Fits py C body := by
  unfold requestPayload Endpoint.Fits
  rcases hbody : loadBody py body with e | v
  · exact iff_of_true (clean_of_badRequest ⟨_, rfl, by simp⟩ (not_forwards_error rejects _))
      (by simp)
  · rcases asDict_cases v with ⟨payload, rfl⟩ | hno
    · have hload : loadObject py body = .ok payload := by
        rw [loadObject, hbody]
        rfl
      refine (hcheck payload hload).trans ⟨fun h v hv => ?_, fun h => ?_⟩
      · exact ⟨payload, (Except.ok.inj hv).symm, h⟩
      · obtain ⟨payload', heq, hC⟩ := h _ rfl
        rw [Val.dict.inj heq]
        exact hC
    · -- A value that is no object has no `get`.
      have hraise : ((Except.ok v : Except Exc Val).mapError fun _ =>
          (.ok ⟨.badRequest, ascii "Invalid JSON payload"⟩ : Early)).bind
            (fun payload => (raised (asDict payload)).bind check) =
          .error (.error .attributeError) := by
        simp only [Except.mapError, Except.bind, hno, raised]
      rw [hraise]
      refine iff_of_false not_clean_of_raised fun h => ?_
      obtain ⟨payload, rfl, -⟩ := h v rfl
      cases hno

/-- A hashable value has one key. -/
theorem exists_hashKey_iff {v : Val} {k : Key} (hk : hashKey v = .ok k) {P : Key → Prop} :
    (∃ k', hashKey v = .ok k' ∧ P k') ↔ P k := by
  constructor
  · rintro ⟨k', hk', h⟩
    rwa [Except.ok.inj (hk.symm.trans hk')]
  · exact fun h => ⟨k, hk, h⟩

/-- Either endpoint goes on with a lookup of the node. It is in order where the node is not
registered and can be named, or has an address and the command is in order. -/
theorem clean_lookup_iff {endpoint : Endpoint} {payload : Obj} {command : Command}
    {rejection : Option Str} (hload : loadObject py body = .ok payload) :
    Clean endpoint py rejects registry body
      ((lookup py (texts m rejection) registry (payload.get "node_id")).map fun address =>
        (command, address))
      (respond rejects (texts m rejection)
        ((lookup py (texts m rejection) registry (payload.get "node_id")).map fun address =>
          (command, address)) answer) ↔
    ∃ k, hashKey (payload.get "node_id") = .ok k ∧
      (registry.nodes.get? k = none →
        endpoint.Strings payload ∧ ∀ id, payload.get "node_id" = .str id → encodable id = true) ∧
      ∀ node, registry.nodes.get? k = some node →
        ∃ ip port, nodeAddress py node.info = .ok (ip, port) ∧
        Clean endpoint py rejects registry body (.ok (command, ip, port))
          (forwarded (texts m rejection) (command.perform rejects ip port answer)) := by
  by_cases hhash : hashable (payload.get "node_id") = true
  · obtain ⟨k, hk⟩ := (hashable_iff _).mp hhash
    rw [exists_hashKey_iff hk, lookup_eq hk]
    rcases hnode : registry.nodes.get? k with _ | node
    · -- The node is not registered: what counts is whether the message names it.
      have hnone : ¬ Registered registry payload := by
        rintro ⟨id, node, hstr, hsome⟩
        rw [hstr] at hk
        rw [← Except.ok.inj hk, hsome] at hnode
        cases hnode
      simp only [true_imp_iff, reduceCtorEq, false_imp_iff, implies_true, and_true]
      rw [← notRegistered_eq_ok_iff m rejection hhash]
      rcases hnot : (texts m rejection).notRegistered (payload.get "node_id") with e | b
      · exact iff_of_false not_clean_of_raised (by simp)
      · have hnamed : ∃ b', (Except.ok b : Except Exc Bytes) = .ok b' := ⟨b, rfl⟩
        have hanswer : Answers (respond rejects (texts m rejection)
            (.error (.ok ⟨.notFound, b⟩)) answer) [.notFound] := ⟨_, rfl, by simp⟩
        rw [and_iff_left hnamed]
        exact clean_notFound_iff hload hnone hanswer
          (not_forwards_error rejects (.ok ⟨.notFound, b⟩))
    · -- The node is registered: what counts is its address, and then the command.
      simp only [reduceCtorEq, false_imp_iff, true_and, Option.some.injEq, forall_eq']
      rcases haddress : nodeAddress py node.info with e | ⟨ip, port⟩
      · exact iff_of_false not_clean_of_raised (by simp)
      · constructor
        · exact fun h => ⟨ip, port, rfl, h⟩
        · rintro ⟨ip', port', h, hclean⟩
          cases h
          exact hclean
  · rw [Bool.not_eq_true] at hhash
    rw [lookup_of_not_hashable hhash, hashKey_of_not_hashable hhash]
    exact iff_of_false not_clean_of_raised (by simp)

/-- The `set_led` for a registered node is in order, at every address, where the refused word can be
encoded, or no word is refused and the fields are strings. -/
theorem clean_setLed_forwarded_iff {payload : Obj} {k : Key} {node : Node}
    (hload : loadObject py body = .ok payload) (hk : hashKey (payload.get "node_id") = .ok k)
    (hnode : registry.nodes.get? k = some node) (ip : Val) (port : ℤ) :
    Clean led py rejects registry body
      (.ok (.setLed (payload.get "color") (payload.get "mode"), ip, port))
      (forwarded (texts m (ledRejection payload))
        ((Command.setLed (payload.get "color") (payload.get "mode")).perform rejects ip port
          answer)) ↔
      (refusedWord payload = none → led.Strings payload) ∧
        ∀ word, refusedWord payload = some word → encodable word = true := by
  obtain ⟨hrejected, haccepted⟩ := setLed_request_error payload rejects ip port
  rcases ledRejection_eq payload with
    ⟨hword, hrejection⟩ | ⟨word, message, hword, hrejection, hquoted⟩
  · have hregistered : led.Strings payload → Registered registry payload := by
      intro hstrings
      obtain ⟨id, hid⟩ := hstrings "node_id" (by simp [led])
      exact (registered_iff hk hid).mpr ⟨node, hnode⟩
    rw [hrejection, hword,
      clean_forwarded_iff hload (led_admissible hrejection) hregistered (haccepted hrejection)]
    simp
  · rw [hrejection, hword, clean_rejected_iff (hrejected message hrejection), hquoted]
    simp

/-- The `set_led` of a complete payload is in order exactly if the payload fits. -/
theorem clean_setLed_iff {payload : Obj} (hload : loadObject py body = .ok payload) :
    Clean led py rejects registry body
      ((lookup py (ledTexts py m body) registry (payload.get "node_id")).map fun address =>
        (.setLed (payload.get "color") (payload.get "mode"), address))
      (respond rejects (ledTexts py m body)
        ((lookup py (ledTexts py m body) registry (payload.get "node_id")).map fun address =>
          (.setLed (payload.get "color") (payload.get "mode"), address)) answer) ↔
      LedFits py registry payload := by
  have htexts : ledTexts py m body = texts m (ledRejection payload) := by
    rw [ledTexts, payloadOf, hload]
    rfl
  rw [htexts, clean_lookup_iff py m rejects registry body answer hload]
  refine exists_congr fun k => and_congr_right fun hk => and_congr_right fun _ =>
    forall_congr' fun node => forall_congr' fun hnode => ?_
  have hcommand := clean_setLed_forwarded_iff py m rejects registry body answer hload hk hnode
  rw [hasAddress_iff]
  constructor
  · rintro ⟨ip, port, haddress, hclean⟩
    exact ⟨⟨_, haddress⟩, (hcommand ip port).mp hclean⟩
  · rintro ⟨⟨⟨ip, port⟩, haddress⟩, hfits⟩
    exact ⟨ip, port, haddress, (hcommand ip port).mpr hfits⟩

/-- The `set_status` of an admissible word for a registered node is in order, at every address,
where the fields are strings. -/
theorem clean_setStatus_forwarded_iff {payload : Obj} {s : Str} {k : Key} {node : Node}
    (hload : loadObject py body = .ok payload) (hs : payload.get "status" = .str s)
    (honoff : isOnOff (s.map lowerAscii) = true) (hk : hashKey (payload.get "node_id") = .ok k)
    (hnode : registry.nodes.get? k = some node) (ip : Val) (port : ℤ) :
    Clean status py rejects registry body (.ok (.setStatus (.str s), ip, port))
      (forwarded (texts m none) ((Command.setStatus (.str s)).perform rejects ip port answer)) ↔
      status.Strings payload := by
  have hadmissible : status.Admissible payload := ⟨s, hs, honoff⟩
  refine clean_forwarded_iff hload (fun _ => hadmissible) (fun hstrings => ?_)
    (fun _ => setStatus_request_error honoff) m answer
  obtain ⟨id, hid⟩ := hstrings "node_id" (by simp [status])
  exact (registered_iff hk hid).mpr ⟨node, hnode⟩

/-- The `set_status` of an admissible word is in order exactly if its `node_id` is a string that can
be named, or that of a node with an address. -/
theorem clean_setStatus_iff {payload : Obj} {s : Str} (hload : loadObject py body = .ok payload)
    (hs : payload.get "status" = .str s) (honoff : isOnOff (s.map lowerAscii) = true) :
    Clean status py rejects registry body
      ((lookup py (statusTexts py m body) registry (payload.get "node_id")).map fun address =>
        (.setStatus (.str s), address))
      (respond rejects (statusTexts py m body)
        ((lookup py (statusTexts py m body) registry (payload.get "node_id")).map fun address =>
          (.setStatus (.str s), address)) answer) ↔
      ∃ id, payload.get "node_id" = .str id ∧
        (registry.nodes.get? (.str id) = none → encodable id = true) ∧
        ∀ node, registry.nodes.get? (.str id) = some node → HasAddress py node.info := by
  have htexts : statusTexts py m body = texts m none := by
    have hnone : statusRejection payload = none := by
      unfold statusRejection
      rw [hs]
      exact if_pos honoff
    rw [statusTexts, payloadOf, hload, ← hnone]
    rfl
  have hcommand : ∀ {k node}, hashKey (payload.get "node_id") = .ok k →
      registry.nodes.get? k = some node → _ :=
    clean_setStatus_forwarded_iff py m rejects registry body answer hload hs honoff
  rw [htexts, clean_lookup_iff py m rejects registry body answer hload]
  constructor
  · rintro ⟨k, hk, hno, hsome⟩
    -- The `node_id` is a string whether the lookup finds a node or not.
    have hstrings : status.Strings payload := by
      rcases hnode : registry.nodes.get? k with _ | node
      · exact (hno hnode).1
      · obtain ⟨ip, port, -, hclean⟩ := hsome node hnode
        exact (hcommand hk hnode ip port).mp hclean
    obtain ⟨id, hid⟩ := hstrings "node_id" (by simp [status])
    have hkey : k = .str id := by
      rw [hid] at hk
      exact (Except.ok.inj hk).symm
    rw [hkey] at hno hsome
    refine ⟨id, hid, fun h => (hno h).2 id hid, fun node hnode => ?_⟩
    obtain ⟨ip, port, haddress, -⟩ := hsome node hnode
    exact hasAddress_iff.mpr ⟨_, haddress⟩
  · rintro ⟨id, hid, hno, hsome⟩
    have hstrings : status.Strings payload := by simp [Endpoint.Strings, status, hid, hs]
    have hk : hashKey (payload.get "node_id") = .ok (.str id) := by
      rw [hid]
      rfl
    refine ⟨.str id, hk, fun h => ⟨hstrings, fun id' hid' => ?_⟩, fun node hnode => ?_⟩
    · rw [← Val.str.inj (hid.symm.trans hid')]
      exact hno h
    · obtain ⟨⟨ip, port⟩, haddress⟩ := hasAddress_iff.mp (hsome node hnode)
      exact ⟨ip, port, haddress, (hcommand hk hnode ip port).mpr hstrings⟩

/-- The LED endpoint does what it is for exactly if the request fits. -/
theorem ledClean_iff :
    LedClean py m rejects registry body answer ↔ led.Fits py (LedFits py registry) body := by
  unfold LedClean LedControlResource.handle LedControlResource.prepare
  refine clean_iff_of_check py rejects registry body answer fun payload hload => ?_
  have hmissing : (!truthy (payload.get "node_id") || !truthy (payload.get "color") ||
      !truthy (payload.get "mode")) = true ↔ ¬ led.Complete payload := by
    simp only [Endpoint.Complete, led, List.forall_mem_cons, List.not_mem_nil, false_imp_iff,
      forall_const, and_true, Bool.or_eq_true, Bool.not_eq_true', ← Bool.not_eq_true]
    tauto
  dsimp only
  split_ifs with h
  · exact iff_of_true (clean_of_badRequest ⟨_, rfl, by simp⟩ (not_forwards_error rejects _))
      fun hcomplete => absurd hcomplete (hmissing.mp h)
  · rw [imp_iff_right (not_not.mp fun hno => h (hmissing.mpr hno))]
    exact clean_setLed_iff py m rejects registry body answer hload

/-- The status endpoint does what it is for exactly if the request fits. -/
theorem statusClean_iff :
    StatusClean py m rejects registry body answer ↔
      status.Fits py (StatusFits py registry) body := by
  unfold StatusClean StatusControlResource.handle StatusControlResource.prepare
  refine clean_iff_of_check py rejects registry body answer fun payload hload => ?_
  have hmissing : (!truthy (payload.get "node_id") || !truthy (payload.get "status")) = true ↔
      ¬ status.Complete payload := by
    simp only [Endpoint.Complete, status, List.forall_mem_cons, List.not_mem_nil, false_imp_iff,
      forall_const, and_true, Bool.or_eq_true, Bool.not_eq_true', ← Bool.not_eq_true]
    tauto
  dsimp only
  split_ifs with h
  · exact iff_of_true (clean_of_badRequest ⟨_, rfl, by simp⟩ (not_forwards_error rejects _))
      fun hcomplete => absurd hcomplete (hmissing.mp h)
  · rw [imp_iff_right (not_not.mp fun hno => h (hmissing.mpr hno))]
    unfold StatusFits
    -- The status is checked before the node is looked up.
    rcases lowerStr_cases (payload.get "status") with ⟨s, hs⟩ | ⟨hno, hraise⟩
    · have hlower : raised (lowerStr (.str s)) = .ok (s.map lowerAscii) := rfl
      simp only [hs, hlower, Except.bind]
      split_ifs with hbad
      · refine iff_of_true (clean_of_badRequest ⟨_, rfl, by simp⟩ (not_forwards_error rejects _))
          ⟨s, rfl, fun honoff => ?_⟩
        rw [honoff] at hbad
        cases hbad
      · have honoff : isOnOff (s.map lowerAscii) = true := by simpa using hbad
        rw [clean_setStatus_iff py m rejects registry body answer hload hs honoff]
        constructor
        · exact fun hfits => ⟨s, rfl, fun _ => hfits⟩
        · rintro ⟨s', hs', hfits⟩
          rw [← Val.str.inj hs'] at hfits
          exact hfits honoff
    · -- A value that is no string has no `lower`.
      rw [hraise]
      refine iff_of_false not_clean_of_raised ?_
      rintro ⟨s, hs, -⟩
      exact hno s hs

/-- For every request, registry and answer of a node: each endpoint does what it is for exactly if
the request fits. -/
theorem handle_clean_iff :
    (LedClean py m rejects registry body answer ↔ led.Fits py (LedFits py registry) body) ∧
    (StatusClean py m rejects registry body answer ↔
      status.Fits py (StatusFits py registry) body) :=
  ⟨ledClean_iff py m rejects registry body answer,
    statusClean_iff py m rejects registry body answer⟩

end

/-- Messages without text. -/
def noMessages : Messages where
  ofVal _ := []
  ofExc _ := []
  ofVal_encodable _ _ := rfl
  ofExc_encodable _ := rfl

/-- An empty array is JSON, and ends the handler with an `AttributeError`, whatever is
registered. -/
theorem array_payload_raises :
    ¬ ∀ (m : Messages) (registry : Registry) (body : Bytes) (answer : Except Exc Response),
      LedClean .cpython m (fun _ => false) registry body answer ∧
        StatusClean .cpython m (fun _ => false) registry body answer := by
  intro h
  obtain ⟨r, hr⟩ := (h noMessages Registry.boot (ascii "[]") (.error .external)).1.returns
  have hraise : (LedControlResource.handle .cpython (fun _ => false)
      (ledTexts .cpython noMessages (ascii "[]")) Registry.boot (ascii "[]")
      (.error .external)).isOk = false := by decide +kernel
  rw [hr] at hraise
  cases hraise

end EnergyStation.Cloud.ControlRequests
