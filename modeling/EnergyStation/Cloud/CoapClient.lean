import EnergyStation.Coap
import EnergyStation.Python.Json

/-!
# The cloud's CoAP client

The requests of `coap_client.py` start with code that runs before anything is sent: it reads the
fields of a stored node, which are whatever the node registered with, and builds a URI from them.
The constructor `aiocoap.Message` parses that URI, and is a parameter here: `rejects` says for which
URIs it raises. Formatting a value as text never raises.
-/

namespace EnergyStation.Cloud

open Python Numeral

/-- The parts of a `coap://` URI. -/
structure Uri where
  /-- The address stands in brackets that were added to it. -/
  bracketed : Bool
  /-- The address. -/
  addr : Val
  /-- The port. -/
  port : ℤ
  /-- The path. -/
  path : String

/-- `_make_uri`. The `in` operator asks a string for a substring, a list for an element and a
dictionary for a key, and only a string has `startswith`. -/
def makeUri (ip : Val) (port : ℤ) (path : String) : Except Exc Uri :=
  match ip with
  | .str s => .ok ⟨58 ∈ s && s.head? ≠ some 91, ip, port, path⟩
  | .list l => if l.any (isStr ":") then .error .attributeError else .ok ⟨false, ip, port, path⟩
  | .dict items =>
    if (Obj.get? items ":").isSome then .error .attributeError else .ok ⟨false, ip, port, path⟩
  | _ => .error .typeError

/-- The start of a request to a node: `int(node.get("port", 5683))`, the URI, and the construction
of the message. -/
def requestUri (py : Interp) (rejects : Uri → Bool) (ip : Val) (node_info : Obj) (path : String) :
    Except Exc Uri :=
  (toInt py (node_info.getD "port" (.int 5683))).bind fun port =>
    (makeUri ip port path).bind fun uri => if rejects uri then .error .external else .ok uri

/-- A request can be sent where the port is an integer, the address is text and the URI is
accepted. -/
theorem requestUri_ok_iff {py : Interp} {rejects : Uri → Bool} {ip : Val} {node_info : Obj}
    {path : String} :
    (∃ uri, requestUri py rejects ip node_info path = .ok uri) ↔
      ∃ port uri, toInt py (node_info.getD "port" (.int 5683)) = .ok port ∧
        makeUri ip port path = .ok uri ∧ rejects uri = false := by
  simp only [requestUri, bind_eq_ok]
  constructor
  · rintro ⟨uri, port, hport, uri', huri', hok⟩
    split_ifs at hok with hrej
    exact ⟨port, uri', hport, huri', Bool.eq_false_iff.mpr hrej⟩
  · rintro ⟨port, uri, hport, huri, hrej⟩
    exact ⟨uri, port, hport, uri, huri, by rw [hrej]; rfl⟩

/-- The path that `probe_node` asks for. -/
def probePath (node_info : Obj) : String :=
  if isWord "battery" (node_info.getD "type" (.str [])) then "actuators/battery"
  else "actuators/status"

/-- `probe_node` up to the request that it awaits, or `none` where it returns `False` at once. -/
def probeRequest (py : Interp) (rejects : Uri → Bool) (node_info : Obj) :
    Except Exc (Option Uri) :=
  -- A node without an address counts as not answering.
  if !truthy (node_info.get "ip") then .ok none
  else (requestUri py rejects (node_info.get "ip") node_info (probePath node_info)).map some

/-- What `probe_node` returns for the response to its request, where `none` stands for an exception
of the awaited response or its timeout. -/
def probeAlive : Option Code → Bool
  | some code => code.isSuccessful
  | none => false

/-- The request of `get_sampling_interval(node["ip"], int(node.get("port", 5683)))`, which
`set_sampling_interval` has in common with it. -/
def samplingUri (py : Interp) (rejects : Uri → Bool) (node_info : Obj) : Except Exc Uri :=
  match node_info.get? "ip" with
  | none => .error .keyError
  | some ip => requestUri py rejects ip node_info "actuators/sampling"

/-- The body that `set_sampling_interval` sends, `str(int(interval_ms)).encode()`. -/
def samplingBody (interval_ms : ℤ) : Except Exc CStdlib.Bytes :=
  -- The check comes before the body is made.
  if interval_ms ≤ 0 then .error .valueError
  else .ok ((decimal interval_ms.toNat).map UInt8.ofNat)

/-- `response.payload.decode()`. -/
def replyText (response : Response) : Except Exc Str :=
  match utf8Decode response.payload with
  | none => .error .unicodeDecodeError
  | some reply => .ok reply

/-- What `set_sampling_interval` makes of the response, without its text. -/
def setSamplingReply (response : Response) : Except Exc Unit :=
  (replyText response).bind fun _ =>
    if response.code.isSuccessful then .ok () else .error .external

/-- What `get_sampling_interval` makes of the response, whose text it strips. -/
def getSamplingReply (py : Interp) (response : Response) : Except Exc ℤ :=
  (replyText response).bind fun reply =>
    if response.code.isSuccessful then intOfStr py (strip reply) else .error .external

/-- The decimal text of a number decodes to itself. -/
theorem replyText_decimal (code : Code) (n : ℕ) :
    replyText ⟨code, (decimal n).map UInt8.ofNat⟩ = .ok (decimal n) := by
  have hascii : ∀ b ∈ (decimal n).map UInt8.ofNat, b < 0x80 := by
    intro b hb
    obtain ⟨c, hc, rfl⟩ := List.mem_map.mp hb
    have hbounds := decimal_bounds hc
    have hnat := CStdlib.toNat_ofNat_of_mem_decimal hc
    have hbound : (0x80 : UInt8).toNat = 128 := rfl
    rw [UInt8.lt_iff_toNat_lt, hnat, hbound]
    omega
  unfold replyText
  simp only [utf8Decode_ascii hascii, CStdlib.decimal_bytes]

end EnergyStation.Cloud
