import EnergyStation.Firmware.Registration
import EnergyStation.Telemetry.RoundTrip

/-!
# The registrations of both firmwares through the wire

The battery's registration is a printed object like the producers', with up to 123 characters in a
buffer of 160 bytes. `loadObject_registerPayload` is the round trip for a node of either firmware,
and `storedId_registerFields` the key that the cloud stores it under.
-/

namespace EnergyStation.Telemetry

open Cloud CStdlib Firmware Numeral Python

/-- The members of the battery's registration. -/
def batteryRegisterMembers (node : BatteryNode) : List (Str × Printed) :=
  [(text "node_id", .str node.nodeId), (text "ip", .str node.node_ip_str), (text "port", .num 5683),
    (text "type", .str (text "battery")), (text "proto", .str (text "coap"))]

/-- The keys of the battery's registration. -/
def batteryRegisterKeys :
    List Str := [text "node_id", text "ip", text "port", text "type", text "proto"]

theorem map_fst_batteryRegisterMembers (node : BatteryNode) :
    (batteryRegisterMembers node).map Prod.fst = batteryRegisterKeys := rfl

theorem batteryRegisterFormat_eq (node : BatteryNode) :
    node.registerFormat = objectText (batteryRegisterMembers node) := by
  unfold BatteryNode.registerFormat objectText batteryRegisterMembers
  simp only [List.map_cons, List.map_nil, Printed.text, membersText, List.append_assoc,
    List.cons_append, List.nil_append]
  rfl

/-- The identifier of a battery fits into its buffer. -/
theorem batteryNodeId_eq (node : BatteryNode) :
    node.nodeId = text "prod_" ++ text "battery" ++ text "_" ++ formatHex node.linkaddr.1 ++
      formatHex node.linkaddr.2 := by
  unfold BatteryNode.nodeId
  rw [snprintf_of_length_lt]
  simp only [List.length_append, formatHex, List.length_cons, List.length_nil]
  decide

theorem length_batteryNodeId (node : BatteryNode) : node.nodeId.length = 17 := by
  rw [batteryNodeId_eq]
  simp only [List.length_append, formatHex, List.length_cons, List.length_nil]
  decide

/-- The identifier of a battery is printed in plain characters. -/
theorem batteryNodeId_plain (node : BatteryNode) :
    ∀ c ∈ node.nodeId, isPlain c = true ∧ c < 128 := by
  have htext : ∀ t ∈ [text "prod_", text "battery", text "_"],
      ∀ c ∈ t, isPlain c = true ∧ c < 128 := by
    decide
  intro c hc
  simp only [batteryNodeId_eq, List.mem_append] at hc
  rcases hc with (((hc | hc) | hc) | hc) | hc
  · exact htext _ (by simp) c hc
  · exact htext _ (by simp) c hc
  · exact htext _ (by simp) c hc
  · exact formatHex_plain _ c hc
  · exact formatHex_plain _ c hc

/-- The address of a battery is printed in plain characters. -/
theorem batteryIp_isPlain (node : BatteryNode) :
    ∀ c ∈ node.node_ip_str, isPlain c = true ∧ c < 128 := by
  intro c hc
  obtain ⟨hlow, hhigh, hquote, hbackslash⟩ := node.ip_plain c hc
  refine ⟨?_, by omega⟩
  simp only [isPlain, Bool.and_eq_true, decide_eq_true_eq]
  exact ⟨⟨by omega, hquote⟩, hbackslash⟩

/-- The battery's registration is a printed object. -/
theorem wellPrinted_batteryRegister (node : BatteryNode) :
    WellPrinted (batteryRegisterMembers node) where
  ne_nil := List.cons_ne_nil _ _
  nodup := by
    rw [map_fst_batteryRegisterMembers]
    decide
  keys p hp := by
    have hkeys : ∀ k ∈ batteryRegisterKeys, ∀ c ∈ k, isPlain c = true ∧ c < 128 := by decide
    exact hkeys _ (map_fst_batteryRegisterMembers node ▸ List.mem_map_of_mem hp)
  values := by
    have htype : ∀ c ∈ text "battery", isPlain c = true ∧ c < 128 := by decide
    have hproto : ∀ c ∈ text "coap", isPlain c = true ∧ c < 128 := by decide
    simp only [batteryRegisterMembers, List.forall_mem_cons, Printed.Valid]
    exact ⟨batteryNodeId_plain node, batteryIp_isPlain node, by omega, htype, hproto,
      fun p hp => absurd hp List.not_mem_nil⟩

/-- The battery's registration has up to 123 characters. -/
theorem length_batteryRegisterFormat_le (node : BatteryNode) :
    node.registerFormat.length ≤ 123 := by
  have hid := length_batteryNodeId node
  have hip := node.ip_length
  have hport := length_decimal_le (n := 5683) 4 (by norm_num) (by norm_num)
  have hkeys : (batteryRegisterKeys.map fun key => key.length + 4).sum = 42 := by decide
  have htype : (text "battery").length = 7 := rfl
  have hproto : (text "coap").length = 4 := rfl
  rw [batteryRegisterFormat_eq, length_objectText (wellPrinted_batteryRegister node).ne_nil,
    map_fst_batteryRegisterMembers, hkeys]
  simp only [batteryRegisterMembers, List.map_cons, List.map_nil, List.sum_cons, List.sum_nil,
    Printed.text, List.length_cons, List.length_append, List.length_nil, htype, hproto]
  linarith

/-- The battery's registration as the cloud decodes it. -/
def batteryRegisterFields (node : BatteryNode) : Obj :=
  [(text "node_id", .str node.nodeId), (text "ip", .str node.node_ip_str), (text "port", .int 5683),
    (text "type", .str (text "battery")), (text "proto", .str (text "coap"))]

/-- The registration of a node as the cloud decodes it. -/
def deviceFields (sent_ms : UInt32) : Device → Obj
  | .producer node => registerFields node sent_ms
  | .battery node => batteryRegisterFields node

/-- Every registration is decoded to what the node has printed. -/
theorem loadObject_registerPayload {py : Interp} (hdepth : 0 < py.recursionLimit) (d : Device)
    (sent_ms : UInt32) :
    loadObject py (d.registerPayload sent_ms) = .ok (deviceFields sent_ms d) := by
  cases d with
  | producer node => exact (registrationSurvives hdepth node sent_ms).decoded
  | battery node =>
    have hfits := (length_batteryRegisterFormat_le node).trans_lt (by norm_num : 123 < 160)
    rw [Device.registerPayload, BatteryNode.registerPayload, snprintf_of_length_lt hfits,
      batteryRegisterFormat_eq, loadObject_objectText hdepth (wellPrinted_batteryRegister node)]
    rfl

/-- The identifier of a node is not empty. -/
theorem deviceId_ne_nil (d : Device) : d.nodeId ≠ [] := by
  cases d with
  | producer node => exact nodeId_ne_nil node
  | battery node =>
    intro h
    have hlength := length_batteryNodeId node
    rw [show node.nodeId = [] from h] at hlength
    cases hlength

theorem deviceFields_nodeId (d : Device) (sent_ms : UInt32) :
    (deviceFields sent_ms d).get? "node_id" = some (.str d.nodeId) := by cases d <;> rfl

theorem deviceFields_ip (d : Device) (sent_ms : UInt32) :
    (deviceFields sent_ms d).get? "ip" = some (.str d.ip) := by cases d <;> rfl

theorem deviceFields_port (d : Device) (sent_ms : UInt32) :
    (deviceFields sent_ms d).get? "port" = some (.int 5683) := by cases d <;> rfl

theorem deviceFields_type (d : Device) (sent_ms : UInt32) :
    (deviceFields sent_ms d).get? "type" = some (.str d.type) := by cases d <;> rfl

/-- A node is stored under its identifier. -/
theorem hashKey_storedId_deviceFields (d : Device) (sent_ms : UInt32) :
    hashKey (storedId (deviceFields sent_ms d)) = .ok (.str d.nodeId) := by
  have hid : (deviceFields sent_ms d).get "node_id" = .str d.nodeId :=
    congrArg (fun v => v.getD .none) (deviceFields_nodeId d sent_ms)
  have htruthy : truthy (.str d.nodeId) = true := decide_eq_true (deviceId_ne_nil d)
  rw [storedId, hid, if_pos htruthy]
  rfl

end EnergyStation.Telemetry
