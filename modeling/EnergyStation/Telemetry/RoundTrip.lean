import EnergyStation.Cloud.EnergyState
import EnergyStation.Cloud.InfluxdbConnect
import EnergyStation.Cloud.NodeRegistry
import EnergyStation.Firmware.Telemetry
import EnergyStation.Python.Printed

/-!
# The messages through the wire

The two messages of a producer node are objects printed with `printf`, so the cloud decodes them to
what the node has printed (`loadObject_objectText`), provided that they are not cut. The longest
telemetry message has 243 characters in a buffer of 256 bytes, and the longest registration 141 in
one of 160.
-/

namespace EnergyStation.Telemetry

open Cloud CStdlib Firmware Numeral Python
open Binary64 (nearest)

/-- The members of a telemetry message. -/
def telemetryMembers (m : TelemetryMessage) : List (Str × Printed) :=
  [(text "node_id", .str m.node.nodeId), (text "type", .str m.node.type.text),
    (text "proto", .str (text "MQTT")), (text "ip", .str m.node.node_ip_str),
    (text "seq", .num m.seq.toNat), (text "v", .tenths (10 * m.sample.v_int + m.sample.v_frac)),
    (text "i", .tenths (10 * m.sample.i_int + m.sample.i_frac)),
    (text "anomaly", .num m.sample.anomaly.toNat),
    (text "publish_interval_ms", .num m.publish_interval_ms),
    (text "sent_ms", .num m.sent_ms.toNat),
    (text "mode", .str m.mode), (text "status", .str m.status)]

/-- The keys of a telemetry message. -/
def telemetryKeys : List Str :=
  [text "node_id", text "type", text "proto", text "ip", text "seq", text "v", text "i",
    text "anomaly", text "publish_interval_ms", text "sent_ms", text "mode", text "status"]

theorem map_fst_telemetryMembers (m : TelemetryMessage) :
    (telemetryMembers m).map Prod.fst = telemetryKeys := rfl

/-- The members of a registration. -/
def registerMembers (node : ProducerNode) (sent_ms : UInt32) : List (Str × Printed) :=
  [(text "node_id", .str node.nodeId), (text "ip", .str node.node_ip_str), (text "port", .num 5683),
    (text "type", .str node.type.text), (text "proto", .str (text "coap")),
    (text "sent_ms", .num sent_ms.toNat)]

/-- The keys of a registration. -/
def registerKeys : List Str :=
  [text "node_id", text "ip", text "port", text "type", text "proto", text "sent_ms"]

theorem map_fst_registerMembers (node : ProducerNode) (sent_ms : UInt32) :
    (registerMembers node sent_ms).map Prod.fst = registerKeys := rfl

/-- A number with one decimal is printed as its tenths. -/
theorem decimal_point_decimal {n d : ℕ} (hd : d < 10) :
    decimal n ++ text "." ++ decimal d = fixedPoint 1 (10 * n + d) := by
  have hdiv : (10 * n + d) / 10 ^ 1 = n := by omega
  have hmod : (10 * n + d) % 10 = d := by omega
  rw [fixedPoint, hdiv, fixedDigits, fixedDigits, hmod, decimal_of_lt_ten hd, List.append_assoc]
  rfl

set_option maxRecDepth 2000 in
/-- The format of the telemetry prints its members. -/
theorem format_eq (m : TelemetryMessage) : m.format = objectText (telemetryMembers m) := by
  have hv := decimal_point_decimal (n := m.sample.v_int) m.sample.v_frac_lt
  have hi := decimal_point_decimal (n := m.sample.i_int) m.sample.i_frac_lt
  unfold TelemetryMessage.format objectText telemetryMembers
  simp only [List.map_cons, List.map_nil, Printed.text, membersText, ← hv, ← hi, List.append_assoc,
    List.cons_append, List.nil_append]
  rfl

theorem registerFormat_eq (node : ProducerNode) (sent_ms : UInt32) :
    registerFormat node sent_ms = objectText (registerMembers node sent_ms) := by
  unfold registerFormat objectText registerMembers
  simp only [List.map_cons, List.map_nil, Printed.text, membersText, List.append_assoc,
    List.cons_append, List.nil_append]
  rfl

/-- The type is printed in plain characters, six at most. -/
theorem nodeType_plain (ty : NodeType) :
    (∀ c ∈ ty.text, isPlain c = true ∧ c < 128) ∧ ty.text.length ≤ 6 := by
  cases ty <;> decide

/-- The identifier of a node fits into its buffer. -/
theorem nodeId_eq (node : ProducerNode) :
    node.nodeId = text "prod_" ++ node.type.text ++ text "_" ++ formatHex node.linkaddr.1 ++
      formatHex node.linkaddr.2 := by
  have htype := (nodeType_plain node.type).2
  have h1 : (text "prod_").length = 5 := rfl
  have h2 : (text "_").length = 1 := rfl
  unfold ProducerNode.nodeId
  rw [snprintf_of_length_lt]
  simp only [List.length_append, h1, h2, formatHex, List.length_cons, List.length_nil]
  omega

/-- The identifier has up to 16 characters. -/
theorem length_nodeId_le (node : ProducerNode) : node.nodeId.length ≤ 16 := by
  have htype := (nodeType_plain node.type).2
  have h1 : (text "prod_").length = 5 := rfl
  have h2 : (text "_").length = 1 := rfl
  simp only [nodeId_eq, List.length_append, h1, h2, formatHex, List.length_cons, List.length_nil]
  omega

/-- A byte is printed in plain characters. -/
theorem formatHex_plain (b : UInt8) : ∀ c ∈ formatHex b, isPlain c = true ∧ c < 128 := by
  have hdigit : ∀ d < 16, isPlain (hexDigit d) = true ∧ hexDigit d < 128 := by decide
  have hb := b.toNat_lt
  intro c hc
  simp only [formatHex, List.mem_cons, List.not_mem_nil, or_false] at hc
  rcases hc with rfl | rfl
  · exact hdigit _ (by omega)
  · exact hdigit _ (by omega)

/-- The identifier is printed in plain characters. -/
theorem nodeId_plain (node : ProducerNode) : ∀ c ∈ node.nodeId, isPlain c = true ∧ c < 128 := by
  have htext : ∀ t ∈ [text "prod_", text "_"], ∀ c ∈ t, isPlain c = true ∧ c < 128 := by decide
  intro c hc
  simp only [nodeId_eq, List.mem_append] at hc
  rcases hc with (((hc | hc) | hc) | hc) | hc
  · exact htext _ (by simp) c hc
  · exact (nodeType_plain node.type).1 c hc
  · exact htext _ (by simp) c hc
  · exact formatHex_plain _ c hc
  · exact formatHex_plain _ c hc

theorem nodeId_ne_nil (node : ProducerNode) : node.nodeId ≠ [] := by
  have h : text "prod_" ≠ [] := by decide
  rw [nodeId_eq]
  simp [h]

/-- The address is printed in plain characters. -/
theorem ip_isPlain (node : ProducerNode) :
    ∀ c ∈ node.node_ip_str, isPlain c = true ∧ c < 128 := by
  intro c hc
  obtain ⟨hlow, hhigh, hquote, hbackslash⟩ := node.ip_plain c hc
  refine ⟨?_, by omega⟩
  simp only [isPlain, Bool.and_eq_true, decide_eq_true_eq]
  exact ⟨⟨by omega, hquote⟩, hbackslash⟩

theorem mode_plain (m : TelemetryMessage) :
    (∀ c ∈ m.mode, isPlain c = true ∧ c < 128) ∧ m.mode.length ≤ 7 := by
  unfold TelemetryMessage.mode
  split_ifs <;> decide

theorem status_plain (m : TelemetryMessage) :
    (∀ c ∈ m.status, isPlain c = true ∧ c < 128) ∧ m.status.length ≤ 8 := by
  unfold TelemetryMessage.status
  split_ifs <;> decide

/-- The telemetry is a printed object. -/
theorem wellPrinted_telemetry (m : TelemetryMessage) : WellPrinted (telemetryMembers m) where
  ne_nil := List.cons_ne_nil _ _
  nodup := by
    rw [map_fst_telemetryMembers]
    decide
  keys p hp := by
    have hkeys : ∀ k ∈ telemetryKeys, ∀ c ∈ k, isPlain c = true ∧ c < 128 := by decide
    exact hkeys _ (map_fst_telemetryMembers m ▸ List.mem_map_of_mem hp)
  values := by
    have htenths : ∀ {n d : ℕ}, n < 1000 → d < 10 → 10 * n + d < 2 ^ 64 := by omega
    have hword : ∀ n : UInt32, n.toNat < 2 ^ 64 := fun n => n.toNat_lt.trans (by norm_num)
    have hinterval := m.interval_le.trans_lt (by decide : mqttPublishIntervalStressedMs < 2 ^ 64)
    have hanomaly := m.sample.anomaly.toNat_le.trans_lt (by norm_num : 1 < 2 ^ 64)
    have hproto : ∀ c ∈ text "MQTT", isPlain c = true ∧ c < 128 := by decide
    simp only [telemetryMembers, List.forall_mem_cons, Printed.Valid]
    exact ⟨nodeId_plain m.node, (nodeType_plain m.node.type).1, hproto, ip_isPlain m.node,
      hword m.seq, htenths m.sample.v_int_lt m.sample.v_frac_lt,
      htenths m.sample.i_int_lt m.sample.i_frac_lt, hanomaly, hinterval, hword m.sent_ms,
      (mode_plain m).1, (status_plain m).1, fun p hp => absurd hp List.not_mem_nil⟩

/-- The registration is a printed object. -/
theorem wellPrinted_register (node : ProducerNode) (sent_ms : UInt32) :
    WellPrinted (registerMembers node sent_ms) where
  ne_nil := List.cons_ne_nil _ _
  nodup := by
    rw [map_fst_registerMembers]
    decide
  keys p hp := by
    have hkeys : ∀ k ∈ registerKeys, ∀ c ∈ k, isPlain c = true ∧ c < 128 := by decide
    exact hkeys _ (map_fst_registerMembers node sent_ms ▸ List.mem_map_of_mem hp)
  values := by
    have hsent := sent_ms.toNat_lt
    have hproto : ∀ c ∈ text "coap", isPlain c = true ∧ c < 128 := by decide
    simp only [registerMembers, List.forall_mem_cons, Printed.Valid]
    exact ⟨nodeId_plain node, ip_isPlain node, by omega, (nodeType_plain node.type).1, hproto,
      by omega, fun p hp => absurd hp List.not_mem_nil⟩

/-- The decimal text of a number below `10^k`. -/
theorem length_decimal_le {n : ℕ} (k : ℕ) (hk : 0 < k) (hn : n < 10 ^ k) :
    (decimal n).length ≤ k := by
  rw [decimal, List.length_map]
  exact length_digits_le hk hn

/-- The telemetry has up to 243 characters. -/
theorem length_format_le (m : TelemetryMessage) : m.format.length ≤ 243 := by
  -- Every value is as long as its type allows.
  have hid := length_nodeId_le m.node
  have htype := (nodeType_plain m.node.type).2
  have hip := m.node.ip_length
  have hmode := (mode_plain m).2
  have hstatus := (status_plain m).2
  have hseq := length_decimal_le (n := m.seq.toNat) 10 (by norm_num) (by
    have := m.seq.toNat_lt
    omega)
  have hsent := length_decimal_le (n := m.sent_ms.toNat) 10 (by norm_num) (by
    have := m.sent_ms.toNat_lt
    omega)
  have hv := length_fixedPoint_le (k := 1) (n := 10 * m.sample.v_int + m.sample.v_frac) (j := 3)
    (by norm_num) (by
      have := m.sample.v_int_lt
      have := m.sample.v_frac_lt
      omega)
  have hi := length_fixedPoint_le (k := 1) (n := 10 * m.sample.i_int + m.sample.i_frac) (j := 3)
    (by norm_num) (by
      have := m.sample.i_int_lt
      have := m.sample.i_frac_lt
      omega)
  have hanomaly := length_decimal_le (n := m.sample.anomaly.toNat) 1 (by norm_num) (by
    have := m.sample.anomaly.toNat_le
    omega)
  have hinterval := length_decimal_le (n := m.publish_interval_ms) 5 (by norm_num) (by
    have : m.publish_interval_ms ≤ 15000 := m.interval_le
    omega)
  -- The keys, and the four characters around each member, are always the same.
  have hkeys : (telemetryKeys.map fun key => key.length + 4).sum = 114 := by decide
  have hproto : (text "MQTT").length = 4 := rfl
  rw [format_eq, length_objectText (wellPrinted_telemetry m).ne_nil,
    map_fst_telemetryMembers, hkeys]
  simp only [telemetryMembers, List.map_cons, List.map_nil, List.sum_cons, List.sum_nil,
    Printed.text,
    List.length_cons, List.length_append, List.length_nil, hproto]
  linarith

/-- The registration has up to 141 characters. -/
theorem length_registerFormat_le (node : ProducerNode) (sent_ms : UInt32) :
    (registerFormat node sent_ms).length ≤ 141 := by
  have hid := length_nodeId_le node
  have htype := (nodeType_plain node.type).2
  have hip := node.ip_length
  have hsent := length_decimal_le (n := sent_ms.toNat) 10 (by norm_num) (by
    have := sent_ms.toNat_lt
    omega)
  have hport := length_decimal_le (n := 5683) 4 (by norm_num) (by norm_num)
  have hkeys : (registerKeys.map fun key => key.length + 4).sum = 53 := by decide
  have hproto : (text "coap").length = 4 := rfl
  rw [registerFormat_eq, length_objectText (wellPrinted_register node sent_ms).ne_nil,
    map_fst_registerMembers, hkeys]
  simp only [registerMembers, List.map_cons, List.map_nil, List.sum_cons, List.sum_nil,
    Printed.text,
    List.length_cons, List.length_append, List.length_nil, hproto]
  linarith

/-- The telemetry as the cloud decodes it. -/
def telemetryFields (m : TelemetryMessage) : Obj :=
  [(text "node_id", .str m.node.nodeId), (text "type", .str m.node.type.text),
    (text "proto", .str (text "MQTT")), (text "ip", .str m.node.node_ip_str),
    (text "seq", .int m.seq.toNat), (text "v", .float (.fin m.sample.v)),
    (text "i", .float (.fin m.sample.i)), (text "anomaly", .int m.sample.anomaly.toNat),
    (text "publish_interval_ms", .int m.publish_interval_ms),
    (text "sent_ms", .int m.sent_ms.toNat),
    (text "mode", .str m.mode), (text "status", .str m.status)]

/-- The registration as the cloud decodes it. -/
def registerFields (node : ProducerNode) (sent_ms : UInt32) : Obj :=
  [(text "node_id", .str node.nodeId), (text "ip", .str node.node_ip_str), (text "port", .int 5683),
    (text "type", .str node.type.text), (text "proto", .str (text "coap")),
    (text "sent_ms", .int sent_ms.toNat)]

/-- A number of tenths is its integer part and its decimal. -/
theorem cast_tenths (n d : ℕ) : ((10 * n + d : ℕ) / 10 : ℚ) = n + d / 10 := by
  push_cast
  ring

theorem objectFields_telemetryMembers (m : TelemetryMessage) :
    objectFields (telemetryMembers m) = telemetryFields m := by
  simp only [objectFields, telemetryMembers, List.map_cons, List.map_nil, Printed.val, cast_tenths]
  rfl

theorem objectFields_registerMembers (node : ProducerNode) (sent_ms : UInt32) :
    objectFields (registerMembers node sent_ms) = registerFields node sent_ms := rfl

/-- The power that the cloud computes is the product of the two readings. -/
theorem floatMul_sample (s : Sample) :
    floatMul (.fin s.v) (.fin s.i) = .fin (s.v * s.i) := by
  have hv := s.v_int_lt
  have hvf := s.v_frac_lt
  have hi := s.i_int_lt
  have hif := s.i_frac_lt
  have hprod : s.v * s.i =
      ((10 * s.v_int + s.v_frac) * (10 * s.i_int + s.i_frac) : ℕ) / (100 : ℕ) := by
    unfold Sample.v Sample.i
    push_cast
    ring
  have hle : (10 * s.v_int + s.v_frac) * (10 * s.i_int + s.i_frac) ≤ 10000 * 10000 :=
    Nat.mul_le_mul (by omega) (by omega)
  have hlt := natDiv_lt_floatOverflow (b := 100) (hle.trans_lt (by norm_num)) (by norm_num)
  unfold floatMul
  rw [ExtRat.mul_fin, hprod]
  exact floatOfRat_natDiv hlt (by norm_num) (by norm_num)

/-- What the cloud makes of a telemetry message, which comes through unchanged. -/
structure TelemetrySurvives (py : Interp) (m : TelemetryMessage) : Prop where
  /-- The message and its terminator fit into the buffer. -/
  fits : m.format.length < 256
  /-- The message is decoded to the fields that were printed. -/
  decoded : loadObject py m.mqttAppBuf = .ok (telemetryFields m)
  /-- The gap is measured from `sent_ms`, for the node. -/
  gap : ∀ received_ms, measuredGap py (.dict (telemetryFields m)) received_ms =
    .ok (telemetryFields m, .str m.node.nodeId, received_ms - m.sent_ms.toNat)
  /-- The point has the values that were printed. -/
  point : ∀ delay_ms state, telemetryPoint py (telemetryFields m) delay_ms state = .ok
    { measurement := "telemetry_raw"
      tags := [("node_id", .str m.node.nodeId), ("type", .str m.node.type.text),
        ("protocol", .str (text "MQTT")), ("ip_address", .str m.node.node_ip_str)]
      fields := [("seq", .int m.seq.toNat), ("voltage", .float (.fin m.sample.v)),
        ("current", .float (.fin m.sample.i)),
        ("power", .float (.fin (m.sample.v * m.sample.i))),
        ("ml_anomaly", .int m.sample.anomaly.toNat),
        ("publish_interval_ms", .int m.publish_interval_ms), ("sent_at_ms", .int m.sent_ms.toNat),
        ("delay_ms", .float (.fin (nearest delay_ms))), ("delay_avg_ms", .float state.avg_delay_ms),
        ("delay_window_samples", .int state.samples),
        ("congestion", .int (if state.congested then 1 else 0)), ("adaptive_mode", .str m.mode),
        ("status", .str m.status)] }
  /-- The reading is stored under the node, with its type and its power. -/
  reading : ∀ now readings, updateReading .exact now (.dict (telemetryFields m)) readings = .ok
    (readings.set (.str m.node.nodeId)
      ⟨.str m.node.type.text, .fin (m.sample.v * m.sample.i), now⟩)

/-- What the cloud makes of a registration, which comes through unchanged. -/
structure RegistrationSurvives (py : Interp) (node : ProducerNode) (sent_ms : UInt32) : Prop where
  /-- The payload and its terminator fit into the buffer. -/
  fits : (registerFormat node sent_ms).length < 160
  /-- The payload is decoded to the fields that were printed. -/
  decoded : loadObject py (registerPayload node sent_ms) = .ok (registerFields node sent_ms)
  /-- The node is stored under its identifier, with its identifier and its address. -/
  stored : ∀ now_ms r, ∃ r' n,
    Registry.addNode now_ms (registerFields node sent_ms) r = .ok r' ∧
      r'.nodes.get? (.str node.nodeId) = some n ∧ n.info.get "node_id" = .str node.nodeId ∧
      n.info.get "ip" = .str node.node_ip_str

/-- The identifier is a string that is not empty. -/
theorem truthy_nodeId (node : ProducerNode) : truthy (.str node.nodeId) = true :=
  decide_eq_true (nodeId_ne_nil node)

theorem telemetrySurvives {py : Interp} (hdepth : 0 < py.recursionLimit) (m : TelemetryMessage) :
    TelemetrySurvives py m where
  fits := (length_format_le m).trans_lt (by norm_num)
  decoded := by
    have hfits := (length_format_le m).trans_lt (by norm_num : 243 < 256)
    rw [TelemetryMessage.mqttAppBuf, snprintf_of_length_lt hfits, format_eq,
      loadObject_objectText hdepth (wellPrinted_telemetry m), objectFields_telemetryMembers]
  gap received_ms := rfl
  point delay_ms state := by
    rw [← floatMul_sample]
    rfl
  reading now readings := by
    have hid : (telemetryFields m).get "node_id" = .str m.node.nodeId := rfl
    have htype : (telemetryFields m).get "type" = .str m.node.type.text := rfl
    have hproducer : isProducerType (.str m.node.type.text) = .ok true := by
      cases m.node.type <;> rfl
    have hpower : powerW .exact (telemetryFields m) = .ok (.fin (m.sample.v * m.sample.i)) := by
      rw [← floatMul_sample]
      rfl
    unfold updateReading
    simp only [asDict, Except.bind, hid, htype, truthy_nodeId, hproducer, hpower]
    rfl

theorem registrationSurvives {py : Interp} (hdepth : 0 < py.recursionLimit) (node : ProducerNode)
    (sent_ms : UInt32) : RegistrationSurvives py node sent_ms where
  fits := (length_registerFormat_le node sent_ms).trans_lt (by norm_num)
  decoded := by
    have hfits := (length_registerFormat_le node sent_ms).trans_lt (by norm_num : 141 < 160)
    rw [registerPayload, snprintf_of_length_lt hfits, registerFormat_eq,
      loadObject_objectText hdepth (wellPrinted_register node sent_ms),
        objectFields_registerMembers]
  stored now_ms r := by
    have hid : (registerFields node sent_ms).get "node_id" = .str node.nodeId := rfl
    have hstored : storedId (registerFields node sent_ms) = .str node.nodeId := by
      rw [storedId, hid, if_pos (truthy_nodeId node)]
    have hadd : r.addNode now_ms (registerFields node sent_ms) =
        .ok (r.insert (.str node.nodeId) now_ms (registerFields node sent_ms)) :=
      Registry.addNode_eq_ok.mpr ⟨.str node.nodeId, by rw [hstored]; rfl, rfl⟩
    refine ⟨r.insert (.str node.nodeId) now_ms (registerFields node sent_ms),
      r.fresh now_ms (registerFields node sent_ms), hadd, ?_, ?_, ?_⟩
    · rw [Registry.get?_insert, if_pos rfl]
    · exact storedInfo_getD (by decide) now_ms (registerFields node sent_ms) .none
    · exact storedInfo_getD (by decide) now_ms (registerFields node sent_ms) .none

/-- Every telemetry message and every registration of a producer node fits into its buffer, is
decoded to the fields that were printed, and is stored with them. -/
theorem messages_survive {py : Interp} (hdepth : 0 < py.recursionLimit) :
    (∀ m, TelemetrySurvives py m) ∧ ∀ node sent_ms, RegistrationSurvives py node sent_ms :=
  ⟨telemetrySurvives hdepth, registrationSurvives hdepth⟩

/-- The interpreter's default configuration nests enough. -/
theorem messages_survive_cpython :
    (∀ m, TelemetrySurvives .cpython m) ∧
      ∀ node sent_ms, RegistrationSurvives .cpython node sent_ms :=
  messages_survive (by decide)

end EnergyStation.Telemetry
