import EnergyStation.Cloud.BadReadings
import EnergyStation.Cloud.MqttClient
import EnergyStation.Lib.Latest
import EnergyStation.Lib.Outputs
import EnergyStation.Telemetry.RoundTrip
import Mathlib.Algebra.Order.BigOperators.Group.List
import Mathlib.Data.Finset.Prod

/-!
# The telemetry of a fleet of producers

Any number of producer nodes publish, and the broker brings their packets to `on_message` in any
order, each with the arrival time that the cloud reads. Over a whole run no packet raises, and the
cloud is one delay monitor for each node: `Monitor` is that machine, and `ingestion_refines` says
that the points written are the ones it puts out. `powers_exact` says what `_power_by_types` makes
of the readings of such a run. The delays are doubles; voltages, currents and powers are not
rounded.
-/

namespace EnergyStation.System.FleetTelemetry

open Cloud Firmware Latest Numeral Python Runs Telemetry Window
open Binary64 (nearest)

/-- A packet that arrives. -/
structure Packet where
  /-- The message that the node has printed. -/
  message : TelemetryMessage
  /-- `write_api.write` accepts its point. -/
  accepts : Bool
  /-- The arrival time. -/
  received_ms : ℤ
  /-- `time.time()` of `update_reading`. -/
  now : ℚ
  /-- The clock is not negative. -/
  received_nonneg : 0 ≤ received_ms
  /-- The clock fits 64 bits. -/
  received_lt : received_ms < 2 ^ 63

namespace Packet

/-- The identifier of the sender. -/
def nodeId (p : Packet) : Str := p.message.node.nodeId

/-- The key of the sender. -/
def key (p : Packet) : Key := .str p.nodeId

/-- The gap between arrival and sending time. -/
def gap (p : Packet) : ℤ := p.received_ms - p.message.sent_ms.toNat

/-- The power. -/
def power (p : Packet) : ℚ := p.message.sample.v * p.message.sample.i

/-- The reading that the packet carries. -/
def reading (p : Packet) : Reading := ⟨.str p.message.node.type.text, .fin p.power, p.now⟩

/-- The delay of the packet, for what the tables hold for its node. -/
def delay (p : Packet) (n : NodeDelay) : ℤ := p.gap - lower n.offset p.gap

/-- The window after the packet. -/
def window (p : Packet) (n : NodeDelay) : List ℚ :=
  push congestionWindowSize n.window (nearest (p.delay n))

/-- The point of the packet. -/
def point (py : Interp) (p : Packet) (n : NodeDelay) : Point :=
  let m := p.message
  let state := DelayState.ofWindow py (p.window n)
  { measurement := "telemetry_raw"
    tags := [("node_id", .str m.node.nodeId), ("type", .str m.node.type.text),
      ("protocol", .str (text "MQTT")), ("ip_address", .str m.node.node_ip_str)]
    fields := [("seq", .int m.seq.toNat), ("voltage", .float (.fin m.sample.v)),
      ("current", .float (.fin m.sample.i)), ("power", .float (.fin p.power)),
      ("ml_anomaly", .int m.sample.anomaly.toNat),
      ("publish_interval_ms", .int m.publish_interval_ms), ("sent_at_ms", .int m.sent_ms.toNat),
      ("delay_ms", .float (.fin (nearest (p.delay n)))),
      ("delay_avg_ms", .float state.avg_delay_ms),
      ("delay_window_samples", .int state.samples),
      ("congestion", .int (if state.congested then 1 else 0)), ("adaptive_mode", .str m.mode),
      ("status", .str m.status)] }

end Packet

/-- The cloud has just started. -/
def boot : Ingested := ⟨⟨DelayTables.boot, []⟩, Dict.empty⟩

/-- `on_message` with a packet. -/
def handle (py : Interp) (s : Ingested) (p : Packet) : Except Exc Unit × Ingested :=
  onMessage py p.accepts p.received_ms p.now p.message.mqttAppBuf s

/-- The cloud after a packet. -/
def step (py : Interp) (s : Ingested) (p : Packet) : Ingested := (handle py s p).2

/-- A delay monitor for each node. -/
abbrev Monitor := Str → NodeDelay

namespace Monitor

/-- The monitors before the first packet. -/
def boot : Monitor := fun _ => ⟨none, [], none⟩

/-- A packet goes to the monitor of its node. -/
def step (py : Interp) (f : Monitor) (p : Packet) : Monitor :=
  Function.update f p.nodeId ((f p.nodeId).track py p.gap)

/-- The point of a packet, if it is accepted. -/
def points (py : Interp) (f : Monitor) (p : Packet) : List Point :=
  if p.accepts then [p.point py (f p.nodeId)] else []

end Monitor

/-- What the cloud has in common with the monitors. -/
structure Follows (s : Ingested) (f : Monitor) : Prop where
  /-- The tables hold what the monitors do. -/
  node : ∀ id, s.store.tables.node (.str id) = f id
  /-- The smallest gaps are between those that can occur. -/
  offset : ∀ id o, (f id).offset = some o → -2 ^ 32 < o ∧ o < 2 ^ 63

/-- A gap is between those that can occur. -/
theorem Packet.gap_bounds (p : Packet) : -2 ^ 32 < p.gap ∧ p.gap < 2 ^ 63 := by
  have hsent := p.message.sent_ms.toNat_lt
  have h0 := p.received_nonneg
  have h1 := p.received_lt
  unfold gap
  omega

/-- The smallest gap after a packet is between those that can occur. -/
theorem lower_bounds {n : NodeDelay} (h : ∀ o, n.offset = some o → -2 ^ 32 < o ∧ o < 2 ^ 63)
    (p : Packet) : -2 ^ 32 < lower n.offset p.gap ∧ lower n.offset p.gap < 2 ^ 63 := by
  have hgap := p.gap_bounds
  rcases hoffset : n.offset with _ | o
  · exact hgap
  · have ho := h o hoffset
    simp only [lower, Option.elim_some]
    omega

/-- The log line can be written. -/
theorem logged_gap (py : Interp) {n : NodeDelay}
    (h : ∀ o, n.offset = some o → -2 ^ 32 < o ∧ o < 2 ^ 63) (p : Packet) :
    Logged py n.offset p.gap := by
  have hprintable : ∀ gap : ℤ, -2 ^ 32 < gap ∧ gap < 2 ^ 63 → Printable py gap := by
    intro gap hgap
    refine printable_of_abs_lt py (k := 20) (by norm_num) ?_
    rw [abs_lt]
    omega
  cases hoffset : n.offset with
  | none => exact hprintable p.gap p.gap_bounds
  | some o => exact fun _ => ⟨hprintable o (h o hoffset), hprintable p.gap p.gap_bounds⟩

/-- A delay is a float. -/
theorem delay_lt {n : NodeDelay} (h : ∀ o, n.offset = some o → -2 ^ 32 < o ∧ o < 2 ^ 63)
    (p : Packet) : |((p.delay n : ℤ) : ℚ)| < floatOverflow := by
  have hgap := p.gap_bounds
  have hlower := lower_bounds h p
  have hle : |p.delay n| ≤ 2 ^ 64 := by
    unfold Packet.delay
    rw [abs_le]
    omega
  have hcast : |((p.delay n : ℤ) : ℚ)| ≤ 2 ^ 64 := by exact_mod_cast hle
  exact hcast.trans_lt ((pow_lt_pow_right₀ (by norm_num) (by norm_num)).trans_le
    (two_pow_le_floatOverflow (n := 65) (by norm_num)))

/-- The monitor of a node after a packet of it. -/
theorem track_eq (py : Interp) {n : NodeDelay}
    (h : ∀ o, n.offset = some o → -2 ^ 32 < o ∧ o < 2 ^ 63) (p : Packet) :
    Cloud.NodeDelay.track py n p.gap =
      ⟨some (lower n.offset p.gap), p.window n, some (.ofWindow py (p.window n))⟩ := by
  have hlt := delay_lt h p
  unfold Packet.window
  unfold Packet.delay at hlt ⊢
  unfold Cloud.NodeDelay.track
  simp only
  rw [if_pos (logged_gap py h p), if_neg (not_le.mpr hlt)]

/-- The body of a packet decodes to the fields of its message. -/
theorem loadBody_packet {py : Interp} (hdepth : 0 < py.recursionLimit) (p : Packet) :
    loadBody py p.message.mqttAppBuf = .ok (.dict (telemetryFields p.message)) := by
  obtain ⟨v, hv, hdict⟩ := bind_eq_ok.mp (telemetrySurvives hdepth p.message).decoded
  rw [hv]
  rcases v with _ | _ | _ | _ | _ | _ | items
  · cases hdict
  · cases hdict
  · cases hdict
  · cases hdict
  · cases hdict
  · cases hdict
  · rw [Except.ok.inj hdict]

/-- The tables and the points after a packet. -/
theorem saveToInfluxdb_packet {py : Interp} (hdepth : 0 < py.recursionLimit) {s : Ingested}
    {f : Monitor} (h : Follows s f) (p : Packet) :
    saveToInfluxdb py p.accepts (.dict (telemetryFields p.message)) p.received_ms s.store =
      (.ok (), ⟨(s.store.tables.track py p.key p.gap).2,
        s.store.written ++ Monitor.points py f p⟩) := by
  have hnode : s.store.tables.node p.key = f p.nodeId := h.node p.nodeId
  have hdelay : s.store.tables.delay p.key p.gap = p.delay (f p.nodeId) := by
    rw [← hnode]
    rfl
  have hoffset : s.store.tables.mqtt_offsets.get? p.key = (f p.nodeId).offset :=
    congrArg NodeDelay.offset hnode
  -- The gap of two 64-bit times can be logged, and their delay is within the range of floats.
  have hreturns : (s.store.tables.track py p.key p.gap).1 = .ok () :=
    (track_returns_iff _ _ _ _).mpr
      ⟨hoffset ▸ logged_gap py (h.offset p.nodeId) p, hdelay ▸ delay_lt (h.offset p.nodeId) p⟩
  have hwindow : (s.store.tables.track py p.key p.gap).2.window p.key =
      p.window (f p.nodeId) := by
    have htrack := track_node py s.store.tables p.key p.key p.gap
    rw [if_pos rfl, hnode, track_eq py (h.offset p.nodeId) p] at htrack
    exact congrArg NodeDelay.window htrack
  -- The printed packet has an identifier and a time, so nothing raises before the tables.
  have hgap : measuredGap py (.dict (telemetryFields p.message)) p.received_ms =
      .ok (telemetryFields p.message, p.key, p.gap) :=
    (telemetrySurvives hdepth p.message).gap p.received_ms
  have hpoint := (telemetrySurvives hdepth p.message).point (p.delay (f p.nodeId))
    (.ofWindow py ((s.store.tables.track py p.key p.gap).2.window p.key))
  unfold saveToInfluxdb
  rw [hgap]
  simp only
  rcases htrack : s.store.tables.track py p.key p.gap with ⟨r, tables⟩
  rw [htrack] at hreturns hwindow hpoint
  obtain rfl : r = .ok () := hreturns
  simp only at hwindow hpoint ⊢
  rw [hdelay, hpoint, hwindow]
  -- Whether the point is written does not matter for the tables.
  rcases haccepts : p.accepts with _ | _
  · simp [Except.bind, writePoint, Monitor.points, haccepts]
  · simp [Except.bind, writePoint, Monitor.points, haccepts, Packet.point, Packet.power]

/-- A packet is handled without an exception. It goes to the monitor of its node, its point is
written, and its reading is stored. -/
theorem handle_eq {py : Interp} (hdepth : 0 < py.recursionLimit) {s : Ingested} {f : Monitor}
    (h : Follows s f) (p : Packet) :
    handle py s p = (.ok (), ⟨⟨(s.store.tables.track py p.key p.gap).2,
      s.store.written ++ Monitor.points py f p⟩, s.readings.set p.key p.reading⟩) := by
  have hreading := (telemetrySurvives hdepth p.message).reading p.now s.readings
  unfold handle onMessage ingest
  rw [loadBody_packet hdepth p]
  simp only [saveToInfluxdb_packet hdepth h p, hreading]
  rfl

/-- The cloud follows the monitors through a packet. -/
theorem follows_step {py : Interp} (hdepth : 0 < py.recursionLimit) {s : Ingested} {f : Monitor}
    (h : Follows s f) (p : Packet) : Follows (step py s p) (Monitor.step py f p) := by
  have hnode : s.store.tables.node p.key = f p.nodeId := h.node p.nodeId
  constructor
  · -- The tables of the other nodes are not touched.
    intro id
    rw [step, handle_eq hdepth h p]
    simp only [track_node, Monitor.step, hnode]
    by_cases hid : id = p.nodeId
    · have hkey : Key.str p.nodeId = p.key := rfl
      rw [hid, Function.update_self, if_pos hkey]
    · have hkey : ¬ Key.str id = p.key := fun hkey => hid (Key.str.inj hkey)
      rw [Function.update_of_ne hid, if_neg hkey, h.node id]
  · -- A smallest gap is that of a packet of the node.
    intro id o ho
    by_cases hid : id = p.nodeId
    · rw [Monitor.step, hid, Function.update_self, track_eq py (h.offset p.nodeId) p] at ho
      rw [← Option.some.inj ho]
      exact lower_bounds (h.offset p.nodeId) p
    · rw [Monitor.step, Function.update_of_ne hid] at ho
      exact h.offset id o ho

/-- The tables of a cloud that has just started are those of the monitors. -/
theorem follows_boot : Follows boot Monitor.boot :=
  ⟨fun _ => rfl, fun _ _ h => by cases h⟩

/-- The cloud follows the monitors through a run. -/
theorem follows_run {py : Interp} (hdepth : 0 < py.recursionLimit) (ps : List Packet) :
    Follows (run (step py) boot ps) (run (Monitor.step py) Monitor.boot ps) ∧
      (run (step py) boot ps).store.written =
        outputs (Monitor.step py) (Monitor.points py) Monitor.boot ps ∧
      (run (step py) boot ps).readings = table Packet.key Packet.reading ps := by
  induction ps using List.reverseRecOn with
  | nil => exact ⟨follows_boot, rfl, rfl⟩
  | append_singleton ps p ih =>
    obtain ⟨hfollows, hwritten, hreadings⟩ := ih
    rw [run_concat, run_concat, outputs_concat, table_concat, ← hwritten, ← hreadings]
    refine ⟨follows_step hdepth hfollows p, ?_, ?_⟩
    · rw [step, handle_eq hdepth hfollows p]
    · rw [step, handle_eq hdepth hfollows p]

/-- Over every run of packets of producer nodes, in whatever order they arrive, `on_message` never
raises. The points written are those that one delay monitor for each node puts out: one for each
packet that is accepted, in the order of arrival, with the values that the node has printed, the
delay against the fastest packet of the node so far, and the state of its own last five delays. -/
theorem ingestion_refines {py : Interp} (hdepth : 0 < py.recursionLimit) (ps : List Packet) :
    Along (step py) (fun s p => (handle py s p).1 = .ok ()) boot ps ∧
      (run (step py) boot ps).store.written =
        outputs (Monitor.step py) (Monitor.points py) Monitor.boot ps := by
  refine ⟨along_iff_at_every_step.mpr fun pre p _ => ?_, (follows_run hdepth ps).2.1⟩
  rw [handle_eq hdepth (follows_run hdepth pre).1 p]

/-- The second packet of the solar node, with 33.5 V and 16.2 A, which comes before the first. -/
def firstPacket : Packet where
  message :=
    { node := solarNode
      seq := 1
      sample := ⟨33, 5, 16, 2, false, by decide, by decide, by decide, by decide⟩
      publish_interval_ms := 1600
      interval_le := by decide
      sent_ms := 3000
      device_on := true
      device_starting := false }
  accepts := true
  received_ms := 90000
  now := 90
  received_nonneg := by decide
  received_lt := by decide

/-- A packet of the wind node, with 24.5 V and 10.4 A, whose point is refused. -/
def windPacket : Packet where
  message :=
    { node := windNode
      seq := 7
      sample := ⟨24, 5, 10, 4, false, by decide, by decide, by decide, by decide⟩
      publish_interval_ms := 4000
      interval_le := by decide
      sent_ms := 41000
      device_on := true
      device_starting := false }
  accepts := false
  received_ms := 90020
  now := 9002 / 100
  received_nonneg := by decide
  received_lt := by decide

/-- The first packet of the solar node, with 33.5 V and 16.4 A, which comes late. -/
def latePacket : Packet where
  message :=
    { node := solarNode
      seq := 0
      sample := ⟨33, 5, 16, 4, false, by decide, by decide, by decide, by decide⟩
      publish_interval_ms := 1600
      interval_le := by decide
      sent_ms := 1000
      device_on := true
      device_starting := false }
  accepts := true
  received_ms := 90500
  now := 905 / 10
  received_nonneg := by decide
  received_lt := by decide

/-- The packets of two nodes, those of one of them out of order. -/
def twoNodes : List Packet := [firstPacket, windPacket, latePacket]

/-- They are handled without an exception. -/
theorem ingestion_refines_two :
    Along (step .cpython) (fun s p => (handle .cpython s p).1 = .ok ()) boot twoNodes ∧
      (run (step .cpython) boot twoNodes).store.written =
        outputs (Monitor.step .cpython) (Monitor.points .cpython) Monitor.boot twoNodes :=
  ingestion_refines (by decide) twoNodes

/-- The power in hundredths of a watt. -/
def Packet.centiwatts (p : Packet) : ℕ :=
  (10 * p.message.sample.v_int + p.message.sample.v_frac) *
    (10 * p.message.sample.i_int + p.message.sample.i_frac)

theorem power_eq (p : Packet) : p.power = p.centiwatts / 100 := by
  unfold Packet.power Sample.v Sample.i Packet.centiwatts
  push_cast
  ring

/-- Three digits before the point and one after it give up to a million watts. -/
theorem centiwatts_le (p : Packet) : p.centiwatts ≤ 10 ^ 8 := by
  have hv := p.message.sample.v_int_lt
  have hvf := p.message.sample.v_frac_lt
  have hi := p.message.sample.i_int_lt
  have hif := p.message.sample.i_frac_lt
  calc p.centiwatts ≤ 10 ^ 4 * 10 ^ 4 := Nat.mul_le_mul (by omega) (by omega)
    _ = 10 ^ 8 := by norm_num

/-- The key of a node of a type with a link-layer address. -/
def keyOf (a : NodeType × ℕ × ℕ) : Key :=
  .str (text "prod_" ++ a.1.text ++ text "_" ++ formatHex (UInt8.ofNat a.2.1) ++
    formatHex (UInt8.ofNat a.2.2))

/-- The types and addresses that nodes can have, where a byte is a number below `n`. -/
def addresses (n : ℕ) : Finset (NodeType × ℕ × ℕ) :=
  {.solar, .wind, .diesel} ×ˢ Finset.range n ×ˢ Finset.range n

/-- The keys of the nodes, where a byte is a number below `n`. -/
def keys (n : ℕ) : Finset Key := (addresses n).image keyOf

theorem card_keys (n : ℕ) : (keys n).card ≤ 3 * (n * n) := by
  refine Finset.card_image_le.trans (le_of_eq ?_)
  rw [addresses, Finset.card_product, Finset.card_product, Finset.card_range]
  rfl

/-- The keys are made of a type and of two bytes. -/
theorem key_mem {n : ℕ} (hn : n = 2 ^ 8) (p : Packet) : p.key ∈ keys n := by
  have h1 := p.message.node.linkaddr.1.toNat_lt
  have h2 := p.message.node.linkaddr.2.toNat_lt
  have htype : p.message.node.type ∈ ({.solar, .wind, .diesel} : Finset NodeType) := by
    cases p.message.node.type <;> decide
  have hkey : keyOf (p.message.node.type, p.message.node.linkaddr.1.toNat,
      p.message.node.linkaddr.2.toNat) = p.key := by
    simp only [keyOf, UInt8.ofNat_toNat]
    rw [Packet.key, Packet.nodeId, nodeId_eq]
  rw [← hkey]
  generalize p.message.node.linkaddr.1.toNat = a at h1
  generalize p.message.node.linkaddr.2.toNat = b at h2
  rw [← hn] at h1 h2
  refine Finset.mem_image_of_mem keyOf ?_
  rw [addresses, Finset.mem_product, Finset.mem_product, Finset.mem_range, Finset.mem_range]
  exact ⟨htype, h1, h2⟩

/-- There are no more nodes than keys. -/
theorem length_latest_le_card {keys : Finset Key} (h : ∀ p : Packet, p.key ∈ keys)
    (ps : List Packet) : (latest Packet.key ps).length ≤ keys.card := by
  have hsub : ((latest Packet.key ps).map Packet.key).toFinset ⊆ keys := by
    intro k hk
    obtain ⟨p, -, rfl⟩ := List.mem_map.mp (List.mem_toFinset.mp hk)
    exact h p
  calc (latest Packet.key ps).length
      = ((latest Packet.key ps).map Packet.key).toFinset.card := by
        rw [List.toFinset_card_of_nodup (nodup_map_latest Packet.key ps), List.length_map]
    _ ≤ keys.card := Finset.card_le_card hsub

/-- There are no more nodes than types and addresses. -/
theorem length_latest_le {n : ℕ} (hn : n = 2 ^ 8) (ps : List Packet) :
    (latest Packet.key ps).length ≤ 3 * (n * n) :=
  (length_latest_le_card (key_mem hn) ps).trans (card_keys n)

/-- The packets whose readings a cycle counts: the latest ones of the nodes that are registered, of
the types, and not stale. -/
def countedPackets (types : List String) (now : ℚ) (registry : Registry) (ps : List Packet) :
    List Packet :=
  (latest Packet.key ps).filter fun p => counts types now registry p.key p.reading

/-- The powers that a cycle adds up are those of the packets, up to order. -/
theorem countedPowers_perm (types : List String) (now : ℚ) (registry : Registry)
    (ps : List Packet) :
    (BadReadings.countedPowers types now registry (table Packet.key Packet.reading ps)).Perm
      ((countedPackets types now registry ps).map Packet.power) := by
  have hperm := ((entries_table_perm Packet.key Packet.reading ps).filter fun e =>
    counts types now registry e.1 e.2).map fun e => BadReadings.value e.2.power_w
  rw [List.filter_map, List.map_map] at hperm
  exact hperm

/-- Every reading is an ordinary number. -/
theorem allFinite_table (ps : List Packet) :
    BadReadings.AllFinite (table Packet.key Packet.reading ps) := by
  intro k reading hget
  obtain ⟨p, -, -, rfl⟩ := (get?_table_iff ps k reading).mp hget
  rfl

/-- Numbers of hundredths, each up to a million, as many as there can be nodes, are added
exactly. -/
theorem sumsInRange_powers {l : List ℚ} (hlength : l.length ≤ 3 * (2 ^ 8 * 2 ^ 8))
    (h : ∀ q ∈ l, ∃ n : ℕ, n ≤ 10 ^ 8 ∧ q = n / 100) :
    SumsInRange flush 0 l ∧ roundedSum flush 0 l = l.sum := by
  -- The numbers in hundredths.
  let ns : List ℕ := l.map fun q => ⌊q * 100⌋₊
  have hfloor : ∀ n : ℕ, ⌊(n / 100 * 100 : ℚ)⌋₊ = n := fun n => by
    rw [div_mul_cancel₀ _ (by norm_num), Nat.floor_natCast]
  have hl : l = ns.map fun n : ℕ => (n / (100 : ℕ) : ℚ) := by
    rw [List.map_map]
    refine (List.map_id l).symm.trans (List.map_congr_left fun q hq => ?_)
    obtain ⟨n, -, rfl⟩ := h q hq
    simp only [Function.comp_apply, hfloor, id_eq, Nat.cast_ofNat]
  have hns : ∀ n ∈ ns, n ≤ 10 ^ 8 := by
    intro n hn
    obtain ⟨q, hq, rfl⟩ := List.mem_map.mp hn
    obtain ⟨n, hn, rfl⟩ := h q hq
    rwa [hfloor]
  have hsum : ns.sum ≤ 3 * (2 ^ 8 * 2 ^ 8) * 10 ^ 8 := by
    have hle := List.sum_le_card_nsmul ns (10 ^ 8) hns
    rw [Nat.nsmul_eq_mul] at hle
    refine hle.trans (Nat.mul_le_mul_right _ ?_)
    rwa [List.length_map]
  have hlt := natDiv_lt_floatOverflow (a := 0 + ns.sum) (b := 100) (by omega) (by norm_num)
  obtain ⟨hrange, hexact⟩ := sumsInRange_natDiv (a := 0) (by norm_num) (by norm_num) hlt
  rw [← hl, Nat.cast_zero, zero_div] at hrange hexact
  refine ⟨hrange, hexact.trans ?_⟩
  rw [zero_add, hl]
  clear_value ns
  clear hl hns hsum hlt hrange hexact
  induction ns with
  | nil => simp
  | cons n ns ih =>
    rw [List.map_cons, List.sum_cons, List.sum_cons, ← ih]
    push_cast
    ring

/-- From the readings that packets leave, `_power_by_types` adds up the powers of those that it
counts. -/
theorem powerByTypes_table (ps : List Packet) (types : List String) (now : ℚ)
    (registry : Registry) :
    powerByTypes .exact types now registry (table Packet.key Packet.reading ps) =
      .fin ((countedPackets types now registry ps).map Packet.power).sum := by
  have hperm := countedPowers_perm types now registry ps
  rw [BadReadings.powerByTypes_eq (allFinite_table ps)]
  generalize BadReadings.countedPowers types now registry (table Packet.key Packet.reading ps) = l
    at hperm
  have hlength : l.length ≤ 3 * (2 ^ 8 * 2 ^ 8) := by
    rw [hperm.length_eq, List.length_map]
    exact (List.length_filter_le _ _).trans (length_latest_le rfl ps)
  have hpowers : ∀ q ∈ l, ∃ n : ℕ, n ≤ 10 ^ 8 ∧ q = n / 100 := by
    intro q hq
    obtain ⟨p, -, rfl⟩ := List.mem_map.mp (hperm.mem_iff.mp hq)
    exact ⟨p.centiwatts, centiwatts_le p, power_eq p⟩
  obtain ⟨hrange, hsum⟩ := sumsInRange_powers hlength hpowers
  calc floatSum (l.map ExtRat.fin) = .fin (roundedSum flush 0 l) :=
        adds_floatAdd.foldl_of_inRange hrange
    _ = .fin ((countedPackets types now registry ps).map Packet.power).sum := by
      rw [hsum, hperm.sum_eq]

/-- What a cycle of `balance_loop` reads after any run of packets of producer nodes: the sum of the
products of voltage and current of the latest packet of each node that is registered, of one of the
types, and not more than 30 s old. None of these numbers is special, and no sum on the way overflows
or underflows. -/
theorem powers_exact {py : Interp} (hdepth : 0 < py.recursionLimit) (ps : List Packet)
    (types : List String) (now : ℚ) (registry : Registry) :
    powerByTypes .exact types now registry (run (step py) boot ps).readings =
      .fin ((countedPackets types now registry ps).map Packet.power).sum := by
  rw [(follows_run hdepth ps).2.2, powerByTypes_table]

/-- With both nodes registered, the packets that have come last give 33.5 V times 16.4 A and 24.5 V
times 10.4 A. -/
theorem powers_exact_two :
    powerByTypes .exact renewableTypes 100
      ((Registry.boot.insert firstPacket.key 0 []).insert windPacket.key 0 [])
      (run (step .cpython) boot twoNodes).readings = .fin (8042 / 10) := by
  rw [powers_exact (by decide) twoNodes renewableTypes 100]
  decide +kernel

end EnergyStation.System.FleetTelemetry
