import EnergyStation.Lib.Window
import EnergyStation.Python.Double
import EnergyStation.Python.Json

/-!
# Telemetry storage and delay measurement

`influxdb_connect.py` keeps three tables that are keyed by `node_id`: the smallest gap between
arrival and sending time, the last five delays, and the delay state derived from them. A message
goes through `measuredGap`, which may raise and changes nothing, `track`, which changes the entries
of one node, and `telemetryPoint`, whose exceptions are caught. The delays are doubles; the other
numbers of a point are not rounded.
-/

namespace EnergyStation.Cloud

open Python Numeral Window
open Binary64 (nearest)

/-- A point handed to `write_api`. -/
structure Point where
  /-- The measurement. -/
  measurement : String
  /-- The tags. -/
  tags : List (String × Val)
  /-- The fields. -/
  fields : List (String × Val)

/-- `write_api.write`, which appends the point or raises without effect. -/
def writePoint (accepts : Bool) (p : Point) (written : List Point) : Except Exc (List Point) :=
  if accepts then .ok (written ++ [p]) else .error .external

/-- `CONGESTION_WINDOW_SIZE` -/
def congestionWindowSize : ℕ := 5

/-- `CONGESTION_THRESHOLD_MS` -/
def congestionThresholdMs : ℚ := 400

/-- An entry of `_delay_state`. -/
structure DelayState where
  /-- The mean of the window. -/
  avg_delay_ms : ExtRat
  /-- The mean is above the threshold. -/
  congested : Bool
  /-- The length of the window. -/
  samples : ℕ
  deriving DecidableEq

/-- `sum(window) / len(window)`, which is an infinity where the sum overflows. -/
def avgDelayMs (py : Interp) (window : List ℚ) : ExtRat :=
  doubleDiv (doubleSum py (window.map .fin)) (.fin window.length)

/-- What `_update_delay_state` computes from a window. -/
def DelayState.ofWindow (py : Interp) (window : List ℚ) : DelayState where
  avg_delay_ms := avgDelayMs py window
  congested := ExtRat.lt (.fin congestionThresholdMs) (avgDelayMs py window)
  samples := window.length

/-- The tables of the module. -/
structure DelayTables where
  /-- `_mqtt_offsets` -/
  mqtt_offsets : Dict Key ℤ
  /-- `_delay_windows` -/
  delay_windows : Dict Key (List ℚ)
  /-- `_delay_state` -/
  delay_state : Dict Key DelayState

/-- The tables of a cloud that has just started. -/
def DelayTables.boot : DelayTables := ⟨Dict.empty, Dict.empty, Dict.empty⟩

/-- The window of a node, which is empty for a key that has not been used. -/
def DelayTables.window (t : DelayTables) (node_id : Key) : List ℚ :=
  (t.delay_windows.get? node_id).getD []

/-- `_update_delay_state`. -/
def DelayTables.updateDelayState (py : Interp) (t : DelayTables) (node_id : Key) (delay_ms : ℚ) :
    DelayTables :=
  let window := push congestionWindowSize (t.window node_id) delay_ms
  { t with
    delay_windows := t.delay_windows.set node_id window
    delay_state := t.delay_state.set node_id (.ofWindow py window) }

/-- The update of the smallest gap. The log line comes first, and raises where it cannot write one
of the two gaps; an identifier that `json.loads` has read can always be written. -/
def DelayTables.calibrate (py : Interp) (t : DelayTables) (node_id : Key) (current_gap : ℤ) :
    Except Exc DelayTables :=
  match t.mqtt_offsets.get? node_id with
  | none =>
    (strOfInt py current_gap).map fun _ =>
      { t with mqtt_offsets := t.mqtt_offsets.set node_id current_gap }
  | some offset =>
    if current_gap < offset then
      (strOfInt py offset).bind fun _ =>
        (strOfInt py current_gap).map fun _ =>
          { t with mqtt_offsets := t.mqtt_offsets.set node_id current_gap }
    else .ok t

/-- `delay_ms`, once the smallest gap is up to date. -/
def DelayTables.delay (t : DelayTables) (node_id : Key) (current_gap : ℤ) : ℤ :=
  current_gap - lower (t.mqtt_offsets.get? node_id) current_gap

/-- The part of `save_to_influxdb` that changes the tables, for a node and a gap. The conversion
`float(delay_ms)` raises after the smallest gap has been updated. -/
def DelayTables.track (py : Interp) (t : DelayTables) (node_id : Key) (current_gap : ℤ) :
    Except Exc Unit × DelayTables :=
  -- The smallest gap is updated first, so that no delay is negative.
  match t.calibrate py node_id current_gap with
  | .error e => (.error e, t)
  | .ok calibrated =>
    match floatOfInt (t.delay node_id current_gap) with
    | .error e => (.error e, calibrated)
    | .ok _ =>
      (.ok (), calibrated.updateDelayState py node_id (nearest (t.delay node_id current_gap)))

/-- The part of `save_to_influxdb` before any table changes: the message, its node and its gap. -/
def measuredGap (py : Interp) (payload : Val) (received_ms : ℤ) : Except Exc (Obj × Key × ℤ) :=
  (asDict payload).bind fun payload =>
    (toInt py (payload.getD "sent_ms" (.int 0))).bind fun sensor_uptime_ms =>
      (hashKey (payload.get "node_id")).map fun node_id =>
        (payload, node_id, received_ms - sensor_uptime_ms)

/-- The point of a telemetry message. -/
def telemetryPoint (py : Interp) (payload : Obj) (delay_ms : ℤ) (state : DelayState) :
    Except Exc Point := do
  let seq ← toInt py (payload.getD "seq" (.int 0))
  let v ← toFloat (payload.getD "v" (.float (.fin 0)))
  let i ← toFloat (payload.getD "i" (.float (.fin 0)))
  let anomaly ← toInt py (payload.getD "anomaly" (.int 0))
  let publish_interval_ms ← toInt py (payload.getD "publish_interval_ms" (.int 0))
  let sent_ms ← toInt py (payload.getD "sent_ms" (.int 0))
  let soc ← match payload.get? "soc" with
    | none => .ok []
    | some soc => (toFloat soc).map fun soc => [("soc", Val.float soc)]
  return {
    measurement := "telemetry_raw"
    tags := [("node_id", payload.get "node_id"), ("type", payload.get "type"),
      ("protocol", payload.get "proto"), ("ip_address", payload.get "ip")]
    fields := [("seq", .int seq), ("voltage", .float v), ("current", .float i),
      ("power", .float (floatMul v i)), ("ml_anomaly", .int anomaly),
      ("publish_interval_ms", .int publish_interval_ms), ("sent_at_ms", .int sent_ms),
      ("delay_ms", .float (.fin (nearest delay_ms))), ("delay_avg_ms", .float state.avg_delay_ms),
      ("delay_window_samples", .int state.samples),
      ("congestion", .int (if state.congested then 1 else 0)),
      ("adaptive_mode", payload.getD "mode" (.str (text "normal"))),
      ("status", payload.getD "status" (.str (text "UNKNOWN")))] ++ soc }

/-- The tables, and the points written. -/
structure Store where
  /-- The tables. -/
  tables : DelayTables
  /-- The points that `write_api.write` has accepted, in order. -/
  written : List Point

/-- `save_to_influxdb`. Its second component is the store as it is when the function returns or
raises. -/
def saveToInfluxdb (py : Interp) (accepts : Bool) (payload : Val) (received_ms : ℤ) (s : Store) :
    Except Exc Unit × Store :=
  match measuredGap py payload received_ms with
  | .error e => (.error e, s)
  | .ok (payload, node_id, current_gap) =>
    match s.tables.track py node_id current_gap with
    | (.error e, tables) => (.error e, { s with tables := tables })
    | (.ok _, tables) =>
      let delay_ms := s.tables.delay node_id current_gap
      let state := DelayState.ofWindow py (tables.window node_id)
      match (telemetryPoint py payload delay_ms state).bind fun p =>
          writePoint accepts p s.written with
      -- The `try` of the write catches every exception, the conversions' included.
      | .error _ => (.ok (), { s with tables := tables })
      | .ok written => (.ok (), ⟨tables, written⟩)

/-- What the tables hold for one node. -/
@[ext] structure NodeDelay where
  /-- The smallest gap, if there has been a message. -/
  offset : Option ℤ
  /-- The last delays. -/
  window : List ℚ
  /-- The delay state, if there has been a message. -/
  state : Option DelayState
  deriving DecidableEq

/-- The entries of a node. -/
def DelayTables.node (t : DelayTables) (node_id : Key) : NodeDelay :=
  ⟨t.mqtt_offsets.get? node_id, t.window node_id, t.delay_state.get? node_id⟩

/-- The log line about a new smallest gap can be written, where there is one. -/
def Logged (py : Interp) (offset : Option ℤ) (current_gap : ℤ) : Prop :=
  match offset with
  | none => Printable py current_gap
  | some offset => current_gap < offset → Printable py offset ∧ Printable py current_gap

instance (py : Interp) (offset : Option ℤ) (current_gap : ℤ) :
    Decidable (Logged py offset current_gap) :=
  match offset with
  | none => inferInstanceAs (Decidable (Printable py current_gap))
  | some offset => inferInstanceAs (Decidable (current_gap < offset → _ ∧ _))

/-- What a message does to the entries of its own node. -/
def NodeDelay.track (py : Interp) (n : NodeDelay) (current_gap : ℤ) : NodeDelay :=
  if Logged py n.offset current_gap then
    let offset := lower n.offset current_gap
    let delay_ms := current_gap - offset
    if floatOverflow ≤ |(delay_ms : ℚ)| then { n with offset := some offset }
    else
      let window := push congestionWindowSize n.window (nearest delay_ms)
      ⟨some offset, window, some (.ofWindow py window)⟩
  else n

/-- The smallest gap is brought up to date exactly where the log line can be written. -/
theorem NodeDelay.track_offset (py : Interp) (n : NodeDelay) (gap : ℤ) :
    (n.track py gap).offset =
      if Logged py n.offset gap then some (lower n.offset gap) else n.offset := by
  unfold NodeDelay.track
  simp only
  split_ifs <;> rfl

/-- Where it cannot be written, nothing changes. -/
theorem calibrate_of_not_logged {py : Interp} {t : DelayTables} {k : Key} {gap : ℤ}
    (h : ¬ Logged py (t.mqtt_offsets.get? k) gap) : t.calibrate py k gap = .error .valueError := by
  unfold DelayTables.calibrate
  cases hk : t.mqtt_offsets.get? k with
  | none =>
    rw [hk] at h
    have hgap : ¬ Printable py gap := h
    simp only [strOfInt, if_neg hgap]
    rfl
  | some offset =>
    rw [hk] at h
    obtain ⟨hlt, hnot⟩ : gap < offset ∧ ¬ (Printable py offset ∧ Printable py gap) :=
      Classical.not_imp.mp h
    simp only [if_pos hlt, strOfInt]
    by_cases hoffset : Printable py offset
    · rw [if_pos hoffset, if_neg fun hgap => hnot ⟨hoffset, hgap⟩]
      rfl
    · rw [if_neg hoffset]
      rfl

/-- Where it can, the other tables are as they were, and so are the smallest gaps of the other
nodes. -/
theorem calibrate_of_logged {py : Interp} {t : DelayTables} {k : Key} {gap : ℤ}
    (h : Logged py (t.mqtt_offsets.get? k) gap) :
    ∃ offsets, t.calibrate py k gap = .ok { t with mqtt_offsets := offsets } ∧ ∀ k',
      offsets.get? k' =
        if k' = k then some (lower (t.mqtt_offsets.get? k) gap) else t.mqtt_offsets.get? k' := by
  unfold DelayTables.calibrate
  cases hk : t.mqtt_offsets.get? k with
  | none =>
    rw [hk] at h
    have hgap : Printable py gap := h
    refine ⟨t.mqtt_offsets.set k gap, ?_, fun k' => Dict.get?_set ..⟩
    simp only [strOfInt, if_pos hgap]
    rfl
  | some offset =>
    rw [hk] at h
    simp only [lower, Option.elim_some]
    by_cases hlt : gap < offset
    · obtain ⟨hoffset, hgap⟩ : Printable py offset ∧ Printable py gap := h hlt
      refine ⟨t.mqtt_offsets.set k gap, ?_, fun k' => ?_⟩
      · simp only [if_pos hlt, strOfInt, if_pos hoffset, if_pos hgap]
        rfl
      · rw [Dict.get?_set, min_eq_right hlt.le]
    · refine ⟨t.mqtt_offsets, by rw [if_neg hlt], fun k' => ?_⟩
      split_ifs with heq
      · rw [heq, hk, min_eq_left (not_lt.mp hlt)]
      · rfl

theorem updateDelayState_window (py : Interp) (t : DelayTables) (k k' : Key) (d : ℚ) :
    (t.updateDelayState py k d).window k' =
      if k' = k then push congestionWindowSize (t.window k) d else t.window k' := by
  simp only [DelayTables.updateDelayState, DelayTables.window, Dict.get?_set]
  split_ifs <;> rfl

/-- A message changes the entries of its node as `NodeDelay.track` says, and no others. -/
theorem track_node (py : Interp) (t : DelayTables) (k k' : Key) (gap : ℤ) :
    (t.track py k gap).2.node k' = if k' = k then (t.node k).track py gap else t.node k' := by
  unfold DelayTables.track NodeDelay.track floatOfInt DelayTables.delay DelayTables.node
  by_cases hlog : Logged py (t.mqtt_offsets.get? k) gap
  · obtain ⟨offsets, hcalibrate, hoffsets⟩ := calibrate_of_logged hlog
    have hwindow : ∀ k', ({ t with mqtt_offsets := offsets } : DelayTables).window k' =
      t.window k' :=
      fun _ => rfl
    simp only [hcalibrate, if_pos hlog]
    split_ifs with hover heq heq
    · rw [heq, hoffsets, if_pos rfl, hwindow]
    · rw [hoffsets, if_neg heq, hwindow]
    · rw [heq, updateDelayState_window, if_pos rfl, hwindow]
      simp [DelayTables.updateDelayState, hoffsets, hwindow]
    · rw [updateDelayState_window, if_neg heq, hwindow]
      simp [DelayTables.updateDelayState, hoffsets, heq, Dict.get?_set_ne _ heq]
  · simp only [calibrate_of_not_logged hlog, if_neg hlog]
    split_ifs with heq
    · rw [heq]
    · rfl

/-- `save_to_influxdb` leaves the tables as `track` does, whether the point is written or not. -/
theorem saveToInfluxdb_tables (py : Interp) (accepts : Bool) (payload : Val) (received_ms : ℤ)
    (s : Store) :
    (saveToInfluxdb py accepts payload received_ms s).2.tables =
      match measuredGap py payload received_ms with
      | .error _ => s.tables
      | .ok (_, k, gap) => (s.tables.track py k gap).2 := by
  unfold saveToInfluxdb
  cases measuredGap py payload received_ms with
  | error e => rfl
  | ok m =>
    obtain ⟨payload, k, gap⟩ := m
    simp only
    split
    · rename_i e tables htrack
      rw [htrack]
    · rename_i u tables htrack
      split <;> rw [htrack]

/-- The tables are updated without an exception exactly where the log line can be written and the
delay is in the range of floats. -/
theorem track_returns_iff (py : Interp) (t : DelayTables) (k : Key) (gap : ℤ) :
    (t.track py k gap).1 = .ok () ↔
      Logged py (t.mqtt_offsets.get? k) gap ∧ |(t.delay k gap : ℚ)| < floatOverflow := by
  unfold DelayTables.track floatOfInt
  by_cases hlog : Logged py (t.mqtt_offsets.get? k) gap
  · obtain ⟨offsets, hcalibrate, -⟩ := calibrate_of_logged hlog
    by_cases h : floatOverflow ≤ |(t.delay k gap : ℚ)|
    · simp [hcalibrate, h]
    · simp [hcalibrate, hlog, if_neg h, not_le.mp h]
  · simp [calibrate_of_not_logged hlog, hlog]

/-- A gap is measured of an object whose `sent_ms` is a number and whose `node_id` is hashable. -/
theorem measuredGap_eq_ok_iff {py : Interp} {payload : Val} {received_ms : ℤ} {o : Obj} {k : Key}
    {gap : ℤ} :
    measuredGap py payload received_ms = .ok (o, k, gap) ↔
      asDict payload = .ok o ∧ ∃ sent_ms, toInt py (o.getD "sent_ms" (.int 0)) = .ok sent_ms ∧
        hashKey (o.get "node_id") = .ok k ∧ received_ms - sent_ms = gap := by
  simp only [measuredGap, bind_eq_ok, map_eq_ok, Prod.mk.injEq]
  constructor
  · rintro ⟨o', ho', sent_ms, hsent, k', hk', rfl, rfl, hgap⟩
    exact ⟨ho', sent_ms, hsent, hk', hgap⟩
  · rintro ⟨ho, sent_ms, hsent, hk, hgap⟩
    exact ⟨o, ho, sent_ms, hsent, k, hk, rfl, rfl, hgap⟩

end EnergyStation.Cloud
