import EnergyStation.Cloud.CoapResources
import EnergyStation.Firmware.Clock
import EnergyStation.Telemetry.DelayReference

/-!
# The delay baseline across restarts

The smallest gap of a node is kept for ever. The gap of a packet is the instant its node booted,
plus `2 ^ 32` for each time its time stamp has wrapped, plus its sub-second part and its transit
time. Neither a registration nor a removal touches the delay tables, so a later boot, or a wrapped
time stamp, is measured against the instant of an earlier one. Five packets with the smallest
transit time are found congested unless their origin is close to that of all packets before
(`not_congested_iff_originsClose`).
-/

namespace EnergyStation.Telemetry.Reboot

open Python Cloud Firmware Runs Window

variable {py : Interp} {id : Str}

/-- A packet of the node. -/
structure Packet where
  /-- The reading of the cloud's clock when the node booted. -/
  boot : ℤ
  /-- The uptime of the node when it sent the packet. -/
  uptime_ms : ℕ
  /-- The transit time of the packet. -/
  transit_ms : ℕ
  /-- The cloud's clock is not negative. -/
  received_nonneg : 0 ≤ boot + uptime_ms + transit_ms
  /-- The cloud's clock fits 64 bits. -/
  received_lt : boot + uptime_ms + transit_ms < 2 ^ 63

/-- The arrival time. -/
def Packet.received_ms (p : Packet) : ℤ := p.boot + p.uptime_ms + p.transit_ms

/-- The instant at which the time stamp was zero. -/
def Packet.origin (p : Packet) : ℤ := p.boot + 2 ^ 32 * wraps p.uptime_ms

/-- The gap of the packet. -/
def Packet.gap (p : Packet) : ℤ := p.received_ms - sentMs p.uptime_ms

/-- What happens. -/
inductive Event (py : Interp) (id : Str) where
  /-- A packet of the node, with its other fields. -/
  | packet (p : Packet) (rest : Obj) (accepts : Bool)
  /-- A message of another node. -/
  | other (m : Message) (h : gapOf py (.str id) m = none)
  /-- A request to `/register`. -/
  | register (now_ms : ℤ) (accepts : Bool) (body : CStdlib.Bytes)
  /-- A request to `/unregister`. -/
  | unregister (accepts : Bool) (body : CStdlib.Bytes)
  /-- The heartbeat loop removes a node. -/
  | remove (node_id : Val)

/-- The registry, the delay tables and the points. -/
structure State where
  /-- The registry. -/
  registry : Registry
  /-- The delay tables and the points. -/
  store : Store

/-- The cloud has just started. -/
def boot : State := ⟨Registry.boot, ⟨DelayTables.boot, []⟩⟩

/-- What the handlers of the CoAP resources change. -/
def State.withSite (s : State) (site : Site) : State :=
  ⟨site.registry, { s.store with written := site.written }⟩

/-- The message of an event. -/
def Event.message : Event py id → Option Message
  | .packet p rest accepts =>
    some ⟨telemetry id (sentMs p.uptime_ms) rest, p.received_ms, accepts⟩
  | .other m _ => some m
  | _ => none

/-- One event. -/
def step (s : State) (e : Event py id) : State :=
  match e.message with
  | some m => { s with store := (saveToInfluxdb py m.accepts m.payload m.received_ms s.store).2 }
  | none =>
    match e with
    | .register now_ms accepts body =>
      s.withSite (RegisterResource.renderPost py now_ms accepts body
        ⟨s.registry, s.store.written⟩).2
    | .unregister accepts body =>
      s.withSite (UnregisterResource.renderPost py accepts body ⟨s.registry, s.store.written⟩).2
    | .remove node_id =>
      match s.registry.removeNode node_id with
      | .ok registry => { s with registry := registry }
      | .error _ => s
    | _ => s

/-- The packets of the node. -/
def packets (es : List (Event py id)) : List Packet :=
  es.filterMap fun
    | .packet p _ _ => some p
    | _ => none

/-- The last five packets are of one boot, sent at whole seconds of uptime, received in the order
they were sent, and no packet of the node has ever been faster. -/
structure Settled (pre last : List Packet) : Prop where
  /-- There are five of them. -/
  five : last.length = 5
  /-- They are of one boot. -/
  epoch : ∀ p ∈ last, ∀ q ∈ last, p.boot = q.boot
  /-- They are sent at whole seconds. -/
  whole : ∀ p ∈ last, p.uptime_ms % 1000 = 0
  /-- They are received in order. -/
  ordered : last.Pairwise fun p q => p.uptime_ms ≤ q.uptime_ms
  /-- They have the smallest transit time. -/
  fastest : ∀ p ∈ last, ∀ q ∈ pre ++ last, p.transit_ms ≤ q.transit_ms

/-- The origin of none of the last packets is more than 400 ms after the origin of a packet received
so far, plus the sub-second part and the extra transit time of that packet. -/
def OriginsClose (pre last : List Packet) : Prop :=
  ∀ p ∈ last, ∀ q ∈ pre ++ last, p.origin ≤
    q.origin + (q.uptime_ms % 1000 : ℕ) + (q.transit_ms - p.transit_ms) + 400

instance (pre last : List Packet) : Decidable (OriginsClose pre last) :=
  inferInstanceAs (Decidable (∀ p ∈ last, ∀ q ∈ pre ++ last, _ ≤ _))

/-- The gap of a packet, in the terms of its node. -/
theorem gap_eq (p : Packet) : p.gap = p.origin + (p.uptime_ms % 1000 : ℕ) + p.transit_ms := by
  have hwraps := sentMs_add_wraps p.uptime_ms
  have hsplit : p.uptime_ms = p.uptime_ms / 1000 * 1000 + p.uptime_ms % 1000 :=
    (Nat.div_add_mod' p.uptime_ms 1000).symm
  unfold Packet.gap Packet.received_ms Packet.origin
  omega

/-- A later packet of the same boot has a later origin. -/
theorem wraps_mono {u v : ℕ} (h : u ≤ v) : wraps u ≤ wraps v :=
  Nat.div_le_div_right (Nat.mul_le_mul_right 1000 (Nat.div_le_div_right h))

/-- The gaps of the node's messages are those of its packets. -/
theorem gaps_eq (es : List (Event py id)) :
    (es.filterMap Event.message).filterMap (gapOf py (.str id)) =
      (packets es).map Packet.gap := by
  rw [List.filterMap_filterMap, packets, List.map_filterMap]
  apply List.filterMap_congr
  intro e _
  cases e with
  | packet p rest accepts => exact gapOf_telemetry py id _ _ rest accepts
  | other m h => exact h
  | register now_ms accepts body => rfl
  | unregister accepts body => rfl
  | remove node_id => rfl

/-- Only messages change the delay tables. -/
theorem run_tables (es : List (Event py id)) :
    (run step boot es).store.tables =
      run (receive py) DelayTables.boot (es.filterMap Event.message) := by
  apply run_project (fun s : State => s.store.tables)
  · intro s e m hm
    simp only [step, hm]
    exact saveToInfluxdb_receive py m s.store
  · intro s e hm
    simp only [step, hm]
    cases e with
    | packet p rest accepts => rfl
    | other m h => rfl
    | register now_ms accepts body => rfl
    | unregister accepts body => rfl
    | remove node_id =>
      simp only
      split <;> rfl

theorem gap_bounds {ps : List Packet} : ∀ x ∈ ps.map Packet.gap, -2 ^ 32 ≤ x ∧ x ≤ 2 ^ 63 := by
  intro x hx
  obtain ⟨p, -, rfl⟩ := List.mem_map.mp hx
  have hsent : sentMs p.uptime_ms < 2 ^ 32 := Nat.mod_lt _ (by norm_num)
  have h₁ := p.received_nonneg
  have h₂ := p.received_lt
  unfold Packet.gap Packet.received_ms
  omega

/-- Gaps can be logged. -/
theorem printable_gap (py : Interp) (ps : List Packet) :
    ∀ gap ∈ ps.map Packet.gap, Printable py gap := by
  intro gap hgap
  have hbounds := gap_bounds gap hgap
  refine printable_of_abs_lt py (k := 20) (by norm_num) ?_
  rw [abs_lt]
  omega

/-- They differ by less than floats can hold. -/
theorem excess_gap_lt (ps : List Packet) :
    ∀ d ∈ excess (ps.map Packet.gap), (d : ℚ) < floatOverflow := by
  intro d hd
  have hd' : d ≤ 2 ^ 63 - -2 ^ 32 := excess_le gap_bounds d hd
  have hd'' : (d : ℚ) ≤ 2 ^ 63 - -2 ^ 32 := by exact_mod_cast hd'
  calc (d : ℚ) ≤ 2 ^ 63 - -2 ^ 32 := hd''
    _ < 2 ^ 64 := by norm_num
    _ ≤ floatOverflow := two_pow_le_floatOverflow (by norm_num)

/-- Among packets with the smallest transit time, sent at whole seconds, origins are as close as
gaps. -/
theorem originsClose_iff {pre last : List Packet} (h : Settled pre last) :
    OriginsClose pre last ↔ ∀ p ∈ last, ∀ q ∈ pre ++ last, p.gap ≤ q.gap + 400 := by
  unfold OriginsClose
  refine forall₂_congr fun p hp => forall₂_congr fun q _ => ?_
  rw [gap_eq p, gap_eq q, h.whole p hp]
  omega

theorem exists_of_length_five {α : Type*} {l : List α} (h : l.length = 5) :
    ∃ a b c d e, l = [a, b, c, d, e] := by
  rcases l with _ | ⟨a, _ | ⟨b, _ | ⟨c, _ | ⟨d, _ | ⟨e, _ | ⟨f, l⟩⟩⟩⟩⟩⟩
  case cons.cons.cons.cons.cons.nil => exact ⟨a, b, c, d, e, rfl⟩
  all_goals simp at h

/-- The gaps of the last packets are equal, or differ by a wrap of the time stamp. -/
theorem Settled.gap_eq {pre last : List Packet} (h : Settled pre last) {p q : Packet}
    (hp : p ∈ last) (hq : q ∈ last) :
    p.gap = q.boot + 2 ^ 32 * wraps p.uptime_ms + q.transit_ms := by
  have hboot : p.boot = q.boot := h.epoch p hp q hq
  have htransit : p.transit_ms = q.transit_ms :=
    le_antisymm (h.fastest p hp q (List.mem_append_right pre hq))
      (h.fastest q hq p (List.mem_append_right pre hp))
  rw [Reboot.gap_eq, Packet.origin, h.whole p hp, hboot, htransit]
  omega

/-- The gaps of the last packets do not go back. -/
theorem Settled.pairwise_gap {pre last : List Packet} (h : Settled pre last) :
    (last.map Packet.gap).Pairwise (· ≤ ·) := by
  refine List.pairwise_map.mpr (h.ordered.imp_of_mem ?_)
  intro p q hp hq hpq
  have hle := wraps_mono hpq
  rw [h.gap_eq hp hq, h.gap_eq hq hq]
  omega

/-- The delays of the last packets are what their gaps exceed the smallest gap by that there was
when the first of them arrived. -/
theorem Settled.rtake_excess {pre last : List Packet} {p : Packet} (h : Settled pre (p :: last)) :
    (excess ((pre ++ p :: last).map Packet.gap)).rtake (p :: last).length =
      ((p :: last).map Packet.gap).map (· - lower (runMin none (pre.map Packet.gap)) p.gap) := by
  rw [List.map_append, excess, excessFrom_append,
    rtake_append (by rw [length_excessFrom, List.length_map])]
  exact excessFrom_of_pairwise h.pairwise_gap

/-- The sum of the delays of the last five packets is small exactly if each of their gaps is close
to all gaps. -/
theorem sum_delays_le_iff {pre last : List Packet} (h : Settled pre last) :
    ((excess ((pre ++ last).map Packet.gap)).rtake 5).sum ≤ 2000 ↔
      ∀ p ∈ last, ∀ q ∈ pre ++ last, p.gap ≤ q.gap + 400 := by
  obtain ⟨p₁, p₂, p₃, p₄, p₅, rfl⟩ := exists_of_length_five h.five
  have hgap : ∀ p ∈ [p₁, p₂, p₃, p₄, p₅],
      p.gap = p₁.boot + 2 ^ 32 * wraps p.uptime_ms + p₁.transit_ms :=
    fun p hp => h.gap_eq hp List.mem_cons_self
  have hsorted := h.pairwise_gap
  have hexcess : (excess ((pre ++ [p₁, p₂, p₃, p₄, p₅]).map Packet.gap)).rtake 5 = _ :=
    h.rtake_excess
  -- The smallest gap when the first of the five arrives.
  obtain ⟨hmem, hmin⟩ := lower_runMin_spec (pre.map Packet.gap) p₁.gap
  rw [hexcess]
  generalize lower (runMin none (pre.map Packet.gap)) p₁.gap = m at hmem hmin
  have hfirst : m ≤ p₁.gap := hmin _ (List.mem_append_right _ (List.mem_singleton_self _))
  simp only [List.forall_mem_cons, List.map_cons, List.map_nil, List.pairwise_cons,
    List.sum_cons, List.sum_nil] at hgap hsorted ⊢
  obtain ⟨h₁, h₂, h₃, h₄, h₅, -⟩ := hgap
  obtain ⟨⟨h₁₂, h₁₃, h₁₄, h₁₅, -⟩, -⟩ := hsorted
  constructor
  · intro hsum
    -- A wrap within the five would make the sum too large, so their gaps are equal.
    have hequal : p₂.gap = p₁.gap ∧ p₃.gap = p₁.gap ∧ p₄.gap = p₁.gap ∧ p₅.gap = p₁.gap := by
      omega
    have hclose : ∀ q ∈ pre ++ [p₁, p₂, p₃, p₄, p₅], p₁.gap ≤ q.gap + 400 := by
      intro q hq
      have hq' : m ≤ q.gap := by
        rcases List.mem_append.mp hq with hq | hq
        · exact hmin _ (List.mem_append_left _ (List.mem_map_of_mem hq))
        · simp only [List.mem_cons, List.not_mem_nil, or_false] at hq
          rcases hq with rfl | rfl | rfl | rfl | rfl <;> omega
      omega
    obtain ⟨e₂, e₃, e₄, e₅⟩ := hequal
    rw [e₂, e₃, e₄, e₅]
    exact ⟨hclose, hclose, hclose, hclose, hclose, List.forall_mem_nil _⟩
  · rintro ⟨c₁, c₂, c₃, c₄, c₅, -⟩
    obtain ⟨q, hq, rfl⟩ : ∃ q ∈ pre ++ [p₁, p₂, p₃, p₄, p₅], q.gap = m := by
      rcases List.mem_append.mp hmem with hm | hm
      · obtain ⟨q, hq, rfl⟩ := List.mem_map.mp hm
        exact ⟨q, List.mem_append_left _ hq, rfl⟩
      · exact ⟨p₁, List.mem_append_right _ List.mem_cons_self, (List.mem_singleton.mp hm).symm⟩
    have d₁ := c₁ q hq
    have d₂ := c₂ q hq
    have d₃ := c₃ q hq
    have d₄ := c₄ q hq
    have d₅ := c₅ q hq
    omega

/-- After any run with reboots, wraps of the time stamp, registrations, removals and traffic of
other nodes, a node whose last five packets are of one boot, sent at whole seconds and as fast as
any before is not congested exactly if none of the five has an origin that is more than 400 ms after
that of an earlier packet, with that packet's sub-second part and extra transit time added. -/
theorem not_congested_iff_originsClose (py : Interp) (id : Str) (es : List (Event py id))
    (pre last : List Packet) (hes : packets es = pre ++ last) (h : Settled pre last) :
    congested (run step boot es).store.tables (.str id) = false ↔ OriginsClose pre last := by
  have hlog : ∀ gap ∈ (es.filterMap Event.message).filterMap (gapOf py (.str id)),
      Printable py gap := by
    rw [gaps_eq]
    exact printable_gap py (packets es)
  have hrange : ∀ d ∈ excess ((es.filterMap Event.message).filterMap (gapOf py (.str id))),
      (d : ℚ) < floatOverflow := by
    rw [gaps_eq]
    exact excess_gap_lt (packets es)
  have hlen : ((excess ((pre ++ last).map Packet.gap)).rtake 5).length = 5 := by
    rw [length_rtake, excess, length_excessFrom, List.length_map, List.length_append, h.five]
    omega
  rw [originsClose_iff h, ← sum_delays_le_iff h, ← Bool.not_eq_true, run_tables,
    congested_run_iff py (.str id) _ hlog hrange, gaps_eq, hes, hlen]
  omega

/-- A packet with a transit time of 20 ms. -/
def quickPacket (boot uptime_ms : ℕ) (h : boot + uptime_ms < 2 ^ 62) : Packet :=
  ⟨boot, uptime_ms, 20, by omega, by omega⟩

/-- Five of these, sent in the first seconds of a boot. -/
def quickEpoch (boot : ℕ) (h : boot < 2 ^ 61) : List Packet :=
  [quickPacket boot 1000 (by omega), quickPacket boot 2000 (by omega),
    quickPacket boot 3000 (by omega), quickPacket boot 4000 (by omega),
    quickPacket boot 5000 (by omega)]

theorem settled_quickEpoch {pre : List Packet} (hpre : ∀ q ∈ pre, 20 ≤ q.transit_ms) (boot : ℕ)
    (h : boot < 2 ^ 61) : Settled pre (quickEpoch boot h) where
  five := rfl
  epoch := by simp [quickEpoch, quickPacket]
  whole := by simp [quickEpoch, quickPacket]
  ordered := by simp [quickEpoch, quickPacket]
  fastest p hp q hq := by
    have hquick : ∀ p ∈ quickEpoch boot h, p.transit_ms = 20 := by
      simp [quickEpoch, quickPacket]
    rw [hquick p hp]
    rcases List.mem_append.mp hq with hq | hq
    · exact hpre q hq
    · exact (hquick q hq).ge

/-- The first packets of a node. -/
theorem first_epoch_not_congested :
    congested (run step boot ((quickEpoch 0 (Nat.two_pow_pos 61)).map fun p =>
      (.packet p [] true : Event .cpython (Numeral.text "a")))).store.tables
        (.str (Numeral.text "a")) = false :=
  (not_congested_iff_originsClose .cpython (Numeral.text "a") _ []
    (quickEpoch 0 (Nat.two_pow_pos 61)) rfl
    (settled_quickEpoch (List.forall_mem_nil _) 0 (Nat.two_pow_pos 61))).mpr (by decide)

/-- A node sends a packet, boots again 100 s later and sends five packets, all with the same transit
time; the delay is measured from its first boot. -/
theorem reboot_congests :
    ¬ ∀ (es : List (Event .cpython (Numeral.text "a"))) (pre last : List Packet),
      packets es = pre ++ last → Settled pre last →
        congested (run step boot es).store.tables (.str (Numeral.text "a")) = false := by
  intro h
  have hpre : ∀ q ∈ [quickPacket 0 1000 (by norm_num)], 20 ≤ q.transit_ms := by
    simp [quickPacket]
  have hsettled := settled_quickEpoch hpre 100000 (by norm_num)
  let es : List (Event .cpython (Numeral.text "a")) :=
    (quickPacket 0 1000 (by norm_num) :: quickEpoch 100000 (by norm_num)).map fun p =>
      .packet p [] true
  have hfar := (not_congested_iff_originsClose _ _ es _ _ rfl hsettled).mp
    (h es _ _ rfl hsettled)
  exact absurd hfar (by decide)

end EnergyStation.Telemetry.Reboot
