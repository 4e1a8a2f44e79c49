import EnergyStation.Telemetry.DelayReference

/-!
# Congestion from the clock of the sensor

A node stamps its packets in whole seconds, and the cloud measures arrivals in milliseconds. With a
constant transit time the gap of a packet is a constant plus the sub-second part of its uptime, so
the delay that is measured is a sub-second part less the smallest one so far. Five packets whose
sub-second parts are late enough after that set the congested flag although nothing has been delayed
(`never_congested_iff_phasesClose`).
-/

namespace EnergyStation.Telemetry.ClockPhase

open Python Cloud Runs Window

variable {py : Interp} {id : Str}

/-- What reaches the cloud. -/
inductive Event (py : Interp) (id : Str) where
  /-- A packet that the node sends at an uptime, with its other fields. -/
  | packet (uptime_ms : ℕ) (rest : Obj) (accepts : Bool)
  /-- A message of another node. -/
  | other (m : Message) (h : gapOf py (.str id) m = none)

/-- A node that has booted once, whose packets all take the same time. -/
structure Link where
  /-- The reading of the cloud's clock when the node booted. -/
  boot : ℤ
  /-- The transit time of a packet. -/
  transit : ℤ
  /-- The arrival of a packet that is sent at once is an instant of the cloud's clock. This is read
  as a float, so it ends long before such a number. -/
  arrival_lt : |boot + transit| < 10 ^ 600

/-- The message of an event. A packet is stamped with its uptime in whole seconds, as
`publish_telemetry` does until the stamp has 32 bits. -/
def Event.message (link : Link) : Event py id → Message
  | .packet uptime_ms rest accepts =>
    ⟨telemetry id (uptime_ms / 1000 * 1000 : ℕ) rest, link.boot + uptime_ms + link.transit, accepts⟩
  | .other m _ => m

/-- The uptime of a packet of the node. -/
def Event.uptime : Event py id → Option ℕ
  | .packet uptime_ms _ _ => some uptime_ms
  | .other _ _ => none

/-- The uptimes of the node's packets. -/
def uptimes (es : List (Event py id)) : List ℕ := es.filterMap Event.uptime

/-- One event. -/
def step (link : Link) (s : Store) (e : Event py id) : Store :=
  let m := e.message link
  (saveToInfluxdb py m.accepts m.payload m.received_ms s).2

/-- The store of a cloud that has just started. -/
def Store.boot : Store := ⟨DelayTables.boot, []⟩

/-- The sub-second part of an uptime. -/
def phase (uptime_ms : ℕ) : ℤ := (uptime_ms % 1000 : ℕ)

/-- The sub-second parts of the last five uptimes are above the smallest one up to each of them by
400 ms at most, on average. -/
def PhasesClose (us : List ℕ) : Prop :=
  ((excess (us.map phase)).rtake 5).sum ≤ 400 * ((us.rtake 5).length : ℤ)

instance (us : List ℕ) : Decidable (PhasesClose us) := inferInstanceAs (Decidable (_ ≤ _))

/-- The gap of a packet is a constant plus the sub-second part of its uptime. -/
theorem gapOf_message (link : Link) (e : Event py id) :
    gapOf py (.str id) (e.message link) =
      e.uptime.map fun u => phase u + (link.boot + link.transit) := by
  cases e with
  | packet u rest accepts =>
    have hsplit : u = u / 1000 * 1000 + u % 1000 := (Nat.div_add_mod' u 1000).symm
    rw [Event.message, gapOf_telemetry, Event.uptime, Option.map_some, phase]
    congr 1
    omega
  | other m h => exact h

/-- The gaps of the node's packets. -/
theorem gaps_eq (link : Link) (es : List (Event py id)) :
    (es.map (Event.message link)).filterMap (gapOf py (.str id)) =
      ((uptimes es).map phase).map (· + (link.boot + link.transit)) := by
  rw [List.filterMap_map, List.map_map, uptimes, List.map_filterMap]
  exact List.filterMap_congr fun e _ => gapOf_message link e

theorem phase_bounds {us : List ℕ} : ∀ x ∈ us.map phase, 0 ≤ x ∧ x ≤ 999 := by
  intro x hx
  obtain ⟨u, -, rfl⟩ := List.mem_map.mp hx
  unfold phase
  omega

/-- The gaps of the node's packets can be logged. -/
theorem printable_gap (py : Interp) (link : Link) (us : List ℕ) :
    ∀ gap ∈ (us.map phase).map (· + (link.boot + link.transit)), Printable py gap := by
  intro gap hgap
  obtain ⟨x, hx, rfl⟩ := List.mem_map.mp hgap
  have hx' := phase_bounds x hx
  have harrival := abs_lt.mp link.arrival_lt
  have hpow : (10 ^ 601 : ℤ) = 10 ^ 600 * 10 := pow_succ 10 600
  have hlarge : (10 ^ 3 : ℤ) ≤ 10 ^ 600 := pow_le_pow_right₀ (by norm_num) (by norm_num)
  refine printable_of_abs_lt py (k := 601) (by norm_num) ?_
  rw [hpow, abs_lt]
  generalize (10 ^ 600 : ℤ) = bound at harrival hlarge ⊢
  omega

/-- No sub-second part is above another by a second. -/
theorem excess_phase_lt (us : List ℕ) : ∀ d ∈ excess (us.map phase), (d : ℚ) < floatOverflow := by
  intro d hd
  have hd' : d ≤ 999 := excess_le phase_bounds d hd
  have hd'' : (d : ℚ) ≤ 999 := by exact_mod_cast hd'
  calc (d : ℚ) ≤ 999 := hd''
    _ < 2 ^ 10 := by norm_num
    _ ≤ floatOverflow := two_pow_le_floatOverflow (by norm_num)

/-- After any traffic the node is congested exactly if the phases of its packets are not close. -/
theorem congested_iff (link : Link) (es : List (Event py id)) :
    congested (run (step link) Store.boot es).tables (.str id) = true ↔
      ¬ PhasesClose (uptimes es) := by
  have hlog : ∀ gap ∈ (es.map (Event.message link)).filterMap (gapOf py (.str id)),
      Printable py gap := by
    rw [gaps_eq]
    exact printable_gap py link (uptimes es)
  have hrange : ∀ d ∈ excess ((es.map (Event.message link)).filterMap (gapOf py (.str id))),
      (d : ℚ) < floatOverflow := by
    rw [gaps_eq, excess_map_add]
    exact excess_phase_lt (uptimes es)
  have hrun : (run (step link) Store.boot es).tables =
      run (receive py) DelayTables.boot (es.map (Event.message link)) := by
    rw [← List.filterMap_eq_map]
    apply run_project Store.tables
    · rintro s e m ⟨⟩
      exact saveToInfluxdb_receive py (e.message link) s
    · exact fun s e h => nomatch h
  rw [hrun, congested_run_iff py (.str id) _ hlog hrange, gaps_eq, excess_map_add, PhasesClose,
    not_le]
  have hlen : ((excess ((uptimes es).map phase)).rtake 5).length =
      ((uptimes es).rtake 5).length := by
    rw [length_rtake, length_rtake, excess, length_excessFrom, List.length_map]
  rw [hlen]

/-- In a run in which a node sends at any uptimes, and all its packets take the same time, its
congested flag is never set exactly if at every moment the sub-second parts of its last packets have
been close. -/
theorem never_congested_iff_phasesClose (py : Interp) (id : Str) (link : Link)
    (es : List (Event py id)) :
    (∀ s ∈ visited (step link) Store.boot es, congested s.tables (.str id) = false) ↔
      ∀ es', es' <+: es → PhasesClose (uptimes es') := by
  constructor
  · intro h es' hes'
    by_contra hfar
    have hset := (congested_iff link es').mpr hfar
    rw [h _ (mem_visited_iff.mpr ⟨es', hes', rfl⟩)] at hset
    exact Bool.false_ne_true hset
  · intro h s hs
    obtain ⟨es', hes', rfl⟩ := mem_visited_iff.mp hs
    rw [← Bool.not_eq_true, congested_iff, not_not]
    exact h es' hes'

/-- A node that boots at the zero of the cloud's clock, with a transit time of 20 ms. -/
def quickLink : Link where
  boot := 0
  transit := 20
  arrival_lt := by
    have hlarge : (10 ^ 3 : ℤ) ≤ 10 ^ 600 := pow_le_pow_right₀ (by norm_num) (by norm_num)
    exact lt_of_lt_of_le (by decide) hlarge

/-- A node sends at the uptimes 1000 and 1999; the second packet is stamped like the first and
arrives 999 ms later, which is a mean delay of 499.5 ms. -/
theorem phases_congest :
    ¬ ∀ es : List (Event .cpython (Numeral.text "a")),
      ∀ s ∈ visited (step quickLink) Store.boot es,
        congested s.tables (.str (Numeral.text "a")) = false := by
  intro h
  have hclose := (never_congested_iff_phasesClose _ _ quickLink _).mp
    (h [.packet 1000 [] true, .packet 1999 [] true]) _ (List.prefix_refl _)
  exact absurd hclose (by decide)

end EnergyStation.Telemetry.ClockPhase
