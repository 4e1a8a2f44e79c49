import EnergyStation.Cloud.Balance
import EnergyStation.Cloud.MqttClient
import EnergyStation.Liveness.LostUpdate

/-!
# Nodes that publish after they were removed

The telemetry of a node goes into the delay tables and the readings, and the registry is changed
only by registrations, unregistrations and failed probes. `update_heartbeat` is there to note in the
registry when a node was last heard of, and to add the node again, but `on_message` does not call
it. So a message finds its node as the last registration has left it, if nothing has removed it
since (`usable_iff_registered_on_arrival`), and a node that was removed stays out of the energy
balance however much it publishes (`excluded_until_registered`).
-/

namespace EnergyStation.System.Publishing

open Python Cloud Runs

/-- The event loop of the cloud, and what its MQTT thread changes. -/
structure State where
  /-- The handlers of the CoAP resources and the heartbeat loop. -/
  loop : Liveness.State
  /-- The tables of the telemetry. -/
  ingested : Ingested

/-- What can happen. -/
inductive Event where
  /-- An event of the event loop: a registration, an unregistration, or a step of the heartbeat. -/
  | loop (e : Liveness.Event)
  /-- A message to `on_message`, which arrives at `received_ms` and is read into the readings at
  `now`. -/
  | message (accepts : Bool) (received_ms : ℤ) (now : ℚ) (body : CStdlib.Bytes)

/-- One event. -/
def step (py : Interp) (rejects : Uri → Bool) (s : State) : Event → State
  | .loop e => { s with loop := Liveness.step py rejects s.loop e }
  -- The MQTT thread does not touch the registry.
  | .message accepts received_ms now body =>
    { s with ingested := (onMessage py accepts received_ms now body s.ingested).2 }

/-- The cloud has just started. -/
def boot : State := ⟨Liveness.boot, ⟨⟨DelayTables.boot, []⟩, Dict.empty⟩⟩

/-- The registry. -/
def State.registry (s : State) : Registry := s.loop.registry

variable {py : Interp} {rejects : Uri → Bool}

/-- `on_message` processes the message to its end, and its payload is an object with the non-empty
`node_id` that the key stands for. -/
structure Processed (py : Interp) (accepts : Bool) (received_ms : ℤ) (now : ℚ)
    (body : CStdlib.Bytes) (payload : Obj) (k : Key) (s : State) : Prop where
  /-- The payload is an object. -/
  object : loadObject py body = .ok payload
  /-- It is stored, and read into the readings. -/
  ingested : (ingest py accepts received_ms now body s.ingested).1 = .ok ()
  /-- It names its node. -/
  id : truthy (payload.get "node_id") = true
  /-- By this key. -/
  key : hashKey (payload.get "node_id") = .ok k

/-- The node of the message is registered and was last seen when the message arrived, and if it is a
producer, then the energy balance counts the power of the message until it is stale. -/
structure Usable (received_ms : ℤ) (now : ℚ) (payload : Obj) (k : Key) (s : State) : Prop where
  /-- The registry's entry. -/
  registered : ∃ n, s.registry.nodes.get? k = some n ∧
    n.info.get "last_seen_ms" = .int received_ms
  /-- The readings' entry. -/
  counted : ∀ power_w, isProducerType (payload.get "type") = .ok true →
    powerW .exact payload = .ok power_w →
      s.ingested.readings.get? k = some ⟨payload.get "type", power_w, now⟩ ∧
        ∃ types ∈ [renewableTypes, [dieselType]], ∀ t, t - now ≤ staleAfterS →
          counts types t s.registry k ⟨payload.get "type", power_w, now⟩ = true

/-- The event is a request to `/register` that names the key. -/
def Registers (py : Interp) (e : Event) (k : Key) (now_ms : ℤ) (payload : Obj) : Prop :=
  ∃ accepts body, e = .loop (.register now_ms accepts body) ∧ loadObject py body = .ok payload ∧
    hashKey (storedId payload) = .ok k

/-- A registration of the run has stored an entry at `now_ms`, and the registry has held this very
entry ever since. -/
def RegisteredAt (py : Interp) (rejects : Uri → Bool) (es : List Event) (k : Key) (now_ms : ℤ) :
    Prop :=
  ∃ pre e post payload, es = pre ++ e :: post ∧ Registers py e k now_ms payload ∧
    ∀ s ∈ visited (step py rejects) (run (step py rejects) boot (pre ++ [e])) post,
      s.registry.nodes.get? k =
        some ((run (step py rejects) boot pre).registry.fresh now_ms payload)

/-- What is stored has been seen when it was stored. -/
theorem fresh_last_seen_ms (r : Registry) (now_ms : ℤ) (payload : Obj) :
    (r.fresh now_ms payload).info.get "last_seen_ms" = .int now_ms :=
  congrArg (fun v => v.getD .none) (Assoc.get?_set_self payload _ _)

/-- An event of the event loop that stores a new entry under a key is a registration of the key. -/
theorem registers_of_stored {s : Liveness.State} {e : Liveness.Event} {k : Key} {n : Node}
    (h : (Liveness.step py rejects s e).registry.nodes.get? k = some n)
    (hnew : s.registry.nodes.get? k ≠ some n) :
    ∃ now_ms payload, Registers py (.loop e) k now_ms payload ∧
      n = s.registry.fresh now_ms payload := by
  rcases hprobe : Liveness.failedProbe py rejects s e with _ | m
  · rcases Liveness.step_registry_of_no_failure hprobe with
      hsame | ⟨now_ms, accepts, body, payload, k', rfl, hbody, hk', hinsert⟩ | ⟨k', -, hdelete⟩
    · rw [hsame] at h
      exact absurd h hnew
    · rw [hinsert, Registry.get?_insert] at h
      split_ifs at h with hkey
      · refine ⟨now_ms, payload, ⟨accepts, body, rfl, hbody, hkey ▸ hk'⟩, ?_⟩
        exact (Option.some.inj h).symm
      · exact absurd h hnew
    · rw [hdelete, Registry.get?_delete] at h
      split_ifs at h
      exact absurd h hnew
  · -- A failed probe removes an entry, or nothing.
    obtain ⟨rest, s₀, hsite, hstep⟩ := Liveness.step_of_failedProbe hprobe
    have hbefore : s₀.registry = s.registry := congrArg Site.registry hsite
    rw [hstep] at h
    rcases Liveness.drop_cases s₀ m rest with ⟨k', -, hdelete, -⟩ | ⟨-, hsame, -⟩
    · rw [hdelete, Registry.get?_delete, hbefore] at h
      split_ifs at h
      exact absurd h hnew
    · rw [hsame, hbefore] at h
      exact absurd h hnew

/-- A step that stores a new entry under a key is a registration of the key. -/
theorem step_stored {s : State} {e : Event} {k : Key} {n : Node}
    (h : (step py rejects s e).registry.nodes.get? k = some n)
    (hnew : s.registry.nodes.get? k ≠ some n) :
    ∃ now_ms payload, Registers py e k now_ms payload ∧ n = s.registry.fresh now_ms payload := by
  rcases e with e | ⟨accepts, received_ms, now, body⟩
  · exact registers_of_stored h hnew
  · exact absurd h hnew

/-- Every entry of the registry was stored by a registration of the run, and was last seen then. -/
theorem registeredAt_of_stored {es : List Event} {k : Key} {n : Node}
    (h : (run (step py rejects) boot es).registry.nodes.get? k = some n) :
    ∃ now_ms, n.info.get "last_seen_ms" = .int now_ms ∧ RegisteredAt py rejects es k now_ms := by
  have hempty : ¬ boot.registry.nodes.get? k = some n := Option.some_ne_none n ∘ Eq.symm
  -- The last step in which the registry took the entry is its registration.
  obtain ⟨pre, e, post, rfl, hbefore, hpost⟩ :=
    exists_enter (P := fun s : State => s.registry.nodes.get? k = some n) hempty h
  have hentered := hpost _ (mem_visited_iff.mpr ⟨[], List.nil_prefix, rfl⟩)
  rw [run_nil, run_concat] at hentered
  obtain ⟨now_ms, payload, hregisters, hn⟩ := step_stored hentered hbefore
  refine ⟨now_ms, ?_, pre, e, post, payload, rfl, hregisters, ?_⟩
  · rw [hn]
    exact fresh_last_seen_ms _ now_ms payload
  · rw [← hn]
    exact hpost

/-- The entry that a run has kept is still there at its end. -/
theorem stored_of_registeredAt {es : List Event} {k : Key} {now_ms : ℤ}
    (h : RegisteredAt py rejects es k now_ms) :
    ∃ n, (run (step py rejects) boot es).registry.nodes.get? k = some n ∧
      n.info.get "last_seen_ms" = .int now_ms := by
  obtain ⟨pre, e, post, payload, rfl, -, hpost⟩ := h
  have hlast := hpost _ (mem_visited_iff.mpr ⟨post, List.prefix_rfl, rfl⟩)
  rw [← run_append, List.append_assoc] at hlast
  exact ⟨_, hlast, fresh_last_seen_ms _ now_ms payload⟩

/-- The power of a producer's message that is processed is in the readings. -/
theorem reading_of_processed {accepts : Bool} {received_ms : ℤ} {now : ℚ} {body : CStdlib.Bytes}
    {payload : Obj} {k : Key} {s : State}
    (h : Processed py accepts received_ms now body payload k s) {power_w : ExtRat}
    (htype : isProducerType (payload.get "type") = .ok true)
    (hpower : powerW .exact payload = .ok power_w) :
    (onMessage py accepts received_ms now body s.ingested).2.readings.get? k =
      some ⟨payload.get "type", power_w, now⟩ := by
  obtain ⟨v, hload, hdict⟩ := bind_eq_ok.mp h.object
  have hingested := h.ingested
  -- The readings are updated after the message has been saved.
  have hreading : ∀ readings, updateReading .exact now v readings =
      .ok (readings.set k ⟨payload.get "type", power_w, now⟩) := by
    intro readings
    simp [updateReading, hdict, h.id, h.key, htype, hpower, Except.bind, Except.map]
  simp only [onMessage, ingest, hload] at hingested ⊢
  generalize saveToInfluxdb py accepts v received_ms s.ingested.store = r at hingested ⊢
  obtain ⟨result, store⟩ := r
  rcases result with e | _
  · cases hingested
  · simp only [hreading, Dict.get?_set_self]

/-- After a message, its node is usable exactly if the node's last registration was handled in the
millisecond in which the message has arrived, and neither a removal nor another registration has
followed it. -/
theorem usable_iff_registered_on_arrival {es : List Event} {accepts : Bool} {received_ms : ℤ}
    {now : ℚ} {body : CStdlib.Bytes} {payload : Obj} {k : Key}
    (h : Processed py accepts received_ms now body payload k (run (step py rejects) boot es)) :
    Usable received_ms now payload k
        (run (step py rejects) boot (es ++ [.message accepts received_ms now body])) ↔
      RegisteredAt py rejects es k received_ms := by
  rw [run_concat]
  constructor
  · rintro ⟨⟨n, hn, hseen⟩, -⟩
    obtain ⟨now_ms, hnow, hregistered⟩ := registeredAt_of_stored hn
    -- The entry was last seen when it was stored, which has to be now.
    have hsame : now_ms = received_ms := by
      rw [hnow] at hseen
      exact Val.int.inj hseen
    exact hsame ▸ hregistered
  · intro hregistered
    obtain ⟨n, hn, hseen⟩ := stored_of_registeredAt hregistered
    refine ⟨⟨n, hn, hseen⟩, fun power_w htype hpower => ⟨reading_of_processed h htype hpower, ?_⟩⟩
    have hstored : ((step py rejects (run (step py rejects) boot es)
        (.message accepts received_ms now body)).registry.nodes.get? k).isSome = true :=
      Option.isSome_iff_exists.mpr ⟨n, hn⟩
    obtain ⟨types, hmem, htypes⟩ := exists_types_of_isProducerType htype
    refine ⟨types, hmem, fun t hfresh => ?_⟩
    simp [counts, htypes, hfresh, hstored]

/-- What makes a message one that is processed, where its payload is not written out. -/
theorem exists_processed {accepts : Bool} {received_ms : ℤ} {now : ℚ} {body : CStdlib.Bytes}
    {k : Key} {s : State}
    (hfields : ((loadObject py body).toOption.map fun payload =>
      (truthy (payload.get "node_id"), hashKey (payload.get "node_id"))) = some (true, .ok k))
    (h : (ingest py accepts received_ms now body s.ingested).1 = .ok ()) :
    ∃ payload, Processed py accepts received_ms now body payload k s := by
  rcases hload : loadObject py body with e | payload
  · rw [hload] at hfields
    cases hfields
  · rw [hload] at hfields
    have hpair := Option.some.inj hfields
    exact ⟨payload, hload, h, congrArg Prod.fst hpair, congrArg Prod.snd hpair⟩

/-- A solar node's registration. -/
def solarRegistration : CStdlib.Bytes :=
  CStdlib.ascii "\x7b\"node_id\":\"a\",\"type\":\"solar\",\"ip\":\"x\"\x7d"

/-- A solar node's message. -/
def solarMessage : CStdlib.Bytes :=
  CStdlib.ascii "\x7b\"node_id\":\"a\",\"type\":\"solar\",\"v\":2,\"i\":3\x7d"

/-- The node is usable after a message in the millisecond of its registration. -/
theorem usable_iff_registered_on_arrival_solar :
    ∃ payload, Usable 7 1 payload (.str [97]) (run (step .cpython fun _ => false) boot
      [.loop (.register 7 true solarRegistration), .message true 7 1 solarMessage]) := by
  have hseen : ((run (step .cpython fun _ => false) boot
      [.loop (.register 7 true solarRegistration)]).registry.nodes.get? (.str [97])).map
        (fun n => toInt .cpython (n.info.get "last_seen_ms")) = some (.ok 7) := by
    decide +kernel
  obtain ⟨n, hn, hlast⟩ := Option.map_eq_some_iff.mp hseen
  obtain ⟨now_ms, hnow, hregistered⟩ := registeredAt_of_stored hn
  have hseven : now_ms = 7 := by
    rw [hnow] at hlast
    exact Except.ok.inj hlast
  obtain ⟨payload, hprocessed⟩ : ∃ payload, Processed .cpython true 7 1 solarMessage payload
      (.str [97]) (run (step .cpython fun _ => false) boot
        [.loop (.register 7 true solarRegistration)]) :=
    exists_processed (by decide +kernel) (by decide +kernel)
  exact ⟨payload, (usable_iff_registered_on_arrival hprocessed).mpr (hseven ▸ hregistered)⟩

/-- A node misses one probe and is removed. Its next message is processed, and does not bring it
back. -/
theorem removed_publisher_stays_out :
    ¬ ∀ es accepts received_ms now body payload k,
      Processed .cpython accepts received_ms now body payload k
          (run (step .cpython fun _ => false) boot es) →
        Usable received_ms now payload k (run (step .cpython fun _ => false) boot
          (es ++ [.message accepts received_ms now body])) := by
  intro h
  let es : List Event := [.loop (.register 0 true solarRegistration), .loop .wake, .loop .run,
    .loop (.response none)]
  obtain ⟨payload, hprocessed⟩ : ∃ payload, Processed .cpython true 9 1 solarMessage payload
      (.str [97]) (run (step .cpython fun _ => false) boot es) :=
    exists_processed (by decide +kernel) (by decide +kernel)
  obtain ⟨⟨n, hn, -⟩, -⟩ := h es true 9 1 solarMessage payload (.str [97]) hprocessed
  have hnone : ((run (step .cpython fun _ => false) boot
      (es ++ [.message true 9 1 solarMessage])).registry.nodes.get? (.str [97])).isNone = true := by
    decide +kernel
  rw [hn] at hnone
  cases hnone

/-- A node that is not registered adds nothing to the power that the balance sees, after any run
that does not register it, whatever it publishes. -/
theorem excluded_until_registered {s : State} {k : Key} (h : s.registry.nodes.get? k = none)
    {es : List Event} (hes : ∀ e ∈ es, ∀ now_ms payload, ¬ Registers py e k now_ms payload)
    (types : List String) (t : ℚ) (readings : Dict Key Reading) :
    powerByTypes .exact types t (run (step py rejects) s es).registry readings =
      powerByTypes .exact types t (run (step py rejects) s es).registry (readings.erase k) := by
  have hkept : (run (step py rejects) s es).registry.nodes.get? k = none := by
    refine run_invariant (I := fun s : State => s.registry.nodes.get? k = none)
      (fun s e hs he => ?_) h (along_of_forall_mem hes)
    rw [← Option.not_isSome_iff_eq_none, Option.isSome_iff_exists]
    rintro ⟨n, hn⟩
    obtain ⟨now_ms, payload, hregisters, -⟩ := step_stored hn (by rw [hs]; simp)
    exact he now_ms payload hregisters
  exact (powerByTypes_erase hkept types t readings).symm

end EnergyStation.System.Publishing
