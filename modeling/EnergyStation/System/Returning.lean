import EnergyStation.System.Publishing
import Mathlib.Data.NNRat.Defs

/-!
# The readings of nodes that come back

A removal takes a node out of the registry and leaves its last reading in the table, where only its
age makes it go unused. `_power_by_types` joins the two tables when it is asked, so a node that
registers again within `stale_after_s` is counted at once, with a reading from before its removal.
Removed nodes stay uncounted until they have sent a reading after their new registration exactly if
every registration that brings a node back finds no reading of it that is still fresh
(`stays_out_iff`).
-/

namespace EnergyStation.System.Returning

open Python Cloud Runs

/-- The cloud, and the time. -/
structure State where
  /-- The event loop, and the tables of the telemetry. -/
  cloud : Publishing.State
  /-- `time.time()` -/
  clock : ℚ

/-- What can happen. -/
inductive Event where
  /-- An event of the event loop: a registration, an unregistration, or a step of the heartbeat. -/
  | loop (e : Liveness.Event)
  /-- A message to `on_message`. -/
  | message (accepts : Bool) (received_ms : ℤ) (body : CStdlib.Bytes)
  /-- Time passes. -/
  | elapse (seconds : ℚ≥0)

/-- One event. -/
def step (py : Interp) (rejects : Uri → Bool) (s : State) : Event → State
  | .loop e => { s with cloud := Publishing.step py rejects s.cloud (.loop e) }
  | .message accepts received_ms body =>
    { s with
      cloud := Publishing.step py rejects s.cloud (.message accepts received_ms s.clock body) }
  | .elapse seconds => { s with clock := s.clock + seconds }

/-- The cloud has just started, at some time. -/
def boot (clock : ℚ) : State := ⟨Publishing.boot, clock⟩

/-- The node is in the registry. -/
def State.Registered (s : State) (k : Key) : Prop := (s.cloud.registry.nodes.get? k).isSome = true

instance (s : State) (k : Key) : Decidable (s.Registered k) :=
  inferInstanceAs (Decidable (_ = true))

/-- The node's entry in `_latest_readings`. -/
def State.reading (s : State) (k : Key) : Option Reading := s.cloud.ingested.readings.get? k

variable {py : Interp} {rejects : Uri → Bool}

/-- The event is a message that puts a reading of the node into the table. -/
def Arrives (py : Interp) (s : State) (e : Event) (k : Key) : Prop :=
  ∃ accepts received_ms body payload power_w, e = .message accepts received_ms body ∧
    Publishing.Processed py accepts received_ms s.clock body payload k s.cloud ∧
    isProducerType (payload.get "type") = .ok true ∧ powerW .exact payload = .ok power_w

/-- The step takes the node out of the registry. -/
def Removes (py : Interp) (rejects : Uri → Bool) (s : State) (e : Event) (k : Key) : Prop :=
  s.Registered k ∧ ¬ (step py rejects s e).Registered k

/-- The step puts the node into the registry. -/
def Enters (py : Interp) (rejects : Uri → Bool) (s : State) (e : Event) (k : Key) : Prop :=
  ¬ s.Registered k ∧ (step py rejects s e).Registered k

/-- Neither of the two sums of a cycle counts a reading of the node, and both are what they would be
without it. -/
def Excluded (s : State) (k : Key) : Prop :=
  ∀ types ∈ [renewableTypes, [dieselType]],
    (∀ reading, s.reading k = some reading →
      counts types s.clock s.cloud.registry k reading = false) ∧
    powerByTypes .exact types s.clock s.cloud.registry s.cloud.ingested.readings =
      powerByTypes .exact types s.clock s.cloud.registry (s.cloud.ingested.readings.erase k)

/-- At every point of the run, a node that has been removed is excluded, unless a reading of it has
arrived while it was registered again. -/
def StaysOut (py : Interp) (rejects : Uri → Bool) (clock : ℚ) (es : List Event) : Prop :=
  ∀ pre e mid k, pre ++ e :: mid <+: es →
    Removes py rejects (run (step py rejects) (boot clock) pre) e k →
    Along (step py rejects) (fun s e => s.Registered k → ¬ Arrives py s e k)
      (run (step py rejects) (boot clock) (pre ++ [e])) mid →
    Excluded (run (step py rejects) (boot clock) (pre ++ e :: mid)) k

/-- The table has no reading of the node, or one that is stale. -/
def Outdated (s : State) (k : Key) : Prop :=
  ∀ reading, s.reading k = some reading → staleAfterS < s.clock - reading.ts

/-- Whenever a step of the run brings a node back that was registered before, the table has no
reading of it that is fresh. -/
def ReturnsOutdated (py : Interp) (rejects : Uri → Bool) (clock : ℚ) (es : List Event) : Prop :=
  ∀ pre e k, pre ++ [e] <+: es →
    (∃ t ∈ visited (step py rejects) (boot clock) pre, t.Registered k) →
    Enters py rejects (run (step py rejects) (boot clock) pre) e k →
    Outdated (run (step py rejects) (boot clock) pre) k

@[simp] theorem step_loop (s : State) (e : Liveness.Event) :
    step py rejects s (.loop e) =
      { s with cloud := Publishing.step py rejects s.cloud (.loop e) } := rfl

@[simp] theorem step_message (s : State) (accepts : Bool) (received_ms : ℤ)
    (body : CStdlib.Bytes) :
    step py rejects s (.message accepts received_ms body) =
      { s with
        cloud := Publishing.step py rejects s.cloud (.message accepts received_ms s.clock body) } :=
  rfl

@[simp] theorem step_elapse (s : State) (seconds : ℚ≥0) :
    step py rejects s (.elapse seconds) = { s with clock := s.clock + seconds } := rfl

/-- A message changes the table where it is processed to its end and is a producer's, and then at
the key of its node. -/
theorem onMessage_readings (accepts : Bool) (received_ms : ℤ) (now : ℚ) (body : CStdlib.Bytes)
    (s : Publishing.State) :
    (onMessage py accepts received_ms now body s.ingested).2.readings = s.ingested.readings ∨
      ∃ payload k power_w, Publishing.Processed py accepts received_ms now body payload k s ∧
        isProducerType (payload.get "type") = .ok true ∧ powerW .exact payload = .ok power_w ∧
        (onMessage py accepts received_ms now body s.ingested).2.readings =
          s.ingested.readings.set k ⟨payload.get "type", power_w, now⟩ := by
  rcases hload : loadBody py body with e | v
  · left
    simp only [onMessage, ingest, hload]
  · rcases hsave : saveToInfluxdb py accepts v received_ms s.ingested.store with ⟨e | _, store⟩
    · left
      simp only [onMessage, ingest, hload, hsave]
    · rcases hreading : updateReading .exact now v s.ingested.readings with e | readings
      · left
        simp only [onMessage, ingest, hload, hsave, hreading]
      · have hresult : (ingest py accepts received_ms now body s.ingested) =
            (.ok (), ⟨store, readings⟩) := by
          simp only [ingest, hload, hsave, hreading]
        simp only [onMessage, hresult]
        rcases updateReading_cases hreading with
          hsame | ⟨payload, k, power_w, hdict, hid, htype, hpower, hk, hset⟩
        · exact .inl hsame
        · have hobject : loadObject py body = .ok payload := bind_eq_ok.mpr ⟨v, hload, hdict⟩
          exact .inr ⟨payload, k, power_w, ⟨hobject, congrArg Prod.fst hresult, hid, hk⟩, htype,
            hpower, hset⟩

/-- A step that brings no reading of the node leaves its entry in the table as it was. -/
theorem step_reading {s : State} {e : Event} {k : Key} (h : ¬ Arrives py s e k) :
    (step py rejects s e).reading k = s.reading k := by
  cases e with
  | loop e => rfl
  | elapse seconds => rfl
  | message accepts received_ms body =>
    show (onMessage py accepts received_ms s.clock body s.cloud.ingested).2.readings.get? k =
      s.cloud.ingested.readings.get? k
    rcases onMessage_readings accepts received_ms s.clock body s.cloud with
      hsame | ⟨payload, k', power_w, hprocessed, htype, hpower, hset⟩
    · rw [hsame]
    · have hne : k ≠ k' := by
        rintro rfl
        exact h ⟨accepts, received_ms, body, payload, power_w, rfl, hprocessed, htype, hpower⟩
      rw [hset, Dict.get?_set, if_neg hne]

/-- What is in the table is of a producer's type. -/
def ProducerTypes (s : State) : Prop :=
  ∀ k reading, s.reading k = some reading → isProducerType reading.type = .ok true

/-- Every step keeps the types in the table. -/
theorem ProducerTypes.step {s : State} (hs : ProducerTypes s) (e : Event) :
    ProducerTypes (step py rejects s e) := by
  cases e with
  | loop e => exact hs
  | elapse seconds => exact hs
  | message accepts received_ms body =>
    intro k reading hreading
    have hget : (onMessage py accepts received_ms s.clock body s.cloud.ingested).2.readings.get? k =
      some reading := hreading
    rcases onMessage_readings accepts received_ms s.clock body s.cloud with
      hsame | ⟨payload, k', power_w, hprocessed, htype, hpower, hset⟩
    · rw [hsame] at hget
      exact hs k reading hget
    · rw [hset, Dict.get?_set] at hget
      split_ifs at hget with hk
      · rw [← Option.some.inj hget]
        exact htype
      · exact hs k reading hget

/-- A node enters the registry through the event loop, which does not touch the table. -/
theorem reading_of_enters {s : State} {e : Event} {k : Key} (h : Enters py rejects s e k) :
    (step py rejects s e).reading k = s.reading k ∧ (step py rejects s e).clock = s.clock := by
  obtain ⟨hbefore, hafter⟩ := h
  cases e with
  | loop e => exact ⟨rfl, rfl⟩
  | elapse seconds => exact absurd hafter hbefore
  | message accepts received_ms body => exact absurd hafter hbefore

/-- The node is not registered, or what the table has of it is stale. -/
def Unused (s : State) (k : Key) : Prop := s.Registered k → Outdated s k

/-- A node is excluded exactly if it is not registered or what the table has of it is stale. -/
theorem excluded_iff {s : State} (hs : ProducerTypes s) (k : Key) : Excluded s k ↔ Unused s k := by
  constructor
  · intro h hregistered reading hreading
    obtain ⟨types, hmem, htypes⟩ := exists_types_of_isProducerType (hs k reading hreading)
    have huncounted := (h types hmem).1 reading hreading
    have hpresent : (s.cloud.registry.nodes.get? k).isSome = true := hregistered
    simpa [counts, htypes, hpresent, lt_sub_iff_add_lt] using huncounted
  · intro h types _
    have huncounted : ∀ reading, s.reading k = some reading →
        counts types s.clock s.cloud.registry k reading = false := by
      intro reading hreading
      by_cases hregistered : s.Registered k
      · have hstale := h hregistered reading hreading
        simp [counts, not_le.mpr hstale]
      · have habsent : (s.cloud.registry.nodes.get? k).isSome = false :=
          Bool.eq_false_iff.mpr hregistered
        simp [counts, habsent]
    exact ⟨huncounted, (powerByTypes_erase_of_uncounted huncounted).symm⟩

/-- A node that is unused stays so, unless a reading of it arrives while it is registered, or it
enters the registry while the table has a fresh one. -/
theorem Unused.step {s : State} {k : Key} (hs : Unused s k) {e : Event}
    (harrives : s.Registered k → ¬ Arrives py s e k)
    (henters : Enters py rejects s e k → Outdated s k) : Unused (step py rejects s e) k := by
  intro hafter reading hreading
  by_cases hbefore : s.Registered k
  · rw [step_reading (harrives hbefore)] at hreading
    have hstale := hs hbefore reading hreading
    -- Time does not run backwards.
    have hclock : s.clock ≤ (Returning.step py rejects s e).clock := by
      cases e with
      | loop e => exact le_refl s.clock
      | message accepts received_ms body => exact le_refl s.clock
      | elapse seconds => exact le_add_of_nonneg_right seconds.2
    linarith
  · have hboth := reading_of_enters ⟨hbefore, hafter⟩
    rw [hboth.1] at hreading
    rw [hboth.2]
    exact henters ⟨hbefore, hafter⟩ reading hreading

/-- A node that was registered somewhere in a run and is not at its end has been removed, and has
not been registered since. -/
theorem exists_removal {clock : ℚ} {es : List Event} {k : Key}
    (hsome : ∃ t ∈ visited (step py rejects) (boot clock) es, t.Registered k)
    (hnone : ¬ (run (step py rejects) (boot clock) es).Registered k) :
    ∃ pre e mid, es = pre ++ e :: mid ∧
      Removes py rejects (run (step py rejects) (boot clock) pre) e k ∧
      ∀ t ∈ visited (step py rejects) (run (step py rejects) (boot clock) (pre ++ [e])) mid,
        ¬ t.Registered k := by
  obtain ⟨t, ht, hregistered⟩ := hsome
  obtain ⟨before, ⟨after, rfl⟩, rfl⟩ := mem_visited_iff.mp ht
  rw [run_append] at hnone
  obtain ⟨pre, e, mid, rfl, hpre, hmid⟩ :=
    exists_enter (P := fun s : State => ¬ s.Registered k) (not_not.mpr hregistered) hnone
  rw [← run_append] at hpre hmid
  rw [← List.append_assoc] at hmid
  have hremoved := hmid _ (mem_visited_iff.mpr ⟨[], List.nil_prefix, rfl⟩)
  rw [run_nil, run_concat] at hremoved
  exact ⟨before ++ pre, e, mid, by simp, ⟨not_not.mp hpre, hremoved⟩, hmid⟩

/-- Removed nodes stay uncounted until a reading arrives after their new registration, at every
point of a run, exactly if every step that brings a node back finds no fresh reading of it. -/
theorem stays_out_iff (py : Interp) (rejects : Uri → Bool) (clock : ℚ) (es : List Event) :
    StaysOut py rejects clock es ↔ ReturnsOutdated py rejects clock es := by
  have htypes : ∀ es, ProducerTypes (run (step py rejects) (boot clock) es) :=
    run_invariant' (I := ProducerTypes) (fun _ e hs => hs.step e) (fun _ _ h => nomatch h)
  constructor
  · intro h pre e k hpre hwas henters
    obtain ⟨pre, e', mid, rfl, hremoves, hmid⟩ := exists_removal hwas henters.1
    rw [List.append_assoc, List.cons_append] at hpre
    -- Up to the new registration no reading can arrive at a registered node.
    have hnone : Along (step py rejects) (fun s e => s.Registered k → ¬ Arrives py s e k)
        (run (step py rejects) (boot clock) (pre ++ [e'])) (mid ++ [e]) := by
      rw [along_append]
      have habsent : ∀ fs, fs <+: mid → ¬ (run (step py rejects)
          (run (step py rejects) (boot clock) (pre ++ [e'])) fs).Registered k :=
        fun fs hfs => hmid _ (mem_visited_iff.mpr ⟨fs, hfs, rfl⟩)
      refine ⟨along_iff_at_every_step.mpr fun fs f hfs hin => ?_, fun hin => ?_, trivial⟩
      · exact absurd hin (habsent fs ((List.prefix_append fs [f]).trans hfs))
      · exact absurd hin (habsent mid List.prefix_rfl)
    have hexcluded := (excluded_iff (htypes _) k).mp (h pre e' (mid ++ [e]) k hpre hremoves hnone)
    have hlast : pre ++ e' :: (mid ++ [e]) = (pre ++ e' :: mid) ++ [e] := by simp
    rw [hlast, run_concat] at hexcluded
    have hsame := reading_of_enters henters
    intro reading hreading
    rw [← hsame.1] at hreading
    rw [← hsame.2]
    exact hexcluded henters.2 reading hreading
  · intro h pre e mid k hpre hremoves hnone
    have hsplit : pre ++ e :: mid = (pre ++ [e]) ++ mid := by simp
    rw [excluded_iff (htypes _), hsplit, run_append]
    rw [hsplit] at hpre
    have hremoved : Unused (run (step py rejects) (boot clock) (pre ++ [e])) k := by
      rw [run_concat]
      exact fun hin => absurd hin hremoves.2
    -- The node was registered before the removal, so each later step finds what the condition says.
    have henters : Along (step py rejects) (fun s e => Enters py rejects s e k → Outdated s k)
        (run (step py rejects) (boot clock) (pre ++ [e])) mid := by
      refine along_iff_at_every_step.mpr fun fs f hfs hin => ?_
      rw [← run_append] at hin ⊢
      refine h (pre ++ [e] ++ fs) f k ?_ ⟨run (step py rejects) (boot clock) pre, ?_, hremoves.1⟩
        hin
      · rw [List.append_assoc (pre ++ [e])]
        exact ((List.prefix_append_right_inj _).mpr hfs).trans hpre
      · exact mem_visited_iff.mpr ⟨pre, ⟨[e] ++ fs, by simp⟩, rfl⟩
    refine run_invariant (I := fun s => Unused s k)
      (C := fun s e => (s.Registered k → ¬ Arrives py s e k) ∧
        (Enters py rejects s e k → Outdated s k))
      (fun s e hs he => hs.step he.1 he.2) hremoved ?_
    exact along_iff_at_every_step.mpr fun fs f hfs =>
      ⟨along_iff_at_every_step.mp hnone fs f hfs, along_iff_at_every_step.mp henters fs f hfs⟩

/-- A solar node registers and publishes, is unregistered, and registers again a second later. Its
reading from before the removal is counted. -/
theorem returned_node_counts_old_reading :
    ¬ ∀ clock es, StaysOut .cpython (fun _ => false) clock es := by
  intro h
  let pre : List Event := [.loop (.register 0 true Publishing.solarRegistration),
    .message true 0 Publishing.solarMessage]
  let e : Event := .loop (.unregister true Publishing.solarRegistration)
  let mid : List Event := [.elapse 1, .loop (.register 1000 true Publishing.solarRegistration)]
  have hremoves : Removes .cpython (fun _ => false)
      (run (step .cpython fun _ => false) (boot 0) pre) e (.str [97]) := by
    exact ⟨by decide +kernel, by decide +kernel⟩
  -- Neither of the two events after the removal is a message.
  have hnone : ∀ s, Along (step .cpython fun _ => false)
      (fun s e => s.Registered (.str [97]) → ¬ Arrives .cpython s e (.str [97])) s mid := by
    intro s
    refine ⟨fun _ => ?_, fun _ => ?_, trivial⟩
    · rintro ⟨accepts, received_ms, body, payload, power_w, hmessage, -⟩
      cases hmessage
    · rintro ⟨accepts, received_ms, body, payload, power_w, hmessage, -⟩
      cases hmessage
  obtain ⟨huncounted, -⟩ := h 0 (pre ++ e :: mid) pre e mid (.str [97]) List.prefix_rfl hremoves
    (hnone _) renewableTypes List.mem_cons_self
  have hcounted : ((run (step .cpython fun _ => false) (boot 0) (pre ++ e :: mid)).reading
      (.str [97])).map (counts renewableTypes
        (run (step .cpython fun _ => false) (boot 0) (pre ++ e :: mid)).clock
        (run (step .cpython fun _ => false) (boot 0) (pre ++ e :: mid)).cloud.registry
        (.str [97])) = some true := by
    decide +kernel
  obtain ⟨reading, hreading, htrue⟩ := Option.map_eq_some_iff.mp hcounted
  rw [huncounted reading hreading] at htrue
  exact Bool.false_ne_true htrue

end EnergyStation.System.Returning
