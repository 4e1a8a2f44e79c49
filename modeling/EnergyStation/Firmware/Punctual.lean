import EnergyStation.Firmware.PacketStream

/-!
# When the next packet comes

A node whose session stays up and whose publishing process is resumed in time publishes again when
its interval is over. A PUT request that changes the interval starts it anew, so it can put the
packet off once more, and no event other than a packet puts it off otherwise (`put_off_step`).
`heard_again` bounds the silence after a packet.
-/

namespace EnergyStation.Firmware.PacketStream

open MqttSensor Runs

/-- A PUT request to `actuators/sampling`. -/
def Event.isSampling : Event → Bool
  | .mqtt (.sampling _) _ => true
  | _ => false

/-- The event leaves the session up, and the process finds the library ready. -/
def InSession : Event → Prop
  | .mqtt (.mqtt .disconnected) _ => False
  | .mqtt (.resume _ w) _ => w.connectivity = true ∧ w.ready = true
  | _ => True

/-- A part of a run in which the session stays up, no interval is above `δ` ticks, and the process
is resumed not more than `ε` ticks after its timer is due. -/
structure Punctual (b : Build) (δ ε : ℕ) (s : State) (es : List Event) : Prop where
  /-- The session stays up. -/
  session : ∀ e ∈ es, InSession e
  /-- No interval is above `δ` ticks. -/
  interval : ∀ t ∈ visited (step b) s es, ticks b.platform t.mqtt ≤ δ
  /-- The process is in time. -/
  on_time : ∀ t ∈ visited (step b) s es, t.mqtt.clock ≤ t.mqtt.pub_timer.deadline + ε

/-- The changes of the interval that the process has not applied, one at most. -/
def pending (s : State) : ℕ := s.mqtt.sampling.publish_interval_dirty.toNat

/-- How often the next packet can be put off by a change of the interval. -/
def putOffs (s : State) (es : List Event) : ℕ := pending s + es.countP Event.isSampling

variable {b : Build} {δ ε : ℕ}

/-- A session that is up, and a deadline that only a change of the interval has put off. -/
structure PutOff (b : Build) (δ ε limit n : ℕ) (s : State) : Prop where
  /-- The session is up. -/
  connected : s.mqtt.mqtt_state = .connected
  /-- Every change counts for `δ + ε` ticks, also one that is pending. -/
  deadline : s.mqtt.pub_timer.deadline + pending s * (δ + ε) ≤ limit + n * (δ + ε)

/-- In a session that is up, a resumption that does not publish has found the timer pending. -/
theorem resume_of_silent {p : Platform} {s : MqttSensor} (hstate : s.mqtt_state = .connected)
    {ev : ProcessEvent} {w : Surroundings} (hw : w.connectivity = true ∧ w.ready = true)
    (hsilent : (s.resume p ev w).2 ≠ some .publishTelemetry) :
    (s.resume p ev w).1 = applyInterval p (s.deliver ev) ev := by
  have hstate' := (applyInterval_frame (p := p) s ev).1.trans hstate
  rcases resume_cases p s ev w with ⟨-, heq⟩ | ⟨-, hstep⟩
  · rw [heq]
  · generalize applyInterval p (s.deliver ev) ev = s₀ at hstate' hstep
    generalize s.resume p ev w = r at hsilent hstep
    cases hstep with
    | offline hoff => exact absurd hw.1 (by rw [hoff]; exact Bool.false_ne_true)
    | connect hon hinit =>
      rw [hstate'] at hinit
      rcases hinit with hinit | hinit <;> cases hinit
    | timeout hon hconnecting =>
      rw [hstate'] at hconnecting
      cases hconnecting
    | wait hon hconnecting =>
      rw [hstate'] at hconnecting
      cases hconnecting
    | notReady hon hconnected hready => exact absurd hw.2 (by rw [hready]; exact Bool.false_ne_true)
    | publish hon hconnected hready => exact absurd rfl hsilent

/-- A resumption that finds the timer pending keeps the deadline, or applies a pending change. -/
theorem applyInterval_deadline (p : Platform) (s : MqttSensor) (ev : ProcessEvent) :
    let s' := applyInterval p (s.deliver ev) ev
    (s'.pub_timer.deadline = s.pub_timer.deadline ∧
        s'.sampling.publish_interval_dirty = s.sampling.publish_interval_dirty) ∨
      (s.sampling.publish_interval_dirty = true ∧ s'.sampling.publish_interval_dirty = false ∧
        s'.pub_timer.deadline = s.clock + ticks p s) := by
  obtain ⟨htimer, hclock, hinterval⟩ := deliver_frame s ev
  have hdirty : (s.deliver ev).sampling.publish_interval_dirty =
      s.sampling.publish_interval_dirty := by
    cases ev <;> rfl
  rcases applyInterval_cases p (s.deliver ev) ev with ⟨hpending, -, heq⟩ | ⟨heq, -⟩
  · refine .inr ⟨hdirty.symm.trans hpending, ?_, ?_⟩
    · rw [heq]
      rfl
    · rw [heq]
      show (s.deliver ev).clock + publishIntervalToTicks p (s.deliver ev).publishIntervalMs = _
      rw [hclock, hinterval, ticks]
  · refine .inl ⟨?_, ?_⟩
    · rw [heq, htimer]
    · rw [heq, hdirty]

/-- An event that publishes nothing puts the deadline off by a pending change, or not at all. -/
theorem put_off_step {limit n : ℕ} {s : State} (h : PutOff b δ ε limit n s) {e : Event}
    (he : InSession e) (hδ : ticks b.platform s.mqtt ≤ δ)
    (hε : s.mqtt.clock ≤ s.mqtt.pub_timer.deadline + ε) (hsilent : packets b s e = []) :
    PutOff b δ ε limit (n + e.isSampling.toNat) (step b s e) := by
  obtain ⟨hstate, hdeadline⟩ := h
  cases e with
  | status body => exact ⟨hstate, hdeadline⟩
  | fire => exact ⟨hstate, hdeadline⟩
  | mqtt e rand =>
    have hnot : ¬ Publishes b s e := fun hpublishes => by
      rw [packets, if_pos hpublishes] at hsilent
      cases hsilent
    rcases e with body | event | n' | _ | ⟨ev, w⟩
    · refine ⟨hstate, ?_⟩
      have hle : pending (step b s (.mqtt (.sampling body) rand)) ≤ 1 := Bool.toNat_le _
      calc _ ≤ s.mqtt.pub_timer.deadline + 1 * (δ + ε) :=
            Nat.add_le_add_left (Nat.mul_le_mul_right _ hle) _
        _ ≤ limit + n * (δ + ε) + 1 * (δ + ε) :=
            Nat.add_le_add_right ((Nat.le_add_right _ _).trans hdeadline) _
        _ = limit + (n + 1) * (δ + ε) := by ring
    · rcases event with call | _ | _ | _ | _
      · exact ⟨rfl, hdeadline⟩
      · exact ⟨hstate, hdeadline⟩
      · cases he
      · exact ⟨hstate, hdeadline⟩
      · exact ⟨hstate, hdeadline⟩
    · exact ⟨hstate, hdeadline⟩
    · refine ⟨hstate, ?_⟩
      show (s.mqtt.pub_timer.poll s.mqtt.clock).deadline + pending s * (δ + ε) ≤ _
      rw [Timer.poll_deadline]
      exact hdeadline
    · have heq : (step b s (.mqtt (.resume ev w) rand)).mqtt =
        applyInterval b.platform (s.mqtt.deliver ev) ev :=
        resume_of_silent hstate he hnot
      refine ⟨?_, ?_⟩
      · rw [heq]
        exact (applyInterval_frame s.mqtt ev).1.trans hstate
      · rw [pending, heq]
        rw [pending] at hdeadline
        rcases applyInterval_deadline b.platform s.mqtt ev with
          ⟨hkept, hdirty⟩ | ⟨hdirty, hclean, hset⟩
        · rw [hkept, hdirty]
          exact hdeadline
        · -- The new interval starts at the present, which is not long after the old deadline.
          rw [hdirty, Bool.toNat_true, Nat.one_mul] at hdeadline
          rw [hclean, hset, Bool.toNat_false, Nat.zero_mul, Nat.add_zero]
          calc s.mqtt.clock + ticks b.platform s.mqtt
              ≤ s.mqtt.pub_timer.deadline + ε + δ := Nat.add_le_add hε hδ
            _ = s.mqtt.pub_timer.deadline + (δ + ε) := by ring
            _ ≤ limit + n * (δ + ε) := hdeadline

/-- A silent part of a run in which the session stays up and the process is in time puts the
deadline off once for each change of the interval. -/
theorem put_off_run {limit n : ℕ} {s : State} (hs : PutOff b δ ε limit n s) {es : List Event}
    (h : Punctual b δ ε s es) (hsilent : outputs (step b) (packets b) s es = []) :
    PutOff b δ ε limit (n + es.countP Event.isSampling) (run (step b) s es) := by
  induction es generalizing s n with
  | nil => exact hs
  | cons e es ih =>
    rw [outputs_cons, List.append_eq_nil_iff] at hsilent
    have hhead : s ∈ visited (step b) s (e :: es) := List.mem_cons_self
    have hstep := put_off_step hs (h.session e List.mem_cons_self) (h.interval s hhead)
      (h.on_time s hhead) hsilent.1
    have htail : Punctual b δ ε (step b s e) es :=
      ⟨fun e' he' => h.session e' (List.mem_cons_of_mem e he'),
        fun t ht => h.interval t (List.mem_cons_of_mem s ht),
        fun t ht => h.on_time t (List.mem_cons_of_mem s ht)⟩
    have hcount : (e :: es).countP Event.isSampling =
        e.isSampling.toNat + es.countP Event.isSampling := by
      rw [List.countP_cons, Nat.add_comm]
      cases e.isSampling <;> rfl
    rw [hcount, ← Nat.add_assoc]
    exact ih hstep htail hsilent.2

/-- A packet leaves the session up and arms the timer from the end of the call on. -/
theorem deadline_of_packet {s : State} {e : Event} {m : Packet} (h : m ∈ packets b s e) :
    (step b s e).mqtt.mqtt_state = .connected ∧
      (step b s e).mqtt.pub_timer.deadline = (step b s e).mqtt.clock + ticks b.platform
      (step b s e).mqtt := by
  obtain ⟨e, rand, rfl, hpublishes, rfl⟩ := mem_packets_iff.mp h
  obtain ⟨ev, w, r, rfl, heq, hstep⟩ := timerStep_of_call hpublishes
  have hmqtt : (step b s (.mqtt (.resume ev w) rand)).mqtt = r := heq
  rw [hmqtt]
  generalize applyInterval b.platform (s.mqtt.deliver ev) ev = s₀ at hstep
  cases hstep with
  | publish hw hstate hready => exact ⟨hstate, rfl⟩

/-- After a packet, and until the next one, no more time passes than one interval takes, and one
more for each change of it. -/
theorem heard_again {s : State} {e : Event} {m : Packet} (hm : m ∈ packets b s e)
    {es : List Event} (h : Punctual b δ ε (step b s e) es)
    (hsilent : outputs (step b) (packets b) (step b s e) es = []) :
    (run (step b) (step b s e) es).mqtt.clock ≤
      (step b s e).mqtt.clock + (1 + putOffs (step b s e) es) * (δ + ε) := by
  obtain ⟨hstate, hdeadline⟩ := deadline_of_packet hm
  have hfirst := h.interval _ (mem_visited_iff.mpr ⟨[], List.nil_prefix, rfl⟩)
  have hlast := h.on_time _ (mem_visited_iff.mpr ⟨es, List.prefix_rfl, rfl⟩)
  have hs : PutOff b δ ε ((step b s e).mqtt.clock + δ) (pending (step b s e)) (step b s e) := by
    refine ⟨hstate, Nat.add_le_add_right ?_ _⟩
    rw [hdeadline]
    exact Nat.add_le_add_left hfirst _
  have hrun := (Nat.le_add_right _ _).trans (put_off_run hs h hsilent).deadline
  calc (run (step b) (step b s e) es).mqtt.clock
      ≤ (step b s e).mqtt.clock + δ + putOffs (step b s e) es * (δ + ε) + ε :=
        hlast.trans (Nat.add_le_add_right hrun ε)
    _ = (step b s e).mqtt.clock + (1 + putOffs (step b s e) es) * (δ + ε) := by ring

end EnergyStation.Firmware.PacketStream
