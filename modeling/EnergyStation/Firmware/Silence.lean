import EnergyStation.Firmware.Punctual

/-!
# What a silence is due to

The publishing process spends its time waiting for a timer that it has armed itself, so the time
between two states of a run is at most that of the timers that it arms in between. `Reason` lists
what can arm one: a packet, a new interval, a look at the network, the library or the broker that
finds it not there, or a connection that has been closed. `time_has_reasons` says that there is
nothing else: whatever happens, in any order, a node that is resumed in time is silent no longer
than its reasons account for, and one that has none publishes within one interval and the time of
one connection.
-/

namespace EnergyStation.Firmware.MqttSensor

open CStdlib Runs

/-- What the process can spend its time on. -/
inductive Reason where
  /-- It has published a packet, for which `publish_telemetry` has taken so many ticks. -/
  | packet (publishing : ℕ)
  /-- A PUT request has come to `actuators/sampling`. -/
  | interval
  /-- Its timer has expired, and there is no connectivity. -/
  | offline
  /-- Its timer has expired in a session, and the library is not ready. -/
  | notReady
  /-- The library has reported that the connection is closed. -/
  | closed
  /-- It has given up a connection that the broker has not answered. -/
  | unanswered

section

variable (p : Platform)

/-- The reasons of an expired timer. A call of `mqtt_connect`, and a wait for the broker that is not
the last one, are none. -/
def timerReasons (s : MqttSensor) (w : Surroundings) : List Reason :=
  if w.connectivity = false then [.offline]
  else
    match s.mqtt_state with
    | .init | .disconnected => []
    | .connecting => if 4 ≤ (s.connect_attempts + 1) % 2 ^ 8 then [.unanswered] else []
    | .connected => if w.ready = false then [.notReady] else [.packet w.publishing]

/-- The reasons of an event. -/
def reasons (s : MqttSensor) : MqttSensorEvent → List Reason
  | .sampling _ => [.interval]
  | .mqtt .disconnected => [.closed]
  | .resume ev w =>
    let s := applyInterval p (s.deliver ev) ev
    if s.pub_timer.expired then timerReasons s w else []
  | _ => []

/-- The longest period of the timer, where no interval is above `δ` ticks. -/
def slot (δ : ℕ) : ℕ := max δ (mqttReconnectDelay p)

/-- The time of one wait for the broker, where the process is resumed not more than `ε` ticks after
its timer is due. -/
def wait (ε : ℕ) : ℕ := mqttReconnectDelay p + ε

/-- The time that a reason accounts for. -/
def Reason.ticks (δ ε : ℕ) : Reason → ℕ
  | .packet publishing => publishing + (δ + ε)
  | .interval => δ + ε
  | .offline => slot p δ
  | .notReady => p.clockSecond + ε
  -- A call of `mqtt_connect`, and three waits.
  | .closed => 4 * wait p ε
  -- So it is after the fourth wait.
  | .unanswered => 5 * wait p ε

/-- The looks at its timer that separate the process from a session, if the broker answers. -/
def looks (s : MqttSensor) : ℕ :=
  match s.mqtt_state with
  | .init | .disconnected => 4
  | .connecting => 3 - s.connect_attempts
  | .connected => 0

/-- What is left of the time that the reasons so far account for. -/
def budget (δ ε : ℕ) (s : MqttSensor) : ℕ :=
  s.pub_timer.deadline + s.sampling.publish_interval_dirty.toNat * (δ + ε) + looks s * wait p ε

/-- The timer of a process that has been started. -/
structure Timed (s : MqttSensor) : Prop where
  /-- The process has been started. -/
  running : Running s
  /-- An expired timer is past its deadline. -/
  sound : s.pub_timer.Sound s.clock
  /-- The timer counts from a time that has been. -/
  started : s.pub_timer.start ≤ s.clock

/-- The interval is not above `δ` ticks, and the timer is due not more than `ε` ticks ago. -/
structure InTime (δ ε : ℕ) (s : MqttSensor) : Prop where
  /-- The interval. -/
  interval : ticks p s ≤ δ
  /-- The process is resumed in time. -/
  on_time : s.clock ≤ s.pub_timer.deadline + ε

instance (δ ε : ℕ) (s : MqttSensor) : Decidable (InTime p δ ε s) :=
  decidable_of_iff (ticks p s ≤ δ ∧ s.clock ≤ s.pub_timer.deadline + ε)
    ⟨fun h => ⟨h.1, h.2⟩, fun h => ⟨h.interval, h.on_time⟩⟩

end

variable {cfg : SamplingBuild} {p : Platform} {δ ε : ℕ}

theorem timed_boot (cfg : SamplingBuild) (p : Platform) (clock : ℕ) : Timed (boot cfg p clock) where
  running := running_boot cfg p clock
  sound := Timer.sound_set _ _ _
  started := Nat.le_refl clock

/-- A timer that has just been armed. -/
theorem Timed.of_set {s : MqttSensor} (hs : Running s) {period : ℕ}
    (h : s.pub_timer = .set s.clock period) : Timed s := by
  refine ⟨hs, ?_, ?_⟩
  · rw [h]
    exact Timer.sound_set _ _ _
  · rw [h]
    exact Nat.le_refl _

/-- The first `if` of the loop arms the timer, or leaves it alone. -/
theorem Timed.applyInterval {s : MqttSensor} (h : Timed s) (ev : ProcessEvent) :
    Timed (applyInterval p (s.deliver ev) ev) := by
  obtain ⟨htimer, hclock, -⟩ := deliver_frame s ev
  have hrunning := h.running.applyInterval (p := p) ev
  rcases applyInterval_cases p (s.deliver ev) ev with ⟨-, -, heq⟩ | ⟨heq, -⟩
  · rw [heq] at hrunning ⊢
    exact Timed.of_set hrunning rfl
  · rw [heq] at hrunning ⊢
    exact ⟨hrunning, by rw [htimer, hclock]; exact h.sound, by rw [htimer, hclock]; exact h.started⟩

/-- The second `if` arms an expired timer, from the present or its deadline on. -/
theorem Timed.onTimer {s : MqttSensor} (h : Timed s) (hexp : s.pub_timer.expired = true)
    {w : Surroundings} {r : MqttSensor × Option Call} (hr : TimerStep p s w r) : Timed r.1 := by
  have hrunning := (h.running.onTimer hr).1
  cases hr with
  | offline hw => exact ⟨hrunning, fun hpending => Bool.noConfusion hpending, h.sound hexp⟩
  | connect hw hstate => exact Timed.of_set hrunning rfl
  | timeout hw hstate hattempts => exact Timed.of_set hrunning rfl
  | wait hw hstate hattempts => exact Timed.of_set hrunning rfl
  | notReady hw hstate hready => exact Timed.of_set hrunning rfl
  | publish hw hstate hready => exact Timed.of_set hrunning rfl

theorem Timed.step {s : MqttSensor} (h : Timed s) (e : MqttSensorEvent) :
    Timed (step cfg p s e) := by
  rcases e with body | event | n | _ | ⟨ev, w⟩
  · exact ⟨h.running.step (.sampling body), h.sound, h.started⟩
  · have hrunning : Running (MqttSensor.step cfg p s (.mqtt event)) := h.running.step (.mqtt event)
    rcases event with call | _ | _ | _ | _ <;> exact ⟨hrunning, h.sound, h.started⟩
  · exact ⟨h.running.step (.elapse n), h.sound.mono (Nat.le_add_right _ _),
      h.started.trans (Nat.le_add_right _ _)⟩
  · refine ⟨h.running.step .timer, Timer.sound_poll h.sound, ?_⟩
    rw [step_timer, Timer.poll_start]
    exact h.started
  · rw [step_resume]
    rcases resume_cases p s ev w with ⟨-, heq⟩ | ⟨hexp, hstep⟩
    · rw [heq]
      exact h.applyInterval ev
    · exact (h.applyInterval ev).onTimer hexp hstep

/-- Every state of a run. -/
theorem timed_run (cfg : SamplingBuild) (p : Platform) (clock : ℕ) (es : List MqttSensorEvent) :
    Timed (run (step cfg p) (boot cfg p clock) es) :=
  run_invariant' (fun _ e hs => hs.step e) (timed_boot cfg p clock) es

/-- The first `if` of the loop arms the timer with the interval, or leaves it alone. -/
theorem interval_applyInterval {s : MqttSensor} (h : s.pub_timer.interval ≤ slot p δ)
    (hδ : ticks p s ≤ δ) (ev : ProcessEvent) :
    (applyInterval p (s.deliver ev) ev).pub_timer.interval ≤ slot p δ := by
  obtain ⟨htimer, -, hinterval⟩ := deliver_frame s ev
  rcases applyInterval_cases p (s.deliver ev) ev with ⟨-, -, heq⟩ | ⟨heq, -⟩
  · rw [heq]
    show publishIntervalToTicks p (s.deliver ev).publishIntervalMs ≤ slot p δ
    rw [hinterval]
    exact hδ.trans (le_max_left _ _)
  · rw [heq, htimer]
    exact h

/-- The second `if` arms the timer with one of the periods of the process. -/
theorem interval_onTimer {s : MqttSensor} (h : s.pub_timer.interval ≤ slot p δ) (hδ : ticks p s ≤ δ)
    {w : Surroundings} {r : MqttSensor × Option Call} (hr : TimerStep p s w r) :
    r.1.pub_timer.interval ≤ slot p δ := by
  cases hr with
  | offline hw => exact h
  | connect hw hstate => exact le_max_right _ _
  | timeout hw hstate hattempts => exact le_max_right _ _
  | wait hw hstate hattempts => exact le_max_right _ _
  | notReady hw hstate hready =>
    exact (Nat.le_mul_of_pos_left _ (by decide : 0 < 5)).trans (le_max_right _ _)
  | publish hw hstate hready => exact hδ.trans (le_max_left _ _)

/-- The first `if` of the loop does not change the interval. -/
theorem ticks_applyInterval (s : MqttSensor) (ev : ProcessEvent) :
    ticks p (applyInterval p (s.deliver ev) ev) = ticks p s ∧
      (applyInterval p (s.deliver ev) ev).clock = s.clock := by
  obtain ⟨-, hclock, hinterval⟩ := deliver_frame s ev
  rcases applyInterval_cases p (s.deliver ev) ev with ⟨-, -, heq⟩ | ⟨heq, -⟩
  · rw [heq]
    exact ⟨congrArg (publishIntervalToTicks p) hinterval, hclock⟩
  · rw [heq]
    exact ⟨congrArg (publishIntervalToTicks p) hinterval, hclock⟩

/-- Where no interval is above `δ` ticks, the period of the timer stays within the slot. -/
theorem interval_step {s : MqttSensor} (h : s.pub_timer.interval ≤ slot p δ) (hδ : ticks p s ≤ δ)
    (e : MqttSensorEvent) : (step cfg p s e).pub_timer.interval ≤ slot p δ := by
  rcases e with body | event | n | _ | ⟨ev, w⟩
  · exact h
  · rcases event with call | _ | _ | _ | _ <;> exact h
  · exact h
  · rw [step_timer, Timer.poll_interval]
    exact h
  · have happly := interval_applyInterval h hδ ev
    rw [step_resume]
    rcases resume_cases p s ev w with ⟨-, heq⟩ | ⟨-, hstep⟩
    · rw [heq]
      exact happly
    · exact interval_onTimer happly ((ticks_applyInterval s ev).1.trans_le hδ) hstep

/-- The first `if` of the loop arms the timer anew for an interval that has been accounted for. -/
theorem budget_applyInterval {s : MqttSensor} (h : InTime p δ ε s) (ev : ProcessEvent) :
    budget p δ ε (applyInterval p (s.deliver ev) ev) ≤ budget p δ ε s ∧
      s.clock ≤ (applyInterval p (s.deliver ev) ev).pub_timer.deadline + ε := by
  obtain ⟨hstate, hattempts⟩ := applyInterval_frame (p := p) s ev
  have hlooks : looks (applyInterval p (s.deliver ev) ev) = looks s := by
    rw [looks, looks, hstate, hattempts]
  rw [budget, budget, hlooks]
  rcases PacketStream.applyInterval_deadline p s ev with ⟨hkept, hdirty⟩ | ⟨hdirty, hclean, hset⟩
  · rw [hkept, hdirty]
    exact ⟨le_refl _, h.on_time⟩
  · rw [hset, hdirty, hclean, Bool.toNat_true, Bool.toNat_false, Nat.zero_mul, Nat.one_mul,
      Nat.add_zero]
    refine ⟨Nat.add_le_add_right ?_ _, (Nat.le_add_right _ _).trans (Nat.le_add_right _ _)⟩
    calc s.clock + ticks p s ≤ s.pub_timer.deadline + ε + δ := Nat.add_le_add h.on_time h.interval
      _ = s.pub_timer.deadline + (δ + ε) := by ring

/-- A later deadline is accounted for by fewer looks, or by what is added. -/
theorem budget_le {s s' : MqttSensor} {a c : ℕ}
    (hdeadline : s'.pub_timer.deadline ≤ s.pub_timer.deadline + a)
    (hdirty : s'.sampling.publish_interval_dirty = s.sampling.publish_interval_dirty)
    (hlooks : looks s' * wait p ε + a ≤ looks s * wait p ε + c) :
    budget p δ ε s' ≤ budget p δ ε s + c := by
  rw [budget, budget, hdirty]
  generalize s.sampling.publish_interval_dirty.toNat * (δ + ε) = n
  calc s'.pub_timer.deadline + n + looks s' * wait p ε
      ≤ s.pub_timer.deadline + a + n + looks s' * wait p ε :=
        Nat.add_le_add_right (Nat.add_le_add_right hdeadline _) _
    _ = s.pub_timer.deadline + n + (looks s' * wait p ε + a) := by ring
    _ ≤ s.pub_timer.deadline + n + (looks s * wait p ε + c) := Nat.add_le_add_left hlooks _
    _ = s.pub_timer.deadline + n + looks s * wait p ε + c := (Nat.add_assoc _ _ _).symm

/-- The reasons of an expired timer, by the call that the process makes. -/
theorem timerReasons_eq {s : MqttSensor} {w : Surroundings} {r : MqttSensor × Option Call}
    (hr : TimerStep p s w r) :
    timerReasons s w =
      match r.2 with
      | some .publishTelemetry => [.packet w.publishing]
      | some .mqttDisconnect => [.unanswered]
      | some .mqttConnect => []
      | none =>
        if w.connectivity = false then [.offline]
        else if s.mqtt_state = .connected then [.notReady] else [] := by
  have honline : w.connectivity = true → ¬ w.connectivity = false := fun hw => by
    rw [hw]
    exact Bool.true_eq_false_eq_False
  cases hr with
  | offline hw => rw [timerReasons, if_pos hw, if_pos hw]
  | connect hw hstate =>
    rw [timerReasons, if_neg (honline hw)]
    rcases hstate with hstate | hstate <;> rw [hstate]
  | timeout hw hstate hattempts =>
    rw [timerReasons, if_neg (honline hw), hstate]
    exact if_pos hattempts
  | wait hw hstate hattempts =>
    rw [timerReasons, if_neg (honline hw), if_neg (honline hw), hstate]
    exact if_neg (not_le.mpr hattempts)
  | notReady hw hstate hready =>
    rw [timerReasons, if_neg (honline hw), if_neg (honline hw), hstate]
    exact if_pos hready
  | publish hw hstate hready =>
    rw [timerReasons, if_neg (honline hw), hstate]
    exact if_neg (by rw [hready]; exact Bool.true_eq_false_eq_False)

/-- What an expired timer costs is accounted for by the looks that are left, or by its reasons. -/
theorem budget_onTimer {s : MqttSensor} (h : Running s) (hδ : ticks p s ≤ δ)
    (hslot : s.pub_timer.interval ≤ slot p δ) (hε : s.clock ≤ s.pub_timer.deadline + ε)
    {w : Surroundings} {r : MqttSensor × Option Call} (hr : TimerStep p s w r) :
    budget p δ ε r.1 ≤ budget p δ ε s + ((timerReasons s w).map (Reason.ticks p δ ε)).sum := by
  have hrearm : s.clock + mqttReconnectDelay p ≤ s.pub_timer.deadline + wait p ε :=
    calc s.clock + mqttReconnectDelay p ≤ s.pub_timer.deadline + ε + mqttReconnectDelay p :=
          Nat.add_le_add_right hε _
      _ = s.pub_timer.deadline + wait p ε := by rw [wait]; ring
  have hreasons := timerReasons_eq hr
  cases hr with
  | offline hw =>
    rw [hreasons.trans (if_pos hw), List.map_singleton, List.sum_singleton]
    exact budget_le (Nat.add_le_add_left hslot _) rfl (le_refl _)
  | connect hw hstate =>
    have hlooks : looks s = 4 := by
      rcases hstate with hstate | hstate <;> rw [looks, hstate]
    rw [hreasons, List.map_nil, List.sum_nil]
    refine budget_le hrearm rfl ?_
    rw [hlooks]
    show 3 * wait p ε + wait p ε ≤ 4 * wait p ε + 0
    exact (by ring : 3 * wait p ε + wait p ε = 4 * wait p ε + 0).le
  | timeout hw hstate hattempts =>
    rw [hreasons, List.map_singleton, List.sum_singleton]
    refine budget_le hrearm rfl ?_
    show 4 * wait p ε + wait p ε ≤ looks s * wait p ε + 5 * wait p ε
    calc 4 * wait p ε + wait p ε = 5 * wait p ε := by ring
      _ ≤ looks s * wait p ε + 5 * wait p ε := Nat.le_add_left _ _
  | wait hw hstate hattempts =>
    have hthree := h.connecting hstate
    have hnone : timerReasons s w = [] := by
      rw [hreasons, hw, hstate]
      rfl
    rw [hnone, List.map_nil, List.sum_nil]
    refine budget_le hrearm rfl ?_
    -- The counter has not wrapped, so one look fewer is left.
    have hcount : (s.connect_attempts + 1) % 2 ^ 8 = s.connect_attempts + 1 :=
      Nat.mod_eq_of_lt (by omega)
    rw [hcount] at hattempts
    have hfewer : looks s = 3 - (s.connect_attempts + 1) + 1 := by
      simp only [looks, hstate]
      omega
    have hleft : looks (rearm p { s with connect_attempts := (s.connect_attempts + 1) % 2 ^ 8 }) =
        3 - (s.connect_attempts + 1) := by
      rw [hcount, looks, rearm, hstate]
    rw [hfewer, hleft, Nat.add_mul, Nat.one_mul]
    exact Nat.le_refl _
  | notReady hw hstate hready =>
    have hone : timerReasons s w = [.notReady] := by
      rw [hreasons, hw, hstate]
      rfl
    rw [hone, List.map_singleton, List.sum_singleton]
    refine budget_le ?_ rfl (le_refl _)
    calc s.clock + p.clockSecond ≤ s.pub_timer.deadline + ε + p.clockSecond :=
          Nat.add_le_add_right hε _
      _ = s.pub_timer.deadline + (p.clockSecond + ε) := by ring
  | publish hw hstate hready =>
    rw [hreasons, List.map_singleton, List.sum_singleton]
    refine budget_le ?_ rfl (le_refl _)
    calc s.clock + w.publishing + ticks p s ≤ s.pub_timer.deadline + ε + w.publishing + δ :=
          Nat.add_le_add (Nat.add_le_add_right hε _) hδ
      _ = s.pub_timer.deadline + (w.publishing + (δ + ε)) := by ring

/-- What an event costs is accounted for. -/
theorem budget_step {s : MqttSensor} (hs : Timed s) (hslot : s.pub_timer.interval ≤ slot p δ)
    (h : InTime p δ ε s) (e : MqttSensorEvent) :
    budget p δ ε (step cfg p s e) ≤ budget p δ ε s +
      ((reasons p s e).map (Reason.ticks p δ ε)).sum := by
  rcases e with body | event | n | _ | ⟨ev, w⟩
  · show s.pub_timer.deadline +
        (s.sampling.resPutHandler cfg body).2.publish_interval_dirty.toNat * (δ + ε) +
        looks s * wait p ε ≤ budget p δ ε s + (δ + ε + 0)
    have hle : (s.sampling.resPutHandler cfg body).2.publish_interval_dirty.toNat * (δ + ε) ≤
        1 * (δ + ε) :=
      Nat.mul_le_mul_right _ (Bool.toNat_le _)
    rw [budget]
    linarith [Nat.zero_le (s.sampling.publish_interval_dirty.toNat * (δ + ε))]
  · rcases event with call | _ | _ | _ | _
    · refine budget_le (Nat.le_add_right _ 0) rfl ?_
      show 0 * wait p ε + 0 ≤ _
      rw [Nat.zero_mul]
      exact Nat.zero_le _
    · exact Nat.le_refl _
    · refine budget_le (Nat.le_add_right _ 0) rfl ?_
      show 4 * wait p ε + 0 ≤ looks s * wait p ε + (4 * wait p ε + 0)
      exact Nat.le_add_left _ _
    · exact Nat.le_refl _
    · exact Nat.le_refl _
  · exact Nat.le_refl _
  · rw [step_timer, budget, Timer.poll_deadline]
    exact Nat.le_refl _
  · obtain ⟨hbudget, hε⟩ := budget_applyInterval h ev
    obtain ⟨hticks, hclock⟩ := ticks_applyInterval (p := p) s ev
    have hrunning := hs.running.applyInterval (p := p) ev
    have hslot' := interval_applyInterval hslot h.interval ev
    rw [step_resume, reasons]
    rcases resume_cases p s ev w with ⟨hexp, heq⟩ | ⟨hexp, hstep⟩
    · rw [heq, hexp, if_neg Bool.false_ne_true]
      exact hbudget
    · rw [hexp, if_pos rfl]
      exact (budget_onTimer hrunning (hticks.trans_le h.interval) hslot' (hclock.trans_le hε)
        hstep).trans (Nat.add_le_add_right hbudget _)

/-- The time that the reasons of a part of a run account for. -/
def accountedTicks (cfg : SamplingBuild) (p : Platform) (δ ε : ℕ) (s : MqttSensor)
    (es : List MqttSensorEvent) : ℕ :=
  ((outputs (step cfg p) (reasons p) s es).map (Reason.ticks p δ ε)).sum

/-- What needs no reason: the timer that is armed, a new interval that the process has not applied
yet, and a connection. -/
def grace (p : Platform) (δ ε : ℕ) : ℕ := slot p δ + ε + (δ + ε) + 4 * wait p ε

/-- A reason tells of a packet exactly where `publish_telemetry` is called, and of a connection that
is given up exactly where `mqtt_disconnect` is. -/
theorem reasons_tell_calls (cfg : SamplingBuild) (s : MqttSensor) (e : MqttSensorEvent) :
    ((∃ n, .packet n ∈ reasons p s e) ↔ call cfg p s e = some .publishTelemetry) ∧
      (.unanswered ∈ reasons p s e ↔ call cfg p s e = some .mqttDisconnect) := by
  rcases e with body | event | n | _ | ⟨ev, w⟩
  · simp [reasons, call, perform]
  · rcases event with call | _ | _ | _ | _ <;> simp [reasons, MqttSensor.call, perform]
  · simp [reasons, call, perform]
  · simp [reasons, call, perform]
  · have hcall : call cfg p s (.resume ev w) = (s.resume p ev w).2 := rfl
    rw [hcall, reasons]
    rcases resume_cases p s ev w with ⟨hexp, heq⟩ | ⟨hexp, hstep⟩
    · rw [heq, hexp]
      simp
    · rw [hexp, if_pos rfl, timerReasons_eq hstep]
      rcases (s.resume p ev w).2 with _ | _ | _ | _
      · simp only
        split_ifs <;> simp
      · simp
      · simp
      · simp

/-- The time of a part `es` of a run that follows the state `s`. -/
structure Accounted (cfg : SamplingBuild) (p : Platform) (δ ε : ℕ) (s : MqttSensor)
    (es : List MqttSensorEvent) : Prop where
  /-- It takes no longer than what needs no reason, and what its reasons account for. -/
  time : (run (step cfg p) s es).clock ≤
    s.clock + grace p δ ε + accountedTicks cfg p δ ε s es
  /-- A packet is a call of `publish_telemetry`, and a connection is given up in a call of
  `mqtt_disconnect`. -/
  calls : ∀ pre e, pre ++ [e] <+: es →
    ((∃ n, .packet n ∈ reasons p (run (step cfg p) s pre) e) ↔
      call cfg p (run (step cfg p) s pre) e = some .publishTelemetry) ∧
    (.unanswered ∈ reasons p (run (step cfg p) s pre) e ↔
      call cfg p (run (step cfg p) s pre) e = some .mqttDisconnect)

/-- The time of a part of a run of a node that is resumed in time. -/
theorem time_of_reasons {s : MqttSensor} (hs : Timed s) (hslot : s.pub_timer.interval ≤ slot p δ)
    {es : List MqttSensorEvent} (h : ∀ t ∈ visited (step cfg p) s es, InTime p δ ε t) :
    (run (step cfg p) s es).clock ≤ s.clock + grace p δ ε + accountedTicks cfg p δ ε s es := by
  have hlooks : looks s ≤ 4 := by
    rcases hstate : s.mqtt_state <;> simp only [looks, hstate] <;> omega
  have hin : ∀ mid, mid <+: es → InTime p δ ε (run (step cfg p) s mid) := fun mid hmid =>
    h _ (mem_visited_iff.mpr ⟨mid, hmid, rfl⟩)
  -- In the part the timer never gets a longer period.
  have hslots : ∀ mid, mid <+: es → (run (step cfg p) s mid).pub_timer.interval ≤ slot p δ := by
    intro mid hmid
    refine run_invariant (I := fun s : MqttSensor => s.pub_timer.interval ≤ slot p δ)
      (C := fun s _ => ticks p s ≤ δ) (fun s e hs hC => interval_step hs hC e) hslot
      (along_iff_at_every_step.mpr fun mid' e hmid' => ?_)
    exact (hin mid' (((List.prefix_append mid' [e]).trans hmid').trans hmid)).interval
  -- The budget grows by what the reasons account for.
  have hstep : ∀ t e, (Timed t ∧ t.pub_timer.interval ≤ slot p δ ∧ InTime p δ ε t) →
      budget p δ ε (step cfg p t e) ≤
        budget p δ ε t + ((reasons p t e).map (Reason.ticks p δ ε)).sum :=
    fun t e ht => budget_step ht.1 ht.2.1 ht.2.2 e
  have hbudget := le_add_sum_outputs
    (C := fun t _ => Timed t ∧ t.pub_timer.interval ≤ slot p δ ∧ InTime p δ ε t) hstep
    (along_iff_at_every_step.mpr fun mid e hmid => by
      have hmid' : mid <+: es := (List.prefix_append mid [e]).trans hmid
      exact ⟨run_invariant' (fun _ e hs => hs.step e) hs mid, hslots mid hmid', hin mid hmid'⟩)
  have hlast := (hin es List.prefix_rfl).on_time
  have hfirst : s.pub_timer.deadline ≤ s.clock + slot p δ := Nat.add_le_add hs.started hslot
  have hstart : budget p δ ε s ≤ s.clock + slot p δ + 1 * (δ + ε) + 4 * wait p ε :=
    Nat.add_le_add (Nat.add_le_add hfirst (Nat.mul_le_mul_right _ (Bool.toNat_le _)))
      (Nat.mul_le_mul_right _ hlooks)
  have hend : (run (step cfg p) s es).pub_timer.deadline ≤ budget p δ ε (run (step cfg p) s es) :=
    (Nat.le_add_right _ _).trans (Nat.le_add_right _ _)
  calc (run (step cfg p) s es).clock
      ≤ (run (step cfg p) s es).pub_timer.deadline + ε := hlast
    _ ≤ budget p δ ε s + accountedTicks cfg p δ ε s es + ε :=
        Nat.add_le_add_right (hend.trans hbudget) ε
    _ ≤ s.clock + slot p δ + 1 * (δ + ε) + 4 * wait p ε + accountedTicks cfg p δ ε s es + ε :=
      Nat.add_le_add_right (Nat.add_le_add_right hstart _) ε
    _ = s.clock + grace p δ ε + accountedTicks cfg p δ ε s es := by rw [grace]; ring

/-- Over every run of the publishing process, whatever requests come, whatever the network, the
library and the broker do: a part of it in which no interval is above `δ` ticks, and the process is
resumed not more than `ε` ticks after its timer is due, takes no longer than one connection, one
interval and what its reasons account for. Only the timer that is armed when the part begins may be
from before it, and is not to be longer than one of the part. -/
theorem time_has_reasons (cfg : SamplingBuild) (p : Platform) (clock : ℕ) {δ ε : ℕ}
    (pre es : List MqttSensorEvent)
    (hslot : (run (step cfg p) (boot cfg p clock) pre).pub_timer.interval ≤ slot p δ)
    (h : ∀ t ∈ visited (step cfg p) (run (step cfg p) (boot cfg p clock) pre) es, InTime p δ ε t) :
    Accounted cfg p δ ε (run (step cfg p) (boot cfg p clock) pre) es where
  time := time_of_reasons (timed_run cfg p clock pre) hslot h
  calls pre' e _ :=
    reasons_tell_calls cfg (run (step cfg p) (run (step cfg p) (boot cfg p clock) pre) pre') e

/-- A wind node connects five seconds after its boot, and publishes after five more. -/
def windStart : List MqttSensorEvent :=
  [.elapse 640, .timer, .resume .other ⟨true, true, 0⟩, .mqtt (.connected 0), .elapse 640, .timer,
    .resume .other ⟨true, true, 2⟩]

/-- It is in time at every event. -/
theorem time_has_reasons_wind :
    Accounted ProtectiveShutdown.windBuild.sampling ⟨128, by decide⟩ 640 0
      (boot ProtectiveShutdown.windBuild.sampling ⟨128, by decide⟩ 0) windStart :=
  time_has_reasons ProtectiveShutdown.windBuild.sampling ⟨128, by decide⟩ 0 [] windStart
    (by decide) (by decide)

end EnergyStation.Firmware.MqttSensor
