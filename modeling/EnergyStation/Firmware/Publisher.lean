import EnergyStation.Firmware.MqttSensor
import EnergyStation.Lib.Runs

/-!
# The publisher over whole runs

A sampling PUT hands a new interval to the publishing process with a flag and a poll, and the
process takes it only in a session. `Handover` is the invariant of that exchange, and
`interval_is_handed_over` says what follows from it. `Running` is the invariant of the connection:
the timer always has a period, and a connection that does not come about is given up at the fourth
expiry. What the process never does is in `publisher_never_stalls`.
-/

namespace EnergyStation.Firmware.MqttSensor

open CStdlib Runs

variable {cfg : SamplingBuild} {p : Platform}

/-- The period of the timer is that of the current interval, the retry of a library that is not
ready, or the delay of a new connection. -/
def Current (p : Platform) (s : MqttSensor) : Prop :=
  s.pub_timer.interval = publishIntervalToTicks p s.publishIntervalMs ∨
    s.pub_timer.interval = p.clockSecond ∨ s.pub_timer.interval = mqttReconnectDelay p

/-- What holds between the flag, the poll, the connection and the timer. -/
structure Handover (p : Platform) (s : MqttSensor) : Prop where
  /-- In a session, a poll is on its way for a new interval. -/
  polled : s.sampling.publish_interval_dirty = true → s.mqtt_state = .connected →
    s.sampling.polled = true
  /-- The period is up to date where there is no new interval. -/
  current : s.sampling.publish_interval_dirty = false → Current p s

theorem handover_boot (cfg : SamplingBuild) (p : Platform) (clock : ℕ) :
    Handover p (boot cfg p clock) :=
  ⟨fun h => absurd h Bool.false_ne_true, fun _ => .inr (.inr rfl)⟩

/-- A round of the loop applies the new interval for which the poll was on its way. -/
theorem Handover.applyInterval {s : MqttSensor} (h : Handover p s) (ev : ProcessEvent) :
    Handover p (applyInterval p (s.deliver ev) ev) := by
  rcases ev with _ | _
  · rcases applyInterval_cases p (s.deliver .poll) .poll with ⟨-, -, heq⟩ | ⟨heq, hnot⟩
    · rw [heq]
      exact ⟨fun hdirty => absurd hdirty Bool.false_ne_true, fun _ => .inl rfl⟩
    · rw [heq]
      -- Without a session the flag stays, and the poll is asked for again when there is one.
      exact ⟨fun hdirty hstate => absurd hstate (hnot rfl hdirty), h.current⟩
  · exact h

/-- The expiry of the timer leaves the flag to the next poll. -/
theorem Handover.onTimer {s : MqttSensor} (h : Handover p s) {w : Surroundings}
    {r : MqttSensor × Option Call} (hr : TimerStep p s w r) : Handover p r.1 := by
  rcases hr with hw | ⟨hw, hstate⟩ | ⟨hw, hstate, hattempts⟩ | ⟨hw, hstate, hattempts⟩ |
    ⟨hw, hstate, hready⟩ | ⟨hw, hstate, hready⟩
  · exact ⟨h.polled, h.current⟩
  · exact ⟨fun _ hstate' => (nomatch hstate'), fun _ => .inr (.inr rfl)⟩
  · exact ⟨fun _ hstate' => (nomatch hstate'), fun _ => .inr (.inr rfl)⟩
  · exact ⟨h.polled, fun _ => .inr (.inr rfl)⟩
  · exact ⟨h.polled, fun _ => .inr (.inl rfl)⟩
  · exact ⟨h.polled, fun _ => .inl rfl⟩

/-- Every event keeps the exchange. -/
theorem Handover.step {s : MqttSensor} (h : Handover p s) (e : MqttSensorEvent) :
    Handover p (step cfg p s e) := by
  rcases e with body | event | ticks | _ | ⟨ev, w⟩
  · rcases s.sampling.resPutHandler_cases cfg body with heq | ⟨hdirty, hpolled⟩
    · rwa [step_sampling, heq]
    · refine ⟨fun _ _ => hpolled, fun hclean => ?_⟩
      change (s.sampling.resPutHandler cfg body).2.publish_interval_dirty = false at hclean
      rw [hdirty] at hclean
      cases hclean
  · rcases event with call | _ | _ | _ | _
    · exact ⟨fun _ _ => rfl, h.current⟩
    · exact h
    · exact ⟨fun _ _ => rfl, h.current⟩
    · exact ⟨fun _ _ => rfl, h.current⟩
    · exact h
  · exact ⟨h.polled, h.current⟩
  · refine ⟨h.polled, fun hclean => ?_⟩
    rw [step_timer, Current, Timer.poll_interval]
    exact h.current hclean
  · rw [step_resume]
    rcases resume_cases p s ev w with ⟨-, heq⟩ | ⟨-, hstep⟩
    · rw [heq]
      exact h.applyInterval ev
    · exact (h.applyInterval ev).onTimer hstep

/-- In every reachable state, a poll is pending where a session has a new interval, and the period
of the timer is up to date where it has none pending. -/
theorem interval_is_handed_over (cfg : SamplingBuild) (p : Platform) (clock : ℕ)
    (es : List MqttSensorEvent) :
    let s := run (step cfg p) (boot cfg p clock) es
    (s.sampling.publish_interval_dirty = true → s.mqtt_state = .connected →
        s.sampling.polled = true) ∧
      (s.mqtt_state = .connected → s.sampling.polled = false → Current p s) := by
  have h : Handover p (run (step cfg p) (boot cfg p clock) es) :=
    run_invariant' (fun _ e hs => hs.step e) (handover_boot cfg p clock) es
  refine ⟨h.polled, fun hstate hpolled => h.current ?_⟩
  rw [Bool.eq_false_iff]
  intro hdirty
  rw [h.polled hdirty hstate] at hpolled
  cases hpolled

/-- The process handles an expiry of the timer, and there is connectivity. -/
def handlesExpiry (p : Platform) (s : MqttSensor) : MqttSensorEvent → Bool
  | .resume ev w => (applyInterval p (s.deliver ev) ev).pub_timer.expired && w.connectivity
  | _ => false

/-- What holds of the timer and of the attempts to connect. -/
structure Running (s : MqttSensor) : Prop where
  /-- The timer has a period. -/
  interval : 0 < s.pub_timer.interval
  /-- The fourth attempt is the last one. -/
  attempts : s.connect_attempts ≤ 4
  /-- It ends the wait for the connection. -/
  connecting : s.mqtt_state = .connecting → s.connect_attempts ≤ 3

theorem mqttReconnectDelay_pos (p : Platform) : 0 < mqttReconnectDelay p := by
  have hpos := p.pos
  unfold mqttReconnectDelay
  omega

theorem running_boot (cfg : SamplingBuild) (p : Platform) (clock : ℕ) :
    Running (boot cfg p clock) :=
  ⟨mqttReconnectDelay_pos p, Nat.zero_le 4, fun _ => Nat.zero_le 3⟩

/-- A new interval has a period. -/
theorem Running.applyInterval {s : MqttSensor} (h : Running s) (ev : ProcessEvent) :
    Running (applyInterval p (s.deliver ev) ev) := by
  have hdeliver : Running (s.deliver ev) := by
    rcases ev with _ | _
    · exact ⟨h.interval, h.attempts, h.connecting⟩
    · exact h
  rcases applyInterval_cases p (s.deliver ev) ev with ⟨-, -, heq⟩ | ⟨heq, -⟩
  · rw [heq]
    exact ⟨publishIntervalToTicks_pos p (s.deliver ev).sampling.pos, hdeliver.attempts,
      hdeliver.connecting⟩
  · rwa [heq]

/-- The expiry of the timer arms it again, with a period. -/
theorem Running.onTimer {s : MqttSensor} (h : Running s) {w : Surroundings}
    {r : MqttSensor × Option Call} (hr : TimerStep p s w r) :
    Running r.1 ∧ r.1.pub_timer.expired = false := by
  have hdelay := mqttReconnectDelay_pos p
  rcases hr with hw | ⟨hw, hstate⟩ | ⟨hw, hstate, hattempts⟩ | ⟨hw, hstate, hattempts⟩ |
    ⟨hw, hstate, hready⟩ | ⟨hw, hstate, hready⟩
  · exact ⟨⟨h.interval, h.attempts, h.connecting⟩, rfl⟩
  · exact ⟨⟨hdelay, Nat.zero_le 4, fun _ => Nat.zero_le 3⟩, rfl⟩
  · -- The counter has not wrapped, since it was at most three.
    have hthree := h.connecting hstate
    refine ⟨⟨hdelay, ?_, fun hstate' => nomatch hstate'⟩, rfl⟩
    change (s.connect_attempts + 1) % 2 ^ 8 ≤ 4
    omega
  · refine ⟨⟨hdelay, ?_, fun _ => ?_⟩, rfl⟩
    · change (s.connect_attempts + 1) % 2 ^ 8 ≤ 4
      omega
    · change (s.connect_attempts + 1) % 2 ^ 8 ≤ 3
      omega
  · exact ⟨⟨p.pos, h.attempts, h.connecting⟩, rfl⟩
  · exact ⟨⟨publishIntervalToTicks_pos p s.sampling.pos, h.attempts, h.connecting⟩, rfl⟩

/-- A resumption leaves the timer armed, with a period. -/
theorem Running.resume {s : MqttSensor} (h : Running s) (ev : ProcessEvent) (w : Surroundings) :
    Running (s.resume p ev w).1 ∧ (s.resume p ev w).1.pub_timer.expired = false := by
  rcases resume_cases p s ev w with ⟨hexp, heq⟩ | ⟨-, hstep⟩
  · rw [heq]
    exact ⟨h.applyInterval ev, hexp⟩
  · exact (h.applyInterval ev).onTimer hstep

/-- Every event keeps the timer's period and the bound of the attempts. -/
theorem Running.step {s : MqttSensor} (h : Running s) (e : MqttSensorEvent) :
    Running (step cfg p s e) := by
  rcases e with body | event | ticks | _ | ⟨ev, w⟩
  · exact ⟨h.interval, h.attempts, h.connecting⟩
  · rcases event with call | _ | _ | _ | _
    · exact ⟨h.interval, Nat.zero_le 4, fun _ => Nat.zero_le 3⟩
    · exact h
    · exact ⟨h.interval, h.attempts, fun hstate => nomatch hstate⟩
    · exact ⟨h.interval, h.attempts, h.connecting⟩
    · exact h
  · exact ⟨h.interval, h.attempts, h.connecting⟩
  · exact ⟨by rw [step_timer, Timer.poll_interval]; exact h.interval, h.attempts, h.connecting⟩
  · exact (h.resume ev w).1

theorem running_run (cfg : SamplingBuild) (p : Platform) (clock : ℕ) (es : List MqttSensorEvent) :
    Running (run (step cfg p) (boot cfg p clock) es) :=
  run_invariant' (fun _ e hs => hs.step e) (running_boot cfg p clock) es

/-- The first `if` of the loop has nothing to do with the connection. -/
theorem applyInterval_frame (s : MqttSensor) (ev : ProcessEvent) :
    (applyInterval p (s.deliver ev) ev).mqtt_state = s.mqtt_state ∧
      (applyInterval p (s.deliver ev) ev).connect_attempts = s.connect_attempts := by
  have hdeliver : (s.deliver ev).mqtt_state = s.mqtt_state ∧
      (s.deliver ev).connect_attempts = s.connect_attempts := by
    rcases ev with _ | _
    · exact ⟨rfl, rfl⟩
    · exact ⟨rfl, rfl⟩
  rcases applyInterval_cases p (s.deliver ev) ev with ⟨-, -, heq⟩ | ⟨heq, -⟩
  · rw [heq]
    exact hdeliver
  · rwa [heq]

/-- While the connection has not come about, each expiry that is handled with connectivity is one
more attempt. -/
theorem attempts_add_le {s : MqttSensor} {e : MqttSensorEvent}
    (hs : s.mqtt_state = .connecting ∧ Running s)
    (hs' : (step cfg p s e).mqtt_state = .connecting ∧ Running (step cfg p s e)) :
    s.connect_attempts + (if handlesExpiry p s e then 1 else 0) ≤
      (step cfg p s e).connect_attempts := by
  obtain ⟨hstate, hrun⟩ := hs
  have hthree := hrun.connecting hstate
  rcases e with body | event | ticks | _ | ⟨ev, w⟩
  · exact le_refl _
  · rcases event with call | _ | _ | _ | _
    · exact nomatch hs'.1
    · exact le_refl _
    · exact nomatch hs'.1
    · exact le_refl _
    · exact le_refl _
  · exact le_refl _
  · exact le_refl _
  · obtain ⟨hframe, hattempts⟩ := applyInterval_frame (p := p) s ev
    rw [step_resume] at hs' ⊢
    rcases resume_cases p s ev w with ⟨hexp, heq⟩ | ⟨hexp, hstep⟩
    · rw [heq, hattempts, handlesExpiry, hexp]
      simp
    · rw [handlesExpiry, hexp, Bool.true_and, ← hattempts]
      rw [← hframe] at hstate
      rw [← hattempts] at hthree
      generalize MqttSensor.applyInterval p (s.deliver ev) ev = s₀ at hstep hstate hthree ⊢
      generalize s.resume p ev w = r at hstep hs' ⊢
      -- Only a further attempt, and a check without connectivity, leave the node connecting.
      rcases hstep with hw | ⟨hw, hstate'⟩ | ⟨hw, -, hattempts'⟩ | ⟨hw, -, hattempts'⟩ |
        ⟨hw, hstate', hready⟩ | ⟨hw, hstate', hready⟩
      · rw [hw]
        exact le_refl _
      · rw [hstate] at hstate'
        rcases hstate' with h | h <;> cases h
      · exact nomatch hs'.1
      · rw [hw]
        change s₀.connect_attempts + 1 ≤ (s₀.connect_attempts + 1) % 2 ^ 8
        omega
      · rw [hstate] at hstate'
        cases hstate'
      · rw [hstate] at hstate'
        cases hstate'

/-- A call is made in a resumption that finds the timer expired. -/
theorem timerStep_of_call {s : MqttSensor} {e : MqttSensorEvent} {c : Call}
    (h : call cfg p s e = some c) :
    ∃ ev w r, e = .resume ev w ∧ step cfg p s e = r ∧
      TimerStep p (applyInterval p (s.deliver ev) ev) w (r, some c) := by
  rcases e with body | event | ticks | _ | ⟨ev, w⟩
  · cases h
  · cases h
  · cases h
  · cases h
  · change (s.resume p ev w).2 = some c at h
    rcases resume_cases p s ev w with ⟨-, heq⟩ | ⟨-, hstep⟩
    · rw [heq] at h
      cases h
    · refine ⟨ev, w, (s.resume p ev w).1, rfl, rfl, ?_⟩
      rwa [← h]

/-- A call of `mqtt_connect` starts the wait for the connection, and the count of the attempts. -/
theorem connecting_of_call {s : MqttSensor} {e : MqttSensorEvent}
    (h : call cfg p s e = some .mqttConnect) :
    (step cfg p s e).mqtt_state = .connecting ∧ (step cfg p s e).connect_attempts = 0 := by
  obtain ⟨ev, w, r, -, rfl, hstep⟩ := timerStep_of_call h
  generalize step cfg p s e = r at hstep ⊢
  cases hstep with
  | connect hw hstate => exact ⟨rfl, rfl⟩

/-- The process publishes in a session, with connectivity, when the library is ready. -/
theorem ready_of_call {s : MqttSensor} {e : MqttSensorEvent}
    (h : call cfg p s e = some .publishTelemetry) :
    ∃ ev w, e = .resume ev w ∧ s.mqtt_state = .connected ∧ w.connectivity = true ∧
      w.ready = true := by
  obtain ⟨ev, w, r, he, -, hstep⟩ := timerStep_of_call h
  rw [← (applyInterval_frame (p := p) s ev).1]
  generalize applyInterval p (s.deliver ev) ev = s₀ at hstep ⊢
  cases hstep with
  | publish hw hstate hready => exact ⟨ev, w, he, hstate, hw, hready⟩

/-- In every run of the process: each resumption leaves the timer armed, with a period; there are
never more than four attempts to connect; a wait for a connection is over by the fourth expiry of
the timer that is handled with connectivity; and the process publishes only in a session, with
connectivity, when the library is ready. -/
theorem publisher_never_stalls (cfg : SamplingBuild) (p : Platform) (clock : ℕ) :
    (∀ es ev w,
      let s := run (step cfg p) (boot cfg p clock) (es ++ [.resume ev w])
      s.pub_timer.expired = false ∧ 0 < s.pub_timer.interval) ∧
    (∀ es, (run (step cfg p) (boot cfg p clock) es).connect_attempts ≤ 4) ∧
    (∀ pre e post, call cfg p (run (step cfg p) (boot cfg p clock) pre) e = some .mqttConnect →
      4 ≤ count (step cfg p) (handlesExpiry p) (run (step cfg p) (boot cfg p clock) (pre ++ [e]))
        post →
      ∃ s ∈ visited (step cfg p) (run (step cfg p) (boot cfg p clock) (pre ++ [e])) post,
        s.mqtt_state ≠ .connecting) ∧
    ∀ es e, call cfg p (run (step cfg p) (boot cfg p clock) es) e = some .publishTelemetry →
      ∃ ev w, e = .resume ev w ∧
        (run (step cfg p) (boot cfg p clock) es).mqtt_state = .connected ∧
        w.connectivity = true ∧ w.ready = true := by
  refine ⟨fun es ev w => ?_, fun es => (running_run cfg p clock es).attempts,
    fun pre e post hcall hcount => ?_, fun es e hcall => ready_of_call hcall⟩
  · rw [run_concat, step_resume]
    obtain ⟨hrun, harmed⟩ := (running_run cfg p clock es).resume (p := p) ev w
    exact ⟨harmed, hrun.interval⟩
  · by_contra hnone
    push Not at hnone
    have hzero : (run (step cfg p) (boot cfg p clock) (pre ++ [e])).connect_attempts = 0 := by
      rw [run_concat]
      exact (connecting_of_call hcall).2
    -- Were the process still waiting, each of the four expiries would have counted as an attempt.
    have hwaiting :
        ∀ s ∈ visited (step cfg p) (run (step cfg p) (boot cfg p clock) (pre ++ [e])) post,
        s.mqtt_state = .connecting ∧ Running s := by
      intro s hs
      refine ⟨hnone s hs, ?_⟩
      obtain ⟨es, -, rfl⟩ := mem_visited_iff.mp hs
      rw [← run_append]
      exact running_run cfg p clock _
    have hstep : ∀ s e, s.mqtt_state = .connecting ∧ Running s →
        (step cfg p s e).mqtt_state = .connecting ∧ Running (step cfg p s e) →
        s.connect_attempts + (if handlesExpiry p s e then 1 else 0) ≤
          (step cfg p s e).connect_attempts := fun _ _ hs hs' => attempts_add_le hs hs'
    have hbound := add_count_le hstep hwaiting
    have hlast := (running_run cfg p clock (pre ++ [e] ++ post)).connecting
    rw [run_append] at hlast
    have hthree := hlast (hnone _ (mem_visited_iff.mpr ⟨post, List.prefix_refl post, rfl⟩))
    omega

end EnergyStation.Firmware.MqttSensor
