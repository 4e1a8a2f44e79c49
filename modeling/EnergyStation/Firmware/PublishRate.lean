import EnergyStation.Firmware.Publisher
import Mathlib.Data.List.MinMax

/-!
# The rate of publishing

The process publishes when its timer has expired. After a publish the timer is armed with the
current interval, and from then on its deadline moves back only when a new interval is applied, to
the present and the new interval (`deadline_step`). So the deadline stays at least one of the
intervals in force after the publish, and the next publish is not before it (`publish_rate`).
-/

namespace EnergyStation.Firmware.MqttSensor

open CStdlib Runs

variable {cfg : SamplingBuild} {p : Platform}

/-- The ticks of the publish interval. -/
def ticks (p : Platform) (s : MqttSensor) : ℕ := publishIntervalToTicks p s.publishIntervalMs

/-- The timer's mark is right at every event. -/
theorem sound_step {s : MqttSensor} (h : s.pub_timer.Sound s.clock) (hrun : Running s)
    (e : MqttSensorEvent) :
    (step cfg p s e).pub_timer.Sound (step cfg p s e).clock := by
  rcases e with body | event | ticks | _ | ⟨ev, w⟩
  · exact h
  · rcases event with call | _ | _ | _ | _ <;> exact h
  · exact h.mono (Nat.le_add_right _ _)
  · exact Timer.sound_poll h
  · intro hexp
    rw [step_resume, (hrun.resume ev w).2] at hexp
    cases hexp

theorem sound_run (cfg : SamplingBuild) (p : Platform) (clock : ℕ) (es : List MqttSensorEvent) :
    let s := run (step cfg p) (boot cfg p clock) es
    s.pub_timer.Sound s.clock := by
  have hstep : ∀ s e, s.pub_timer.Sound s.clock ∧ Running s →
      (step cfg p s e).pub_timer.Sound (step cfg p s e).clock ∧ Running (step cfg p s e) :=
    fun s e hs => ⟨sound_step hs.1 hs.2 e, hs.2.step e⟩
  exact (run_invariant' hstep ⟨Timer.sound_set _ _ _, running_boot cfg p clock⟩ es).1

/-- The delivery of a poll moves neither the timer nor the clock nor the interval. -/
theorem deliver_frame (s : MqttSensor) (ev : ProcessEvent) :
    (s.deliver ev).pub_timer = s.pub_timer ∧ (s.deliver ev).clock = s.clock ∧
      (s.deliver ev).publishIntervalMs = s.publishIntervalMs := by
  rcases ev with _ | _
  · exact ⟨rfl, rfl, rfl⟩
  · exact ⟨rfl, rfl, rfl⟩

/-- A round of the loop with an armed timer is over after its first `if`, and one that applies an
interval has an armed timer. -/
theorem resume_deadline_cases (s : MqttSensor) (ev : ProcessEvent) (w : Surroundings) :
    ((s.resume p ev w).2 = none ∧
      (s.resume p ev w).1.pub_timer.deadline = s.clock + ticks p s) ∨
    ((s.resume p ev w).2 = none ∧ (s.resume p ev w).1.pub_timer = s.pub_timer) ∨
    (s.pub_timer.expired = true ∧ TimerStep p (s.deliver ev) w (s.resume p ev w)) := by
  obtain ⟨htimer, hclock, hinterval⟩ := deliver_frame s ev
  rcases resume_cases p s ev w with ⟨hexp, heq⟩ | ⟨hexp, hstep⟩
  · rcases applyInterval_cases p (s.deliver ev) ev with ⟨-, -, happly⟩ | ⟨happly, -⟩
    · refine .inl ⟨by rw [heq], ?_⟩
      rw [heq, happly]
      show (s.deliver ev).clock + publishIntervalToTicks p (s.deliver ev).publishIntervalMs = _
      rw [hclock, hinterval, ticks]
    · refine .inr (.inl ⟨by rw [heq], ?_⟩)
      rw [heq, happly, htimer]
  · rcases applyInterval_cases p (s.deliver ev) ev with ⟨-, -, happly⟩ | ⟨happly, -⟩
    · rw [happly] at hexp
      cases hexp
    · rw [happly] at hexp hstep
      rw [htimer] at hexp
      exact .inr (.inr ⟨hexp, hstep⟩)

/-- The deadline does not move back, unless a new interval is applied. -/
theorem deadline_step {s : MqttSensor} (h : s.pub_timer.Sound s.clock) (e : MqttSensorEvent) :
    s.pub_timer.deadline ≤ (step cfg p s e).pub_timer.deadline ∨
      (step cfg p s e).pub_timer.deadline = s.clock + ticks p s := by
  rcases e with body | event | ticks | _ | ⟨ev, w⟩
  · exact .inl (le_refl _)
  · rcases event with call | _ | _ | _ | _ <;> exact .inl (le_refl _)
  · exact .inl (le_refl _)
  · rw [step_timer, Timer.poll_deadline]
    exact .inl (le_refl _)
  · rw [step_resume]
    rcases resume_deadline_cases (p := p) s ev w with ⟨-, hdeadline⟩ | ⟨-, htimer⟩ | ⟨hexp, hstep⟩
    · exact .inr hdeadline
    · rw [htimer]
      exact .inl (le_refl _)
    · -- An expired timer is past its deadline, and is armed from now on at the earliest.
      left
      obtain ⟨htimer, hclock, -⟩ := deliver_frame s ev
      have hset : ∀ now interval, s.clock ≤ now →
          s.pub_timer.deadline ≤ (Timer.set now interval).deadline :=
        fun now interval hle => Timer.deadline_le_set h hexp hle interval
      generalize s.resume p ev w = r at hstep ⊢
      rcases hstep with hw | ⟨hw, hstate⟩ | ⟨hw, hstate, hattempts⟩ | ⟨hw, hstate, hattempts⟩ |
        ⟨hw, hstate, hready⟩ | ⟨hw, hstate, hready⟩
      · rw [← htimer]
        exact Timer.deadline_le_reset _
      · exact hset _ _ hclock.ge
      · exact hset _ _ hclock.ge
      · exact hset _ _ hclock.ge
      · exact hset _ _ hclock.ge
      · exact hset _ _ (hclock.ge.trans (Nat.le_add_right _ _))

/-- A publish arms the timer with the current interval. -/
theorem deadline_of_call {s : MqttSensor} {e : MqttSensorEvent}
    (h : call cfg p s e = some .publishTelemetry) :
    s.pub_timer.expired = true ∧
      s.clock + ticks p (step cfg p s e) ≤ (step cfg p s e).pub_timer.deadline := by
  obtain ⟨ev, w, rfl, -⟩ := ready_of_call h
  change (s.resume p ev w).2 = some .publishTelemetry at h
  obtain ⟨-, hclock, hinterval⟩ := deliver_frame s ev
  rw [step_resume]
  rcases resume_deadline_cases (p := p) s ev w with ⟨hnone, -⟩ | ⟨hnone, -⟩ | ⟨hexp, hstep⟩
  · rw [hnone] at h
    cases h
  · rw [hnone] at h
    cases h
  · refine ⟨hexp, ?_⟩
    generalize s.resume p ev w = r at hstep h ⊢
    obtain ⟨s', c⟩ := r
    change c = some .publishTelemetry at h
    subst h
    cases hstep with
    | publish hw hstate hready =>
      rw [← hclock]
      show (s.deliver ev).clock + publishIntervalToTicks p (s.deliver ev).publishIntervalMs ≤
        (s.deliver ev).clock + w.publishing +
          publishIntervalToTicks p (s.deliver ev).publishIntervalMs
      omega

/-- Time does not go back. -/
theorem clock_le_step (s : MqttSensor) (e : MqttSensorEvent) :
    s.clock ≤ (step cfg p s e).clock := by
  rcases e with body | event | ticks | _ | ⟨ev, w⟩
  · exact le_refl _
  · rcases event with call | _ | _ | _ | _ <;> exact le_refl _
  · exact Nat.le_add_right _ _
  · exact le_refl _
  · obtain ⟨-, hclock, -⟩ := deliver_frame s ev
    have happly : (applyInterval p (s.deliver ev) ev).clock = s.clock := by
      rcases applyInterval_cases p (s.deliver ev) ev with ⟨-, -, heq⟩ | ⟨heq, -⟩
      · rw [heq]
        exact hclock
      · rw [heq, hclock]
    rw [step_resume, ← happly]
    rcases resume_cases p s ev w with ⟨-, heq⟩ | ⟨-, hstep⟩
    · rw [heq]
    · generalize applyInterval p (s.deliver ev) ev = s₀ at hstep ⊢
      generalize s.resume p ev w = r at hstep ⊢
      rcases hstep with hw | ⟨hw, hstate⟩ | ⟨hw, hstate, hattempts⟩ | ⟨hw, hstate, hattempts⟩ |
        ⟨hw, hstate, hready⟩ | ⟨hw, hstate, hready⟩
      · exact le_refl _
      · exact le_refl _
      · exact le_refl _
      · exact le_refl _
      · exact le_refl _
      · exact Nat.le_add_right _ _

/-- After a publish, the deadline stays at least one of the intervals in force since then. -/
theorem deadline_run {s : MqttSensor} {e : MqttSensorEvent} (hrun : Running s)
    (hsound : s.pub_timer.Sound s.clock) (h : call cfg p s e = some .publishTelemetry)
    (mid : List MqttSensorEvent) :
    let s' := run (step cfg p) (step cfg p s e) mid
    Running s' ∧ s'.pub_timer.Sound s'.clock ∧ s.clock ≤ s'.clock ∧
      ∃ t ∈ visited (step cfg p) (step cfg p s e) mid,
        s.clock + ticks p t ≤ s'.pub_timer.deadline := by
  induction mid using List.reverseRecOn with
  | nil =>
    exact ⟨hrun.step e, sound_step hsound hrun e, clock_le_step s e, step cfg p s e,
      List.mem_singleton_self _, (deadline_of_call h).2⟩
  | append_singleton mid e' ih =>
    obtain ⟨hrun', hsound', hclock, t, ht, hle⟩ := ih
    rw [visited_concat, run_concat]
    refine ⟨hrun'.step e', sound_step hsound' hrun' e', hclock.trans (clock_le_step _ e'), ?_⟩
    rcases deadline_step hsound' e' with hmono | hnew
    · exact ⟨t, List.mem_append_left _ ht, hle.trans hmono⟩
    · -- The interval that is applied is the one in force just before.
      refine ⟨run (step cfg p) (step cfg p s e) mid, List.mem_append_left _ ?_, ?_⟩
      · exact mem_visited_iff.mpr ⟨mid, List.prefix_refl mid, rfl⟩
      · rw [hnew]
        exact Nat.add_le_add_right hclock _

/-- In every run, two publishes are apart by at least the least of the intervals in force between
them, in ticks. -/
theorem publish_rate (cfg : SamplingBuild) (p : Platform) (clock : ℕ)
    (pre mid : List MqttSensorEvent) (e₁ e₂ : MqttSensorEvent) :
    let s₁ := run (step cfg p) (boot cfg p clock) pre
    let s₂ := run (step cfg p) (boot cfg p clock) (pre ++ e₁ :: mid)
    call cfg p s₁ e₁ = some .publishTelemetry → call cfg p s₂ e₂ = some .publishTelemetry →
      ((visited (step cfg p) (step cfg p s₁ e₁) mid).map (ticks p)).minimum ≤
        ((s₂.clock - s₁.clock : ℕ) : WithTop ℕ) := by
  intro s₁ s₂ hcall₁ hcall₂
  have hs₂ : s₂ = run (step cfg p) (step cfg p s₁ e₁) mid := by
    simp only [s₂, s₁, run_append, run_cons]
  obtain ⟨-, hsound, -, t, ht, hle⟩ :=
    deadline_run (running_run cfg p clock pre) (sound_run cfg p clock pre) hcall₁ mid
  rw [← hs₂] at hsound hle
  -- The timer that has expired for the second publish is past its deadline.
  have hdeadline := hsound (deadline_of_call hcall₂).1
  have hgap : ticks p t ≤ s₂.clock - s₁.clock := Nat.le_sub_of_add_le' (hle.trans hdeadline)
  calc ((visited (step cfg p) (step cfg p s₁ e₁) mid).map (ticks p)).minimum
      ≤ (ticks p t : WithTop ℕ) := List.minimum_le_of_mem' (List.mem_map_of_mem ht)
    _ ≤ ((s₂.clock - s₁.clock : ℕ) : WithTop ℕ) := WithTop.coe_le_coe.mpr hgap

/-- A node that connects, publishes every 800 ms, and is told to publish every two seconds. -/
theorem publish_rate_commanded :
    let cfg : SamplingBuild := ⟨800, by decide, by decide⟩
    let p : Platform := ⟨128, by decide⟩
    let w : Surroundings := ⟨true, true, 3⟩
    let pre : List MqttSensorEvent :=
      [.elapse 640, .timer, .resume .other w, .mqtt (.connected 0), .elapse 640, .timer]
    let mid : List MqttSensorEvent :=
      [.elapse 50, .sampling (Sampling.intervalBody 2000), .resume .poll w, .elapse 300, .timer]
    let s₁ := run (step cfg p) (boot cfg p 0) pre
    let s₂ := run (step cfg p) (boot cfg p 0) (pre ++ .resume .other w :: mid)
    ((visited (step cfg p) (step cfg p s₁ (.resume .other w)) mid).map (ticks p)).minimum ≤
      ((s₂.clock - s₁.clock : ℕ) : WithTop ℕ) :=
  publish_rate _ _ _ _ _ _ (.resume .other ⟨true, true, 3⟩) (by decide) (by decide)

end EnergyStation.Firmware.MqttSensor
