import EnergyStation.Firmware.Status
import EnergyStation.Lib.Runs

/-!
# The warm-up of a producer

The power state of a producer with a startup delay, over any order of status requests, clock ticks,
runs of the timer process and publishes. The two flags and the timer are written in four places, but
they only ever say which of three phases the device is in: off, starting for a number of ticks, or
on. `Phase` has no other values, and `step_toProducer` says that the firmware steps as the phase
does. What happened before the device came on (`armedBefore_of_starting`, `warmedUp_of_on`) is read
off the phases.
-/

namespace EnergyStation.Firmware.WarmUp

open CStdlib Runs

/-- What happens to a producer. -/
inductive Event where
  /-- A PUT request to `actuators/status`. -/
  | put (body : Bytes)
  /-- A clock tick. -/
  | tick
  /-- The timer process runs. -/
  | fire
  /-- The node publishes telemetry, with or without a fault. -/
  | publish (fault : Bool)

/-- One event. -/
def step (cfg : ProducerBuild) (p : Producer) : Event → Producer
  | .put body => (p.resPutHandler cfg body).2
  | .tick => p.tick
  | .fire => p.fire
  | .publish fault => p.anomalyShutdown fault

/-- What a body commands, `true` for `on`, where the handler accepts it. -/
def commanded (body : Bytes) : Option Bool :=
  if hasPrefix (ascii "off") body then some false
  else if hasPrefix (ascii "on") body then some true
  else none

/-- What an event commands, where it is an accepted request. -/
def Event.command : Event → Option Bool
  | .put body => commanded body
  | _ => none

/-- The event is a clock tick. -/
def Event.isTick : Event → Bool
  | .tick => true
  | _ => false

/-- The clock ticks among the events. -/
def ticks (es : List Event) : ℕ := es.countP Event.isTick

/-- The warm-up in clock ticks. -/
def warmUpTicks (cfg : ProducerBuild) : ℕ := cfg.sensorStartupDelayS * cfg.clockSecond

/-- What the two flags and the timer say together. -/
inductive Phase where
  /-- Off, with no startup pending. -/
  | off
  /-- Starting, since a number of ticks. -/
  | starting (elapsed : ℕ)
  /-- On. -/
  | on
  deriving DecidableEq

namespace Phase

/-- The phase after an accepted command. -/
def command : Phase → Bool → Phase
  | _, false => off
  | off, true => starting 0
  -- A device that is on or starting is not started again.
  | ph, true => ph

/-- The phase after an event, with a warm-up of `delay` ticks. -/
def step (delay : ℕ) (ph : Phase) : Event → Phase
  | .put body => (commanded body).elim ph ph.command
  | .tick =>
    match ph with
    | starting n => starting (n + 1)
    | ph => ph
  | .fire =>
    match ph with
    | starting n => if delay ≤ n then on else starting n
    | ph => ph
  | .publish fault => if fault = true ∧ ph = on then off else ph

/-- The flags and the timer in a phase. -/
def toProducer (delay : ℕ) : Phase → Producer
  | off => ⟨false, false, none⟩
  | starting n => ⟨false, true, some (delay - n)⟩
  | on => ⟨true, false, none⟩

end Phase

/-- A body is accepted exactly when it commands something. -/
theorem resPutHandler_changed_iff (cfg : ProducerBuild) (p : Producer) (body : Bytes) :
    (p.resPutHandler cfg body).1.code = .changed ↔ (commanded body).isSome = true := by
  have hnil : hasPrefix (ascii "off") [] = false ∧ hasPrefix (ascii "on") [] = false := by decide
  unfold Producer.resPutHandler commanded
  by_cases hbody : body = []
  · simp [hbody, hnil]
  · by_cases hoff : hasPrefix (ascii "off") body = true
    · simp [hbody, hoff]
    · by_cases hon : hasPrefix (ascii "on") body = true
      · simp only [if_neg hbody, if_neg hoff, if_pos hon, Option.isSome_some, iff_true]
        split_ifs <;> rfl
      · simp [hbody, hoff, hon]

section

variable {cfg : ProducerBuild} (hcfg : 0 < cfg.sensorStartupDelayS)
include hcfg

/-- The handler in a phase. -/
theorem resPutHandler_toProducer (ph : Phase) (body : Bytes) :
    ((ph.toProducer (warmUpTicks cfg)).resPutHandler cfg body).2 =
      ((commanded body).elim ph ph.command).toProducer (warmUpTicks cfg) := by
  rw [Producer.resPutHandler_snd, commanded, Producer.turnOff, Producer.turnOn, if_pos hcfg,
    if_pos hcfg]
  split_ifs with hoff hon hidle
  · rcases ph with _ | _ | _ <;> rfl
  · rcases ph with _ | n | _
    · rfl
    · exact absurd hidle.2.symm Bool.false_ne_true
    · exact absurd hidle.1.symm Bool.false_ne_true
  · rcases ph with _ | n | _
    · exact absurd ⟨rfl, rfl⟩ hidle
    · rfl
    · rfl
  · rfl

/-- The firmware steps as the phase does. -/
theorem step_toProducer (ph : Phase) (e : Event) :
    step cfg (ph.toProducer (warmUpTicks cfg)) e =
      (ph.step (warmUpTicks cfg) e).toProducer (warmUpTicks cfg) := by
  cases e with
  | put body => exact resPutHandler_toProducer hcfg ph body
  | tick => cases ph <;> rfl
  | fire =>
    cases ph with
    | off => rfl
    | on => rfl
    | starting n =>
      -- The timer has run out when the phase has counted the whole delay.
      have hzero : some (warmUpTicks cfg - n) = some 0 ↔ warmUpTicks cfg ≤ n := by
        rw [Option.some_inj, Nat.sub_eq_zero_iff_le]
      simp only [step, Producer.fire, Phase.step, Phase.toProducer, hzero]
      split_ifs <;> rfl
  | publish fault => cases ph <;> cases fault <;> rfl

/-- A run of the firmware is a run of the phases. -/
theorem run_toProducer (ph : Phase) (es : List Event) :
    run (step cfg) (ph.toProducer (warmUpTicks cfg)) es =
      (run (Phase.step (warmUpTicks cfg)) ph es).toProducer (warmUpTicks cfg) := by
  induction es generalizing ph with
  | nil => rfl
  | cons e es ih => rw [run_cons, run_cons, step_toProducer hcfg, ih]

end

@[simp] theorem ticks_nil : ticks [] = 0 := rfl

theorem ticks_cons (e : Event) (es : List Event) :
    ticks (e :: es) = (if e.isTick then 1 else 0) + ticks es := by
  unfold ticks
  rw [List.countP_cons, Nat.add_comm]

theorem ticks_concat (es : List Event) (e : Event) :
    ticks (es ++ [e]) = ticks es + if e.isTick then 1 else 0 := by
  unfold ticks
  rw [List.countP_append, List.countP_singleton]

/-- A device is starting after an event because it was, or because the event has armed it. -/
theorem step_eq_starting {delay : ℕ} {ph : Phase} {e : Event} {n : ℕ}
    (h : ph.step delay e = .starting n) :
    (∃ m, ph = .starting m ∧ e.command ≠ some false ∧ n = m + if e.isTick then 1 else 0) ∨
      (ph = .off ∧ e.command = some true ∧ n = 0) := by
  cases e with
  | put body =>
    simp only [Phase.step, Event.command] at h ⊢
    generalize commanded body = c at h ⊢
    cases c with
    | none => exact .inl ⟨n, h, by simp, rfl⟩
    | some run =>
      cases run with
      | false => cases h
      | true =>
        cases ph with
        | off => cases h; exact .inr ⟨rfl, rfl, rfl⟩
        | on => cases h
        | starting m => exact .inl ⟨n, h, by simp, rfl⟩
  | tick =>
    cases ph with
    | starting m => cases h; exact .inl ⟨m, rfl, by simp [Event.command], rfl⟩
    | off => cases h
    | on => cases h
  | fire =>
    cases ph with
    | starting m =>
      simp only [Phase.step] at h
      split_ifs at h
      exact .inl ⟨n, h, by simp [Event.command], rfl⟩
    | off => cases h
    | on => cases h
  | publish fault =>
    simp only [Phase.step] at h
    split_ifs at h
    exact .inl ⟨n, h, by simp [Event.command], rfl⟩

/-- A device is on after an event because it was, or because its timer has run out. -/
theorem step_eq_on {delay : ℕ} {ph : Phase} {e : Event} (h : ph.step delay e = .on) :
    ph = .on ∨ (e = .fire ∧ ∃ n, ph = .starting n ∧ delay ≤ n) := by
  cases e with
  | put body =>
    simp only [Phase.step] at h
    cases hbody : commanded body with
    | none => rw [hbody] at h; exact .inl h
    | some run =>
      rw [hbody, Option.elim_some] at h
      cases run <;> cases ph <;> first | exact .inl rfl | cases h
  | tick => cases ph <;> first | exact .inl rfl | cases h
  | fire =>
    cases ph with
    | on => exact .inl rfl
    | off => cases h
    | starting n =>
      simp only [Phase.step] at h
      split_ifs at h with hn
      exact .inr ⟨rfl, n, rfl, hn⟩
  | publish fault =>
    simp only [Phase.step] at h
    split_ifs at h
    exact .inl h

/-- The events end with an `on` request that was answered when the device was off, and since then
`mid`, without an accepted `off` request. -/
def ArmedBefore (cfg : ProducerBuild) (p : Producer) (es mid : List Event) : Prop :=
  ∃ pre e, es = pre ++ e :: mid ∧ (run (step cfg) p pre).Idle ∧ e.command = some true ∧
    ∀ e' ∈ mid, e'.command ≠ some false

/-- The events end with a full warm-up: an `on` request that was answered when the device was off,
and then the ticks of the startup delay, without an accepted `off` request. -/
def WarmedUp (cfg : ProducerBuild) (p : Producer) (es : List Event) : Prop :=
  ∃ mid, ArmedBefore cfg p es mid ∧ warmUpTicks cfg ≤ ticks mid

section

variable {cfg : ProducerBuild} (hcfg : 0 < cfg.sensorStartupDelayS)
include hcfg

/-- A device that is starting was armed as many ticks ago as its phase says. -/
theorem armedBefore_of_starting {es : List Event} {n : ℕ}
    (h : run (Phase.step (warmUpTicks cfg)) .off es = .starting n) :
    ∃ mid, ArmedBefore cfg (Phase.off.toProducer (warmUpTicks cfg)) es mid ∧ ticks mid = n := by
  induction es using List.reverseRecOn generalizing n with
  | nil => cases h
  | append_singleton es e ih =>
    rw [run_concat] at h
    rcases step_eq_starting h with ⟨m, hm, he, rfl⟩ | ⟨hoff, he, rfl⟩
    · -- The startup goes on, one tick later or not.
      obtain ⟨mid, ⟨pre, e', rfl, hpre, he', hmid⟩, rfl⟩ := ih hm
      refine ⟨mid ++ [e], ⟨pre, e', by simp, hpre, he', ?_⟩, ticks_concat mid e⟩
      intro e'' he''
      rcases List.mem_append.mp he'' with he'' | he''
      · exact hmid e'' he''
      · rwa [List.mem_singleton.mp he'']
    · -- The last event has armed the device.
      refine ⟨[], ⟨es, e, rfl, ?_, he, List.forall_mem_nil _⟩, rfl⟩
      rw [run_toProducer hcfg, hoff]
      exact ⟨rfl, rfl, rfl⟩

/-- A device that comes on does so when its timer fires after a full warm-up. -/
theorem warmedUp_of_on {es : List Event} {e : Event}
    (hbefore : run (Phase.step (warmUpTicks cfg)) .off es ≠ .on)
    (hafter : run (Phase.step (warmUpTicks cfg)) .off (es ++ [e]) = .on) :
    e = .fire ∧ WarmedUp cfg (Phase.off.toProducer (warmUpTicks cfg)) es := by
  rw [run_concat] at hafter
  rcases step_eq_on hafter with h | ⟨he, n, hn, hdelay⟩
  · exact absurd h hbefore
  · obtain ⟨mid, harmed, rfl⟩ := armedBefore_of_starting hcfg hn
    exact ⟨he, mid, harmed, hdelay⟩

end

/-- Nothing but an accepted `off` request stops a startup, and nothing moves its timer but the
clock, as long as the timer process does not run after the timer has run out. -/
theorem run_starting {delay n : ℕ} {mid : List Event} (hmid : ∀ e ∈ mid, e.command ≠ some false)
    (hfire : ∀ q r, mid = q ++ .fire :: r → n + ticks q < delay) :
    run (Phase.step delay) (.starting n) mid = .starting (n + ticks mid) := by
  induction mid generalizing n with
  | nil => rfl
  | cons e mid ih =>
    have htail : ∀ e' ∈ mid, e'.command ≠ some false := fun e' he' =>
      hmid e' (List.mem_cons_of_mem e he')
    have hstep : Phase.step delay (.starting n) e = .starting (n + if e.isTick then 1 else 0) := by
      cases e with
      | put body =>
        have hoff : commanded body ≠ some false := hmid (.put body) List.mem_cons_self
        simp only [Phase.step]
        cases hbody : commanded body with
        | none => rfl
        | some run =>
          cases run with
          | false => exact absurd hbody hoff
          | true => rfl
      | tick => rfl
      | fire =>
        -- The timer process finds the timer pending.
        have hn : n < delay := hfire [] mid rfl
        exact if_neg (Nat.not_le.mpr hn)
      | publish fault => cases fault <;> rfl
    rw [run_cons, hstep, ih htail, ticks_cons, Nat.add_assoc]
    intro q r hqr
    have h := hfire (e :: q) r (by rw [hqr]; rfl)
    rw [ticks_cons] at h
    omega

/-- The two flags and the timer agree. -/
structure Consistent (p : Producer) : Prop where
  /-- The device is not on and starting at once. -/
  exclusive : ¬ (p.device_on = true ∧ p.device_starting = true)
  /-- It is starting exactly when its timer is pending. -/
  pending : p.device_starting = true ↔ p.startup_timer.isSome = true

theorem consistent_toProducer (delay : ℕ) (ph : Phase) : Consistent (ph.toProducer delay) := by
  cases ph <;> exact ⟨by simp [Phase.toProducer], by simp [Phase.toProducer]⟩

/-- Only the phase `on` is on. -/
theorem device_on_toProducer {delay : ℕ} {ph : Phase} :
    (ph.toProducer delay).device_on = true ↔ ph = .on := by
  cases ph <;> simp [Phase.toProducer]

/-- Only the phase `off` is idle. -/
theorem eq_off_of_idle {delay : ℕ} {ph : Phase} (h : (ph.toProducer delay).Idle) : ph = .off := by
  cases ph with
  | off => rfl
  | starting n => exact absurd h.noTimer (Option.some_ne_none _)
  | on => exact absurd h.off.symm Bool.false_ne_true

/-- An accepted `on` request arms a device that is off. -/
theorem step_on {delay : ℕ} {e : Event} (he : e.command = some true) :
    Phase.step delay .off e = .starting 0 := by
  cases e with
  | put body =>
    have hbody : commanded body = some true := he
    simp only [Phase.step, hbody]
    rfl
  | tick => cases he
  | fire => cases he
  | publish fault => cases he

/-- An accepted `off` request switches the device off from every phase. -/
theorem step_off {delay : ℕ} {e : Event} (he : e.command = some false) (ph : Phase) :
    Phase.step delay ph e = .off := by
  cases e with
  | put body =>
    have hbody : commanded body = some false := he
    simp only [Phase.step, hbody]
    rfl
  | tick => cases he
  | fire => cases he
  | publish fault => cases he

/-- The power state of a producer with a startup delay, over a whole run from a boot in which it is
off. In every state the flags and the timer agree. The device comes on only when the timer fires,
after a full warm-up. A warm-up counts its ticks from the `on` request that started it, whatever
requests follow, and when they are over the timer's next run brings the device on. And a device that
is on after an accepted `off` request has been through a full warm-up since. -/
theorem producer_warm_up {cfg : ProducerBuild} (hcfg : 0 < cfg.sensorStartupDelayS)
    (hboot : cfg.sensorDefaultOn = false) (es : List Event) :
    (∀ p ∈ visited (step cfg) (Producer.boot cfg) es, Consistent p) ∧
      (∀ pre e post, es = pre ++ e :: post →
        (run (step cfg) (Producer.boot cfg) pre).device_on = false →
        (run (step cfg) (Producer.boot cfg) (pre ++ [e])).device_on = true →
        e = .fire ∧ WarmedUp cfg (Producer.boot cfg) pre) ∧
      (∀ pre mid, pre <+: es → ArmedBefore cfg (Producer.boot cfg) pre mid →
        (∀ q r, mid = q ++ .fire :: r → ticks q < warmUpTicks cfg) →
        run (step cfg) (Producer.boot cfg) pre =
            ⟨false, true, some (warmUpTicks cfg - ticks mid)⟩ ∧
          (warmUpTicks cfg ≤ ticks mid →
            (run (step cfg) (Producer.boot cfg) (pre ++ [.fire])).device_on = true)) ∧
      (∀ pre e post, es = pre ++ e :: post → e.command = some false →
        (run (step cfg) (Producer.boot cfg) es).device_on = true →
        ∃ q r, post = q ++ .fire :: r ∧
          WarmedUp cfg (run (step cfg) (Producer.boot cfg) (pre ++ [e])) q) := by
  have hoff : Producer.boot cfg = Phase.off.toProducer (warmUpTicks cfg) := by
    unfold Producer.boot
    rw [hboot]
    rfl
  rw [hoff]
  refine ⟨?_, ?_, ?_, ?_⟩
  · intro p hp
    obtain ⟨es', -, rfl⟩ := mem_visited_iff.mp hp
    rw [run_toProducer hcfg]
    exact consistent_toProducer _ _
  · rintro pre e post - hbefore hafter
    rw [run_toProducer hcfg] at hbefore hafter
    refine warmedUp_of_on hcfg (fun hon => ?_) (device_on_toProducer.mp hafter)
    rw [device_on_toProducer.mpr hon] at hbefore
    exact Bool.false_ne_true hbefore.symm
  · rintro pre mid - ⟨before, e, rfl, hidle, he, hmid⟩ hfire
    rw [run_toProducer hcfg] at hidle
    -- The phase counts the ticks since the request.
    have hstarting : run (Phase.step (warmUpTicks cfg)) .off (before ++ e :: mid) =
        .starting (ticks mid) := by
      rw [run_append, run_cons, eq_off_of_idle hidle, step_on he,
        run_starting hmid fun q r hqr => (Nat.zero_add (ticks q)).trans_lt (hfire q r hqr),
        Nat.zero_add]
    rw [run_toProducer hcfg, run_toProducer hcfg, run_concat, hstarting]
    refine ⟨rfl, fun hdelay => ?_⟩
    simp only [Phase.step, if_pos hdelay]
    rfl
  · rintro pre e post rfl he hon
    have hoff' : run (Phase.step (warmUpTicks cfg)) .off (pre ++ [e]) = .off := by
      rw [run_concat, step_off he]
    rw [run_toProducer hcfg, device_on_toProducer, ← List.singleton_append, ← List.append_assoc,
      run_append, hoff'] at hon
    -- The request has switched the device off, so some later event brings it on.
    obtain ⟨q, e', r, rfl, hbefore, hafter⟩ :=
      exists_leave (P := (· ≠ Phase.on)) (fun h => by cases h) (not_not.mpr hon)
    obtain ⟨rfl, hwarm⟩ := warmedUp_of_on hcfg hbefore (not_not.mp hafter)
    refine ⟨q, r, rfl, ?_⟩
    rw [run_toProducer hcfg, hoff']
    exact hwarm

/-- The diesel generator is asked to start, and asked again after a tick: the timer goes on. -/
theorem producer_warm_up_diesel :
    run (step (dieselBuild 128)) (Producer.boot (dieselBuild 128))
      [.put (Producer.statusBody true), .tick, .put (Producer.statusBody true)] =
        ⟨false, true, some 5119⟩ := by
  have hon : commanded (Producer.statusBody true) = some true := by decide
  have hmid : ∀ e ∈ [Event.tick, .put (Producer.statusBody true)], e.command ≠ some false := by
    simp [Event.command, hon]
  have hfire : ∀ q r, [Event.tick, .put (Producer.statusBody true)] = q ++ .fire :: r →
      ticks q < warmUpTicks (dieselBuild 128) := by
    intro q r h
    have hmem : Event.fire ∈ [Event.tick, .put (Producer.statusBody true)] := by simp [h]
    simp at hmem
  exact ((producer_warm_up (by decide) rfl _).2.2.1 _ _ List.prefix_rfl
    ⟨[], .put (Producer.statusBody true), rfl, Producer.boot_idle rfl, hon, hmid⟩ hfire).1

end EnergyStation.Firmware.WarmUp
