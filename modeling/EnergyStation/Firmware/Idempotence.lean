import EnergyStation.Battery.ChargeLock
import EnergyStation.Battery.Range
import EnergyStation.Firmware.Sampling
import EnergyStation.Firmware.Status

/-!
# Requests that are handled twice

A confirmable request reaches its handler again when its acknowledgement is lost. The handlers of
`actuators/status`, `actuators/sampling` and `actuators/battery/override` set a value, and absorb
the repetition in every state. The handler of `actuators/battery` adds a number to the charge. It
absorbs the repetition where the lock refuses it, or where the charge is at an end of its range
(`repeated_put_iff`).
-/

namespace EnergyStation.Firmware

open CStdlib Runs

/-- A device that is off is not switched off again. -/
theorem Producer.turnOff_twice (cfg : ProducerBuild) (p : Producer) :
    (p.turnOff cfg).turnOff cfg = p.turnOff cfg := by
  unfold turnOff
  split_ifs <;> rfl

/-- A device that is on or starting is not started again. -/
theorem Producer.turnOn_twice (cfg : ProducerBuild) (p : Producer) :
    (p.turnOn cfg).turnOn cfg = p.turnOn cfg := by
  by_cases hdelay : 0 < cfg.sensorStartupDelayS
  · by_cases hidle : p.device_on = false ∧ p.device_starting = false
    · simp [turnOn, hdelay, hidle]
    · simp [turnOn, hdelay, hidle]
  · simp [turnOn, hdelay]

/-- A status request that is repeated at once changes nothing, with and without a warm-up. -/
theorem Producer.resPutHandler_twice (cfg : ProducerBuild) (p : Producer) (body : Bytes) :
    ((p.resPutHandler cfg body).2.resPutHandler cfg body).2 = (p.resPutHandler cfg body).2 := by
  simp only [resPutHandler_snd]
  split_ifs
  · exact turnOff_twice cfg p
  · exact turnOn_twice cfg p
  · rfl

/-- Setting the interval again changes nothing. -/
theorem Sampling.setPublishIntervalMs_twice (cfg : SamplingBuild) (interval_ms : ℕ) (s : Sampling) :
    (s.setPublishIntervalMs cfg interval_ms).setPublishIntervalMs cfg interval_ms =
      s.setPublishIntervalMs cfg interval_ms := by
  have hcurrent := setPublishIntervalMs_current cfg interval_ms s
  generalize s.setPublishIntervalMs cfg interval_ms = t at hcurrent
  unfold setPublishIntervalMs
  rw [if_neg (not_not.mpr hcurrent.symm)]

/-- A sampling request that is repeated changes nothing. -/
theorem Sampling.resPutHandler_twice (cfg : SamplingBuild) (s : Sampling) (body : Bytes) :
    ((s.resPutHandler cfg body).2.resPutHandler cfg body).2 = (s.resPutHandler cfg body).2 := by
  unfold resPutHandler
  split_ifs
  · rfl
  · simp only
    split_ifs
    · rfl
    · exact setPublishIntervalMs_twice cfg _ s

namespace Battery

/-- An override request that is repeated changes nothing. -/
theorem resPutOverrideHandler_twice (b : Battery) (body : Bytes) :
    ((b.resPutOverrideHandler body).2.resPutOverrideHandler body).2 =
      (b.resPutOverrideHandler body).2 := by
  unfold resPutOverrideHandler
  split_ifs
  · rfl
  · rfl
  · rfl

/-- A state of charge that sets the lock does not release it. -/
theorem not_le_unlock {soc : ExtRat} (h : ExtRat.le (.fin socLockThreshold) soc = true) :
    soc.le (.fin socUnlockThreshold) = false := by
  rcases soc with _ | _ | _ | q
  · rfl
  · rfl
  · exact absurd h (by decide)
  · simp only [ExtRat.le_fin, decide_eq_true_eq, decide_eq_false_iff_not, not_le] at h ⊢
    exact lt_of_lt_of_le (by norm_num [socLockThreshold, socUnlockThreshold]) h

/-- The lock follows the state of charge at once. -/
theorem updateLockState_twice (b : Battery) :
    b.updateLockState.updateLockState = b.updateLockState := by
  have hsoc : ∀ v, soc { b with charging_locked := v } = b.soc := fun v => rfl
  by_cases hset : ExtRat.le (.fin socLockThreshold) b.soc = true
  · have hrelease := not_le_unlock hset
    rcases hlocked : b.charging_locked with _ | _
    · simp [updateLockState, hset, hrelease, hlocked, hsoc]
    · simp [updateLockState, hrelease, hlocked]
  · rcases hlocked : b.charging_locked with _ | _
    · simp [updateLockState, hset, hlocked]
    · by_cases hrelease : b.soc.le (.fin socUnlockThreshold) = true
      · simp [updateLockState, hset, hrelease, hlocked, hsoc]
      · simp [updateLockState, hrelease, hlocked]

/-- A charge command that is repeated changes nothing exactly where the repetition is refused or
leaves the charge as it is. -/
theorem putDelta_twice_iff (b : Battery) (delta : ExtRat) :
    ((b.putDelta delta).2.putDelta delta).2 = (b.putDelta delta).2 ↔
      (b.putDelta delta).2.refuses delta = true ∨
        (b.putDelta delta).2.charge delta = (b.putDelta delta).2.charged_capacity := by
  by_cases hfirst : b.refuses delta = true
  · rw [putDelta_of_refused hfirst, putDelta_of_refused hfirst]
    exact iff_of_true rfl (Or.inl hfirst)
  · rw [putDelta_of_accepted hfirst]
    -- The lock follows the charge, so a second command that leaves the charge leaves the lock.
    generalize hb : updateLockState { b with charged_capacity := b.charge delta } = b'
    have hlock : b'.updateLockState = b' := by rw [← hb, updateLockState_twice]
    by_cases hsecond : b'.refuses delta = true
    · exact iff_of_true (putDelta_of_refused hsecond) (Or.inl hsecond)
    · rw [putDelta_of_accepted hsecond]
      constructor
      · intro h
        right
        have hcharge := congrArg charged_capacity h
        rwa [updateLockState_charged_capacity] at hcharge
      · rintro (h | h)
        · exact absurd h hsecond
        · rw [h]
          exact hlock

/-- The charge is at an end of its range, or the same command was refused. -/
def Absorbs (b : Battery) (m c d : ℚ) : Prop :=
  d = 0 ∨
    (0 < d ∧ b.override_active = false ∧
      (b.charging_locked = true ∨ socLockThreshold * m ≤ c + d)) ∨
    (0 < d ∧ b.override_active = true ∧ m ≤ c + d) ∨
    (d < 0 ∧ c + d ≤ 0)

/-- A second step of the same size from a charge in the range goes nowhere exactly where there is no
step, or the first has reached the end of the range. -/
theorem cut_twice_iff {m c d : ℚ} (hm : 0 < m) (h0 : 0 ≤ c) (hcm : c ≤ m) :
    min (max (min (max (c + d) 0) m + d) 0) m = min (max (c + d) 0) m ↔
      d = 0 ∨ (0 < d ∧ m ≤ c + d) ∨ (d < 0 ∧ c + d ≤ 0) := by
  -- A step that does not reach the end of the range leaves room for a part of the next.
  rcases lt_trichotomy d 0 with hd | rfl | hd
  · rcases le_or_gt (c + d) 0 with hend | hend
    · have hfirst : min (max (c + d) 0) m = 0 := by
        rw [max_eq_right hend, min_eq_left hm.le]
      have hsecond : min (max (0 + d) 0) m = 0 := by
        rw [zero_add, max_eq_right hd.le, min_eq_left hm.le]
      rw [hfirst, hsecond]
      exact iff_of_true rfl (Or.inr (Or.inr ⟨hd, hend⟩))
    · have hfirst : min (max (c + d) 0) m = c + d := by
        rw [max_eq_left hend.le, min_eq_left (by linarith)]
      have hsecond : min (max (c + d + d) 0) m < c + d :=
        lt_of_le_of_lt (min_le_left _ _) (max_lt (by linarith) hend)
      rw [hfirst]
      refine iff_of_false hsecond.ne ?_
      rintro (h | ⟨h, -⟩ | ⟨-, h⟩)
      · exact hd.ne h
      · exact hd.not_gt h
      · exact hend.not_ge h
  · have hsame : min (max (c + 0) 0) m = c := by
      rw [add_zero, max_eq_left h0, min_eq_left hcm]
    rw [hsame, hsame]
    exact iff_of_true rfl (Or.inl rfl)
  · rcases le_or_gt m (c + d) with hend | hend
    · have hfirst : min (max (c + d) 0) m = m :=
        min_eq_right (hend.trans (le_max_left _ _))
      have hsecond : min (max (m + d) 0) m = m :=
        min_eq_right (le_trans (by linarith) (le_max_left _ _))
      rw [hfirst, hsecond]
      exact iff_of_true rfl (Or.inr (Or.inl ⟨hd, hend⟩))
    · have hfirst : min (max (c + d) 0) m = c + d := by
        rw [max_eq_left (by linarith), min_eq_left hend.le]
      have hsecond : c + d < min (max (c + d + d) 0) m :=
        lt_min (lt_max_of_lt_left (by linarith)) hend
      rw [hfirst]
      refine iff_of_false hsecond.ne' ?_
      rintro (h | ⟨-, h⟩ | ⟨h, -⟩)
      · exact hd.ne' h
      · exact hend.not_ge h
      · exact hd.not_gt h

/-- A number that is not refused is refused when it comes again, exactly if it has taken the charge
to the threshold of the lock. -/
theorem refuses_again_iff {b : Battery} {m c d : ℚ} (hm : 0 < m) (hmax : b.max_capacity = .fin m)
    (hc : b.charged_capacity = .fin c) (h0 : 0 ≤ c) (haccepted : ¬ b.refuses (.fin d) = true) :
    (b.putDelta (.fin d)).2.refuses (.fin d) = true ↔
      0 < d ∧ b.override_active = false ∧ socLockThreshold * m ≤ c + d := by
  rw [refuses_fin_iff, putDelta_override_active]
  refine and_congr_right fun hd => ?_
  rw [and_comm]
  refine and_congr_right fun hoverride => ?_
  have hfree : b.charging_locked = false := by
    simpa [refuses_fin_iff, hd, hoverride] using haccepted
  -- The threshold is within the range, so the cut does not matter.
  have hthreshold : socLockThreshold * m ≤ m := by
    unfold socLockThreshold
    linarith
  have hreached : socLockThreshold ≤ min (max (c + d) 0) m / m ↔ socLockThreshold * m ≤ c + d := by
    rw [le_div_iff₀ hm, max_eq_left (by linarith), le_min_iff]
    exact and_iff_left hthreshold
  rw [(putDelta_fin_of_accepted hm hmax hc haccepted).2, Latch.update_eq_true unlock_lt_lock,
    hreached]
  simp [hfree]

/-- For an ordinary charge in the range and an ordinary number. -/
theorem putDelta_fin_twice_iff {b : Battery} {m c : ℚ} (hm : 0 < m)
    (hmax : b.max_capacity = .fin m) (hc : b.charged_capacity = .fin c) (h0 : 0 ≤ c) (hcm : c ≤ m)
    (d : ℚ) :
    ((b.putDelta (.fin d)).2.putDelta (.fin d)).2 = (b.putDelta (.fin d)).2 ↔ Absorbs b m c d := by
  rw [putDelta_twice_iff]
  by_cases hfirst : b.refuses (.fin d) = true
  · obtain ⟨hd, hlocked, hoverride⟩ := refuses_fin_iff.mp hfirst
    rw [putDelta_of_refused hfirst]
    exact iff_of_true (Or.inl hfirst) (Or.inr (Or.inl ⟨hd, hoverride, Or.inl hlocked⟩))
  · have hmax' := (putDelta_max_capacity b (.fin d)).trans hmax
    have hcharged := (putDelta_fin_of_accepted hm hmax hc hfirst).1
    rw [charge_fin hmax' hcharged, hcharged, ExtRat.fin.injEq, cut_twice_iff hm h0 hcm,
      refuses_again_iff hm hmax hc h0 hfirst, Absorbs]
    have hfree : 0 < d → b.override_active = false → b.charging_locked = false := by
      intro hd hoverride
      simpa [refuses_fin_iff, hd, hoverride] using hfirst
    have hend : m ≤ c + d → socLockThreshold * m ≤ c + d := fun h => by
      unfold socLockThreshold
      linarith
    -- Without the override a charge that reaches the top has passed the threshold of the lock.
    rcases hoverride : b.override_active with _ | _
    · simp only [hoverride, true_and, forall_const] at hfree ⊢
      constructor
      · rintro (⟨hd, h⟩ | h | ⟨hd, h⟩ | h)
        · exact Or.inr (Or.inl ⟨hd, Or.inr h⟩)
        · exact Or.inl h
        · exact Or.inr (Or.inl ⟨hd, Or.inr (hend h)⟩)
        · exact Or.inr (Or.inr (Or.inr h))
      · rintro (h | ⟨hd, h | h⟩ | ⟨-, h, -⟩ | h)
        · exact Or.inr (Or.inl h)
        · rw [hfree hd] at h
          exact absurd h Bool.false_ne_true
        · exact Or.inl ⟨hd, h⟩
        · exact absurd h Bool.false_ne_true
        · exact Or.inr (Or.inr (Or.inr h))
    · simp

/-- A NaN charge takes every sum with it. -/
theorem charge_of_lost {b : Battery} (h : b.charged_capacity = .nan) (delta : ExtRat) :
    b.charge delta = .nan := by
  unfold charge
  simp [h]

/-- The capacity is `m`, and the charge is in its range, or NaN. -/
structure Charged (m : ℚ) (b : Battery) : Prop where
  /-- The capacity that the battery booted with. -/
  max : b.max_capacity = .fin m
  /-- The charge where a body that spells NaN was accepted, and otherwise. -/
  charge : b.charged_capacity = .nan ∨ ∃ c, b.charged_capacity = .fin c ∧ 0 ≤ c ∧ c ≤ m

/-- A new charge is again in the range or NaN. -/
theorem Charged.charge_delta {m : ℚ} {b : Battery} (hm : 0 < m) (h : Charged m b)
    (delta : ExtRat) :
    b.charge delta = .nan ∨ ∃ c, b.charge delta = .fin c ∧ 0 ≤ c ∧ c ≤ m := by
  obtain ⟨hmax, hnan | ⟨c, hc, -⟩⟩ := h
  · exact Or.inl (charge_of_lost hnan delta)
  · by_cases hdelta : delta = .nan
    · subst hdelta
      left
      unfold Battery.charge
      simp
    · exact Or.inr (charge_in_range hm hmax hc hdelta)

/-- A request to the battery keeps the charge in the range or NaN. -/
theorem Charged.put {m : ℚ} {b : Battery} (hm : 0 < m) (h : Charged m b) (p : Put) :
    Charged m (b.put p) := by
  refine ⟨(put_max_capacity b p).trans h.max, ?_⟩
  rcases put_charged_cases b p with hsame | ⟨body, -, hnew⟩
  · rw [hsame]
    exact h.charge
  · rw [hnew]
    exact h.charge_delta hm _

/-- Every state of a run from a boot with the charge in its range. -/
theorem charged_of_run {m c : ℚ} (hm : 0 < m) (h0 : 0 ≤ c) (hcm : c ≤ m) (es : List Put) :
    Charged m (run put (boot m c) es) :=
  run_invariant' (fun _ p h => h.put hm p) ⟨rfl, Or.inr ⟨c, rfl, h0, hcm⟩⟩ es

/-- An infinite number takes every ordinary charge to the same end of the range, and NaN takes every
charge to NaN. -/
theorem charge_of_special {m c : ℚ} {b b' : Battery} (hmax : b.max_capacity = .fin m)
    (hmax' : b'.max_capacity = .fin m) (hc : b.charged_capacity = .fin c) {delta : ExtRat}
    (hdelta : delta.isFinite = false) (hb' : b'.charged_capacity = b.charge delta) (hm : 0 < m) :
    b'.charge delta = b'.charged_capacity := by
  have hnot : ¬ m < 0 := hm.not_gt
  rcases delta with _ | _ | _ | d
  · rw [hb']
    simp [charge, hb']
  · simp [charge, hb', hc, hmax, hmax']
  · simp [charge, hb', hc, hmax, hmax', hnot, ExtRat.lt]
  · exact absurd hdelta (by simp)

/-- The cases in which a battery absorbs the repetition of a charge command with the body `body`. -/
def AbsorbsBody (m : ℚ) (b : Battery) (body : Bytes) : Prop :=
  body = [] ∨ b.charged_capacity = .nan ∨ (parseDelta body).isFinite = false ∨
    ∃ c d, b.charged_capacity = .fin c ∧ parseDelta body = .fin d ∧ Absorbs b m c d

/-- A charge that is NaN, and a number that is no ordinary one, absorb the repetition. -/
theorem Charged.putDelta_special_twice {m : ℚ} {b : Battery} (hm : 0 < m) (h : Charged m b)
    {delta : ExtRat} (hspecial : b.charged_capacity = .nan ∨ delta.isFinite = false) :
    ((b.putDelta delta).2.putDelta delta).2 = (b.putDelta delta).2 := by
  rw [putDelta_twice_iff]
  by_cases hfirst : b.refuses delta = true
  · left
    rwa [putDelta_of_refused hfirst]
  · right
    have hmax' : (b.putDelta delta).2.max_capacity = .fin m :=
      (putDelta_max_capacity b delta).trans h.max
    have hcharge : (b.putDelta delta).2.charged_capacity = b.charge delta := by
      rw [putDelta_of_accepted hfirst, updateLockState_charged_capacity]
    rcases h.charge with hnan | ⟨c, hc, -⟩
    · have hlost : (b.putDelta delta).2.charged_capacity = .nan :=
        hcharge.trans (charge_of_lost hnan delta)
      rw [charge_of_lost hlost, hlost]
    · have hdelta := hspecial.resolve_left (by rw [hc]; simp)
      exact charge_of_special h.max hmax' hc hdelta hcharge hm

/-- A repeated charge command, in a state with the charge in the range or NaN. -/
theorem Charged.resPutBatteryHandler_twice_iff {m : ℚ} {b : Battery} (hm : 0 < m) (h : Charged m b)
    (body : Bytes) :
    (b.put (.battery body)).put (.battery body) = b.put (.battery body) ↔ AbsorbsBody m b body := by
  by_cases hbody : body = []
  · exact iff_of_true (by simp [Battery.put, resPutBatteryHandler, hbody]) (Or.inl hbody)
  have hput : ∀ b : Battery, b.put (.battery body) = (b.putDelta (parseDelta body)).2 := fun b => by
    simp only [Battery.put, resPutBatteryHandler, if_neg hbody]
  rw [hput, hput, AbsorbsBody, or_iff_right hbody]
  generalize parseDelta body = delta
  rcases h.charge with hnan | ⟨c, hc, h0, hcm⟩
  · exact iff_of_true (h.putDelta_special_twice hm (Or.inl hnan)) (Or.inl hnan)
  · rcases hdelta : delta.isFinite with _ | _
    · exact iff_of_true (h.putDelta_special_twice hm (Or.inr hdelta)) (Or.inr (Or.inl rfl))
    · obtain ⟨d, rfl⟩ := ExtRat.isFinite_iff.mp hdelta
      rw [putDelta_fin_twice_iff hm h.max hc h0 hcm]
      simp [hc]

end Battery

open Battery in
/-- The handlers of `actuators/status`, `actuators/sampling` and `actuators/battery/override` absorb
the repetition of a request in every state. The handler of `actuators/battery` absorbs it, in every
state that a run of requests reaches, exactly in the cases of `AbsorbsBody`. -/
theorem repeated_put_iff {m c : ℚ} (hm : 0 < m) (h0 : 0 ≤ c) (hcm : c ≤ m) (body : Bytes) :
    (∀ (cfg : ProducerBuild) (p : Producer),
      ((p.resPutHandler cfg body).2.resPutHandler cfg body).2 = (p.resPutHandler cfg body).2) ∧
    (∀ (cfg : SamplingBuild) (s : Sampling),
      ((s.resPutHandler cfg body).2.resPutHandler cfg body).2 = (s.resPutHandler cfg body).2) ∧
    (∀ b : Battery, ((b.resPutOverrideHandler body).2.resPutOverrideHandler body).2 =
      (b.resPutOverrideHandler body).2) ∧
    ∀ es : List Put,
      (((run put (boot m c) es).resPutBatteryHandler body).2.resPutBatteryHandler body).2 =
          ((run put (boot m c) es).resPutBatteryHandler body).2 ↔
        AbsorbsBody m (run put (boot m c) es) body :=
  ⟨fun cfg p => p.resPutHandler_twice cfg body, fun cfg s => s.resPutHandler_twice cfg body,
    fun b => b.resPutOverrideHandler_twice body,
    fun es => (charged_of_run hm h0 hcm es).resPutBatteryHandler_twice_iff hm body⟩

/-- The build's battery, at 5.0 of 10.0, absorbs a second 6.0: the first has set the lock. -/
theorem repeated_put_iff_build :
    (((Battery.boot 10 5).resPutBatteryHandler (ascii "6")).2.resPutBatteryHandler (ascii "6")).2 =
      ((Battery.boot 10 5).resPutBatteryHandler (ascii "6")).2 := by
  have hparse : Battery.parseDelta (ascii "6") = .fin 6 := by decide +kernel
  have hthreshold : Battery.socLockThreshold * 10 ≤ 5 + 6 := by norm_num [Battery.socLockThreshold]
  have habsorbs : Battery.AbsorbsBody 10 (Battery.boot 10 5) (ascii "6") :=
    Or.inr (Or.inr (Or.inr ⟨5, 6, rfl, hparse, Or.inr (Or.inl
      ⟨by norm_num, rfl, Or.inr hthreshold⟩)⟩))
  exact ((repeated_put_iff (by norm_num) (by norm_num) (by norm_num) (ascii "6")).2.2.2 []).mpr
    habsorbs

/-- A charge of 1.0 kWh that reaches the build's battery twice is added twice. -/
theorem repeated_charge_is_added_twice :
    ¬ ∀ (es : List Battery.Put) (body : Bytes),
      (((run Battery.put (Battery.boot 10 5) es).resPutBatteryHandler body).2.resPutBatteryHandler
          body).2 = ((run Battery.put (Battery.boot 10 5) es).resPutBatteryHandler body).2 := by
  intro h
  have htwice := congrArg Battery.charged_capacity (h [] (ascii "1"))
  exact absurd htwice (by decide +kernel)

end EnergyStation.Firmware
