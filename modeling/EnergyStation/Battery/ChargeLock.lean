import EnergyStation.Firmware.Battery

/-!
# The charge lock over whole runs

The battery node takes charge commands and override commands in any order. `LockInv` is the
invariant that every request keeps: the charge is an ordinary number, and the lock is the
hysteresis latch read off the states of charge of all states since boot. `handle_lockInv` is the
step, and `charge_lock_hysteresis` gathers what the lock does over a run.
-/

namespace EnergyStation.Firmware.Battery

open CStdlib Runs

/-- A request to one of the battery node's PUT handlers. A charge command is given by the ordinary
number that its body denotes. -/
inductive Request where
  /-- PUT `actuators/battery` with a body that denotes `delta`. -/
  | battery (delta : ℚ)
  /-- PUT `actuators/battery` without a body. -/
  | batteryEmpty
  /-- PUT `actuators/battery/override`. -/
  | override (body : Bytes)

/-- The answer to a request, and the state after it. -/
def handle (b : Battery) : Request → Response × Battery
  | .battery delta => b.putDelta (.fin delta)
  | .batteryEmpty => b.resPutBatteryHandler []
  | .override body => b.resPutOverrideHandler body

/-- The state after a request. -/
def step (b : Battery) (r : Request) : Battery := (b.handle r).2

/-- The state of charge as a rational; `0` stands for one that is no ordinary number. -/
def socValue (b : Battery) : ℚ :=
  match b.soc with
  | .fin q => q
  | _ => 0

/-- The states of charge of a history, oldest first, set the latch. -/
abbrev Latched (hist : List ℚ) : Prop := Latch.Latched socUnlockThreshold socLockThreshold hist

theorem unlock_lt_lock : socUnlockThreshold < socLockThreshold := by
  norm_num [socUnlockThreshold, socLockThreshold]

/-- What every request keeps, with the states of charge `hist` of all states so far. -/
structure LockInv (m : ℚ) (hist : List ℚ) (b : Battery) : Prop where
  /-- The capacity is `m`. -/
  max_capacity : b.max_capacity = .fin m
  /-- The charge is an ordinary number. -/
  charged_capacity : b.charged_capacity = .fin (m * b.socValue)
  /-- The lock is the latch over the history. -/
  locked_iff : b.charging_locked = true ↔ Latched hist
  /-- The lock is set at the upper threshold and above. -/
  locked_of_le : socLockThreshold ≤ b.socValue → b.charging_locked = true
  /-- The lock is free at the lower threshold and below. -/
  unlocked_of_le : b.socValue ≤ socUnlockThreshold → b.charging_locked = false
  /-- A locked battery has been through the clamp. -/
  nonneg : b.charging_locked = true → 0 ≤ b.socValue

theorem socValue_of_fin {b : Battery} {m c : ℚ} (hm : 0 < m) (hmax : b.max_capacity = .fin m)
    (hc : b.charged_capacity = .fin c) : b.socValue = c / m := by
  unfold socValue
  rw [soc_of_fin hm hmax hc]

theorem LockInv.soc {m : ℚ} {hist : List ℚ} {b : Battery} (hm : 0 < m) (h : LockInv m hist b) :
    b.soc = .fin b.socValue := by
  rw [soc_of_fin hm h.max_capacity h.charged_capacity, mul_div_cancel_left₀ _ hm.ne']

/-- The state after boot, unlocked below the upper threshold. -/
theorem lockInv_boot {m c : ℚ} (hm : 0 < m) (hc : c / m < socLockThreshold) :
    LockInv m [(boot m c).socValue] (boot m c) := by
  have hsoc : (boot m c).socValue = c / m := socValue_of_fin hm rfl rfl
  refine ⟨rfl, ?_, ?_, ?_, fun _ => rfl, ?_⟩
  · rw [hsoc, mul_div_cancel₀ c hm.ne']
    rfl
  · have hnot : ¬ Latched ([] ++ [(boot m c).socValue]) := by
      unfold Latched
      rw [Latch.latched_concat, hsoc]
      rintro (h | ⟨h, -⟩)
      · exact absurd hc (not_lt.mpr h)
      · exact Latch.not_latched_nil _ _ h
    exact ⟨fun h => absurd h Bool.false_ne_true, fun h => absurd h hnot⟩
  · intro h
    rw [hsoc] at h
    exact absurd hc (not_lt.mpr h)
  · exact fun h => absurd h Bool.false_ne_true

/-- A request that moves neither charge nor lock keeps the invariant, with the state of charge once
more in the history. -/
theorem LockInv.repeat {m : ℚ} {hist : List ℚ} {b : Battery} (h : LockInv m hist b) (v : Bool) :
    LockInv m (hist ++ [({ b with override_active := v } : Battery).socValue])
      { b with override_active := v } where
  max_capacity := h.max_capacity
  charged_capacity := h.charged_capacity
  locked_iff := Latch.iff_latched_repeat h.locked_iff h.locked_of_le h.unlocked_of_le
  locked_of_le := h.locked_of_le
  unlocked_of_le := h.unlocked_of_le
  nonneg := h.nonneg

/-- An accepted charge command keeps the invariant. -/
theorem LockInv.accept {m : ℚ} {hist : List ℚ} {b : Battery} (hm : 0 < m) (h : LockInv m hist b)
    (d : ℚ) :
    LockInv m
      (hist ++ [(updateLockState { b with charged_capacity := b.charge (.fin d) }).socValue])
      (updateLockState { b with charged_capacity := b.charge (.fin d) }) := by
  have hcharge := charge_fin h.max_capacity h.charged_capacity d
  generalize hx : min (max (m * b.socValue + d) 0) m = x at hcharge
  have hx0 : 0 ≤ x := by
    rw [← hx]
    exact le_min (le_max_right _ _) hm.le
  generalize hb' : ({ b with charged_capacity := b.charge (.fin d) } : Battery) = b'
  have hmax' : b'.max_capacity = .fin m := by rw [← hb']; exact h.max_capacity
  have hc' : b'.charged_capacity = .fin x := by rw [← hb']; exact hcharge
  have hlock' : b'.charging_locked = b.charging_locked := by rw [← hb']
  have hmax'' : b'.updateLockState.max_capacity = .fin m := by
    rw [updateLockState_max_capacity, hmax']
  have hc'' : b'.updateLockState.charged_capacity = .fin x := by
    rw [updateLockState_charged_capacity, hc']
  have hsoc : b'.updateLockState.socValue = x / m := socValue_of_fin hm hmax'' hc''
  have hupd := updateLockState_charging_locked hm hmax' hc'
  rw [hlock'] at hupd
  have hiff := Latch.update_eq_true unlock_lt_lock b.charging_locked (x / m)
  rw [hsoc]
  -- The fields of the invariant, for the new state of charge `x / m`.
  refine ⟨hmax'', ?_, ?_, ?_, ?_, ?_⟩
  · rw [hsoc, mul_div_cancel₀ x hm.ne', hc'']
  · rw [hupd]
    exact Latch.update_iff_latched unlock_lt_lock h.locked_iff (x / m)
  · intro hle
    rw [hsoc] at hle
    rw [hupd, hiff]
    exact Or.inl hle
  · intro hle
    rw [hsoc] at hle
    rw [hupd, Bool.eq_false_iff, ne_eq, hiff, not_or, not_and, not_lt, not_le]
    exact ⟨lt_of_le_of_lt hle unlock_lt_lock, fun _ => hle⟩
  · intro _
    rw [hsoc]
    exact div_nonneg hx0 hm.le

/-- Every request keeps the invariant. -/
theorem handle_lockInv {m : ℚ} {hist : List ℚ} {b : Battery} (hm : 0 < m) (h : LockInv m hist b)
    (r : Request) : LockInv m (hist ++ [(step b r).socValue]) (step b r) := by
  cases r with
  | battery d =>
    simp only [step, handle, putDelta]
    split_ifs
    · exact h.repeat b.override_active
    · exact h.accept hm d
  | batteryEmpty => exact h.repeat b.override_active
  | override body =>
    obtain ⟨v, hv⟩ := resPutOverrideHandler_frame b body
    simp only [step, handle, hv]
    exact h.repeat v

/-- The invariant after a run from boot, with the states of charge of all states visited. -/
theorem lockInv_run {m c : ℚ} (hm : 0 < m) (hc : c / m < socLockThreshold) (es : List Request) :
    LockInv m ((visited step (boot m c) es).map socValue) (run step (boot m c) es) := by
  induction es using List.reverseRecOn with
  | nil => exact lockInv_boot hm hc
  | append_singleton es r ih =>
    rw [visited_concat, List.map_append, run_concat]
    exact handle_lockInv hm ih r

/-- A positive delta is refused exactly when the battery is locked and the override is off. -/
theorem putDelta_forbidden_iff (b : Battery) {d : ℚ} (hd : 0 < d) :
    ((b.putDelta (.fin d)).1.code = .forbidden ∧ (b.putDelta (.fin d)).2 = b) ↔
      b.charging_locked = true ∧ b.override_active = false := by
  have hrefuse : b.refuses (.fin d) = true ↔
      b.charging_locked = true ∧ b.override_active = false := by
    rw [refuses_fin_iff, and_iff_right hd]
  rw [← hrefuse]
  unfold putDelta
  by_cases h : b.refuses (.fin d) = true
  · simp [h]
  · simp [h]

/-- While the battery is locked and the override off, no request raises the charge. -/
theorem step_charged_le {m : ℚ} {hist : List ℚ} {b : Battery} (hm : 0 < m) (h : LockInv m hist b)
    (hlocked : b.charging_locked = true) (hoverride : b.override_active = false) (r : Request) :
    (step b r).socValue ≤ b.socValue := by
  have hnonneg := h.nonneg hlocked
  cases r with
  | battery d =>
    simp only [step, handle]
    by_cases hr : b.refuses (.fin d) = true
    · rw [putDelta_of_refused hr]
    · -- A command that is not refused here has no positive delta.
      have hd : d ≤ 0 := by
        simpa [refuses_fin_iff, hlocked, hoverride] using hr
      have hmax' := (putDelta_max_capacity b (.fin d)).trans h.max_capacity
      have hcharge := (putDelta_fin_of_accepted hm h.max_capacity h.charged_capacity hr).1
      rw [socValue_of_fin hm hmax' hcharge, div_le_iff₀ hm, mul_comm b.socValue m]
      refine le_trans (min_le_left _ _) (max_le ?_ (mul_nonneg hm.le hnonneg))
      linarith
  | batteryEmpty => exact le_refl b.socValue
  | override body =>
    obtain ⟨v, hv⟩ := resPutOverrideHandler_frame b body
    simp only [step, handle, hv]
    exact le_refl b.socValue

/-- Through a run in which the battery is locked and the override off before every request, the
charge does not rise. -/
theorem run_charged_le {m : ℚ} {hist : List ℚ} {b : Battery} (hm : 0 < m) (h : LockInv m hist b)
    (es : List Request)
    (hes : Along step (fun t _ => t.charging_locked = true ∧ t.override_active = false) b es) :
    ExtRat.le (run step b es).charged_capacity b.charged_capacity = true := by
  have hinv : (∃ hist, LockInv m hist (run step b es)) ∧
      (run step b es).socValue ≤ b.socValue := by
    apply run_invariant (I := fun t => (∃ hist, LockInv m hist t) ∧ t.socValue ≤ b.socValue)
      ?_ ⟨⟨hist, h⟩, le_refl _⟩ hes
    rintro t r ⟨⟨hist', ht⟩, hle⟩ ⟨hlocked, hoverride⟩
    exact ⟨⟨_, handle_lockInv hm ht r⟩,
      le_trans (step_charged_le hm ht hlocked hoverride r) hle⟩
  obtain ⟨⟨hist', ht⟩, hle⟩ := hinv
  rw [ht.charged_capacity, h.charged_capacity, ExtRat.le_fin, decide_eq_true_eq]
  exact mul_le_mul_of_nonneg_left hle hm.le

/-- The charge lock over a whole run from boot, with the capacity positive and the state of charge
below the upper threshold. After every request the lock is the latch over all states of charge so
far, which are ordinary numbers. A positive delta is refused with 4.03, and changes nothing, exactly
when the battery is locked and the override off. And while that lasts, the charge does not rise. -/
theorem charge_lock_hysteresis {m c : ℚ} (hm : 0 < m) (hc : c / m < socLockThreshold)
    (es : List Request) :
    (∀ t ∈ visited step (boot m c) es, t.soc = .fin t.socValue) ∧
      ((run step (boot m c) es).charging_locked = true ↔
        Latched ((visited step (boot m c) es).map socValue)) ∧
      (∀ d : ℚ, 0 < d →
        ((((run step (boot m c) es).putDelta (.fin d)).1.code = .forbidden ∧
          ((run step (boot m c) es).putDelta (.fin d)).2 = run step (boot m c) es) ↔
          (run step (boot m c) es).charging_locked = true ∧
            (run step (boot m c) es).override_active = false)) ∧
      (∀ fs : List Request,
        Along step (fun t _ => t.charging_locked = true ∧ t.override_active = false)
          (run step (boot m c) es) fs →
        ExtRat.le (run step (run step (boot m c) es) fs).charged_capacity
          (run step (boot m c) es).charged_capacity = true) := by
  have hinv := lockInv_run hm hc es
  refine ⟨?_, hinv.locked_iff, fun d hd => putDelta_forbidden_iff _ hd,
    fun fs hfs => run_charged_le hm hinv fs hfs⟩
  intro t ht
  obtain ⟨es', -, rfl⟩ := mem_visited_iff.mp ht
  exact (lockInv_run hm hc es').soc hm

/-- The lock of the build's battery, after a charge to 9.6 of 10 kWh. -/
theorem charge_lock_hysteresis_build :
    (run step (boot 10 5) [.battery (46 / 10)]).charging_locked = true ↔
      Latched ((visited step (boot 10 5) [.battery (46 / 10)]).map socValue) :=
  (charge_lock_hysteresis (by norm_num) (by norm_num [socLockThreshold])
    [.battery (46 / 10)]).2.1

end EnergyStation.Firmware.Battery
