import EnergyStation.Coap
import EnergyStation.Lib.Latch
import EnergyStation.Lib.Runs

/-!
# The battery node

The state and the handlers of `res-battery.c`: the charge and its lock, `update_lock_state`, the PUT
handler of `actuators/battery` and the two handlers of `actuators/battery/override`. The handlers'
log lines are left out, and with them the texts that are only formatted for the log.
-/

namespace EnergyStation.Firmware

open CStdlib

/-- The state of the battery node. -/
structure Battery where
  /-- `max_capacity`, in kWh. -/
  max_capacity : ExtRat
  /-- `charged_capacity`, in kWh. -/
  charged_capacity : ExtRat
  /-- `charging_locked`. -/
  charging_locked : Bool
  /-- `override_active`. -/
  override_active : Bool
  deriving DecidableEq

namespace Battery

/-- `SOC_LOCK_THRESHOLD`. -/
def socLockThreshold : ℚ := 95 / 100

/-- `SOC_UNLOCK_THRESHOLD`. -/
def socUnlockThreshold : ℚ := 75 / 100

/-- The state after boot, with `BATTERY_MAX_CAPACITY` and `BATTERY_START_CAPACITY` of the build. -/
def boot (maxCapacity startCapacity : ℚ) : Battery where
  max_capacity := .fin maxCapacity
  charged_capacity := .fin startCapacity
  charging_locked := false
  override_active := false

/-- The state of charge that the handlers compute. -/
def soc (b : Battery) : ExtRat := b.charged_capacity.div b.max_capacity

/-- `update_lock_state`. -/
def updateLockState (b : Battery) : Battery :=
  if ExtRat.le (.fin socLockThreshold) b.soc = true ∧ b.charging_locked = false then
    { b with charging_locked := true }
  else if ExtRat.le b.soc (.fin socUnlockThreshold) = true ∧ b.charging_locked = true then
    { b with charging_locked := false }
  else b

/-- The addition and the two comparisons that keep the charge in its range. -/
def charge (b : Battery) (delta : ExtRat) : ExtRat :=
  let c := b.charged_capacity.add delta
  let c := if c.lt (.fin 0) then .fin 0 else c
  -- Both comparisons are false for NaN.
  if b.max_capacity.lt c then b.max_capacity else c

/-- The autonomous refusal: a charge command while locked, and no override. -/
def refuses (b : Battery) (delta : ExtRat) : Bool :=
  ExtRat.lt (.fin 0) delta && b.charging_locked && !b.override_active

/-- `res_put_battery_handler`, from the parsed `delta` on. -/
def putDelta (b : Battery) (delta : ExtRat) : Response × Battery :=
  -- The refusal returns before the charge and the lock are touched.
  if b.refuses delta then (⟨.forbidden, ascii "charging_locked"⟩, b)
  else
    (⟨.changed, ascii "updated"⟩,
      updateLockState { b with charged_capacity := b.charge delta })

/-- The number that `res_put_battery_handler` reads from a body: `atof` of its first 31 bytes. -/
def parseDelta (body : Bytes) : ExtRat := atof (boundedString 32 body)

/-- `res_put_battery_handler`. -/
def resPutBatteryHandler (b : Battery) (body : Bytes) : Response × Battery :=
  if body = [] then (⟨.badRequest, []⟩, b) else b.putDelta (parseDelta body)

/-- `res_get_override_handler`. -/
def resGetOverrideHandler (b : Battery) : Response :=
  ⟨.content, if b.override_active then ascii "on" else ascii "off"⟩

/-- `res_put_override_handler`. -/
def resPutOverrideHandler (b : Battery) (body : Bytes) : Response × Battery :=
  if hasPrefix (ascii "on") body then
    (⟨.changed, ascii "on"⟩, { b with override_active := true })
  else if hasPrefix (ascii "off") body then
    (⟨.changed, ascii "off"⟩, { b with override_active := false })
  else (⟨.badRequest, ascii "Invalid body: use on|off"⟩, b)

@[simp] theorem updateLockState_max_capacity (b : Battery) :
    b.updateLockState.max_capacity = b.max_capacity := by
  unfold updateLockState
  split_ifs <;> rfl

@[simp] theorem updateLockState_charged_capacity (b : Battery) :
    b.updateLockState.charged_capacity = b.charged_capacity := by
  unfold updateLockState
  split_ifs <;> rfl

@[simp] theorem updateLockState_override_active (b : Battery) :
    b.updateLockState.override_active = b.override_active := by
  unfold updateLockState
  split_ifs <;> rfl

@[simp] theorem putDelta_max_capacity (b : Battery) (delta : ExtRat) :
    (b.putDelta delta).2.max_capacity = b.max_capacity := by
  unfold putDelta
  split_ifs <;> simp

@[simp] theorem putDelta_override_active (b : Battery) (delta : ExtRat) :
    (b.putDelta delta).2.override_active = b.override_active := by
  unfold putDelta
  split_ifs <;> simp

/-- An override command moves the override and nothing else. -/
theorem resPutOverrideHandler_frame (b : Battery) (body : Bytes) :
    ∃ v, (b.resPutOverrideHandler body).2 = { b with override_active := v } := by
  unfold resPutOverrideHandler
  split_ifs
  · exact ⟨true, rfl⟩
  · exact ⟨false, rfl⟩
  · exact ⟨b.override_active, rfl⟩

/-- The state of charge of an ordinary charge and capacity. -/
theorem soc_of_fin {b : Battery} {m c : ℚ} (hm : 0 < m) (hmax : b.max_capacity = .fin m)
    (hc : b.charged_capacity = .fin c) : b.soc = .fin (c / m) := by
  unfold soc
  rw [hmax, hc, ExtRat.div_fin c hm.ne']

/-- With an ordinary charge and capacity the lock is the hysteresis latch on the state of charge. -/
theorem updateLockState_charging_locked {b : Battery} {c m : ℚ} (hm : 0 < m)
    (hmax : b.max_capacity = .fin m) (hc : b.charged_capacity = .fin c) :
    b.updateLockState.charging_locked =
      Latch.update socUnlockThreshold socLockThreshold b.charging_locked (c / m) := by
  unfold updateLockState Latch.update
  simp only [soc_of_fin hm hmax hc, ExtRat.le_fin, decide_eq_true_eq]
  split_ifs <;> rfl

/-- The charge after an accepted ordinary delta: the sum, cut to the range. -/
theorem charge_fin {b : Battery} {c m : ℚ} (hmax : b.max_capacity = .fin m)
    (hc : b.charged_capacity = .fin c) (d : ℚ) :
    b.charge (.fin d) = .fin (min (max (c + d) 0) m) := by
  unfold charge
  rw [hc, hmax, ExtRat.add_fin]
  dsimp only
  rw [ExtRat.raise_fin, ExtRat.cut_fin]

/-- An ordinary number is refused where it is positive, the lock is set and the override is off. -/
theorem refuses_fin_iff {b : Battery} {d : ℚ} :
    b.refuses (.fin d) = true ↔ 0 < d ∧ b.charging_locked = true ∧ b.override_active = false := by
  simp [refuses, and_assoc]

/-- A refused command changes nothing. -/
theorem putDelta_of_refused {b : Battery} {delta : ExtRat} (h : b.refuses delta = true) :
    (b.putDelta delta).2 = b := by
  rw [putDelta, if_pos h]

/-- A command that is not refused sets the charge and updates the lock. -/
theorem putDelta_of_accepted {b : Battery} {delta : ExtRat} (h : ¬ b.refuses delta = true) :
    (b.putDelta delta).2 = updateLockState { b with charged_capacity := b.charge delta } := by
  rw [putDelta, if_neg h]

/-- An ordinary number that is not refused sets the charge to the sum, cut to the range, and the
lock follows as the latch does. -/
theorem putDelta_fin_of_accepted {m c d : ℚ} {b : Battery} (hm : 0 < m)
    (hmax : b.max_capacity = .fin m) (hc : b.charged_capacity = .fin c)
    (h : ¬ b.refuses (.fin d) = true) :
    (b.putDelta (.fin d)).2.charged_capacity = .fin (min (max (c + d) 0) m) ∧
      (b.putDelta (.fin d)).2.charging_locked = Latch.update socUnlockThreshold socLockThreshold
        b.charging_locked (min (max (c + d) 0) m / m) := by
  have hcharge := charge_fin hmax hc d
  rw [putDelta_of_accepted h]
  refine ⟨?_, ?_⟩
  · rw [updateLockState_charged_capacity, hcharge]
  · exact updateLockState_charging_locked (b := { b with charged_capacity := b.charge (.fin d) })
      hm hmax hcharge

end Battery

end EnergyStation.Firmware
