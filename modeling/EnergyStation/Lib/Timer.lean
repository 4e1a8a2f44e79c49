import Mathlib.Algebra.Order.Ring.Nat

/-!
# One-shot timers

A timer that is armed for a number of ticks from a start, and that a clock process marks as expired
when it looks at it after its deadline. Arming starts from the present, and a reset starts from the
deadline that has passed, so that a timer that is only ever reset does not drift. `Sound` says that
an expired timer is past its deadline, and no operation moves the deadline of an expired timer back
(`deadline_le_set`, `deadline_le_reset`).
-/

namespace EnergyStation

/-- A timer. -/
structure Timer where
  /-- The tick from which it counts. -/
  start : ℕ
  /-- The ticks that it counts. -/
  interval : ℕ
  /-- It has been found past its deadline, and has not been armed since. -/
  expired : Bool
  deriving DecidableEq

namespace Timer

/-- The tick at which the timer has counted its interval. -/
def deadline (t : Timer) : ℕ := t.start + t.interval

/-- A timer that is armed for `interval` ticks from `now`. -/
def set (now interval : ℕ) : Timer := ⟨now, interval, false⟩

/-- The timer armed once more, from its deadline on. -/
def reset (t : Timer) : Timer := ⟨t.deadline, t.interval, false⟩

/-- The clock process looks at the timer. -/
def poll (t : Timer) (now : ℕ) : Timer := if t.deadline ≤ now then { t with expired := true } else t

/-- An expired timer is past its deadline. -/
def Sound (t : Timer) (now : ℕ) : Prop := t.expired = true → t.deadline ≤ now

@[simp] theorem set_expired (now interval : ℕ) : (set now interval).expired = false := rfl
@[simp] theorem set_interval (now interval : ℕ) : (set now interval).interval = interval := rfl
@[simp] theorem set_deadline (now interval : ℕ) :
    (set now interval).deadline = now + interval := rfl
@[simp] theorem reset_expired (t : Timer) : t.reset.expired = false := rfl
@[simp] theorem reset_interval (t : Timer) : t.reset.interval = t.interval := rfl

@[simp] theorem poll_start (t : Timer) (now : ℕ) : (t.poll now).start = t.start := by
  unfold poll
  split_ifs <;> rfl

@[simp] theorem poll_interval (t : Timer) (now : ℕ) : (t.poll now).interval = t.interval := by
  unfold poll
  split_ifs <;> rfl

@[simp] theorem poll_deadline (t : Timer) (now : ℕ) : (t.poll now).deadline = t.deadline := by
  unfold poll
  split_ifs <;> rfl

theorem sound_set (now interval now' : ℕ) : (set now interval).Sound now' :=
  fun h => absurd h Bool.false_ne_true

/-- What the clock process finds expired is past its deadline. -/
theorem sound_poll {t : Timer} {now : ℕ} (h : t.Sound now) : (t.poll now).Sound now := by
  unfold poll
  split_ifs with hle
  · exact fun _ => hle
  · exact h

/-- Time passes. -/
theorem Sound.mono {t : Timer} {now now' : ℕ} (h : t.Sound now) (hle : now ≤ now') : t.Sound now' :=
  fun hexp => (h hexp).trans hle

/-- An expired timer that is armed anew has a later deadline. -/
theorem deadline_le_set {t : Timer} {now now' : ℕ} (h : t.Sound now) (hexp : t.expired = true)
    (hle : now ≤ now') (interval : ℕ) : t.deadline ≤ (set now' interval).deadline := by
  have hdeadline := h hexp
  rw [set_deadline]
  omega

/-- A timer that is reset has a later deadline. -/
theorem deadline_le_reset (t : Timer) : t.deadline ≤ t.reset.deadline := Nat.le_add_right _ _

end Timer

end EnergyStation
