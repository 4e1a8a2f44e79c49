import Mathlib.Algebra.Group.Nat.Defs

/-!
# The time stamp of the firmware

`publish_telemetry` stamps a packet with `clock_seconds() * 1000UL`, where `unsigned long` has 32
bits.
-/

namespace EnergyStation.Firmware

/-- `clock_seconds()`, at an uptime in milliseconds. -/
def clockSeconds (uptime_ms : ℕ) : ℕ := uptime_ms / 1000 % 2 ^ 32

/-- `sent_ms` of `publish_telemetry`. -/
def sentMs (uptime_ms : ℕ) : ℕ := clockSeconds uptime_ms * 1000 % 2 ^ 32

/-- How many times the time stamp has wrapped. -/
def wraps (uptime_ms : ℕ) : ℕ := uptime_ms / 1000 * 1000 / 2 ^ 32

/-- The time stamp is the uptime in whole seconds, less what has wrapped. -/
theorem sentMs_add_wraps (uptime_ms : ℕ) :
    sentMs uptime_ms + 2 ^ 32 * wraps uptime_ms = uptime_ms / 1000 * 1000 := by
  have hmod : sentMs uptime_ms = uptime_ms / 1000 * 1000 % 2 ^ 32 := by
    unfold sentMs clockSeconds
    rw [Nat.mod_mul_mod]
  rw [hmod, wraps, Nat.mod_add_div]

end EnergyStation.Firmware
