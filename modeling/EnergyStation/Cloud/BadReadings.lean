import EnergyStation.Cloud.Balance
import EnergyStation.Lib.Runs
import EnergyStation.Python.Double

/-!
# Readings that are no ordinary numbers

`update_reading` drops a payload whose voltage or current `float()` refuses, and no other.
`json.loads` and `float()` both accept NaN and the infinities, and the product of two ordinary
numbers may overflow, so the table can hold a special value, which then takes over the sums of every
cycle that counts it. A run keeps to ordinary numbers exactly if each payload that is stored has an
ordinary power, and no sum of a cycle overflows (`balance_sees_iff`). All numbers are doubles here:
a voltage, a current, their product and each sum are rounded.
-/

namespace EnergyStation.Cloud.BadReadings

open Python Runs
open Binary64 (nearest)

/-- What can happen. -/
inductive Event where
  /-- A payload comes to `update_reading`. -/
  | telemetry (now : ℚ) (payload : Obj)
  /-- A cycle of `balance_loop`, with the times of its two calls of `_power_by_types`. -/
  | cycle (renewable_now diesel_now : ℚ) (registry : Registry) (load_w : ℚ)

/-- `_latest_readings` after an event. -/
def step (py : Interp) (readings : Dict Key Reading) : Event → Dict Key Reading
  | .telemetry now payload =>
    match updateReading (.double py) now (.dict payload) readings with
    | .ok readings => readings
    | .error _ => readings
  | .cycle .. => readings

/-- `renewable_w - load_w` -/
def renewableSurplusW (ar : Arith) (renewable_w : ExtRat) (load_w : ℚ) : ExtRat :=
  ar.round (floatSub renewable_w (.fin load_w))

/-- `renewable_w + diesel_w - load_w` -/
def totalSurplusW (ar : Arith) (renewable_w diesel_w : ExtRat) (load_w : ℚ) : ExtRat :=
  ar.round (floatSub (ar.round (floatAdd renewable_w diesel_w)) (.fin load_w))

/-- Every value stored is an ordinary number. -/
def AllFinite (readings : Dict Key Reading) : Prop :=
  ∀ k reading, readings.get? k = some reading → reading.power_w.isFinite = true

/-- The number that a float is, if it is one. -/
def value : ExtRat → ℚ
  | .fin q => q
  | _ => 0

/-- The powers that `_power_by_types` adds up. -/
def countedPowers (types : List String) (now : ℚ) (registry : Registry)
    (readings : Dict Key Reading) : List ℚ :=
  (readings.entries.filter fun e => counts types now registry e.1 e.2).map fun e =>
    value e.2.power_w

/-- The number that `_power_by_types` returns where no sum overflows. -/
def power (py : Interp) (types : List String) (now : ℚ) (registry : Registry)
    (readings : Dict Key Reading) : ℚ :=
  value (doubleSum py ((countedPowers types now registry readings).map .fin))

/-- A cycle that reads `renewable_w` and `diesel_w` reads ordinary numbers, and each branch of
`balance_loop` and of `_update_diesel_dispatch` is taken by the sign of the surplus. -/
structure SeesSign (py : Interp) (renewable_w diesel_w : ExtRat) (load_w renewable diesel : ℚ) :
    Prop where
  /-- The renewable power. -/
  reads_renewable : renewable_w = .fin renewable
  /-- The power of the diesel generator. -/
  reads_diesel : diesel_w = .fin diesel
  /-- The surplus that `_update_diesel_dispatch` asks about. -/
  renewable_surplus : renewableSurplusW (.double py) renewable_w load_w =
    .fin (nearest (renewable - load_w))
  /-- It is a deficit where it is negative. -/
  deficit : (renewableSurplusW (.double py) renewable_w load_w).lt (.fin 0) = true ↔
    nearest (renewable - load_w) < 0
  /-- The surplus that `balance_loop` asks about. -/
  total_surplus : totalSurplusW (.double py) renewable_w diesel_w load_w =
    .fin (nearest (nearest (renewable + diesel) - load_w))
  /-- The battery is charged where it is positive, and discharged where it is negative. -/
  sign : (clampedW (totalSurplusW (.double py) renewable_w diesel_w load_w)).2 =
    if 0 < nearest (nearest (renewable + diesel) - load_w) then 1
    else if nearest (nearest (renewable + diesel) - load_w) < 0 then -1
    else 0

variable {py : Interp}

/-- What `_power_by_types` adds up are the ordinary numbers of the table. -/
theorem powerByTypes_eq {readings : Dict Key Reading} (h : AllFinite readings) (ar : Arith)
    (types : List String) (now : ℚ) (registry : Registry) :
    powerByTypes ar types now registry readings =
      ar.sum ((countedPowers types now registry readings).map ExtRat.fin) := by
  unfold powerByTypes countedPowers
  rw [List.map_map]
  congr 1
  refine List.map_congr_left fun e he => ?_
  have hget : readings.get? e.1 = some e.2 :=
    (Dict.get?_eq_some_iff readings e.1 e.2).mpr (List.mem_of_mem_filter he)
  obtain ⟨q, hq⟩ := ExtRat.isFinite_iff.mp (h e.1 e.2 hget)
  simp only [Function.comp_apply, hq, value]

/-- Where a cycle sees the signs of its surpluses, every sum on the way to them is in range. -/
theorem SeesSign.inRange {renewable_w diesel_w : ExtRat} {load_w renewable diesel : ℚ}
    (h : SeesSign py renewable_w diesel_w load_w renewable diesel) :
    InRange (renewable - load_w) ∧ InRange (renewable + diesel) ∧
      InRange (nearest (renewable + diesel) - load_w) := by
  obtain ⟨rfl, rfl, hsurplus, -, htotal, -⟩ := h
  have hsurplus' : (doubleAdd (.fin renewable) (.fin (-load_w))).isFinite = true :=
    ExtRat.isFinite_iff.mpr ⟨_, hsurplus⟩
  have htotal' : (doubleAdd (doubleAdd (.fin renewable) (.fin diesel))
      (.fin (-load_w))).isFinite = true :=
    ExtRat.isFinite_iff.mpr ⟨_, htotal⟩
  obtain ⟨r, hr, hrange⟩ := adds_doubleAdd.ordinary _ _ hsurplus'
  obtain ⟨t, ht, hrange'⟩ := adds_doubleAdd.ordinary _ _ htotal'
  obtain ⟨s, hs, hsum⟩ := adds_doubleAdd.ordinary _ _ (by rw [ht]; rfl)
  rw [← ExtRat.fin.inj hr] at hrange
  rw [← ExtRat.fin.inj hs] at hsum
  rw [adds_doubleAdd.inRange _ _ hsum] at ht
  rw [← ExtRat.fin.inj ht] at hrange'
  rw [sub_eq_add_neg, sub_eq_add_neg]
  exact ⟨hrange, hsum, hrange'⟩

end EnergyStation.Cloud.BadReadings
