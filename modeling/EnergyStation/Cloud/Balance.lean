import EnergyStation.Cloud.CoapClient
import EnergyStation.Cloud.EnergyState
import EnergyStation.Cloud.NodeRegistry

/-!
# The energy balance

What a cycle of `balance_loop` reads: the nodes that it picks from the registry, the power of the
producers that it counts, and the state of charge that it computes from the battery's answer.
`_get_battery_soc` returns `None` for every exception, so those are not told apart here. What a
cycle sends to the battery is a change of the charge, clamped and written with five decimals.
-/

namespace EnergyStation.Cloud

open Python

/-- `next((n for n in node_registry.get_all_nodes() if n.get("type") == node_type), None)`. -/
def firstOfType (node_type : String) (r : Registry) : Option Node :=
  r.getAllNodes.find? fun n => isStr node_type (n.info.get "type")

/-- `RENEWABLE_TYPES` -/
def renewableTypes : List String := ["solar", "wind"]

/-- `DIESEL_TYPE` -/
def dieselType : String := "diesel"

/-- `stale_after_s` of `_power_by_types`. -/
def staleAfterS : ℚ := 30

/-- `_power_by_types` counts the reading: its type is among the types, it is not stale, and its node
is registered. -/
def counts (types : List String) (now : ℚ) (r : Registry) (node_id : Key) (reading : Reading) :
    Bool :=
  types.any (isStr · reading.type) && decide (now - reading.ts ≤ staleAfterS) &&
    (r.nodes.get? node_id).isSome

/-- `_power_by_types`. -/
def powerByTypes (ar : Arith) (types : List String) (now : ℚ) (r : Registry)
    (readings : Dict Key Reading) : ExtRat :=
  ar.sum ((readings.entries.filter fun e => counts types now r e.1 e.2).map fun e => e.2.power_w)

/-- What `get_battery_state` makes of the response. -/
def getBatteryState (py : Interp) (response : Response) : Except Exc Val :=
  if response.code.isSuccessful then loadBody py response.payload else .error .external

/-- The state of charge that `_get_battery_soc` computes from the battery's state. -/
def batterySoc (reply : Val) : Option ExtRat :=
  (item? reply "max_capacity").bind fun max_capacity =>
    (leZero max_capacity).bind fun empty =>
      if empty then none
      else (item? reply "charged_capacity").bind fun charged => trueDiv charged max_capacity

/-- `_get_battery_soc`, for the response to its request or none where that fails or times out. -/
def getBatterySoc (py : Interp) (response : Option Response) : Option ExtRat :=
  response.bind fun response => (getBatteryState py response).toOption.bind batterySoc

/-- `MAX_CHARGE_W` -/
def maxChargeW : ℚ := 2000

/-- `MAX_DISCHARGE_W` -/
def maxDischargeW : ℚ := 3000

/-- `BALANCE_INTERVAL_S` -/
def balanceIntervalS : ℚ := 5

/-- `min(x, y)`, which returns `x` where the comparison is false. -/
def pyMin (x y : ExtRat) : ExtRat := if y.lt x then y else x

/-- `clamped_w` and `sign` of `balance_loop`. -/
def clampedW (total_surplus_w : ExtRat) : ExtRat × ℚ :=
  if ExtRat.lt (.fin 0) total_surplus_w then (pyMin total_surplus_w (.fin maxChargeW), 1)
  else if total_surplus_w.lt (.fin 0) then
    (pyMin total_surplus_w.neg (.fin maxDischargeW), -1)
  -- A surplus that is NaN is neither above nor below zero.
  else (.fin 0, 0)

/-- `delta_kwh` of `balance_loop`, for a registered battery. -/
def deltaKwh (total_surplus_w : ExtRat) : ExtRat :=
  ((ExtRat.mul (.fin (clampedW total_surplus_w).2) (clampedW total_surplus_w).1).mul
    (.fin (balanceIntervalS / 3600))).div (.fin 1000)

/-- The body that `adjust_battery` sends, `f"{delta_kwh:.5f}".encode()`. -/
def adjustBatteryBody (delta_kwh : ExtRat) : CStdlib.Bytes :=
  (formatFixed 5 delta_kwh).map UInt8.ofNat

/-- The body of the command that a cycle of `balance_loop` sends to the battery, if it sends one. -/
def balanceCommand (total_surplus_w : ExtRat) : Option CStdlib.Bytes :=
  if deltaKwh total_surplus_w ≠ .fin 0 then some (adjustBatteryBody (deltaKwh total_surplus_w))
  else none

/-- The type of a producer is in one of the two sets whose power a cycle adds up. -/
theorem exists_types_of_isProducerType {node_type : Val} (h : isProducerType node_type = .ok true) :
    ∃ types ∈ [renewableTypes, [dieselType]], types.any (isStr · node_type) = true := by
  obtain ⟨k, -, hproducer⟩ := map_eq_ok.mp h
  simp only [Bool.or_eq_true] at hproducer
  rcases hproducer with (hsolar | hwind) | hdiesel
  · exact ⟨renewableTypes, by simp, by simp [renewableTypes, hsolar]⟩
  · exact ⟨renewableTypes, by simp, by simp [renewableTypes, hwind]⟩
  · exact ⟨[dieselType], by simp, by simp [dieselType, hdiesel]⟩

/-- The power that a cycle sees does not depend on a reading that it does not count. -/
theorem powerByTypes_erase_of_uncounted {ar : Arith} {types : List String} {now : ℚ} {r : Registry}
    {readings : Dict Key Reading} {k : Key}
    (h : ∀ reading, readings.get? k = some reading → counts types now r k reading = false) :
    powerByTypes ar types now r (readings.erase k) = powerByTypes ar types now r readings := by
  -- The reading that is left out is not counted anyway.
  have hcounts : ∀ e ∈ readings.entries,
      (counts types now r e.1 e.2 && decide (e.1 ≠ k)) = counts types now r e.1 e.2 := by
    intro e he
    by_cases hk : e.1 = k
    · have hreading : readings.get? k = some e.2 :=
        (Dict.get?_eq_some_iff readings k e.2).mpr (hk ▸ he)
      simp [hk, h e.2 hreading]
    · simp [hk]
  have hentries : (readings.erase k).entries = readings.entries.filter fun e => e.1 ≠ k := rfl
  unfold powerByTypes
  rw [hentries, List.filter_filter, List.filter_congr hcounts]

/-- The power that a cycle sees does not depend on the reading of a node that is not registered. -/
theorem powerByTypes_erase {ar : Arith} {r : Registry} {k : Key} (h : r.nodes.get? k = none)
    (types : List String) (now : ℚ) (readings : Dict Key Reading) :
    powerByTypes ar types now r (readings.erase k) = powerByTypes ar types now r readings :=
  powerByTypes_erase_of_uncounted fun reading _ => by simp [counts, h]

/-- A positive surplus is cut to an ordinary number up to the bound. -/
theorem pyMin_of_pos {x : ExtRat} {y : ℚ} (h : ExtRat.lt (.fin 0) x = true) (hy : 0 < y) :
    ∃ w, pyMin x (.fin y) = .fin w ∧ 0 < w ∧ w ≤ y := by
  rcases x with _ | _ | _ | q
  · exact absurd h (by simp)
  · exact ⟨y, rfl, hy, le_refl y⟩
  · exact absurd h (by decide)
  · have hq : 0 < q := by simpa using h
    exact ⟨min q y, ExtRat.cut_fin q y, lt_min hq hy, min_le_right q y⟩

/-- What a cycle makes of the surplus: an ordinary power up to the bound of its direction, with the
sign of the surplus, and none where the surplus has no sign. -/
theorem clampedW_cases (total_surplus_w : ExtRat) :
    (ExtRat.lt (.fin 0) total_surplus_w = true ∧
      ∃ w, clampedW total_surplus_w = (.fin w, 1) ∧ 0 < w ∧ w ≤ maxChargeW) ∨
    (total_surplus_w.lt (.fin 0) = true ∧
      ∃ w, clampedW total_surplus_w = (.fin w, -1) ∧ 0 < w ∧ w ≤ maxDischargeW) ∨
    (ExtRat.lt (.fin 0) total_surplus_w = false ∧ total_surplus_w.lt (.fin 0) = false ∧
      clampedW total_surplus_w = (.fin 0, 0)) := by
  unfold clampedW
  split_ifs with hpos hneg
  · obtain ⟨w, hw, hbounds⟩ := pyMin_of_pos (y := maxChargeW) hpos (by norm_num [maxChargeW])
    exact .inl ⟨hpos, w, by rw [hw], hbounds⟩
  · have hpos' : ExtRat.lt (.fin 0) total_surplus_w.neg = true := by
      rcases total_surplus_w with _ | _ | _ | q
      · exact absurd hneg (by simp)
      · exact absurd hneg (by simp)
      · rfl
      · simpa [ExtRat.neg] using hneg
    obtain ⟨w, hw, hbounds⟩ :=
      pyMin_of_pos (y := maxDischargeW) hpos' (by norm_num [maxDischargeW])
    exact .inr (.inl ⟨hneg, w, by rw [hw], hbounds⟩)
  · exact .inr (.inr ⟨Bool.eq_false_iff.mpr hpos, Bool.eq_false_iff.mpr hneg, rfl⟩)

/-- The energy of a power over a cycle. -/
theorem deltaKwh_of_clampedW {total_surplus_w : ExtRat} {w sign : ℚ}
    (h : clampedW total_surplus_w = (.fin w, sign)) :
    deltaKwh total_surplus_w = .fin (sign * w * 5 / 3600 / 1000) := by
  unfold deltaKwh
  rw [h, ExtRat.mul_fin, ExtRat.mul_fin, ExtRat.div_fin _ (by norm_num), balanceIntervalS]
  congr 1
  ring

/-- The change of a cycle is an ordinary number: a charge of at most 2000 W for five seconds, or a
discharge of at most 3000 W. -/
theorem deltaKwh_bounds (total_surplus_w : ExtRat) :
    ∃ d, deltaKwh total_surplus_w = .fin d ∧ -(maxDischargeW * 5 / 3600 / 1000) ≤ d ∧
      d ≤ maxChargeW * 5 / 3600 / 1000 := by
  have hcharge : (0 : ℚ) < maxChargeW := by norm_num [maxChargeW]
  have hdischarge : (0 : ℚ) < maxDischargeW := by norm_num [maxDischargeW]
  rcases clampedW_cases total_surplus_w with ⟨-, w, hw, h0, h1⟩ | ⟨-, w, hw, h0, h1⟩ | ⟨-, -, hw⟩
  · exact ⟨_, deltaKwh_of_clampedW hw, by linarith, by linarith⟩
  · exact ⟨_, deltaKwh_of_clampedW hw, by linarith, by linarith⟩
  · exact ⟨_, deltaKwh_of_clampedW hw, by linarith, by linarith⟩

/-- The change of a cycle has the sign of the surplus. -/
theorem deltaKwh_sign {total_surplus_w : ExtRat} {d : ℚ} (h : deltaKwh total_surplus_w = .fin d) :
    (ExtRat.lt (.fin 0) total_surplus_w = true ↔ 0 < d) ∧
      (total_surplus_w.lt (.fin 0) = true ↔ d < 0) := by
  have hboth : ∀ x : ExtRat, ExtRat.lt (.fin 0) x = true → x.lt (.fin 0) = true → False := by
    intro x hpos hneg
    rcases x with _ | _ | _ | q
    · exact absurd hpos (by simp)
    · exact absurd hneg (by simp)
    · exact absurd hpos (by decide)
    · rw [ExtRat.lt_fin, decide_eq_true_eq] at hpos hneg
      exact lt_asymm hpos hneg
  rcases clampedW_cases total_surplus_w with
    ⟨hpos, w, hw, h0, -⟩ | ⟨hneg, w, hw, h0, -⟩ | ⟨hpos, hneg, hw⟩
  · rw [deltaKwh_of_clampedW hw, ExtRat.fin.injEq] at h
    have hd : 0 < d := by rw [← h]; positivity
    exact ⟨iff_of_true hpos hd, iff_of_false (hboth _ hpos) (not_lt.mpr hd.le)⟩
  · rw [deltaKwh_of_clampedW hw, ExtRat.fin.injEq] at h
    have hd : d < 0 := by
      rw [← h]
      linarith
    exact ⟨iff_of_false (fun hpos => hboth _ hpos hneg) (not_lt.mpr hd.le), iff_of_true hneg hd⟩
  · rw [deltaKwh_of_clampedW hw, ExtRat.fin.injEq] at h
    have hd : d = 0 := by
      rw [← h]
      norm_num
    rw [hpos, hneg, hd]
    simp

end EnergyStation.Cloud
