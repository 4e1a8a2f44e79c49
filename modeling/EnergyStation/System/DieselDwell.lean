import EnergyStation.Cloud.DieselHysteresis
import EnergyStation.Lib.Drift
import EnergyStation.System.ClosedLoop
import EnergyStation.System.SocReading

/-!
# How long the diesel runs

The loop is closed over the battery: a cycle of `balance_loop` reads the state of charge that the
battery reports, decides about the diesel, and commands the battery. Whatever is lost, whatever the
producers deliver and whatever the load is, a command changes the charge by at most 0.00278 kWh
upwards and 0.00417 kWh downwards, and the two thresholds are far apart. So the diesel is not
switched off before the charge has had the time to get from one to the other, and not on again
before it has had the time to get back (`diesel_dwell`).
-/

namespace EnergyStation.System.DieselDwell

open Cloud CStdlib Firmware Firmware.Battery Numeral Python Runs SocReading

variable {ν : Type*}

/-- A cycle of `balance_loop` with a registered battery. -/
structure Cycle (ν : Type*) where
  /-- The battery's report reaches the cloud. -/
  answered : Bool
  /-- The diesel node of the registry, if there is one. -/
  diesel_node : Option ν
  /-- `renewable_surplus_w` -/
  renewable_surplus_w : ExtRat
  /-- The call of `set_status`, if there is one, returns rather than raises. -/
  returned : Bool
  /-- `total_surplus_w` -/
  total_surplus_w : ExtRat
  /-- The command to the battery, if the cycle sends one, reaches it. -/
  delivered : Bool

/-- The battery, and the flag of the cloud. -/
structure State where
  /-- The battery. -/
  battery : Battery
  /-- `_diesel_dispatched` -/
  dispatched : Bool

/-- The state of charge that a cycle reads. -/
def readSoc (py : Interp) (b : Battery) (answered : Bool) : Option ExtRat :=
  getBatterySoc py (if answered then b.resGetBatteryHandler else none)

/-- What `_update_diesel_dispatch` sees of a cycle. -/
def Cycle.diesel (py : Interp) (b : Battery) (c : Cycle ν) : DieselHysteresis.Cycle ν :=
  ⟨c.diesel_node, readSoc py b c.answered, c.renewable_surplus_w, c.returned⟩

/-- One cycle. -/
def step (py : Interp) (s : State) (c : Cycle ν) : State where
  battery := ClosedLoop.step s.battery ⟨c.total_surplus_w, c.delivered⟩
  dispatched := DieselHysteresis.step s.dispatched (c.diesel py s.battery)

/-- The battery starts with the charge `c`, and the cloud with a clear flag. -/
def boot (m c : ℚ) : State := ⟨Battery.boot m c, false⟩

/-- The largest discharge that a command asks for: 3000 W for five seconds, to five decimals. -/
def maxFall : ℚ := 417 / 100000

/-- The cycle switches the flag to `on`. -/
def SwitchesTo (on : Bool) (py : Interp) (s : State) (c : Cycle ν) : Prop :=
  s.dispatched = !on ∧ (step py s c).dispatched = on

/-- The charge, where it is an ordinary number. -/
def charge (b : Battery) : ℚ :=
  match b.charged_capacity with
  | .fin q => q
  | _ => 0

/-- The capacity is `m`, and the charge is between zero and the capacity. -/
structure Charged (m : ℚ) (b : Battery) : Prop where
  /-- The capacity. -/
  max_capacity : b.max_capacity = .fin m
  /-- The charge. -/
  charged_capacity : b.charged_capacity = .fin (charge b)
  /-- It is not negative. -/
  nonneg : 0 ≤ charge b
  /-- It is not above the capacity. -/
  le : charge b ≤ m

theorem charge_of_fin {b : Battery} {q : ℚ} (h : b.charged_capacity = .fin q) : charge b = q := by
  simp only [charge, h]

theorem charged_boot {m c : ℚ} (h0 : 0 ≤ c) (hc : c ≤ m) : Charged m (Battery.boot m c) :=
  ⟨rfl, rfl, h0, hc⟩

/-- The number that the firmware parses of a command lies between the two limits. -/
theorem parseDelta_bounds {d : ℚ} (hlow : -(maxDischargeW * 5 / 3600 / 1000) ≤ d)
    (hhigh : d ≤ maxChargeW * 5 / 3600 / 1000) :
    ∃ x, parseDelta (adjustBatteryBody (.fin d)) = .fin x ∧ -maxFall ≤ x ∧
      x ≤ ClosedLoop.maxRise := by
  obtain ⟨x, hx, hparse⟩ := ClosedLoop.parseDelta_le_maxRise hlow hhigh
  refine ⟨x, hparse, ?_, hx⟩
  norm_num [maxDischargeW] at hlow
  norm_num [maxChargeW] at hhigh
  have habs : |d| < 9 := abs_lt.mpr ⟨by linarith, by linarith⟩
  rw [ClosedLoop.parseDelta_adjustBatteryBody habs, ExtRat.fin.injEq] at hparse
  rw [← hparse]
  split_ifs with hneg
  · -- 3000 W for five seconds are 416.7 of the last decimal.
    have hround : roundHalfEven (|d| * 10 ^ 5) ≤ 417 := by
      apply roundHalfEven_le
      rw [abs_of_neg hneg]
      norm_num
      linarith
    have hnat : (roundHalfEven (|d| * 10 ^ 5)).toNat ≤ 417 := by omega
    have hcast : ((roundHalfEven (|d| * 10 ^ 5)).toNat : ℚ) ≤ 417 := by exact_mod_cast hnat
    rw [maxFall, neg_le_neg_iff, div_le_div_iff₀ (by norm_num) (by norm_num)]
    linarith
  · have hnonneg : (0 : ℚ) ≤ (roundHalfEven (|d| * 10 ^ 5)).toNat / 10 ^ 5 := by positivity
    norm_num [maxFall]
    linarith

/-- A cycle leaves the battery as it is, or is a command that lies between the two limits. -/
theorem battery_cases (b : Battery) (cycle : ClosedLoop.Cycle) :
    ClosedLoop.step b cycle = b ∨ ∃ x, -maxFall ≤ x ∧ x ≤ ClosedLoop.maxRise ∧
      ClosedLoop.step b cycle = (b.putDelta (.fin x)).2 := by
  obtain ⟨d, hd, hlow, hhigh⟩ := deltaKwh_bounds cycle.total_surplus_w
  obtain ⟨x, hparse, hfall, hrise⟩ := parseDelta_bounds hlow hhigh
  rcases hcommand : balanceCommand cycle.total_surplus_w with _ | body
  · left
    rw [ClosedLoop.step, hcommand]
  · have hbody : body = adjustBatteryBody (.fin d) := by
      unfold balanceCommand at hcommand
      split_ifs at hcommand
      rw [← Option.some.inj hcommand, hd]
    simp only [ClosedLoop.step, hcommand]
    split_ifs
    · refine .inr ⟨x, hfall, hrise, ?_⟩
      rw [hbody, resPutBatteryHandler, if_neg (ClosedLoop.adjustBatteryBody_ne_nil d), hparse]
    · exact .inl rfl

/-- A cycle keeps the charge in its range, and changes it by no more than the two limits. -/
theorem battery_step {m : ℚ} {b : Battery} (hm : 0 < m) (h : Charged m b)
    (cycle : ClosedLoop.Cycle) : Charged m (ClosedLoop.step b cycle) ∧
      charge (ClosedLoop.step b cycle) ≤ charge b + ClosedLoop.maxRise ∧
      charge b ≤ charge (ClosedLoop.step b cycle) + maxFall := by
  have hrise : (0 : ℚ) ≤ ClosedLoop.maxRise := by norm_num [ClosedLoop.maxRise]
  have hfall : (0 : ℚ) ≤ maxFall := by norm_num [maxFall]
  have hsame : Charged m b ∧ charge b ≤ charge b + ClosedLoop.maxRise ∧
      charge b ≤ charge b + maxFall := ⟨h, by linarith, by linarith⟩
  rcases battery_cases b cycle with heq | ⟨x, hxlow, hxhigh, heq⟩
  · -- No command has come.
    rw [heq]
    exact hsame
  · rw [heq]
    by_cases hr : b.refuses (.fin x) = true
    · -- The lock has refused it.
      rw [putDelta_of_refused hr]
      exact hsame
    · have hmax' := (putDelta_max_capacity b (.fin x)).trans h.max_capacity
      have hcharge := (putDelta_fin_of_accepted hm h.max_capacity h.charged_capacity hr).1
      have hvalue := charge_of_fin hcharge
      have h0 := h.nonneg
      have hle := h.le
      refine ⟨⟨hmax', by rw [hvalue, hcharge], ?_, ?_⟩, ?_, ?_⟩
      · rw [hvalue]
        exact le_min (le_max_right _ _) hm.le
      · rw [hvalue]
        exact min_le_right _ _
      · -- The sum is cut at zero and at the capacity.
        rw [hvalue]
        exact (min_le_left _ _).trans (max_le (by linarith) (by linarith))
      · rw [hvalue]
        have hcut : charge b - maxFall ≤ min (max (charge b + x) 0) m :=
          le_min (le_max_of_le_left (by linarith)) (by linarith)
        linarith

/-- The state of charge that a cycle reads is low only while the charge is below the edge of the
dispatch threshold. -/
theorem charge_lt_of_socLow {py : Interp} (hdepth : 0 < py.recursionLimit) {m : ℚ} {b : Battery}
    (h : Charged m b) {answered : Bool} (hlow : SocLow (readSoc py b answered)) :
    charge b < startEdge m := by
  have hanswer := resGetBatteryHandler_eq h.max_capacity h.charged_capacity h.nonneg h.le
  unfold readSoc at hlow
  split_ifs at hlow
  · by_cases hformat : Formattable m
    · have hlt := tenths_lt hformat
      have hle := tenths_le_tenths h.le
      rw [hanswer, if_pos hformat, getBatterySoc_report hdepth b hlt (by omega)] at hlow
      exact (socLow_report hformat h.nonneg h.le).mp hlow
    · -- A battery that cannot print its capacity sends no report.
      rw [hanswer, if_neg hformat] at hlow
      obtain ⟨q, hq, -⟩ := hlow
      cases hq
  · obtain ⟨q, hq, -⟩ := hlow
    cases hq

/-- It is recovered only while the charge has reached the edge of the recovery threshold. -/
theorem le_charge_of_socRecovered {py : Interp} (hdepth : 0 < py.recursionLimit) {m : ℚ}
    {b : Battery} (h : Charged m b) {answered : Bool}
    (hrecovered : SocRecovered (readSoc py b answered)) : stopEdge m ≤ charge b := by
  have hanswer := resGetBatteryHandler_eq h.max_capacity h.charged_capacity h.nonneg h.le
  unfold readSoc at hrecovered
  split_ifs at hrecovered
  · by_cases hformat : Formattable m
    · have hlt := tenths_lt hformat
      have hle := tenths_le_tenths h.le
      rw [hanswer, if_pos hformat, getBatterySoc_report hdepth b hlt (by omega)] at hrecovered
      exact (socRecovered_report hformat h.nonneg h.le).mp hrecovered
    · rw [hanswer, if_neg hformat] at hrecovered
      obtain ⟨q, hq, -⟩ := hrecovered
      cases hq
  · obtain ⟨q, hq, -⟩ := hrecovered
    cases hq

section

variable {py : Interp} {m c : ℚ}

theorem charged_step (hm : 0 < m) (s : State) (cycle : Cycle ν) (h : Charged m s.battery) :
    Charged m (step py s cycle).battery := (battery_step hm h _).1

/-- The charge is in its range all along. -/
theorem charged_run (hm : 0 < m) (h0 : 0 ≤ c) (hc : c ≤ m) (es : List (Cycle ν)) :
    Charged m (run (step py) (boot m c) es).battery :=
  run_invariant' (I := fun s : State => Charged m s.battery) (charged_step hm)
    (charged_boot h0 hc) es

/-- Over a run the charge changes by no more than the two limits in each cycle. -/
theorem charge_run (hm : 0 < m) {s : State} (h : Charged m s.battery) (es : List (Cycle ν)) :
    charge (run (step py) s es).battery ≤ charge s.battery + es.length • ClosedLoop.maxRise ∧
      charge s.battery ≤ charge (run (step py) s es).battery + es.length • maxFall :=
  ⟨@run_le_add_nsmul State (Cycle ν) ℚ _ _ _ (step py) _ (fun s => charge s.battery) _
      (charged_step hm) (fun _ _ hs => (battery_step hm hs _).2.1) s h es,
    @le_run_add_nsmul State (Cycle ν) ℚ _ _ _ (step py) _ (fun s => charge s.battery) _
      (charged_step hm) (fun _ _ hs => (battery_step hm hs _).2.2) s h es⟩

/-- A start finds the charge below the edge. -/
theorem SwitchesTo.charge_lt (hdepth : 0 < py.recursionLimit) {s : State} {cycle : Cycle ν}
    (h : Charged m s.battery) (hon : SwitchesTo true py s cycle) :
    charge s.battery < startEdge m := by
  obtain ⟨hflag, hstep⟩ := hon
  rw [step, hflag] at hstep
  exact charge_lt_of_socLow hdepth h ((DieselHysteresis.step_false _).mp hstep).low

/-- A stop finds the charge at the other edge or above it. -/
theorem SwitchesTo.le_charge (hdepth : 0 < py.recursionLimit) {s : State} {cycle : Cycle ν}
    (h : Charged m s.battery) (hoff : SwitchesTo false py s cycle) :
    stopEdge m ≤ charge s.battery := by
  obtain ⟨hflag, hstep⟩ := hoff
  rw [step, hflag] at hstep
  exact le_charge_of_socRecovered hdepth h ((DieselHysteresis.step_true _).mp hstep).recovered

/-- The diesel runs for a while, and rests for a while. From a start to the next stop there are more
cycles than the largest charge of a cycle goes into the distance between the edges of the two
thresholds, and from a stop to the next start more than the largest discharge of a cycle does,
whatever is lost on the way and whatever the powers are. -/
theorem diesel_dwell (hdepth : 0 < py.recursionLimit) (hm : 0 < m) (h0 : 0 ≤ c) (hc : c ≤ m)
    (pre mid : List (Cycle ν)) (first last : Cycle ν) :
    (SwitchesTo true py (run (step py) (boot m c) pre) first →
      SwitchesTo false py (run (step py) (boot m c) (pre ++ first :: mid)) last →
      stopEdge m - startEdge m < (first :: mid).length • ClosedLoop.maxRise) ∧
    (SwitchesTo false py (run (step py) (boot m c) pre) first →
      SwitchesTo true py (run (step py) (boot m c) (pre ++ first :: mid)) last →
      stopEdge m - startEdge m < (first :: mid).length • maxFall) := by
  -- Both ends of the part are states of runs, so the charge is known to be within the capacity.
  have hbefore := @charged_run ν py m c hm h0 hc pre
  have hafter := @charged_run ν py m c hm h0 hc (pre ++ first :: mid)
  constructor
  · intro hon hoff
    have hlow := hon.charge_lt hdepth hbefore
    have hhigh := hoff.le_charge hdepth hafter
    rw [run_append] at hhigh
    -- From below the one edge to above the other, at most one rise a cycle.
    have hrise := (@charge_run ν py m hm _ hbefore (first :: mid)).1
    linarith
  · intro hoff hon
    have hhigh := hoff.le_charge hdepth hbefore
    have hlow := hon.charge_lt hdepth hafter
    rw [run_append] at hlow
    have hfall := (@charge_run ν py m hm _ hbefore (first :: mid)).2
    linarith

/-- The build's battery of 10 kWh, from any charge: the diesel runs for at least 756 cycles, which
take an hour, and rests for at least 504. -/
theorem diesel_dwell_build (hdepth : 0 < py.recursionLimit) (h0 : 0 ≤ c) (hc : c ≤ 10)
    (pre mid : List (Cycle ν)) (first last : Cycle ν) :
    (SwitchesTo true py (run (step py) (boot 10 c) pre) first →
      SwitchesTo false py (run (step py) (boot 10 c) (pre ++ first :: mid)) last →
      756 ≤ (first :: mid).length) ∧
    (SwitchesTo false py (run (step py) (boot 10 c) pre) first →
      SwitchesTo true py (run (step py) (boot 10 c) (pre ++ first :: mid)) last →
      504 ≤ (first :: mid).length) := by
  have hedges : stopEdge 10 - startEdge 10 = 21 / 10 := by decide +kernel
  have hdwell := diesel_dwell hdepth (by norm_num : (0 : ℚ) < 10) h0 hc pre mid first last
  simp only [hedges, nsmul_eq_mul] at hdwell
  constructor
  · intro hon hoff
    have hlt := hdwell.1 hon hoff
    rw [ClosedLoop.maxRise, ← div_lt_iff₀ (by norm_num)] at hlt
    have hcast : ((755 : ℕ) : ℚ) < ((first :: mid).length : ℕ) := by
      refine lt_trans ?_ hlt
      norm_num
    exact_mod_cast hcast
  · intro hoff hon
    have hlt := hdwell.2 hoff hon
    rw [maxFall, ← div_lt_iff₀ (by norm_num)] at hlt
    have hcast : ((503 : ℕ) : ℚ) < ((first :: mid).length : ℕ) := by
      refine lt_trans ?_ hlt
      norm_num
    exact_mod_cast hcast

end

/-- The build's battery starts with half of its capacity. -/
theorem diesel_dwell_build_half :
    (∀ (pre mid : List (Cycle Node)) (first last : Cycle Node),
      SwitchesTo true .cpython (run (step .cpython) (boot 10 5) pre) first →
      SwitchesTo false .cpython (run (step .cpython) (boot 10 5) (pre ++ first :: mid)) last →
      756 ≤ (first :: mid).length) ∧
    (∀ (pre mid : List (Cycle Node)) (first last : Cycle Node),
      SwitchesTo false .cpython (run (step .cpython) (boot 10 5) pre) first →
      SwitchesTo true .cpython (run (step .cpython) (boot 10 5) (pre ++ first :: mid)) last →
      504 ≤ (first :: mid).length) := by
  have hdwell := fun pre mid (first last : Cycle Node) =>
    @diesel_dwell_build Node Interp.cpython 5 (by decide) (by norm_num) (by norm_num) pre mid first
      last
  exact ⟨fun pre mid first last => (hdwell pre mid first last).1,
    fun pre mid first last => (hdwell pre mid first last).2⟩

end EnergyStation.System.DieselDwell
