import EnergyStation.Battery.ChargeLock
import EnergyStation.Cloud.Balance

/-!
# The cloud's clamp and the firmware's lock

The battery is commanded by `balance_loop` alone. A cycle asks for a change of at most 0.00278 kWh
upwards, in the text that the handler parses (`step_cases`), and the lock is taken before the charge
can go up twice beyond its threshold. `LoopInv` says both, `step_loopInv` is the step, and
`closed_loop` is what holds over a run.
-/

namespace EnergyStation.System.ClosedLoop

open Cloud CStdlib Firmware Firmware.Battery Numeral Python Runs

/-- A cycle of `balance_loop` with a registered battery. -/
structure Cycle where
  /-- `total_surplus_w` -/
  total_surplus_w : ExtRat
  /-- The command, if the cycle sends one, reaches the battery. -/
  delivered : Bool

/-- The battery after a cycle. -/
def step (b : Battery) (cycle : Cycle) : Battery :=
  match balanceCommand cycle.total_surplus_w with
  | some body => if cycle.delivered then (b.resPutBatteryHandler body).2 else b
  | none => b

/-- The largest charge that a command asks for: 2000 W for five seconds, to five decimals. -/
def maxRise : ℚ := 278 / 100000

/-- A command has a body. -/
theorem adjustBatteryBody_ne_nil (d : ℚ) : adjustBatteryBody (.fin d) ≠ [] := by
  simp [adjustBatteryBody, formatFixed, fixedPoint]

/-- The text of a change has one digit before the point, so it fits into the 31 bytes that the
handler copies. -/
theorem adjustBatteryBody_eq {d : ℚ} (h : |d| < 9) :
    ∃ s : List ℕ, s = signText (d < 0) ++ fixedPoint 5 (roundHalfEven (|d| * 10 ^ 5)).toNat ∧
      adjustBatteryBody (.fin d) = s.map UInt8.ofNat ∧ s.length < 32 ∧ ∀ c ∈ s, 0 < c ∧
        c < 128 := by
  have hround : roundHalfEven (|d| * 10 ^ 5) ≤ 900000 := by
    apply roundHalfEven_le
    norm_num
    linarith
  generalize hn : (roundHalfEven (|d| * 10 ^ 5)).toNat = n
  have hn' : n ≤ 900000 := by omega
  refine ⟨_, rfl, by rw [adjustBatteryBody, formatFixed, hn], ?_,
    fun c hc => signText_fixedPoint_bounds hc⟩
  have hfixed := length_fixedPoint_le (k := 5) (n := n) (j := 1) (by omega) (by omega)
  have hsign : (signText (d < 0)).length ≤ 1 := by
    unfold signText
    split_ifs
    · exact le_refl 1
    · exact Nat.zero_le 1
  rw [List.length_append]
  omega

/-- The number that the handler parses is the one that the cloud has printed. -/
theorem parseDelta_adjustBatteryBody {d : ℚ} (h : |d| < 9) :
    parseDelta (adjustBatteryBody (.fin d)) =
      .fin (if d < 0 then -((roundHalfEven (|d| * 10 ^ 5)).toNat / 10 ^ 5 : ℚ)
        else (roundHalfEven (|d| * 10 ^ 5)).toNat / 10 ^ 5) := by
  obtain ⟨s, hs, hbody, hlength, hascii⟩ := adjustBatteryBody_eq h
  rw [hbody, parseDelta, boundedString_ascii hascii hlength, hs, atof_fixedPoint]
  simp only [decide_eq_true_eq]

/-- The number that is printed for a change within the clamp is within the clamp, rounded. -/
theorem parseDelta_le_maxRise {d : ℚ} (hlow : -(maxDischargeW * 5 / 3600 / 1000) ≤ d)
    (hhigh : d ≤ maxChargeW * 5 / 3600 / 1000) :
    ∃ x ≤ maxRise, parseDelta (adjustBatteryBody (.fin d)) = .fin x := by
  norm_num [maxDischargeW] at hlow
  norm_num [maxChargeW] at hhigh
  have habs : |d| < 9 := abs_lt.mpr ⟨by linarith, by linarith⟩
  refine ⟨_, ?_, parseDelta_adjustBatteryBody habs⟩
  split_ifs with hneg
  · -- A discharge is printed with a minus sign.
    have hnonneg : (0 : ℚ) ≤ (roundHalfEven (|d| * 10 ^ 5)).toNat / 10 ^ 5 := by positivity
    norm_num [maxRise]
    linarith
  · -- 2000 W for five seconds are 277.8 of the last decimal.
    have hround : roundHalfEven (|d| * 10 ^ 5) ≤ 278 := by
      apply roundHalfEven_le
      rw [abs_of_nonneg (not_lt.mp hneg)]
      norm_num
      linarith
    have hnat : (roundHalfEven (|d| * 10 ^ 5)).toNat ≤ 278 := by omega
    have hcast : ((roundHalfEven (|d| * 10 ^ 5)).toNat : ℚ) ≤ 278 := by exact_mod_cast hnat
    rw [maxRise, div_le_div_iff₀ (by norm_num) (by norm_num)]
    linarith

/-- A cycle leaves the battery as it is, or is a command to change the charge by an ordinary number
that is no larger than the clamp allows. -/
theorem step_cases (b : Battery) (cycle : Cycle) :
    step b cycle = b ∨ ∃ x ≤ maxRise, step b cycle = (b.putDelta (.fin x)).2 := by
  obtain ⟨d, hd, hlow, hhigh⟩ := deltaKwh_bounds cycle.total_surplus_w
  obtain ⟨x, hx, hparse⟩ := parseDelta_le_maxRise hlow hhigh
  rcases hcommand : balanceCommand cycle.total_surplus_w with _ | body
  · left
    rw [step, hcommand]
  · have hbody : body = adjustBatteryBody (.fin d) := by
      unfold balanceCommand at hcommand
      split_ifs at hcommand
      rw [← Option.some.inj hcommand, hd]
    simp only [step, hcommand]
    split_ifs
    · right
      refine ⟨x, hx, ?_⟩
      rw [hbody, resPutBatteryHandler, if_neg (adjustBatteryBody_ne_nil d), hparse]
    · exact Or.inl rfl

/-- What every cycle keeps, for the capacity `m`. -/
structure LoopInv (m : ℚ) (b : Battery) : Prop where
  /-- The capacity is `m`. -/
  max_capacity : b.max_capacity = .fin m
  /-- No command of the loop sets the override. -/
  override_off : b.override_active = false
  /-- The charge is at most one command above the threshold of the lock, and not above it at all
  while the lock is free. -/
  charge : ∃ q, b.charged_capacity = .fin q ∧ 0 ≤ q ∧ q ≤ socLockThreshold * m + maxRise ∧
    (b.charging_locked = false → q ≤ socLockThreshold * m)

/-- The state after boot. -/
theorem loopInv_boot {m c : ℚ} (h0 : 0 ≤ c) (hc : c ≤ socLockThreshold * m) :
    LoopInv m (boot m c) := by
  have hrise : (0 : ℚ) ≤ maxRise := by norm_num [maxRise]
  exact ⟨rfl, rfl, c, rfl, h0, by linarith, fun _ => hc⟩

/-- A command within the clamp keeps the invariant. -/
theorem putDelta_loopInv {m x : ℚ} {b : Battery} (hm : 0 < m) (h : LoopInv m b)
    (hx : x ≤ maxRise) : LoopInv m (b.putDelta (.fin x)).2 := by
  obtain ⟨q, hq, h0, hbound, hfree⟩ := h.charge
  by_cases hr : b.refuses (.fin x) = true
  · rw [putDelta_of_refused hr]
    exact h
  · obtain ⟨hcharge, hlock⟩ := putDelta_fin_of_accepted hm h.max_capacity hq hr
    have hmax' := (putDelta_max_capacity b (.fin x)).trans h.max_capacity
    have hoverride' := (putDelta_override_active b (.fin x)).trans h.override_off
    refine ⟨hmax', hoverride', _, hcharge, le_min (le_max_right _ _) hm.le, ?_, ?_⟩
    · -- A charge is accepted only while the lock is free, where the threshold is not passed yet.
      have hsum : q + x ≤ socLockThreshold * m + maxRise := by
        rcases le_or_gt x 0 with hx0 | hx0
        · linarith
        · have hunlocked : b.charging_locked = false := by
            simpa [refuses_fin_iff, h.override_off, hx0] using hr
          linarith [hfree hunlocked]
      exact (min_le_left _ _).trans (max_le hsum (h0.trans hbound))
    · intro hunlocked
      rw [hlock] at hunlocked
      -- The latch would have set the lock at the threshold.
      have hnot : ¬ socLockThreshold ≤ min (max (q + x) 0) m / m := fun hle => by
        rw [(Latch.update_eq_true unlock_lt_lock _ _).mpr (Or.inl hle)] at hunlocked
        exact Bool.false_ne_true hunlocked.symm
      exact ((div_lt_iff₀ hm).mp (not_le.mp hnot)).le

/-- A cycle keeps the invariant. -/
theorem step_loopInv {m : ℚ} {b : Battery} (hm : 0 < m) (h : LoopInv m b) (cycle : Cycle) :
    LoopInv m (step b cycle) := by
  rcases step_cases b cycle with heq | ⟨x, hx, heq⟩
  · rw [heq]
    exact h
  · rw [heq]
    exact putDelta_loopInv hm h hx

/-- While the lock is set, a cycle does not raise the charge. -/
theorem step_charged_le {m : ℚ} {b : Battery} (hm : 0 < m) (h : LoopInv m b)
    (hlocked : b.charging_locked = true) (cycle : Cycle) :
    ExtRat.le (step b cycle).charged_capacity b.charged_capacity = true := by
  obtain ⟨q, hq, h0, -, -⟩ := h.charge
  have hrefl : ExtRat.le b.charged_capacity b.charged_capacity = true := by simp [hq]
  rcases step_cases b cycle with heq | ⟨x, -, heq⟩
  · rw [heq]
    exact hrefl
  · rw [heq]
    by_cases hr : b.refuses (.fin x) = true
    · rw [putDelta_of_refused hr]
      exact hrefl
    · -- What the locked battery accepts is a discharge.
      have hx : x ≤ 0 := by
        simpa [refuses_fin_iff, hlocked, h.override_off] using hr
      rw [(putDelta_fin_of_accepted hm h.max_capacity hq hr).1, hq, ExtRat.le_fin,
        decide_eq_true_eq]
      exact (min_le_left _ _).trans (max_le (by linarith) h0)

/-- The lock stays set through a cycle that ends above the lower threshold. -/
theorem step_locked {m : ℚ} {b : Battery} (hm : 0 < m) (h : LoopInv m b)
    (hlocked : b.charging_locked = true) (cycle : Cycle)
    (hsoc : ExtRat.lt (.fin socUnlockThreshold) (step b cycle).soc = true) :
    (step b cycle).charging_locked = true := by
  obtain ⟨q, hq, -, -, -⟩ := h.charge
  rcases step_cases b cycle with heq | ⟨x, -, heq⟩
  · rw [heq]
    exact hlocked
  · rw [heq] at hsoc ⊢
    by_cases hr : b.refuses (.fin x) = true
    · rw [putDelta_of_refused hr]
      exact hlocked
    · obtain ⟨hcharge, hlock⟩ := putDelta_fin_of_accepted hm h.max_capacity hq hr
      have hmax' := (putDelta_max_capacity b (.fin x)).trans h.max_capacity
      rw [soc_of_fin hm hmax' hcharge, ExtRat.lt_fin, decide_eq_true_eq] at hsoc
      rw [hlock, Latch.update_eq_true unlock_lt_lock]
      exact Or.inr ⟨hlocked, hsoc⟩

/-- From a set lock, a run that stays above the lower threshold leaves the lock set. -/
theorem run_locked {m : ℚ} {b : Battery} (hm : 0 < m) (h : LoopInv m b)
    (hlocked : b.charging_locked = true) {es : List Cycle}
    (hsoc : ∀ t ∈ visited step b es, ExtRat.lt (.fin socUnlockThreshold) t.soc = true) :
    LoopInv m (run step b es) ∧ (run step b es).charging_locked = true := by
  induction es generalizing b with
  | nil => exact ⟨h, hlocked⟩
  | cons e es ih =>
    have htail : ∀ t ∈ visited step (step b e) es,
        ExtRat.lt (.fin socUnlockThreshold) t.soc = true := fun t ht =>
      hsoc t (List.mem_cons_of_mem b ht)
    have hnext := htail (step b e) (mem_visited_iff.mpr ⟨[], List.nil_prefix, rfl⟩)
    exact ih (step_loopInv hm h e) (step_locked hm h hlocked e hnext) htail

/-- The closed loop from a boot with the charge up to the threshold of the lock. In every state of
every run the charge is between zero and 0.00278 kWh above the threshold. And once the lock has been
set, no cycle raises the charge as long as the state of charge stays above 75 percent. -/
theorem closed_loop {m c : ℚ} (hm : 0 < m) (h0 : 0 ≤ c) (hc : c ≤ 95 / 100 * m)
    (es : List Cycle) :
    (∀ t ∈ visited step (boot m c) es,
      ExtRat.le (.fin 0) t.charged_capacity = true ∧
        t.charged_capacity.le (.fin (95 / 100 * m + 278 / 100000)) = true) ∧
      ((run step (boot m c) es).charging_locked = true →
        ∀ (fs : List Cycle) (cycle : Cycle),
          (∀ t ∈ visited step (run step (boot m c) es) fs,
            ExtRat.lt (.fin (75 / 100)) t.soc = true) →
          (step (run step (boot m c) (es ++ fs)) cycle).charged_capacity.le
            (run step (boot m c) (es ++ fs)).charged_capacity = true) := by
  have hboot := loopInv_boot h0 hc
  have hrun := run_invariant' (I := LoopInv m) (fun s e hs => step_loopInv hm hs e) hboot
  refine ⟨?_, ?_⟩
  · intro t ht
    obtain ⟨es', -, rfl⟩ := mem_visited_iff.mp ht
    obtain ⟨q, hq, hq0, hbound, -⟩ := (hrun es').charge
    rw [hq, ExtRat.le_fin, ExtRat.le_fin]
    exact ⟨decide_eq_true hq0, decide_eq_true hbound⟩
  · intro hlocked fs cycle hsoc
    obtain ⟨hinv, hstill⟩ := run_locked hm (hrun es) hlocked hsoc
    rw [run_append]
    exact step_charged_le hm hinv hstill cycle

/-- The build's battery, started at the threshold, through a charge that sets the lock. -/
theorem closed_loop_build :
    (∀ t ∈ visited step (boot 10 (95 / 10)) [⟨.fin 2500, true⟩, ⟨.fin 2500, true⟩],
      ExtRat.le (.fin 0) t.charged_capacity = true ∧
        t.charged_capacity.le (.fin (95 / 100 * 10 + 278 / 100000)) = true) ∧
      (run step (boot 10 (95 / 10)) [⟨.fin 2500, true⟩]).charging_locked = true :=
  ⟨(closed_loop (by norm_num) (by norm_num) (by norm_num) _).1, by decide +kernel⟩

end EnergyStation.System.ClosedLoop
