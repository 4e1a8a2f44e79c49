import EnergyStation.System.ClosedLoop

/-!
# The commands of the balance loop keep their value

A change of the charge is clamped, written with five decimals, copied and parsed before the battery
adds it. The text has the sign of the surplus and is never cut (`balanceCommand_sound`), and the
number in it is off by half of the last decimal at most. So over a run in which the battery takes
every command as it is, the charge is off by at most that much for each cycle
(`charge_follows_commands`).
-/

namespace EnergyStation.System.ClosedLoop

open Cloud CStdlib Firmware Firmware.Battery Numeral Python Runs

/-- `delta_kwh` of a cycle, which is an ordinary number. -/
def plannedKwh (total_surplus_w : ExtRat) : ℚ :=
  match deltaKwh total_surplus_w with
  | .fin d => d
  | _ => 0

/-- Half of the last decimal of a command, in kWh. -/
def halfDecimal : ℚ := 5 / 10 ^ 6

/-- Neither comparison after the addition cuts the sum. -/
def Unclamped (b : Battery) (delta : ExtRat) : Prop :=
  (b.charged_capacity.add delta).lt (.fin 0) = false ∧
    b.max_capacity.lt (b.charged_capacity.add delta) = false

/-- The command of a cycle, if it sends one, is neither lost nor refused nor clamped. -/
def Undisturbed (b : Battery) (cycle : Cycle) : Prop :=
  ∀ body ∈ balanceCommand cycle.total_surplus_w,
    cycle.delivered = true ∧ (b.resPutBatteryHandler body).1.code = .changed ∧
      Unclamped b (parseDelta body)

instance (b : Battery) (delta : ExtRat) : Decidable (Unclamped b delta) :=
  inferInstanceAs (Decidable (_ ∧ _))

instance (b : Battery) (cycle : Cycle) : Decidable (Undisturbed b cycle) :=
  inferInstanceAs (Decidable (∀ body ∈ balanceCommand cycle.total_surplus_w, _))

theorem deltaKwh_eq_plannedKwh (total_surplus_w : ExtRat) :
    deltaKwh total_surplus_w = .fin (plannedKwh total_surplus_w) := by
  obtain ⟨d, hd, -⟩ := deltaKwh_bounds total_surplus_w
  unfold plannedKwh
  rw [hd]

/-- A change within the clamp is small. -/
theorem abs_plannedKwh_lt (total_surplus_w : ExtRat) : |plannedKwh total_surplus_w| < 9 := by
  obtain ⟨d, hd, hlow, hhigh⟩ := deltaKwh_bounds total_surplus_w
  rw [deltaKwh_eq_plannedKwh, ExtRat.fin.injEq] at hd
  norm_num [maxDischargeW] at hlow
  norm_num [maxChargeW] at hhigh
  rw [hd]
  exact abs_lt.mpr ⟨by linarith, by linarith⟩

/-- A command is the text of the change that is not zero. -/
theorem balanceCommand_eq_some {total_surplus_w : ExtRat} {body : Bytes}
    (h : balanceCommand total_surplus_w = some body) :
    body = adjustBatteryBody (.fin (plannedKwh total_surplus_w)) := by
  unfold balanceCommand at h
  split_ifs at h
  rw [← Option.some.inj h, deltaKwh_eq_plannedKwh]

/-- The number in the text of a change is off by half of the last decimal at most, and not on the
other side of zero. -/
theorem parseDelta_near {d : ℚ} (h : |d| < 9) :
    ∃ x, parseDelta (adjustBatteryBody (.fin d)) = .fin x ∧ |x - d| ≤ halfDecimal ∧
      (0 < d → 0 ≤ x) ∧ (d < 0 → x ≤ 0) := by
  have hround := abs_roundHalfEven_sub_le (|d| * 10 ^ 5)
  have hnonneg : 0 ≤ roundHalfEven (|d| * 10 ^ 5) :=
    (Int.floor_nonneg.mpr (by positivity)).trans (roundHalfEven_bounds _).1
  generalize hn : (roundHalfEven (|d| * 10 ^ 5)).toNat = n
  have hcast : (roundHalfEven (|d| * 10 ^ 5) : ℚ) = n := by
    have hint : roundHalfEven (|d| * 10 ^ 5) = n := by omega
    exact_mod_cast hint
  rw [hcast] at hround
  -- The digits are those of the absolute value.
  have hdigits : |(n : ℚ) / 10 ^ 5 - (|d|)| ≤ halfDecimal := by
    obtain ⟨hlow, hhigh⟩ := abs_le.mp hround
    unfold halfDecimal
    rw [abs_le]
    constructor <;> linarith
  have hpos : (0 : ℚ) ≤ n / 10 ^ 5 := by positivity
  refine ⟨_, parseDelta_adjustBatteryBody h, ?_, ?_, ?_⟩
  · rw [hn]
    split_ifs with hneg
    · rw [abs_of_neg hneg] at hdigits
      rw [abs_sub_comm]
      calc |d - -((n : ℚ) / 10 ^ 5)| = |(n : ℚ) / 10 ^ 5 - -d| := by congr 1; ring
        _ ≤ halfDecimal := hdigits
    · rwa [abs_of_nonneg (not_lt.mp hneg)] at hdigits
  · intro hd
    rw [hn, if_neg (not_lt.mpr hd.le)]
    exact hpos
  · intro hd
    rw [hn, if_pos hd]
    exact neg_nonpos.mpr hpos

/-- A command is a text that the handler copies whole, and the number in it is close to the change
of the cycle and never opposite to the surplus. -/
structure Sound (total_surplus_w : ExtRat) (body : Bytes) : Prop where
  /-- The text fits the 31 characters of the copy. -/
  fits : body.length ≤ 31
  /-- So the copy is the text. -/
  copy : boundedString 32 body = body.map UInt8.toNat
  /-- The number that the handler parses. -/
  value : ∃ x, parseDelta body = .fin x ∧ |x - plannedKwh total_surplus_w| ≤ halfDecimal ∧
    (ExtRat.lt (.fin 0) total_surplus_w = true → 0 ≤ x) ∧
    (total_surplus_w.lt (.fin 0) = true → x ≤ 0)

/-- Every command is sound. -/
theorem balanceCommand_sound {total_surplus_w : ExtRat} {body : Bytes}
    (h : balanceCommand total_surplus_w = some body) : Sound total_surplus_w body := by
  have hsmall := abs_plannedKwh_lt total_surplus_w
  obtain ⟨hpos, hneg⟩ := deltaKwh_sign (deltaKwh_eq_plannedKwh total_surplus_w)
  obtain ⟨s, -, hbody, hlength, hascii⟩ := adjustBatteryBody_eq hsmall
  obtain ⟨x, hparse, hnear, hcharge, hdischarge⟩ := parseDelta_near hsmall
  have hcommand := balanceCommand_eq_some h
  refine ⟨?_, ?_, x, by rw [hcommand, hparse], hnear, fun hw => hcharge (hpos.mp hw),
    fun hw => hdischarge (hneg.mp hw)⟩
  · rw [hcommand, hbody, List.length_map]
    omega
  · rw [hcommand, hbody, boundedString_ascii hascii hlength,
      map_toNat_ofNat fun c hc => (hascii c hc).2]

/-- An addition that no comparison cuts. -/
theorem charge_of_unclamped {b : Battery} {delta : ExtRat} (h : Unclamped b delta) :
    b.charge delta = b.charged_capacity.add delta := by
  unfold charge
  simp only [h.1, h.2, Bool.false_eq_true, if_false]

/-- A command that is answered 2.04 and not clamped adds its number. -/
theorem resPutBatteryHandler_of_undisturbed {b : Battery} {body : Bytes} {q x : ℚ}
    (hq : b.charged_capacity = .fin q) (hx : parseDelta body = .fin x)
    (hcode : (b.resPutBatteryHandler body).1.code = .changed)
    (hfits : Unclamped b (parseDelta body)) :
    (b.resPutBatteryHandler body).2.charged_capacity = .fin (q + x) := by
  unfold resPutBatteryHandler at hcode ⊢
  split_ifs at hcode ⊢ with hbody
  · exact absurd hcode Code.badRequest_ne_changed
  · have haccepted : ¬ b.refuses (parseDelta body) = true := by
      intro hrefuses
      rw [putDelta, if_pos hrefuses] at hcode
      exact Code.changed_ne_forbidden hcode.symm
    rw [putDelta_of_accepted haccepted, updateLockState_charged_capacity, charge_of_unclamped hfits,
      hq, hx, ExtRat.add_fin]

/-- A cycle that is not disturbed moves the charge by the change it has computed, up to half of the
last decimal. -/
theorem step_near {b : Battery} {cycle : Cycle} {q : ℚ} (hq : b.charged_capacity = .fin q)
    (h : Undisturbed b cycle) :
    ∃ x, (step b cycle).charged_capacity = .fin (q + x) ∧
      |x - plannedKwh cycle.total_surplus_w| ≤ halfDecimal := by
  rcases hcommand : balanceCommand cycle.total_surplus_w with _ | body
  · -- No command is sent for a change of zero.
    have hzero : plannedKwh cycle.total_surplus_w = 0 := by
      unfold balanceCommand at hcommand
      split_ifs at hcommand with hne
      rw [deltaKwh_eq_plannedKwh, not_not, ExtRat.fin.injEq] at hne
      exact hne
    refine ⟨0, ?_, ?_⟩
    · rw [step, hcommand, hq, add_zero]
    · rw [hzero]
      norm_num [halfDecimal]
  · obtain ⟨hdelivered, hcode, hfits⟩ := h body hcommand
    obtain ⟨x, hx, hnear, -⟩ := (balanceCommand_sound hcommand).value
    refine ⟨x, ?_, hnear⟩
    simp only [step, hcommand, if_pos hdelivered]
    exact resPutBatteryHandler_of_undisturbed hq hx hcode hfits

/-- Over a run that is not disturbed, the charge is its start and the changes of the cycles, up to
half of the last decimal for each. -/
theorem run_near {b : Battery} {c : ℚ} (hc : b.charged_capacity = .fin c) {es : List Cycle}
    (h : Along step Undisturbed b es) :
    ∃ q, (run step b es).charged_capacity = .fin q ∧
      |q - (c + (es.map fun e => plannedKwh e.total_surplus_w).sum)| ≤ es.length * halfDecimal := by
  induction es generalizing b c with
  | nil => exact ⟨c, hc, by simp⟩
  | cons e es ih =>
    obtain ⟨hfirst, hrest⟩ := h
    obtain ⟨x, hx, hnear⟩ := step_near hc hfirst
    obtain ⟨q, hq, hsum⟩ := ih hx hrest
    refine ⟨q, hq, ?_⟩
    rw [List.map_cons, List.sum_cons, List.length_cons]
    generalize (es.map fun e => plannedKwh e.total_surplus_w).sum = total at hsum
    generalize plannedKwh e.total_surplus_w = d at hnear
    calc |q - (c + (d + total))| = |(q - (c + x + total)) + (x - d)| := by congr 1; ring
      _ ≤ |q - (c + x + total)| + |x - d| := abs_add_le _ _
      _ ≤ es.length * halfDecimal + halfDecimal := add_le_add hsum hnear
      _ = ((es.length + 1 : ℕ) : ℚ) * halfDecimal := by push_cast; ring

/-- Over every run in which no command is lost, refused or clamped, the charge differs from its
start and the changes that the cycles have computed by at most 0.000005 kWh for each cycle. And
every command, of any surplus, is a text that the handler copies whole, with a number that is not
opposite to the surplus. -/
theorem charge_follows_commands {b : Battery} {c : ℚ} (hc : b.charged_capacity = .fin c)
    (es : List Cycle) (h : Along step Undisturbed b es) :
    (∃ q, (run step b es).charged_capacity = .fin q ∧
      |q - (c + (es.map fun e => plannedKwh e.total_surplus_w).sum)| ≤ es.length * (5 / 1000000)) ∧
    (∀ w, deltaKwh w = .fin (plannedKwh w)) ∧
    (∀ w body, balanceCommand w = some body → Sound w body) := by
  refine ⟨?_, deltaKwh_eq_plannedKwh, fun w body hcommand => balanceCommand_sound hcommand⟩
  obtain ⟨q, hq, hnear⟩ := run_near hc h
  refine ⟨q, hq, hnear.trans_eq ?_⟩
  norm_num [halfDecimal]

/-- A surplus beyond the clamp, a deficit, and a surplus that is printed as zero. -/
def mixedCycles : List Cycle :=
  [⟨.fin 1000000, true⟩, ⟨.fin (-700), true⟩, ⟨.fin (1 / 1000), true⟩]

/-- The build's battery through these cycles. -/
theorem charge_follows_commands_build :
    ∃ q, (run step (boot 10 5) mixedCycles).charged_capacity = .fin q ∧
      |q - (5 + (mixedCycles.map fun e => plannedKwh e.total_surplus_w).sum)| ≤
        (mixedCycles.length : ℚ) * (5 / 1000000) :=
  (charge_follows_commands (b := boot 10 5) rfl mixedCycles
    ⟨by decide +kernel, by decide +kernel, by decide +kernel, trivial⟩).1

end EnergyStation.System.ClosedLoop
