import EnergyStation.Cloud.Balance
import EnergyStation.Cloud.SocQuotient
import EnergyStation.Firmware.BatteryReport
import EnergyStation.Python.JsonText

/-!
# The state of charge through the wire

The battery prints its capacities with one decimal (`format_fixed_1`), the cloud decodes the report
to doubles and divides them (`getBatterySoc_report`), and decides about the diesel from the
quotient. Rounding moves each threshold to an edge in the grid of tenths. `decidesAsTrue_iff` says
where that does not matter: the charge has to be on the same side of the threshold and of its edge.
-/

namespace EnergyStation.System.SocReading

open Cloud CStdlib Firmware Firmware.Battery Numeral Python
open Binary64 (nearest)

/-- The members of the report, with their texts. -/
def reportTexts (b : Battery) (m c : ℕ) : List (Str × List ℕ) :=
  [(text "max_capacity", fixedPoint 1 m), (text "charged_capacity", fixedPoint 1 c),
    (text "charging_locked", flagText b.charging_locked),
    (text "override", flagText b.override_active)]

/-- The members of the report, with their values. -/
def reportEntries (b : Battery) (max charged : ExtRat) : Obj :=
  [(text "max_capacity", .float max), (text "charged_capacity", .float charged),
    (text "charging_locked", .bool b.charging_locked), (text "override", .bool b.override_active)]

/-- The report prints its members. -/
theorem reportText_eq (b : Battery) (m c : ℕ) :
    reportText b (fixedPoint 1 m) (fixedPoint 1 c) = 123 :: membersText (reportTexts b m c) := by
  have hmax : text "\x7b\"max_capacity\":" = 123 :: 34 :: (text "max_capacity" ++ [34, 58]) := rfl
  have hcharged : text ",\"charged_capacity\":" =
      44 :: 34 :: (text "charged_capacity" ++ [34, 58]) :=
    rfl
  have hlocked : text ",\"charging_locked\":" = 44 :: 34 :: (text "charging_locked" ++ [34, 58]) :=
    rfl
  have hoverride : text ",\"override\":" = 44 :: 34 :: (text "override" ++ [34, 58]) := rfl
  have hclose : text "\x7d" = [125] := rfl
  unfold reportText
  rw [hmax, hcharged, hlocked, hoverride, hclose]
  simp [reportTexts, membersText]

/-- A number of tenths that fits into a `long` is read as it is. -/
theorem reads_tenths (py : Interp) (depth : ℕ) {n : ℕ} (hn : n < 2 ^ 31) :
    Reads (scanValue py depth) (fixedPoint 1 n) (.float (.fin (n / 10))) := by
  have h := reads_fixedPoint py depth Nat.one_pos n
  have hlt := natDiv_lt_floatOverflow (a := n) (b := 10) (by omega) (by norm_num)
  have hfloat := floatOfRat_natDiv hlt (by norm_num) (by norm_num)
  rw [Nat.cast_ofNat] at hfloat
  rwa [pow_one, hfloat] at h

/-- The members of the report are read as they are. -/
theorem prints_report (py : Interp) (depth : ℕ) (b : Battery) {m c : ℕ} (hm : m < 2 ^ 31)
    (hc : c < 2 ^ 31) :
    Prints (scanValue py depth) (reportTexts b m c)
      (reportEntries b (.fin (m / 10)) (.fin (c / 10))) := by
  have hplain : ∀ key ∈ [text "max_capacity", text "charged_capacity", text "charging_locked",
      text "override"], ∀ c ∈ key, isPlain c = true := by decide
  unfold Prints reportTexts reportEntries
  -- The four members, in the order in which they are printed.
  refine .cons ⟨rfl, ?_, reads_tenths py depth hm⟩ (.cons ⟨rfl, ?_, reads_tenths py depth hc⟩
    (.cons ⟨rfl, ?_, reads_bool py depth b.charging_locked⟩
      (.cons ⟨rfl, ?_, reads_bool py depth b.override_active⟩ .nil)))
  · exact hplain _ (by simp)
  · exact hplain _ (by simp)
  · exact hplain _ (by simp)
  · exact hplain _ (by simp)

/-- The keys of the report are different, so none replaces another. -/
theorem foldl_reportEntries (b : Battery) (max charged : ExtRat) :
    (reportEntries b max charged).foldl (fun o e => Assoc.set o e.1 e.2) [] =
      reportEntries b max charged := rfl

theorem item_max_capacity (b : Battery) (max charged : ExtRat) :
    item? (.dict (reportEntries b max charged)) "max_capacity" = some (.float max) := rfl

theorem item_charged_capacity (b : Battery) (max charged : ExtRat) :
    item? (.dict (reportEntries b max charged)) "charged_capacity" = some (.float charged) := rfl

/-- The characters of the report are those of an ASCII text. -/
theorem reportText_lt (b : Battery) {m c x : ℕ}
    (h : x ∈ reportText b (fixedPoint 1 m) (fixedPoint 1 c)) : x < 128 := by
  have hfixed : ∀ n x, x ∈ fixedPoint 1 n → x < 128 := by
    intro n x hx
    have hbounds := fixedPoint_bounds hx
    omega
  have hflag : ∀ v, ∀ x ∈ flagText v, x < 128 := by decide
  have htext : ∀ t ∈ [text "\x7b\"max_capacity\":", text ",\"charged_capacity\":",
      text ",\"charging_locked\":", text ",\"override\":", text "\x7d"], ∀ x ∈ t, x < 128 := by
    decide
  -- The text is put together from nine parts.
  simp only [reportText, List.mem_append] at h
  rcases h with ((((((((h | h) | h) | h) | h) | h) | h) | h) | h)
  · exact htext _ (by simp) x h
  · exact hfixed m x h
  · exact htext _ (by simp) x h
  · exact hfixed c x h
  · exact htext _ (by simp) x h
  · exact hflag _ x h
  · exact htext _ (by simp) x h
  · exact hflag _ x h
  · exact htext _ (by simp) x h

/-- The cloud decodes the report to its members. -/
theorem loadBody_report {py : Interp} (hdepth : 0 < py.recursionLimit) (b : Battery) {m c : ℕ}
    (hm : m < 2 ^ 31) (hc : c < 2 ^ 31) :
    loadBody py ((reportText b (fixedPoint 1 m) (fixedPoint 1 c)).map UInt8.ofNat) =
      .ok (.dict (reportEntries b (.fin (m / 10)) (.fin (c / 10)))) := by
  -- The report nests one object.
  obtain ⟨depth, hlimit⟩ : ∃ depth, py.recursionLimit = depth + 1 :=
    ⟨py.recursionLimit - 1, by omega⟩
  have hbytes : ∀ x ∈ (reportText b (fixedPoint 1 m) (fixedPoint 1 c)).map UInt8.ofNat,
      x < 0x80 := by
    intro x hx
    obtain ⟨n, hn, rfl⟩ := List.mem_map.mp hx
    have hlt := reportText_lt b hn
    have hnat : (UInt8.ofNat n).toNat = n :=
      UInt8.toNat_ofNat_of_lt' (by norm_num [UInt8.size]; omega)
    have hbound : (0x80 : UInt8).toNat = 128 := rfl
    rw [UInt8.lt_iff_toNat_lt, hnat, hbound]
    exact hlt
  have hne : reportTexts b m c ≠ [] := List.cons_ne_nil _ _
  unfold loadBody
  rw [utf8Decode_ascii hbytes, map_toNat_ofNat fun x hx => reportText_lt b hx, reportText_eq]
  simp only [jsonLoads_membersText hlimit (prints_report py depth b hm hc) hne,
    foldl_reportEntries]

/-- The quotient of two numbers of tenths. -/
theorem trueDiv_tenths {m c : ℕ} (hm0 : 0 < m) (hc : c < 2 ^ 31) :
    trueDiv (.float (.fin (c / 10))) (.float (.fin (m / 10))) =
      some (.fin (nearest (readTenths c / readTenths m))) := by
  have hpos := readTenths_pos hm0
  have hm' : (1 : ℚ) ≤ m := by exact_mod_cast hm0
  have hc' : (c : ℚ) ≤ 2 ^ 31 := by exact_mod_cast hc.le
  obtain ⟨hclow, hchigh⟩ := readTenths_bounds c
  have hmlow := (readTenths_bounds m).1
  have hrange : Python.InRange (readTenths c / readTenths m) := by
    have hc0 : (0 : ℚ) ≤ c := Nat.cast_nonneg c
    have hle : readTenths c / readTenths m ≤ 2 ^ 32 := by
      rw [div_le_iff₀ hpos]
      linarith
    unfold Python.InRange
    rw [abs_of_nonneg (div_nonneg (by linarith) hpos.le)]
    exact hle.trans_lt ((pow_lt_pow_right₀ (by norm_num) (by norm_num)).trans_le
      (two_pow_le_floatOverflow (n := 33) (by norm_num)))
  have hdiv : doubleDiv (.fin (readTenths c)) (.fin (readTenths m)) =
      .fin (nearest (readTenths c / readTenths m)) := by
    rw [doubleDiv, floatDiv, ExtRat.div_fin _ hpos.ne', toDouble_floatOfRat hrange]
  have hzero : ¬ (ExtRat.fin (readTenths m) = .fin 0) := fun h => hpos.ne' (ExtRat.fin.inj h)
  have hmread : toDouble (.fin (m / 10)) = .fin (readTenths m) := rfl
  have hcread : toDouble (.fin (c / 10)) = .fin (readTenths c) := rfl
  simp only [trueDiv, toNum, Option.bind_some, Python.Num.div, Python.Num.toFloat?, hmread, hcread,
    if_neg hzero, hdiv]

/-- The state of charge that the cloud computes from the report, which is the rounded quotient of
what it reads of the tenths. -/
theorem getBatterySoc_report {py : Interp} (hdepth : 0 < py.recursionLimit) (b : Battery) {m c : ℕ}
    (hm : m < 2 ^ 31) (hc : c < 2 ^ 31) :
    getBatterySoc py (some ⟨.content,
        (reportText b (fixedPoint 1 m) (fixedPoint 1 c)).map UInt8.ofNat⟩) =
      if m = 0 then none else some (.fin (nearest (readTenths c / readTenths m))) := by
  have hstate : getBatteryState py ⟨.content,
      (reportText b (fixedPoint 1 m) (fixedPoint 1 c)).map UInt8.ofNat⟩ =
        .ok (.dict (reportEntries b (.fin (m / 10)) (.fin (c / 10)))) := by
    rw [getBatteryState, if_pos Code.isSuccessful_content, loadBody_report hdepth b hm hc]
  -- A capacity that is printed as zero gives no state of charge.
  have hempty : leZero (.float (.fin (m / 10))) = some (decide (m = 0)) := by
    have hle : (m / 10 : ℚ) ≤ 0 ↔ m = 0 := by
      rw [div_le_iff₀ (by norm_num), zero_mul]
      exact_mod_cast Nat.le_zero
    simp only [leZero, toNum, Option.map_some, ExtRat.le_fin, hle]
  rw [getBatterySoc, Option.bind_some, hstate, Except.toOption, Option.bind_some, batterySoc,
    item_max_capacity, Option.bind_some, hempty, Option.bind_some, item_charged_capacity,
    Option.bind_some]
  rcases Nat.eq_zero_or_pos m with rfl | hm0
  · rw [if_pos rfl, decide_eq_true rfl, if_pos rfl]
  · rw [trueDiv_tenths hm0 hc, if_neg hm0.ne', decide_eq_false hm0.ne',
      if_neg Bool.false_ne_true]

/-- The tenths from which the cloud sees no need for a start, for a capacity in tenths: a fifth of
them, rounded up. At a fifth exactly it still sees a need where the reading falls short. -/
def startTenths (max : ℕ) : ℕ :=
  if 5 ∣ max ∧ FallsShort (max / 5) then max / 5 + 1 else (max + 4) / 5

/-- The charge from which the cloud sees no need for a start. -/
def startEdge (max : ℚ) : ℚ := (startTenths (tenths max) - 1 / 2) / 10

/-- The charge from which the cloud sees a recovered battery: two fifths of the tenths, rounded
down. -/
def stopEdge (max : ℚ) : ℚ := ((2 * tenths max / 5 : ℕ) + 1 / 2) / 10

/-- The charge is on the same side of either threshold and of the edge that stands for it. -/
def OutsideBands (max charged : ℚ) : Prop :=
  (charged < startEdge max ↔ charged < 20 / 100 * max) ∧
    (stopEdge max ≤ charged ↔ 40 / 100 * max < charged)

/-- The tenths of a number that is not negative are its tenths rounded. -/
theorem cast_tenths {q : ℚ} (h : 0 ≤ q) : (tenths q : ℚ) = (⌊10 * q + 1 / 2⌋ : ℤ) := by
  have hfloor : 0 ≤ ⌊10 * q + 1 / 2⌋ := Int.floor_nonneg.mpr (by linarith)
  have hnat : ((tenths q : ℕ) : ℤ) = ⌊10 * q + 1 / 2⌋ := Int.toNat_of_nonneg hfloor
  rw [← hnat, Int.cast_natCast]

theorem tenths_le_tenths {p q : ℚ} (h : p ≤ q) : tenths p ≤ tenths q :=
  Int.toNat_le_toNat (Int.floor_le_floor (by linarith))

/-- The rounded charge is below a number of tenths exactly when the charge is below its edge. -/
theorem tenths_lt_iff {c : ℚ} (h : 0 ≤ c) (n : ℕ) : tenths c < n ↔ c < (n - 1 / 2) / 10 := by
  have hcast : tenths c < n ↔ ((⌊10 * c + 1 / 2⌋ : ℤ) : ℚ) < (n : ℤ) := by
    rw [← cast_tenths h, Int.cast_natCast, Nat.cast_lt]
  rw [hcast, Int.cast_lt, Int.floor_lt, lt_div_iff₀ (by norm_num), Int.cast_natCast]
  constructor
  · intro h
    linarith
  · intro h
    linarith

/-- The rounded charge is above it exactly when the charge has reached the next edge. -/
theorem lt_tenths_iff {c : ℚ} (h : 0 ≤ c) (n : ℕ) : n < tenths c ↔ (n + 1 / 2) / 10 ≤ c := by
  have hnext := tenths_lt_iff h (n + 1)
  rw [← not_le, ← Nat.lt_succ_iff, hnext, not_lt, div_le_iff₀ (by norm_num),
    div_le_iff₀ (by norm_num)]
  push_cast
  constructor
  · intro h
    linarith
  · intro h
    linarith

/-- A known state of charge is below the dispatch threshold. -/
theorem socLow_fin (q : ℚ) : SocLow (some (.fin q)) ↔ q < dieselDispatchSoc := by
  simp [SocLow]

/-- A known state of charge is above the recovery threshold. -/
theorem socRecovered_fin (q : ℚ) : SocRecovered (some (.fin q)) ↔ dieselRecoverSoc < q := by
  simp [SocRecovered]

/-- The numbers of tenths at which the battery is found low. -/
theorem lt_startTenths_iff {m c : ℕ} (hm0 : 0 < m) :
    c < startTenths m ↔ 5 * c < m ∨ 5 * c = m ∧ FallsShort c := by
  unfold startTenths
  split_ifs with h
  · obtain ⟨⟨k, rfl⟩, hshort⟩ := h
    rw [Nat.mul_div_cancel_left k (by norm_num)] at hshort ⊢
    constructor
    · intro hlt
      rcases Nat.lt_succ_iff_lt_or_eq.mp hlt with hlt | rfl
      · exact .inl (by omega)
      · exact .inr ⟨rfl, hshort⟩
    · omega
  · constructor
    · intro hlt
      exact .inl (by omega)
    · rintro (hlt | ⟨rfl, hshort⟩)
      · omega
      · rw [Nat.mul_div_cancel_left c (by norm_num)] at h
        exact absurd ⟨⟨c, rfl⟩, hshort⟩ h

/-- The state of charge that the report tells, which is unknown where the capacity is printed as
zero, is below the dispatch threshold exactly when the charge is below the edge. -/
theorem socLow_report {m c : ℚ} (hm : Formattable m) (h0 : 0 ≤ c) (hcm : c ≤ m) :
    SocLow (if tenths m = 0 then none
      else some (.fin (nearest (readTenths (tenths c) / readTenths (tenths m))))) ↔
      c < startEdge m := by
  unfold startEdge
  rw [← tenths_lt_iff h0]
  rcases Nat.eq_zero_or_pos (tenths m) with hzero | hpos
  · -- A capacity that is printed as zero has a charge that is, too.
    have hle := tenths_le_tenths hcm
    have hc : tenths c = 0 := by omega
    rw [hzero, hc, if_pos rfl]
    exact iff_of_false (by simp [SocLow]) (by decide +kernel)
  · rw [if_neg hpos.ne', socLow_fin, socLow_quotient_iff hpos (tenths_lt hm),
      lt_startTenths_iff hpos]

/-- It is above the recovery threshold exactly when the charge has reached the edge. -/
theorem socRecovered_report {m c : ℚ} (hm : Formattable m) (h0 : 0 ≤ c) (hcm : c ≤ m) :
    SocRecovered (if tenths m = 0 then none
      else some (.fin (nearest (readTenths (tenths c) / readTenths (tenths m))))) ↔
      stopEdge m ≤ c := by
  unfold stopEdge
  rw [← lt_tenths_iff h0]
  rcases Nat.eq_zero_or_pos (tenths m) with hzero | hpos
  · have hle := tenths_le_tenths hcm
    have hc : tenths c = 0 := by omega
    rw [hzero, hc, if_pos rfl]
    simp [SocRecovered]
  · rw [if_neg hpos.ne', socRecovered_fin, socRecovered_quotient_iff hpos (tenths_lt hm)]
    omega

/-- The command that the true state of charge asks for: a start below 20 percent in a deficit, a
stop above 40 percent. -/
def trueCommand {ν : Type*} (dispatched : Bool) (node : ν) (soc surplus : ExtRat) :
    Option (ν × Bool) :=
  if dispatched = false ∧ soc.lt (.fin (20 / 100)) = true ∧ surplus.lt (.fin 0) = true then
    some (node, true)
  else if dispatched = true ∧ ExtRat.lt (.fin (40 / 100)) soc = true then some (node, false)
  else none

/-- The battery answers, and the cloud decides from the answer as the battery's true state of charge
asks for, whatever the surplus and the flag are. -/
def DecidesAsTrue {ν : Type*} (py : Interp) (node : ν) (b : Battery) : Prop :=
  ∃ response, b.resGetBatteryHandler = some response ∧ ∀ dispatched surplus,
    dieselCommand dispatched (some node) (getBatterySoc py (some response)) surplus =
      trueCommand dispatched node b.soc surplus

/-- For a positive capacity and a charge up to it, the cloud decides from the reading as from the
true state of charge exactly when the capacity is in the range of the formatter and the charge is
not between a threshold and its edge. The interpreter accepts no recursion limit of zero. -/
theorem decidesAsTrue_iff {ν : Type*} {py : Interp} (hdepth : 0 < py.recursionLimit) (node : ν)
    {b : Battery} {m c : ℚ} (hmax : b.max_capacity = .fin m)
    (hcharged : b.charged_capacity = .fin c) (hm : 0 < m) (h0 : 0 ≤ c) (hcm : c ≤ m) :
    DecidesAsTrue py node b ↔ Formattable m ∧ OutsideBands m c := by
  have hsoc : b.soc = .fin (c / m) := soc_of_fin hm hmax hcharged
  unfold DecidesAsTrue
  rw [resGetBatteryHandler_eq hmax hcharged h0 hcm, hsoc]
  by_cases hformat : Formattable m
  · have hlt := tenths_lt hformat
    have hle := tenths_le_tenths hcm
    have hreport := getBatterySoc_report hdepth b hlt (by omega : tenths c < 2 ^ 31)
    rw [if_pos hformat]
    simp only [Option.some.injEq, exists_eq_left', hreport, hformat, true_and]
    -- Equal decisions are equal sides of the two thresholds.
    unfold trueCommand
    rw [dieselCommand_eq_iff, socLow_report hformat h0 hcm, socRecovered_report hformat h0 hcm,
      ExtRat.lt_fin, ExtRat.lt_fin, decide_eq_true_eq, decide_eq_true_eq, div_lt_iff₀ hm,
      lt_div_iff₀ hm]
    rfl
  · simp [hformat]

/-- At 19.6 percent of 10 kWh the battery reports 2.0 of 10.0 kWh, and a deficit starts nothing. -/
theorem below_threshold_not_started :
    ¬ DecidesAsTrue Interp.cpython () ⟨.fin 10, .fin (196 / 100), false, false⟩ := by
  rintro ⟨response, hresponse, h⟩
  have hread : dieselCommand false (some ()) (getBatterySoc Interp.cpython
      (Battery.resGetBatteryHandler ⟨.fin 10, .fin (196 / 100), false, false⟩)) (.fin (-1)) =
        none := by
    decide +kernel
  have htrue : trueCommand false () (Battery.soc ⟨.fin 10, .fin (196 / 100), false, false⟩)
      (.fin (-1)) = some ((), true) := by
    decide +kernel
  have hsame := h false (.fin (-1))
  rw [← hresponse, hread, htrue] at hsame
  exact absurd hsame (by decide)

/-- A battery of 10 kWh at half its capacity is read as it is. -/
theorem decidesAsTrue_iff_half :
    DecidesAsTrue Interp.cpython () (Battery.boot 10 5) ↔ Formattable 10 ∧ OutsideBands 10 5 :=
  decidesAsTrue_iff (by decide) () rfl rfl (by norm_num) (by norm_num) (by norm_num)

end EnergyStation.System.SocReading
