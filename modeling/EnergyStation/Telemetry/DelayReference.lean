import EnergyStation.Cloud.InfluxdbConnect
import EnergyStation.Lib.Runs

/-!
# The delay state of a node against its reference

Whatever the traffic, the entries of one node in the delay tables depend on that node's messages
alone (`node_run`), and are what the definition of the delay says: the delay of a message is its gap
less the smallest gap up to it, and the delay state is taken from the last five delays
(`run_track_eq_ofGaps`).
-/

namespace EnergyStation.Telemetry

open Python Cloud Runs Window
open Binary64

/-- A message that reaches `save_to_influxdb`. -/
structure Message where
  /-- The decoded payload. -/
  payload : Val
  /-- The arrival time. -/
  received_ms : ℤ
  /-- The point can be written. -/
  accepts : Bool

/-- What a message does to the delay tables, whatever `save_to_influxdb` raises. -/
def receive (py : Interp) (t : DelayTables) (m : Message) : DelayTables :=
  match measuredGap py m.payload m.received_ms with
  | .ok (_, k, gap) => (t.track py k gap).2
  | .error _ => t

/-- `save_to_influxdb` changes the tables as the message does. -/
theorem saveToInfluxdb_receive (py : Interp) (m : Message) (s : Store) :
    (saveToInfluxdb py m.accepts m.payload m.received_ms s).2.tables = receive py s.tables m := by
  rw [saveToInfluxdb_tables, receive]
  cases measuredGap py m.payload m.received_ms <;> rfl

/-- The gap of a message of the node. -/
def gapOf (py : Interp) (k : Key) (m : Message) : Option ℤ :=
  match measuredGap py m.payload m.received_ms with
  | .ok (_, k', gap) => if k' = k then some gap else none
  | .error _ => none

/-- The floats of delays. -/
def doubles (ds : List ℤ) : List ℚ := ds.map fun d : ℤ => nearest d

/-- The float of one more delay goes into the window of floats. -/
theorem push_doubles (n : ℕ) (ds : List ℤ) (d : ℤ) :
    push n (doubles (ds.rtake n)) (nearest d) = doubles ((ds ++ [d]).rtake n) := by
  unfold doubles
  rw [← rtake_map, push_rtake, ← rtake_map, List.map_append, List.map_singleton]

/-- The entries of a node whose messages had the given gaps. -/
def NodeDelay.ofGaps (py : Interp) (gaps : List ℤ) : NodeDelay where
  offset := runMin none gaps
  window := doubles ((excess gaps).rtake congestionWindowSize)
  state :=
    if gaps = [] then none
    else some (.ofWindow py (doubles ((excess gaps).rtake congestionWindowSize)))

/-- The node is congested. -/
def congested (t : DelayTables) (k : Key) : Bool :=
  ((t.node k).state.map DelayState.congested).getD false

/-- The entries of a node after any traffic are those after its own messages. -/
theorem node_run (py : Interp) (k : Key) (t : DelayTables) (ms : List Message) :
    (run (receive py) t ms).node k =
      run (Cloud.NodeDelay.track py) (t.node k) (ms.filterMap (gapOf py k)) := by
  apply run_project (fun t : DelayTables => t.node k) (gapOf py k)
  · intro t m gap hgap
    unfold gapOf at hgap
    split at hgap
    · rename_i o k' gap' hm
      split_ifs at hgap with hk
      rw [← Option.some.inj hgap, ← hk]
      show (receive py t m).node k' = (t.node k').track py gap'
      simp only [receive, hm]
      rw [track_node, if_pos rfl]
    · cases hgap
  · intro t m hgap
    show (receive py t m).node k = t.node k
    unfold gapOf at hgap
    split at hgap
    · rename_i o k' gap' hm
      split_ifs at hgap with hk
      simp only [receive, hm]
      rw [track_node, if_neg fun h => hk h.symm]
    · rename_i e hm
      simp only [receive, hm]

/-- The delays that `float` converts. -/
def floatDelays (gaps : List ℤ) : List ℤ := (excess gaps).filter fun d => (d : ℚ) < floatOverflow

/-- The log line about each new smallest gap can be written. -/
def AllLogged (py : Interp) (gaps : List ℤ) : Prop :=
  ∀ pre gap, pre ++ [gap] <+: gaps → Logged py (runMin none pre) gap

/-- A log line about two gaps that can be written can be written. -/
theorem allLogged_of_printable {py : Interp} {gaps : List ℤ} (h : ∀ gap ∈ gaps, Printable py gap) :
    AllLogged py gaps := by
  intro pre gap hpre
  have hgap : Printable py gap := h gap (hpre.subset (by simp))
  cases hmin : runMin none pre with
  | none => exact hgap
  | some m =>
    have hm : m ∈ pre := ((runMin_eq_some_iff pre m).mp hmin).1
    exact fun _ => ⟨h m (hpre.subset (List.mem_append_left _ hm)), hgap⟩

/-- The entries after messages that are all logged. A delay that `float` does not convert is missing
in the window. -/
theorem run_track {py : Interp} {gaps : List ℤ} (h : AllLogged py gaps) :
    run (Cloud.NodeDelay.track py) ⟨none, [], none⟩ gaps =
      { offset := runMin none gaps
        window := doubles ((floatDelays gaps).rtake congestionWindowSize)
        state := if floatDelays gaps = [] then none
          else some (.ofWindow py (doubles ((floatDelays gaps).rtake congestionWindowSize))) } := by
  induction gaps using List.reverseRecOn with
  | nil => rfl
  | append_singleton gaps gap ih =>
    have hlog : Logged py (runMin none gaps) gap := h gaps gap (List.prefix_refl _)
    have hprev : AllLogged py gaps := fun pre g hpre =>
      h pre g (hpre.trans (List.prefix_append gaps [gap]))
    have hexcess : excess (gaps ++ [gap]) =
        excess gaps ++ [gap - lower (runMin none gaps) gap] := excessFrom_concat none gaps gap
    have hnonneg : (0 : ℚ) ≤ (gap - lower (runMin none gaps) gap : ℤ) :=
      Int.cast_nonneg (sub_nonneg.mpr (lower_le _ _))
    rw [run_concat, ih hprev]
    unfold Cloud.NodeDelay.track
    simp only
    rw [if_pos hlog, abs_of_nonneg hnonneg]
    rcases le_or_gt floatOverflow ((gap - lower (runMin none gaps) gap : ℤ) : ℚ) with hover | hover
    · -- The exception comes after the smallest gap has been updated.
      have hsame : floatDelays (gaps ++ [gap]) = floatDelays gaps := by
        rw [floatDelays, hexcess, List.filter_append,
          List.filter_cons_of_neg (by simpa using hover), List.filter_nil, List.append_nil]
        rfl
      rw [if_pos hover, hsame, runMin_concat]
    · -- The delay goes into the window.
      have hone : floatDelays (gaps ++ [gap]) =
          floatDelays gaps ++ [gap - lower (runMin none gaps) gap] := by
        rw [floatDelays, hexcess, List.filter_append,
          List.filter_cons_of_pos (by simpa using hover), List.filter_nil]
        rfl
      have hne : floatDelays (gaps ++ [gap]) ≠ [] := by
        rw [hone]
        exact List.append_ne_nil_of_right_ne_nil _ (List.cons_ne_nil _ [])
      rw [if_neg (not_le.mpr hover), if_neg hne, hone, runMin_concat, push_doubles]

/-- The entries after messages that are all logged and whose delays are all floats. -/
theorem run_track_eq_ofGaps {py : Interp} {gaps : List ℤ} (hlog : AllLogged py gaps)
    (h : ∀ d ∈ excess gaps, (d : ℚ) < floatOverflow) :
    run (Cloud.NodeDelay.track py) ⟨none, [], none⟩ gaps = NodeDelay.ofGaps py gaps := by
  have hall : floatDelays gaps = excess gaps :=
    List.filter_eq_self.mpr fun d hd => decide_eq_true (h d hd)
  have hempty : excess gaps = [] ↔ gaps = [] := by
    rw [← List.length_eq_zero_iff, excess, length_excessFrom, List.length_eq_zero_iff]
  rw [run_track hlog, hall]
  simp only [hempty]
  rfl

/-- The mean of delays. -/
def meanDelay (ds : List ℤ) : ℚ := mean (ds.map Int.cast)

theorem meanDelay_eq (ds : List ℤ) : meanDelay ds = (ds.sum : ℤ) / ds.length := by
  have hsum : (ds.map (Int.cast : ℤ → ℚ)).sum = ((ds.sum : ℤ) : ℚ) :=
    (map_list_sum (Int.castRingHom ℚ) ds).symm
  rw [meanDelay, mean, List.length_map, hsum]

/-- The floats of delays are integers, with nearly the same sum. -/
theorem exists_doubles {ds : List ℤ} (h0 : ∀ d ∈ ds, 0 ≤ d) :
    ∃ ws : List ℤ, (doubles ds).map ExtRat.fin = ws.map (fun n : ℤ => .fin n) ∧
      ws.length = ds.length ∧ (∀ w ∈ ws, 0 ≤ w) ∧
      |((ws.sum : ℤ) - (ds.sum : ℤ) : ℚ)| ≤ (ds.sum : ℤ) / 2 ^ 53 ∧
      (ds.sum ≤ 2 ^ 53 → ws = ds) := by
  induction ds with
  | nil => exact ⟨[], rfl, rfl, List.forall_mem_nil _, by simp, fun _ => rfl⟩
  | cons d ds ih =>
    obtain ⟨hd, hds⟩ := List.forall_mem_cons.mp h0
    obtain ⟨ws, hws, hlen, hnonneg, hnear, hexact⟩ := ih hds
    obtain ⟨w, hw⟩ := exists_intCast_nearest d
    have hd' : (0 : ℚ) ≤ d := by exact_mod_cast hd
    have hw0 : (0 : ℚ) ≤ w := hw ▸ nearest_nonneg hd'
    have hround := abs_nearest_intCast_sub_le d
    rw [hw, abs_of_nonneg hd'] at hround
    have hsum : 0 ≤ ds.sum := List.sum_nonneg hds
    refine ⟨w :: ws, ?_, by simp [hlen], ?_, ?_, fun h => ?_⟩
    · rw [List.map_cons, ← hws, ← hw]
      rfl
    · exact List.forall_mem_cons.mpr ⟨by exact_mod_cast hw0, hnonneg⟩
    · obtain ⟨hl, hh⟩ := abs_le.mp hround
      obtain ⟨hl', hh'⟩ := abs_le.mp hnear
      rw [List.sum_cons, List.sum_cons, Int.cast_add, Int.cast_add]
      exact abs_le.mpr ⟨by linarith, by linarith⟩
    · rw [List.sum_cons] at h
      have hsame : nearest d = d := nearest_intCast (by rw [abs_of_nonneg hd]; omega)
      rw [hexact (by omega), Int.cast_injective (hw.symm.trans hsame)]

/-- The quotient of an ordinary number and the length of a window. -/
theorem doubleDiv_natCast {q : ℚ} {n : ℕ} (hn : 0 < n) (hq : InRange q) :
    doubleDiv (.fin q) (.fin n) = .fin (nearest (q / n)) := by
  have hn' : (1 : ℚ) ≤ n := by exact_mod_cast hn
  have hrange : InRange (q / n) := by
    unfold InRange at hq ⊢
    rw [abs_div, abs_of_nonneg (by positivity : (0 : ℚ) ≤ n)]
    exact (div_le_self (abs_nonneg q) hn').trans_lt hq
  rw [doubleDiv, floatDiv, ExtRat.div_fin _ (by positivity), toDouble_floatOfRat hrange]

/-- The quotient of a float and the length of a window is an ordinary number exactly if the float
is. -/
theorem isFinite_doubleDiv_iff {x : ExtRat} {n : ℕ} (hn : 0 < n)
    (hx : ∀ q, x = .fin q → InRange q) :
    (doubleDiv x (.fin n)).isFinite = true ↔ x.isFinite = true := by
  have hneg : ¬ (n : ℚ) < 0 := not_lt.mpr (Nat.cast_nonneg n)
  cases x with
  | fin q =>
    rw [doubleDiv_natCast hn (hx q rfl)]
    exact iff_of_true rfl rfl
  | nan => simp [doubleDiv, floatDiv, toDouble]
  | posInf => simp [doubleDiv, floatDiv, ExtRat.div, hneg, toDouble]
  | negInf => simp [doubleDiv, floatDiv, ExtRat.div, hneg, toDouble]

/-- The relative error of the quotient of an integer and the length of a window. The quotient is
zero, or far above the smallest normal double. -/
theorem abs_nearest_div_sub_le {s : ℤ} {n : ℕ} (hs : 0 ≤ s) (hn : 0 < n) (hn5 : n ≤ 5) :
    |nearest (s / n) - s / n| ≤ (s / n : ℚ) / 2 ^ 53 := by
  have hn' : (0 : ℚ) < n := by exact_mod_cast hn
  rcases hs.eq_or_lt with rfl | hpos
  · simp
  · have hs' : (1 : ℚ) ≤ s := by exact_mod_cast hpos
    have hfifth : (1 / 5 : ℚ) ≤ s / n :=
      div_le_div₀ (by linarith) hs' hn' (by exact_mod_cast hn5)
    have hnormal : (2 : ℚ) ^ (-1022 : ℤ) ≤ 1 / 5 :=
      (zpow_le_zpow_right₀ one_le_two (by norm_num : (-1022 : ℤ) ≤ -3)).trans (by norm_num)
    obtain ⟨hlow, hhigh⟩ := nearest_bounds (hnormal.trans hfifth)
    exact abs_le.mpr ⟨by linarith, by linarith⟩

section Mean

variable (py : Interp) {ds : List ℤ}

/-- The mean of a window of delays is an ordinary number exactly if `sum` overflows nowhere. -/
theorem isFinite_avgDelayMs_iff (hne : ds ≠ []) :
    (avgDelayMs py (doubles ds)).isFinite = true ↔ AddsUp py (doubles ds) := by
  have hlen : (doubles ds).length = ds.length := List.length_map _
  rw [← isFinite_doubleSum_iff, avgDelayMs, hlen]
  exact isFinite_doubleDiv_iff (List.length_pos_iff.mpr hne) fun q hq => inRange_of_doubleSum hq

/-- The sum of the floats of delays is the sum of the delays, up to a small relative error. -/
theorem exists_sum_near (hlen : ds.length ≤ 5) (h0 : ∀ d ∈ ds, 0 ≤ d)
    (h : AddsUp py (doubles ds)) :
    ∃ s : ℤ, doubleSum py ((doubles ds).map .fin) = .fin s ∧ 0 ≤ s ∧ InRange s ∧
      |(s - (ds.sum : ℤ) : ℚ)| ≤ 94 * (ds.sum : ℤ) / 2 ^ 53 := by
  obtain ⟨ws, hmap, hwlen, hw0, hnear, -⟩ := exists_doubles h0
  have hfin := (isFinite_doubleSum_iff py (doubles ds)).mpr h
  rw [hmap] at hfin
  obtain ⟨s, hs, hsnear⟩ := doubleSum_near py hw0 (by omega) hfin
  rw [← hmap] at hs
  have hlen5 : (ws.length : ℚ) ≤ 5 := by exact_mod_cast hwlen.trans_le hlen
  have hsum : (0 : ℚ) ≤ (ds.sum : ℤ) := by exact_mod_cast List.sum_nonneg h0
  have hwsum : (0 : ℚ) ≤ (ws.sum : ℤ) := by exact_mod_cast List.sum_nonneg hw0
  have hfactor : (18 * ws.length + 2) * ((ws.sum : ℤ) : ℚ) ≤ 92 * (ws.sum : ℤ) :=
    mul_le_mul_of_nonneg_right (by linarith) hwsum
  obtain ⟨hl, hh⟩ := abs_le.mp hnear
  obtain ⟨hsl, hsh⟩ := abs_le.mp (hsnear.trans (div_le_div_of_nonneg_right hfactor (by norm_num)))
  have hs0 : (0 : ℚ) ≤ s := by linarith
  exact ⟨s, hs, by exact_mod_cast hs0, inRange_of_doubleSum hs,
    abs_le.mpr ⟨by linarith, by linarith⟩⟩

/-- Then the mean is the mean of the delays, up to a small relative error. -/
theorem avgDelayMs_near (hne : ds ≠ []) (hlen : ds.length ≤ 5) (h0 : ∀ d ∈ ds, 0 ≤ d)
    (h : AddsUp py (doubles ds)) :
    ∃ avg, avgDelayMs py (doubles ds) = .fin avg ∧
      |avg - meanDelay ds| ≤ meanDelay ds / 2 ^ 46 := by
  have hlen0 := List.length_pos_iff.mpr hne
  have hpos : (0 : ℚ) < ds.length := by exact_mod_cast hlen0
  have hdlen : (doubles ds).length = ds.length := List.length_map _
  obtain ⟨s, hs, hs0, hrange, hdiff⟩ := exists_sum_near py hlen h0 h
  have hsum : (0 : ℚ) ≤ (ds.sum : ℤ) := by exact_mod_cast List.sum_nonneg h0
  refine ⟨nearest (s / ds.length), ?_, ?_⟩
  · rw [avgDelayMs, hs, hdlen, doubleDiv_natCast hlen0 hrange]
  · rw [meanDelay_eq]
    have hmean : |(s / ds.length - (ds.sum : ℤ) / ds.length : ℚ)| ≤
        94 * ((ds.sum : ℤ) / ds.length) / 2 ^ 53 := by
      rw [← sub_div, abs_div, abs_of_nonneg hpos.le, div_le_iff₀ hpos]
      calc |(s - (ds.sum : ℤ) : ℚ)| ≤ 94 * (ds.sum : ℤ) / 2 ^ 53 := hdiff
        _ = 94 * ((ds.sum : ℤ) / ds.length) / 2 ^ 53 * ds.length := by field_simp
    have hmean0 : (0 : ℚ) ≤ (ds.sum : ℤ) / ds.length := div_nonneg hsum hpos.le
    obtain ⟨hml, hmh⟩ := abs_le.mp hmean
    obtain ⟨hql, hqh⟩ := abs_le.mp (abs_nearest_div_sub_le hs0 hlen0 hlen)
    exact abs_le.mpr ⟨by linarith, by linarith⟩

/-- The mean of delays that are not too large is the float of the exact mean. -/
theorem avgDelayMs_of_le (hne : ds ≠ []) (h0 : ∀ d ∈ ds, 0 ≤ d) (h : ds.sum ≤ 2 ^ 53) :
    avgDelayMs py (doubles ds) = .fin (nearest (meanDelay ds)) := by
  obtain ⟨ws, hmap, -, -, -, hexact⟩ := exists_doubles h0
  rw [hexact h] at hmap
  have hdlen : (doubles ds).length = ds.length := List.length_map _
  have hrange : InRange (ds.sum : ℤ) :=
    inRange_intCast (by rw [abs_of_nonneg (List.sum_nonneg h0)]; exact h)
  rw [avgDelayMs, hmap, doubleSum_intCast py h0 h, hdlen,
    doubleDiv_natCast (List.length_pos_iff.mpr hne) hrange, meanDelay_eq]

/-- Whether the mean of delays is above the threshold is seen from their sum. -/
theorem lt_meanDelay_iff (hne : ds ≠ []) : 400 < meanDelay ds ↔ 400 * (ds.length : ℤ) < ds.sum := by
  have hpos : (0 : ℚ) < ds.length := by exact_mod_cast List.length_pos_iff.mpr hne
  rw [meanDelay_eq, lt_div_iff₀ hpos]
  constructor
  · intro h
    exact_mod_cast h
  · intro h
    exact_mod_cast h

/-- The mean of a window is above the threshold exactly if the mean of its delays is. -/
theorem ofWindow_congested_iff (hne : ds ≠ []) (hlen : ds.length ≤ 5) (h0 : ∀ d ∈ ds, 0 ≤ d) :
    (DelayState.ofWindow py (doubles ds)).congested = true ↔ 400 * (ds.length : ℤ) < ds.sum := by
  have hpos : (0 : ℚ) < ds.length := by exact_mod_cast List.length_pos_iff.mpr hne
  have hcongested : (DelayState.ofWindow py (doubles ds)).congested =
      ExtRat.lt (.fin congestionThresholdMs) (avgDelayMs py (doubles ds)) := rfl
  have hmean := lt_meanDelay_iff hne
  rw [hcongested, ← hmean, congestionThresholdMs]
  rcases le_or_gt ds.sum (2 ^ 53) with hsmall | hlarge
  · rw [avgDelayMs_of_le py hne h0 hsmall, ExtRat.lt_fin, decide_eq_true_eq]
    constructor
    · intro h
      by_contra hle
      have h400 := nearest_le (isDouble_intCast (n := 400) (by norm_num)) (not_lt.mp hle)
      rw [Int.cast_ofNat] at h400
      exact absurd h (not_lt.mpr h400)
    · intro h
      -- A mean above 400 is above it by one fifth at least, and there is a double between.
      have hint := hmean.mp h
      have hfifth : (400 + 1 / 8 : ℚ) ≤ meanDelay ds := by
        have hlen5 : (ds.length : ℚ) ≤ 5 := by exact_mod_cast hlen
        have hcast : (400 * ds.length + 1 : ℚ) ≤ (ds.sum : ℤ) := by
          exact_mod_cast Int.add_one_le_of_lt hint
        rw [meanDelay_eq, le_div_iff₀ hpos]
        linarith
      have hdouble : IsDouble (400 + 1 / 8) := ⟨3201, -3, by norm_num, by norm_num, by norm_num⟩
      have hle := le_nearest hdouble hfifth
      linarith
  · have hlarge' : (2 : ℚ) ^ 53 < (ds.sum : ℤ) := by exact_mod_cast hlarge
    have hlen5 : (ds.length : ℚ) ≤ 5 := by exact_mod_cast hlen
    have hfar : (2 ^ 50 : ℚ) ≤ meanDelay ds := by
      rw [meanDelay_eq, le_div_iff₀ hpos]
      linarith
    refine iff_of_true ?_ (by linarith)
    by_cases hadds : AddsUp py (doubles ds)
    · obtain ⟨avg, havg, hnear⟩ := avgDelayMs_near py hne hlen h0 hadds
      obtain ⟨hl, hh⟩ := abs_le.mp hnear
      rw [havg, ExtRat.lt_fin, decide_eq_true_eq]
      linarith
    · -- A sum that overflows is positive infinity.
      obtain ⟨ws, hmap, hwlen, hw0, -⟩ := exists_doubles h0
      have hspecial := Bool.eq_false_iff.mpr (mt (isFinite_doubleSum_iff py (doubles ds)).mp hadds)
      rw [hmap] at hspecial
      have hdlen : (doubles ds).length = ds.length := List.length_map _
      have hneg : ¬ (ds.length : ℚ) < 0 := by linarith
      rw [avgDelayMs, hmap, doubleSum_eq_posInf hw0 (by omega) hspecial, hdlen, doubleDiv, floatDiv,
        ExtRat.div, if_neg hneg]
      rfl

end Mean

/-- A node is congested after any traffic that is logged exactly if its last five delays are above
400 ms on average. -/
theorem congested_run_iff (py : Interp) (k : Key) (ms : List Message)
    (hlog : ∀ gap ∈ ms.filterMap (gapOf py k), Printable py gap)
    (h : ∀ d ∈ excess (ms.filterMap (gapOf py k)), (d : ℚ) < floatOverflow) :
    congested (run (receive py) DelayTables.boot ms) k = true ↔
      400 * (((excess (ms.filterMap (gapOf py k))).rtake 5).length : ℤ) <
        ((excess (ms.filterMap (gapOf py k))).rtake 5).sum := by
  unfold congested
  have hboot : DelayTables.boot.node k = ⟨none, [], none⟩ := rfl
  rw [node_run, hboot, run_track_eq_ofGaps (allLogged_of_printable hlog) h]
  generalize ms.filterMap (gapOf py k) = gaps
  unfold NodeDelay.ofGaps
  rcases List.eq_nil_or_concat gaps with rfl | ⟨gaps', gap, rfl⟩
  · simp [excess, excessFrom]
  · have hne : (excess (gaps'.concat gap)).rtake 5 ≠ [] := by
      rw [List.concat_eq_append, excess, excessFrom_concat, List.rtake_concat_succ]
      exact List.append_ne_nil_of_right_ne_nil _ (List.cons_ne_nil _ _)
    have hlen : ((excess (gaps'.concat gap)).rtake 5).length ≤ 5 := by
      rw [length_rtake]
      exact min_le_left _ _
    rw [if_neg (by simp), ← ofWindow_congested_iff py hne hlen
      fun d hd => excess_nonneg d (mem_of_mem_rtake hd)]
    simp [congestionWindowSize]

/-- A telemetry message with the node's id and a time stamp, whatever its other fields. -/
def telemetry (id : Str) (sent_ms : ℤ) (rest : Obj) : Val :=
  .dict ((Numeral.text "node_id", .str id) :: (Numeral.text "sent_ms", .int sent_ms) :: rest)

/-- The gap of a telemetry message is taken from its time stamp. -/
theorem gapOf_telemetry (py : Interp) (id : Str) (sent_ms received_ms : ℤ) (rest : Obj)
    (accepts : Bool) :
    gapOf py (.str id) ⟨telemetry id sent_ms rest, received_ms, accepts⟩ =
      some (received_ms - sent_ms) := by
  have hgap : measuredGap py (telemetry id sent_ms rest) received_ms =
      .ok ((Numeral.text "node_id", .str id) :: (Numeral.text "sent_ms", .int sent_ms) :: rest,
        .str id, received_ms - sent_ms) :=
    measuredGap_eq_ok_iff.mpr ⟨rfl, sent_ms, rfl, rfl, rfl⟩
  unfold gapOf
  rw [hgap]
  exact if_pos rfl

end EnergyStation.Telemetry
