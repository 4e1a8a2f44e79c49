import EnergyStation.Telemetry.DelayReference
import Mathlib.Data.List.GetD

/-!
# The delay state against its batch definition

The definition of the delay state looks at all messages of a node at once: each gap less the
smallest gap up to it (`referenceDelays`), and the mean of the last five of these. The tables are
updated message by message, for all nodes in one stream. They hold what the definition says of every
node (`MatchesReference`) exactly where its gaps can be logged and its delays are floats with a sum
that is one (`Followed`, `matchesReference_iff`).

A message whose gap cannot be logged leaves no trace. So the gaps of a node are split at the first
that can be (`exists_split`), and the tables are those after the second part alone.
-/

namespace EnergyStation.Telemetry.BatchReference

open Python Cloud Runs Window
open Binary64 (nearest)

/-- A telemetry message whose `sent_ms` is an integer and whose `node_id` can be a key. -/
structure Packet where
  /-- The decoded payload. -/
  payload : Obj
  /-- The sending time. -/
  sent_ms : ℤ
  /-- The payload has the sending time. -/
  sent_ms_eq : payload.getD "sent_ms" (.int 0) = .int sent_ms
  /-- The key of the node. -/
  node_id : Key
  /-- The payload has the node. -/
  node_id_eq : hashKey (payload.get "node_id") = .ok node_id
  /-- The arrival time. -/
  received_ms : ℤ
  /-- The point can be written. -/
  accepts : Bool

/-- The gap of a message. -/
def Packet.gap (m : Packet) : ℤ := m.received_ms - m.sent_ms

/-- A message is saved. -/
def step (py : Interp) (s : Store) (m : Packet) : Store :=
  (saveToInfluxdb py m.accepts (.dict m.payload) m.received_ms s).2

/-- The store after a sequence of messages, from the start of the cloud. -/
def after (py : Interp) (ms : List Packet) : Store := run (step py) ⟨DelayTables.boot, []⟩ ms

/-- The gap of a message of the node. -/
def gapFor (k : Key) (m : Packet) : Option ℤ := if m.node_id = k then some m.gap else none

/-- The gaps of the node's own messages, in the order of arrival. -/
def gaps (k : Key) (ms : List Packet) : List ℤ := ms.filterMap (gapFor k)

/-- Each gap less the smallest of the gaps up to it. -/
def referenceDelays (gaps : List ℤ) : List ℤ :=
  (List.range gaps.length).map fun i => gaps.getD i 0 - (gaps.take (i + 1)).min?.getD 0

/-- The entries of a node are those of the definition, for messages with the given gaps: the window
has the floats of the last five delays, and the average is their mean up to rounding. -/
structure MatchesReference (n : NodeDelay) (gaps : List ℤ) : Prop where
  /-- The smallest gap. -/
  offset_eq : n.offset = gaps.min?
  /-- The last five delays. -/
  window_eq : n.window = doubles ((referenceDelays gaps).rtake 5)
  /-- A node that has sent nothing has no state. -/
  state_nil : gaps = [] → n.state = none
  /-- The other nodes have one. -/
  state_cons : gaps ≠ [] → ∃ s, n.state = some s ∧ s.samples = min gaps.length 5 ∧
    (s.congested = true ↔ 400 < meanDelay ((referenceDelays gaps).rtake 5)) ∧
    ∃ avg, s.avg_delay_ms = .fin avg ∧
      |avg - meanDelay ((referenceDelays gaps).rtake 5)| ≤
        meanDelay ((referenceDelays gaps).rtake 5) / 2 ^ 46 ∧
      (((referenceDelays gaps).rtake 5).sum ≤ 2 ^ 53 →
        avg = nearest (meanDelay ((referenceDelays gaps).rtake 5)))

/-- The tables can follow messages with the given gaps. -/
structure Followed (py : Interp) (gaps : List ℤ) : Prop where
  /-- The log line can write each gap below zero, which may be a new smallest one. -/
  negative : ∀ gap ∈ gaps, gap < 0 → Printable py gap
  /-- It can write a gap before the last five come, or the first one. -/
  first : gaps ≠ [] → ∃ gap ∈ gaps.take (gaps.length - min 5 gaps.length + 1), Printable py gap
  /-- The last five delays are in the range of floats. -/
  delays : ∀ d ∈ (referenceDelays gaps).rtake 5, (d : ℚ) < floatOverflow
  /-- So is their sum. -/
  adds : AddsUp py (doubles ((referenceDelays gaps).rtake 5))

/-- The delays kept up message by message are those of the definition. -/
theorem excess_eq_referenceDelays (gaps : List ℤ) : excess gaps = referenceDelays gaps := by
  induction gaps using List.reverseRecOn with
  | nil => rfl
  | append_singleton gaps gap ih =>
    -- The last delay is taken from all gaps, and the others do not see the last gap.
    have hmin : (gaps ++ [gap]).min? = some (lower (runMin none gaps) gap) := by
      rw [← runMin_none, runMin_concat]
    have hfirst : (List.range gaps.length).map (fun i => (gaps ++ [gap]).getD i 0 -
        ((gaps ++ [gap]).take (i + 1)).min?.getD 0) = referenceDelays gaps := by
      refine List.map_congr_left fun i hi => ?_
      have hlt : i < gaps.length := List.mem_range.mp hi
      rw [List.getD_append _ _ _ _ hlt, List.take_append_of_le_length hlt]
    have hlast : (gaps ++ [gap]).getD gaps.length 0 = gap := by
      simp
    have hall : (gaps ++ [gap]).take (gaps.length + 1) = gaps ++ [gap] :=
      List.take_of_length_le (by simp)
    rw [excess, excessFrom_concat, referenceDelays, List.length_append, List.length_singleton,
      List.range_succ, List.map_append, hfirst, List.map_singleton, hlast, hall, hmin, ← ih]
    rfl

/-- A message changes the entries of its own node by its gap, and no others. -/
theorem step_node (py : Interp) (s : Store) (m : Packet) (k : Key) :
    (step py s m).tables.node k =
      if k = m.node_id then (s.tables.node m.node_id).track py m.gap else s.tables.node k := by
  have hgap : measuredGap py (.dict m.payload) m.received_ms =
      .ok (m.payload, m.node_id, m.gap) := by
    refine measuredGap_eq_ok_iff.mpr ⟨rfl, m.sent_ms, ?_, m.node_id_eq, rfl⟩
    rw [m.sent_ms_eq]
    rfl
  unfold step
  rw [saveToInfluxdb_tables, hgap]
  exact track_node py s.tables m.node_id k m.gap

/-- The entries of a node are those after its own messages. -/
theorem after_node (py : Interp) (ms : List Packet) (k : Key) :
    (after py ms).tables.node k =
      run (Cloud.NodeDelay.track py) ⟨none, [], none⟩ (gaps k ms) := by
  apply run_project (fun s : Store => s.tables.node k) (gapFor k)
  · intro s m gap hgap
    unfold gapFor at hgap
    split_ifs at hgap with hk
    rw [step_node, if_pos hk.symm, hk, Option.some.inj hgap]
  · intro s m hgap
    unfold gapFor at hgap
    split_ifs at hgap with hk
    rw [step_node, if_neg fun h => hk h.symm]

section Skipped

variable {py : Interp} {p r : List ℤ}

/-- The gaps up to the first that the log line can write, and those from it on. -/
theorem exists_split (py : Interp) (gaps : List ℤ) :
    ∃ p r, gaps = p ++ r ∧ (∀ gap ∈ p, ¬ Printable py gap) ∧ ∀ gap ∈ r.head?, Printable py gap := by
  induction gaps with
  | nil => exact ⟨[], [], rfl, by simp, by simp⟩
  | cons gap gaps ih =>
    by_cases hgap : Printable py gap
    · refine ⟨[], gap :: gaps, rfl, by simp, fun g hg => ?_⟩
      rw [List.head?_cons] at hg
      rwa [← Option.some.inj hg]
    · obtain ⟨p, r, rfl, hp, hr⟩ := ih
      exact ⟨gap :: p, r, rfl, List.forall_mem_cons.mpr ⟨hgap, hp⟩, hr⟩

/-- The messages before the first that can be logged leave no trace. -/
theorem run_track_append (hp : ∀ gap ∈ p, ¬ Printable py gap) (r : List ℤ) :
    run (Cloud.NodeDelay.track py) ⟨none, [], none⟩ (p ++ r) =
      run (Cloud.NodeDelay.track py) ⟨none, [], none⟩ r := by
  induction p with
  | nil => rfl
  | cons gap p ih =>
    obtain ⟨hgap, hp⟩ := List.forall_mem_cons.mp hp
    have hsame : Cloud.NodeDelay.track py ⟨none, [], none⟩ gap = ⟨none, [], none⟩ := if_neg hgap
    rw [List.cons_append, run_cons, hsame, ih hp]

/-- The smallest gap that the tables hold can be written. -/
theorem printable_offset (py : Interp) (gaps : List ℤ) :
    ∀ offset ∈ (run (Cloud.NodeDelay.track py) ⟨none, [], none⟩ gaps).offset,
      Printable py offset := by
  refine run_invariant' (I := fun n : NodeDelay => ∀ offset ∈ n.offset, Printable py offset)
    (fun n gap hn => ?_) (by simp) gaps
  have hlower : Logged py n.offset gap → Printable py (lower n.offset gap) := by
    intro hlog
    cases hoffset : n.offset with
    | none =>
      rw [hoffset] at hlog
      exact hlog
    | some m =>
      rw [hoffset] at hlog
      simp only [lower, Option.elim_some]
      rcases le_or_gt m gap with hle | hlt
      · rw [min_eq_left hle]
        exact hn m hoffset
      · rw [min_eq_right hlt.le]
        exact (hlog hlt).2
  intro offset hoffset
  rw [Cloud.NodeDelay.track_offset] at hoffset
  split_ifs at hoffset with hlog
  · rw [← Option.some.inj hoffset]
    exact hlower hlog
  · exact hn offset hoffset

/-- A gap that cannot be written is above every one that can, where it is not below zero. -/
theorem lt_of_not_printable {a b : ℤ} (ha : ¬ Printable py a) (hb : Printable py b)
    (hneg : a < 0 → Printable py a) : b < a := by
  have h0 : 0 ≤ a := not_lt.mp fun h => ha (hneg h)
  by_contra hle
  have hab : |a| ≤ |b| := by
    rw [abs_of_nonneg h0, abs_of_nonneg (h0.trans (not_lt.mp hle))]
    exact not_lt.mp hle
  exact ha (hb.of_abs_le hab)

/-- From the first gap that can be written on, each message is logged: a new smallest gap is below
it. -/
theorem allLogged (hr : ∀ gap ∈ r.head?, Printable py gap)
    (hneg : ∀ gap ∈ r, gap < 0 → Printable py gap) : AllLogged py r := by
  have hbelow : ∀ g ∈ r.head?, ∀ gap ∈ r, gap ≤ g → Printable py gap := by
    intro g hg gap hgap hle
    by_contra hnot
    exact absurd (lt_of_not_printable hnot (hr g hg) (hneg gap hgap)) (not_lt.mpr hle)
  intro pre gap hpre
  have hgap : gap ∈ r := hpre.subset (by simp)
  cases pre with
  | nil =>
    obtain ⟨post, rfl⟩ := hpre
    exact hr gap (by simp)
  | cons g pre =>
    obtain ⟨post, rfl⟩ := hpre
    cases hmin : runMin none (g :: pre) with
    | none => exact absurd hmin (by simp [runMin_none, List.min?_cons])
    | some m =>
      obtain ⟨hm, hle⟩ := (runMin_eq_some_iff _ m).mp hmin
      intro hlt
      have hmg := hle g List.mem_cons_self
      exact ⟨hbelow g (by simp) m (List.mem_append_left _ (List.mem_append_left _ hm)) hmg,
        hbelow g (by simp) gap hgap (hlt.le.trans hmg)⟩

/-- The gaps before have no part in the smallest one. -/
theorem min?_append (hp : ∀ gap ∈ p, ¬ Printable py gap) (hr : ∀ gap ∈ r.head?, Printable py gap)
    (hneg : ∀ gap ∈ p, gap < 0 → Printable py gap) (hne : r ≠ []) : (p ++ r).min? = r.min? := by
  obtain ⟨g, r, rfl⟩ := List.exists_cons_of_ne_nil hne
  obtain ⟨m, hmin⟩ : ∃ m, (g :: r).min? = some m := by simp [List.min?_cons]
  obtain ⟨hmem, hle⟩ := List.min?_eq_some_iff.mp hmin
  rw [hmin, List.min?_eq_some_iff]
  refine ⟨List.mem_append_right _ hmem, fun gap hgap => ?_⟩
  rcases List.mem_append.mp hgap with hgap | hgap
  · have hlt := lt_of_not_printable (hp gap hgap) (hr g (by simp)) (hneg gap hgap)
    exact (hle g List.mem_cons_self).trans hlt.le
  · exact hle gap hgap

/-- Nor do they in the delays from there on. -/
theorem excess_append (hp : ∀ gap ∈ p, ¬ Printable py gap) (hr : ∀ gap ∈ r.head?, Printable py gap)
    (hneg : ∀ gap ∈ p, gap < 0 → Printable py gap) : excess (p ++ r) = excess p ++ excess r := by
  cases r with
  | nil => simp [excess, excessFrom]
  | cons g r =>
    have hlower : lower (runMin none p) g = g := by
      cases hmin : runMin none p with
      | none => rfl
      | some m =>
        have hm := ((runMin_eq_some_iff p m).mp hmin).1
        exact min_eq_right (lt_of_not_printable (hp m hm) (hr g (by simp)) (hneg m hm)).le
    rw [excess, excessFrom_append, excessFrom, hlower]
    rfl

/-- The last five gaps, or all where there are fewer, are among those from the first on that can be
written, exactly if one up to the first of the five can be. -/
theorem min_length_le_iff (hp : ∀ gap ∈ p, ¬ Printable py gap)
    (hr : ∀ gap ∈ r.head?, Printable py gap) (hne : p ++ r ≠ []) :
    min 5 (p ++ r).length ≤ r.length ↔
      ∃ gap ∈ (p ++ r).take ((p ++ r).length - min 5 (p ++ r).length + 1), Printable py gap := by
  have hpos := List.length_pos_iff.mpr hne
  have htotal : (p ++ r).length = p.length + r.length := List.length_append
  constructor
  · intro hlong
    cases r with
    | nil =>
      rw [List.length_nil] at hlong
      omega
    | cons g r =>
      refine ⟨g, List.mem_take_iff_getElem.mpr ⟨p.length, ?_, by simp⟩, hr g rfl⟩
      rw [List.length_cons] at hlong htotal
      omega
  · rintro ⟨gap, hmem, hgap⟩
    by_contra hshort
    -- Otherwise all these gaps are among those before `r`.
    have htake : (p ++ r).length - min 5 (p ++ r).length + 1 ≤ p.length := by omega
    rw [List.take_append_of_le_length htake] at hmem
    exact hp gap (List.mem_of_mem_take hmem) hgap

end Skipped

section Node

variable {py : Interp} {gaps : List ℤ}

theorem length_referenceDelays (gaps : List ℤ) : (referenceDelays gaps).length = gaps.length := by
  rw [referenceDelays, List.length_map, List.length_range]

theorem referenceDelays_nonneg : ∀ d ∈ referenceDelays gaps, 0 ≤ d := by
  rw [← excess_eq_referenceDelays]
  exact excess_nonneg

/-- The window that the tables hold, where they hold the last delays of the definition. -/
theorem window_run {p r : List ℤ} (hp : ∀ gap ∈ p, ¬ Printable py gap) (hr : AllLogged py r) :
    (run (Cloud.NodeDelay.track py) ⟨none, [], none⟩ (p ++ r)).window =
      doubles ((floatDelays r).rtake 5) := by
  rw [run_track_append hp, run_track hr]
  rfl

/-- Where the entries are those of the definition, the tables could follow the messages. -/
theorem MatchesReference.followed
    (h : MatchesReference (run (Cloud.NodeDelay.track py) ⟨none, [], none⟩ gaps) gaps) :
    Followed py gaps := by
  have hnegative : ∀ gap ∈ gaps, gap < 0 → Printable py gap := by
    -- The smallest gap is further below zero, and it is the one that the tables hold.
    intro gap hgap hlt
    cases hmin : gaps.min? with
    | none => exact absurd (List.min?_eq_none_iff.mp hmin) (List.ne_nil_of_mem hgap)
    | some m =>
      have hle : m ≤ gap := (List.min?_eq_some_iff.mp hmin).2 gap hgap
      refine (printable_offset py gaps m (h.offset_eq.trans hmin)).of_abs_le ?_
      rw [abs_of_neg hlt, abs_of_neg (by omega)]
      omega
  obtain ⟨p, r, hsplit, hp, hr⟩ := exists_split py gaps
  have hlog : AllLogged py r := allLogged hr fun gap hgap =>
    hnegative gap (hsplit ▸ List.mem_append_right _ hgap)
  have hwindow := h.window_eq
  rw [hsplit, window_run hp hlog, ← hsplit] at hwindow
  refine ⟨hnegative, fun hne => ?_, fun d hd => ?_, ?_⟩
  · -- The window is long enough only where the first gap of `r` comes early.
    have hlength := congrArg List.length hwindow
    have hfloat : (floatDelays r).length ≤ r.length := by
      rw [← length_excessFrom none r]
      exact List.length_filter_le _ _
    rw [doubles, doubles, List.length_map, List.length_map, length_rtake, length_rtake,
      length_referenceDelays] at hlength
    have hlong := min_length_le_iff hp hr (hsplit ▸ hne)
    rw [← hsplit] at hlong
    exact hlong.mp (by omega)
  · have hmem : nearest d ∈ doubles ((floatDelays r).rtake 5) :=
      hwindow ▸ List.mem_map_of_mem hd
    obtain ⟨d', hd', heq⟩ := List.mem_map.mp hmem
    obtain ⟨hexcess, hfloat⟩ := List.mem_filter.mp (mem_of_mem_rtake hd')
    have h0' : (0 : ℚ) ≤ d' := by exact_mod_cast excess_nonneg d' hexcess
    have h0 : (0 : ℚ) ≤ d := by exact_mod_cast referenceDelays_nonneg d (mem_of_mem_rtake hd)
    rw [← nearest_lt_floatOverflow_iff h0, ← heq, nearest_lt_floatOverflow_iff h0']
    exact of_decide_eq_true hfloat
  · rcases eq_or_ne gaps [] with rfl | hne
    · exact (isFinite_doubleSum_iff py []).mp (by simp [doubleSum, sumPair])
    · have hlast : (referenceDelays gaps).rtake 5 ≠ [] := by
        rw [← List.length_pos_iff, length_rtake, length_referenceDelays]
        have hpos := List.length_pos_iff.mpr hne
        omega
      obtain ⟨s, hs, -, -, avg, havg, -⟩ := h.state_cons hne
      rw [hsplit, run_track_append hp, run_track hlog] at hs
      simp only at hs
      split_ifs at hs
      rw [congestionWindowSize, hwindow] at hs
      rw [← isFinite_avgDelayMs_iff py hlast]
      have hstate : avgDelayMs py (doubles ((referenceDelays gaps).rtake 5)) = .fin avg :=
        (congrArg DelayState.avg_delay_ms (Option.some.inj hs)).trans havg
      rw [hstate]
      rfl

/-- Where the tables can follow the messages, the entries are those of the definition. -/
theorem Followed.matchesReference (h : Followed py gaps) :
    MatchesReference (run (Cloud.NodeDelay.track py) ⟨none, [], none⟩ gaps) gaps := by
  rcases eq_or_ne gaps [] with rfl | hne
  · exact ⟨rfl, rfl, fun _ => rfl, fun hne => absurd rfl hne⟩
  obtain ⟨p, r, hsplit, hp, hr⟩ := exists_split py gaps
  have hnegp : ∀ gap ∈ p, gap < 0 → Printable py gap := fun gap hgap =>
    h.negative gap (hsplit ▸ List.mem_append_left _ hgap)
  have hlog : AllLogged py r := allLogged hr fun gap hgap =>
    h.negative gap (hsplit ▸ List.mem_append_right _ hgap)
  have hpos := List.length_pos_iff.mpr hne
  have htotal := congrArg List.length hsplit
  rw [List.length_append] at htotal
  have hlong : min 5 gaps.length ≤ r.length := by
    have hiff := min_length_le_iff hp hr (hsplit ▸ hne)
    rw [← hsplit] at hiff
    exact hiff.mpr (h.first hne)
  have hrne : r ≠ [] := List.length_pos_iff.mp (by omega)
  -- The last five delays are those of the messages that leave a trace.
  have hlast : (excess r).rtake 5 = (referenceDelays gaps).rtake 5 := by
    rw [← excess_eq_referenceDelays, hsplit, excess_append hp hr hnegp]
    rcases le_or_gt 5 r.length with hfive | hfive
    · rw [rtake_append_of_le (by rwa [excess, length_excessFrom])]
    · have hnil : p = [] := List.length_eq_zero_iff.mp (by omega)
      rw [hnil]
      rfl
  have hfloat : (floatDelays r).rtake 5 = (referenceDelays gaps).rtake 5 := by
    rw [← hlast]
    exact rtake_filter fun d hd => decide_eq_true (h.delays d (hlast ▸ hd))
  have hlength : ((referenceDelays gaps).rtake 5).length = min gaps.length 5 := by
    rw [length_rtake, length_referenceDelays, Nat.min_comm]
  have hwne : (referenceDelays gaps).rtake 5 ≠ [] := List.length_pos_iff.mp (by omega)
  have hdelays : floatDelays r ≠ [] := by
    rintro hnil
    rw [hnil, List.rtake_nil] at hfloat
    exact hwne hfloat.symm
  have h0 : ∀ d ∈ (referenceDelays gaps).rtake 5, 0 ≤ d := fun d hd =>
    referenceDelays_nonneg d (mem_of_mem_rtake hd)
  obtain ⟨avg, havg, hnear⟩ := avgDelayMs_near py hwne (by omega) h0 h.adds
  have hcongested := ofWindow_congested_iff py hwne (by omega) h0
  rw [← lt_meanDelay_iff hwne] at hcongested
  have hoffset : runMin none r = gaps.min? := by
    rw [runMin_none, hsplit, min?_append hp hr hnegp hrne]
  have hrun : run (Cloud.NodeDelay.track py) ⟨none, [], none⟩ gaps =
      ⟨gaps.min?, doubles ((referenceDelays gaps).rtake 5),
        some (.ofWindow py (doubles ((referenceDelays gaps).rtake 5)))⟩ := by
    conv_lhs => rw [hsplit]
    rw [run_track_append hp, run_track hlog, congestionWindowSize, hfloat, if_neg hdelays, hoffset]
  rw [hrun]
  refine ⟨rfl, rfl, fun hnil => absurd hnil hne, fun _ => ⟨_, rfl, ?_, hcongested, avg, havg, hnear,
    fun hsum => ?_⟩⟩
  · rw [← hlength]
    exact List.length_map _
  · have hexact := avgDelayMs_of_le py hwne h0 hsum
    exact ExtRat.fin.inj (havg.symm.trans hexact)

end Node

/-- After every sequence of messages of any nodes, in any order, the tables hold what the definition
says, for every node, exactly where they can follow the messages of each node. No delay is negative,
neither in the definition nor as the tables give it, and a message leaves the entries of every other
node as they are. -/
theorem matchesReference_iff (py : Interp) (ms : List Packet) :
    ((∀ k, MatchesReference ((after py ms).tables.node k) (gaps k ms)) ↔
      ∀ k, Followed py (gaps k ms)) ∧
    (∀ k, ∀ d ∈ referenceDelays (gaps k ms), 0 ≤ d) ∧
    (∀ (s : Store) (m : Packet), 0 ≤ s.tables.delay m.node_id m.gap) ∧
    (∀ (s : Store) (m : Packet) (k : Key), k ≠ m.node_id →
      (step py s m).tables.node k = s.tables.node k) := by
  refine ⟨forall_congr' fun k => ?_, fun k => referenceDelays_nonneg, ?_, ?_⟩
  · rw [after_node]
    exact ⟨MatchesReference.followed, Followed.matchesReference⟩
  · exact fun s m => sub_nonneg.mpr (lower_le _ m.gap)
  · intro s m k hk
    rw [step_node, if_neg hk]

/-- A message of the node `a` that arrives at time zero. -/
def packet (sent_ms : ℤ) : Packet where
  payload := [(Numeral.text "node_id", .str (Numeral.text "a")),
    (Numeral.text "sent_ms", .int sent_ms)]
  sent_ms := sent_ms
  sent_ms_eq := rfl
  node_id := .str (Numeral.text "a")
  node_id_eq := rfl
  received_ms := 0
  accepts := true

/-- A sending time that no float can hold is missing in the window, and counts as no sample. -/
theorem huge_sent_ms_is_missing :
    ¬ ∀ ms : List Packet, ∀ k, MatchesReference ((after .cpython ms).tables.node k)
      (gaps k ms) := by
  intro h
  have hwindow := (h [packet 0, packet (-2 ^ 1024)] (.str (Numeral.text "a"))).window_eq
  exact absurd (congrArg List.length hwindow) (by decide +kernel)

end EnergyStation.Telemetry.BatchReference
