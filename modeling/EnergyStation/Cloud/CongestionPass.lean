import EnergyStation.Cloud.Congestion
import EnergyStation.Lib.Runs

/-!
# The failures within a pass

What one pass of `_monitor_network_congestion` sends, for every way in which its requests can end. A
read of a baseline that fails is caught within the loop, and the pass goes on to the next node. A
command that cannot be built, or is not confirmed, is caught around the loop only, and ends the pass
(`sends_iff`). So the nodes that come after a node whose command fails are left out
(`none_starved_iff`).
-/

namespace EnergyStation.Cloud

open Python Runs

/-- How the requests of a pass end: with a response, or in an exception. A pass sends each node at
most one request of each kind. -/
structure Answers where
  /-- Of `get_sampling_interval`. -/
  get : Key → Option Response
  /-- Of `set_sampling_interval`. -/
  put : Key → Option Response

namespace Monitor

variable {py : Interp} {rejects : Uri → Bool}

/-- The pass goes on, from one suspension to the next. -/
def advance (py : Interp) (rejects : Uri → Bool) (a : Answers) (m : Monitor) : Monitor :=
  match m.task with
  | .sleeping _ => m
  | .running .. => m.run py rejects
  | .getting pass node_id node rest _ =>
    match a.get node_id with
    | some response =>
      { m with task := .getting pass node_id node rest (some response) }.reply py rejects
    | none => m.lose
  | .putting pass node_id node target_interval body rest _ =>
    match a.put node_id with
    | some response =>
      { m with task :=
          .putting pass node_id node target_interval body rest (some response) }.reply py rejects
    | none => m.lose

/-- A node is being sent an interval. -/
def Sending (node_id : Key) (interval_ms : ℤ) (m : Monitor) : Prop :=
  ∃ pass node body rest, m.task = .putting pass node_id node interval_ms body rest none

/-- The pass sends a node an interval. -/
def Sends (py : Interp) (rejects : Uri → Bool) (a : Answers) (node_id : Key) (interval_ms : ℤ) :
    Monitor → Prop := Reaches (advance py rejects a) (Sending node_id interval_ms)

/-- The baseline of a node, learned before or read in this pass. -/
def baseline (py : Interp) (rejects : Uri → Bool) (a : Answers) (m : Monitor) (node_id : Key)
    (node : Node) : Option ℤ :=
  (m.sensor_baseline_interval_ms.get? node_id).or
    (match samplingUri py rejects node.info with
      | .ok _ => (a.get node_id).bind fun response => (getSamplingReply py response).toOption
      | .error _ => none)

/-- The interval that a node is due: of a node that is no battery, has a baseline and three samples,
and whose table entry differs from its target, the target. -/
def due (py : Interp) (rejects : Uri → Bool) (a : Answers) (m : Monitor)
    (delay_state : Dict Key DelayState) (node_id : Key) (node : Node) : Option ℤ :=
  if isStr "battery" (node.info.get "type") then none
  else
    (m.baseline py rejects a node_id node).bind fun baseline =>
      (delay_state.get? node_id).bind fun state =>
        if state.samples < 3 then none
        else
          let target_interval := if state.congested then congestedPublishIntervalMs else baseline
          if m.sampling_interval_state.get? node_id = some target_interval then none
          else some target_interval

/-- The command can be built: the node has an address, and the interval is positive. -/
def Sendable (py : Interp) (rejects : Uri → Bool) (node : Node) (interval_ms : ℤ) : Prop :=
  (∃ uri, samplingUri py rejects node.info = .ok uri) ∧ 0 < interval_ms

/-- The command is confirmed. -/
def Confirmed (a : Answers) (node_id : Key) : Prop :=
  ∃ response, a.put node_id = some response ∧ setSamplingReply response = .ok ()

/-- Two monitors have the same entries for a node. -/
def SameEntries (m m' : Monitor) (node_id : Key) : Prop :=
  m'.sampling_interval_state.get? node_id = m.sampling_interval_state.get? node_id ∧
    m'.sensor_baseline_interval_ms.get? node_id = m.sensor_baseline_interval_ms.get? node_id

/-- What a node is due depends on its baseline and on the interval that it was sent last. -/
theorem due_congr {a : Answers} {m m' : Monitor} {node_id : Key} {node : Node}
    (hinterval : m'.sampling_interval_state.get? node_id = m.sampling_interval_state.get? node_id)
    (hbaseline : m'.baseline py rejects a node_id node = m.baseline py rejects a node_id node)
    (delay_state : Dict Key DelayState) :
    m'.due py rejects a delay_state node_id node = m.due py rejects a delay_state node_id node := by
  unfold due
  rw [hinterval, hbaseline]

/-- What a node is due depends on its own entries. -/
theorem SameEntries.due {a : Answers} {m m' : Monitor} {node_id : Key}
    (h : SameEntries m m' node_id) (delay_state : Dict Key DelayState) (node : Node) :
    m'.due py rejects a delay_state node_id node = m.due py rejects a delay_state node_id node := by
  refine due_congr h.1 ?_ delay_state
  rw [baseline, baseline, h.2]

/-- A pass that has ended sends nothing. -/
theorem not_sends_sleep (a : Answers) (m : Monitor) (pass : Pass) (node_id : Key)
    (interval_ms : ℤ) : ¬ Sends py rejects a node_id interval_ms (m.sleep pass) :=
  not_reaches_of_stopped rfl fun ⟨_, _, _, _, h⟩ => nomatch h

/-- The command of a node that is due one cannot be built or is not confirmed, and ends the pass. -/
def Aborts (py : Interp) (rejects : Uri → Bool) (a : Answers) (m : Monitor)
    (delay_state : Dict Key DelayState) (node_id : Key) (node : Node) : Prop :=
  ∃ t, m.due py rejects a delay_state node_id node = some t ∧
    ¬ (Sendable py rejects node t ∧ Confirmed a node_id)

/-- From `s` on, the pass sends the node what it is due, where that can be built, and goes on to the
others, unless the node aborts it. -/
def Handles (py : Interp) (rejects : Uri → Bool) (a : Answers) (m : Monitor) (pass : Pass)
    (node_id : Key) (node : Node) (rest : List (Key × Node)) (s : Monitor) : Prop :=
  ∃ m' pass', (∀ k, k ≠ node_id → SameEntries m m' k) ∧ pass'.delay_state = pass.delay_state ∧
    ∀ k t, Sends py rejects a k t s ↔
      (k = node_id ∧ m.due py rejects a pass.delay_state node_id node = some t ∧
        Sendable py rejects node t) ∨
      (¬ Aborts py rejects a m pass.delay_state node_id node ∧
        Sends py rejects a k t (m'.next pass' rest))

/-- A node that is due nothing is passed over. -/
theorem handles_next {a : Answers} {m m' : Monitor} {pass pass' : Pass} {node_id : Key}
    {node : Node} (hdue : m.due py rejects a pass.delay_state node_id node = none)
    (hsame : ∀ k, k ≠ node_id → SameEntries m m' k) (hpass : pass'.delay_state = pass.delay_state)
    (rest : List (Key × Node)) :
    Handles py rejects a m pass node_id node rest (m'.next pass' rest) := by
  have hgoes : ¬ Aborts py rejects a m pass.delay_state node_id node := by
    rintro ⟨t, ht, -⟩
    rw [hdue] at ht
    cases ht
  refine ⟨m', pass', hsame, hpass, fun k t => ?_⟩
  rw [hdue, and_iff_right hgoes, or_iff_right]
  rintro ⟨-, h, -⟩
  cases h

/-- A command that cannot be built ends the pass. -/
theorem handles_sleep {a : Answers} {m m' : Monitor} {pass : Pass} {node_id : Key} {node : Node}
    {t : ℤ} (hdue : m.due py rejects a pass.delay_state node_id node = some t)
    (hsend : ¬ Sendable py rejects node t) (rest : List (Key × Node)) :
    Handles py rejects a m pass node_id node rest (m'.sleep pass) := by
  refine ⟨m, pass, fun k _ => ⟨rfl, rfl⟩, rfl, fun k t' => ?_⟩
  refine iff_of_false (not_sends_sleep a m' pass k t') ?_
  rintro (⟨-, ht, hsend'⟩ | ⟨hgoes, -⟩)
  · rw [hdue] at ht
    rw [Option.some.inj ht] at hsend
    exact hsend hsend'
  · exact hgoes ⟨t, hdue, fun h => hsend h.1⟩

/-- A command that is sent is confirmed and the pass goes on, or the pass ends. -/
theorem advance_putting_cases (a : Answers) (m : Monitor) (pass : Pass) (node_id : Key)
    (node : Node) (t : ℤ) (body : CStdlib.Bytes) (rest : List (Key × Node)) :
    (Confirmed a node_id ∧ advance py rejects a
        { m with task := .putting pass node_id node t body rest none } =
      next { m with sampling_interval_state := m.sampling_interval_state.set node_id t } pass
        rest) ∨
    (¬ Confirmed a node_id ∧ advance py rejects a
        { m with task := .putting pass node_id node t body rest none } =
      m.sleep { pass with clean := false }) := by
  have hadvance : advance py rejects a
      { m with task := .putting pass node_id node t body rest none } =
      match a.put node_id with
      | some response => reply py rejects
          { m with task := .putting pass node_id node t body rest (some response) }
      | none => m.sleep { pass with clean := false } := rfl
  rw [hadvance]
  rcases hput : a.put node_id with _ | response
  · refine .inr ⟨?_, rfl⟩
    rintro ⟨_, h, -⟩
    rw [hput] at h
    cases h
  · rcases hreply : setSamplingReply response with e | ⟨⟩
    · refine .inr ⟨?_, by simp only [reply, hreply]; rfl⟩
      rintro ⟨r, hr, h⟩
      rw [hput] at hr
      rw [← Option.some.inj hr, hreply] at h
      cases h
    · exact .inl ⟨⟨response, hput, hreply⟩, by simp only [reply, hreply]; rfl⟩

/-- A baseline that is read is stored, and one that is not leaves the node for the next pass. -/
theorem advance_getting (a : Answers) (m : Monitor) (pass : Pass) (node_id : Key) (node : Node)
    (rest : List (Key × Node)) :
    advance py rejects a { m with task := .getting pass node_id node rest none } =
      match (a.get node_id).bind fun response => (getSamplingReply py response).toOption with
      | some interval_ms => adapt py rejects { m with
          sensor_baseline_interval_ms := m.sensor_baseline_interval_ms.set node_id interval_ms,
          task := .getting pass node_id node rest (a.get node_id) } pass node_id node rest
      | none => m.next { pass with clean := false } rest := by
  have hadvance : advance py rejects a { m with task := .getting pass node_id node rest none } =
      match a.get node_id with
      | some response => reply py rejects
          { m with task := .getting pass node_id node rest (some response) }
      | none => m.next { pass with clean := false } rest := rfl
  rw [hadvance]
  rcases hget : a.get node_id with _ | response
  · rfl
  · rcases hreply : getSamplingReply py response with e | interval_ms
    · simp only [reply, hreply, Option.bind_some, Except.toOption]
      rfl
    · simp only [reply, hreply, Option.bind_some, Except.toOption]

/-- A command that is sent is followed by the other nodes where it is confirmed, and ends the pass
where it is not. -/
theorem handles_putting {a : Answers} {m : Monitor} {pass : Pass} {node_id : Key} {node : Node}
    {t : ℤ} (hdue : m.due py rejects a pass.delay_state node_id node = some t)
    (hsend : Sendable py rejects node t) (body : CStdlib.Bytes) (rest : List (Key × Node)) :
    Handles py rejects a m pass node_id node rest
      { m with task := .putting pass node_id node t body rest none } := by
  have hsending : ∀ k t',
      Sending k t' { m with task := .putting pass node_id node t body rest none } ↔
      k = node_id ∧ some t = some t' ∧ Sendable py rejects node t' := by
    intro k t'
    constructor
    · rintro ⟨_, _, _, _, h⟩
      cases h
      exact ⟨rfl, rfl, hsend⟩
    · rintro ⟨rfl, h, -⟩
      cases h
      exact ⟨_, _, _, _, rfl⟩
  have hgoes : ¬ Aborts py rejects a m pass.delay_state node_id node ↔ Confirmed a node_id := by
    unfold Aborts
    rw [hdue]
    simp [hsend]
  refine ⟨{ m with sampling_interval_state := m.sampling_interval_state.set node_id t }, pass,
    fun k hk => ⟨Dict.get?_set_ne _ hk _, rfl⟩, rfl, fun k t' => ?_⟩
  rw [Sends, reaches_iff, hsending, hgoes, hdue]
  refine or_congr Iff.rfl ?_
  rcases @advance_putting_cases py rejects a m pass node_id node t body rest with
    ⟨hconfirmed, heq⟩ | ⟨hconfirmed, heq⟩
  · rw [heq, and_iff_right hconfirmed]
  · rw [heq]
    exact iff_of_false (not_sends_sleep a m _ k t') fun h => hconfirmed h.1

/-- The rest of the loop's body handles a node whose baseline is known. -/
theorem handles_adapt {a : Answers} {m : Monitor} {pass : Pass} {node_id : Key} {node : Node}
    {interval_ms : ℤ} (hbattery : isStr "battery" (node.info.get "type") = false)
    (hbaseline : m.sensor_baseline_interval_ms.get? node_id = some interval_ms)
    (rest : List (Key × Node)) :
    Handles py rejects a m pass node_id node rest
      (m.adapt py rejects pass node_id node rest) := by
  have hsame : ∀ k, k ≠ node_id → SameEntries m m k := fun k _ => ⟨rfl, rfl⟩
  have hdue : m.due py rejects a pass.delay_state node_id node =
      (pass.delay_state.get? node_id).bind fun state =>
        if state.samples < 3 then none
        else
          let t := if state.congested then congestedPublishIntervalMs else interval_ms
          if m.sampling_interval_state.get? node_id = some t then none else some t := by
    simp only [due, baseline, hbattery, hbaseline, Bool.false_eq_true, if_false, Option.some_or,
      Option.bind_some]
  unfold adapt
  -- The cases are the branches of the loop's body. Each decides what the node is due as well.
  rcases hstate : pass.delay_state.get? node_id with _ | state
  · rw [hstate] at hdue
    exact handles_next hdue hsame rfl rest
  · rw [hstate, Option.bind_some] at hdue
    have htarget : m.targetInterval node_id state.congested =
        some (if state.congested then congestedPublishIntervalMs else interval_ms) := by
      unfold targetInterval
      split_ifs
      · rfl
      · exact hbaseline
    simp only [htarget] at hdue ⊢
    generalize (if state.congested then congestedPublishIntervalMs else interval_ms) = t at hdue ⊢
    split_ifs with hsamples htable
    · rw [if_pos hsamples] at hdue
      exact handles_next hdue hsame rfl rest
    · rw [if_neg hsamples, if_pos htable] at hdue
      exact handles_next hdue hsame rfl rest
    · rw [if_neg hsamples, if_neg htable] at hdue
      unfold put
      -- A command that cannot be built ends the pass.
      rcases huri : samplingUri py rejects node.info with e | uri
      · refine handles_sleep hdue ?_ rest
        rintro ⟨⟨uri, h⟩, -⟩
        rw [huri] at h
        cases h
      · by_cases hpos : t ≤ 0
        · have hbody : samplingBody t = .error .valueError := if_pos hpos
          rw [hbody]
          exact handles_sleep hdue (fun h => absurd h.2 (not_lt.mpr hpos)) rest
        · have hbody : samplingBody t = .ok ((Numeral.decimal t.toNat).map UInt8.ofNat) :=
            if_neg hpos
          rw [hbody]
          exact handles_putting hdue ⟨⟨uri, huri⟩, not_le.mp hpos⟩ _ rest

/-- A node is handled for a monitor as it is for one that differs in the node's entries, where the
node is due the same for both. -/
theorem Handles.of_due_eq {a : Answers} {m m₁ : Monitor} {pass : Pass} {node_id : Key} {node : Node}
    {rest : List (Key × Node)} {s : Monitor}
    (h : Handles py rejects a m₁ pass node_id node rest s)
    (hdue : m₁.due py rejects a pass.delay_state node_id node =
      m.due py rejects a pass.delay_state node_id node)
    (hsame : ∀ k, k ≠ node_id → SameEntries m m₁ k) :
    Handles py rejects a m pass node_id node rest s := by
  obtain ⟨m', pass', hsame', hpass, hsends⟩ := h
  refine ⟨m', pass', fun k hk => ?_, hpass, fun k t => ?_⟩
  · exact ⟨(hsame' k hk).1.trans (hsame k hk).1, (hsame' k hk).2.trans (hsame k hk).2⟩
  · rw [hsends, Aborts, Aborts, hdue]

/-- A state in which nothing is sent handles a node as the next one does. -/
theorem Handles.of_advance {a : Answers} {m : Monitor} {pass : Pass} {node_id : Key} {node : Node}
    {rest : List (Key × Node)} {s : Monitor} (hnot : ∀ k t, ¬ Sending k t s)
    (h : Handles py rejects a m pass node_id node rest (advance py rejects a s)) :
    Handles py rejects a m pass node_id node rest s := by
  obtain ⟨m', pass', hsame, hpass, hsends⟩ := h
  refine ⟨m', pass', hsame, hpass, fun k t => ?_⟩
  rw [← hsends]
  exact reaches_step (hnot k t)

/-- The loop handles each node. -/
theorem handles_cons (a : Answers) (m : Monitor) (pass : Pass) (node_id : Key) (node : Node)
    (rest : List (Key × Node)) :
    Handles py rejects a m pass node_id node rest (m.next pass ((node_id, node) :: rest)) := by
  have hsame : ∀ k, k ≠ node_id → SameEntries m m k := fun k _ => ⟨rfl, rfl⟩
  refine .of_advance (fun k t ⟨_, _, _, _, h⟩ => nomatch h) ?_
  have hadvance : advance py rejects a (m.next pass ((node_id, node) :: rest)) =
      (m.next pass ((node_id, node) :: rest)).visit py rejects pass node_id node rest := rfl
  rw [hadvance]
  unfold visit
  rcases hbattery : isStr "battery" (node.info.get "type") with _ | _
  · rw [if_neg Bool.false_ne_true]
    have hbase : (m.next pass ((node_id, node) :: rest)).sensor_baseline_interval_ms =
      m.sensor_baseline_interval_ms := rfl
    rcases hknown : m.sensor_baseline_interval_ms.get? node_id with _ | interval_ms
    · rw [hbase, hknown, Option.isNone_none, if_pos rfl]
      rcases huri : samplingUri py rejects node.info with e | uri
      · refine handles_next ?_ hsame rfl rest
        simp only [due, baseline, hknown, huri, Option.or_none, Option.bind_none, ite_self]
      · -- The baseline is read first.
        refine .of_advance (fun k t ⟨_, _, _, _, h⟩ => nomatch h) ?_
        have hbaseline : m.baseline py rejects a node_id node =
            (a.get node_id).bind fun response => (getSamplingReply py response).toOption := by
          rw [baseline, hknown, huri, Option.none_or]
        have hgetting := @advance_getting py rejects a m pass node_id node rest
        rw [← hbaseline] at hgetting
        show Handles py rejects a m pass node_id node rest
          (advance py rejects a { m with task := .getting pass node_id node rest none })
        rw [hgetting]
        rcases hread : m.baseline py rejects a node_id node with _ | interval_ms
        · have hdue : m.due py rejects a pass.delay_state node_id node = none := by
            simp only [due, hread, Option.bind_none, ite_self]
          have hpass : ({ pass with clean := false } : Pass).delay_state = pass.delay_state := rfl
          exact handles_next hdue hsame hpass rest
        · have hset := Dict.get?_set_self m.sensor_baseline_interval_ms node_id interval_ms
          refine (handles_adapt hbattery hset rest).of_due_eq (due_congr ?_ ?_ pass.delay_state)
            fun k hk => ⟨rfl, Dict.get?_set_ne _ hk _⟩
          · rfl
          · rw [hread, baseline, hset, Option.some_or]
    · rw [hbase, hknown, Option.isNone_some, if_neg Bool.false_ne_true]
      exact (handles_adapt hbattery hknown rest).of_due_eq rfl fun k _ => ⟨rfl, rfl⟩
  · -- A battery is skipped, and it is never due an interval.
    rw [if_pos rfl]
    refine handles_next ?_ hsame rfl rest
    rw [due, hbattery, if_pos rfl]

/-- A pass sends a node an interval exactly if the node is due it, its command can be built, and no
node before it aborts the pass. -/
theorem sends_iff (a : Answers) {l : List (Key × Node)} (hnodup : (l.map Prod.fst).Nodup)
    (m : Monitor) (pass : Pass) (node_id : Key) (t : ℤ) :
    Sends py rejects a node_id t (m.next pass l) ↔ ∃ before node after,
      l = before ++ (node_id, node) :: after ∧
        m.due py rejects a pass.delay_state node_id node = some t ∧ Sendable py rejects node t ∧
        ∀ e ∈ before, ¬ Aborts py rejects a m pass.delay_state e.1 e.2 := by
  induction l generalizing m pass with
  | nil =>
    refine iff_of_false (fun h => ?_) ?_
    · have hsleep := (reaches_step (fun ⟨_, _, _, _, h⟩ => nomatch h)).mp h
      exact @not_sends_sleep py rejects a _ pass node_id t hsleep
    · rintro ⟨before, node, after, h, -⟩
      cases before <;> cases h
  | cons e l ih =>
    obtain ⟨k₀, n₀⟩ := e
    rw [List.map_cons, List.nodup_cons] at hnodup
    obtain ⟨m', pass', hsame, hpass, hsends⟩ :=
      @handles_cons py rejects a m pass k₀ n₀ l
    -- The other nodes are due the same after this one.
    have hdue : ∀ e ∈ l, m'.due py rejects a pass.delay_state e.1 e.2 =
        m.due py rejects a pass.delay_state e.1 e.2 := by
      intro e he
      have hmem : e.1 ∈ l.map Prod.fst := List.mem_map_of_mem he
      have hk : e.1 ≠ k₀ := fun hk => hnodup.1 (hk ▸ hmem)
      exact (hsame e.1 hk).due pass.delay_state e.2
    rw [hsends, ih hnodup.2, hpass]
    constructor
    · rintro (⟨rfl, ht, hsend⟩ | ⟨hgoes, before, node, after, rfl, ht, hsend, hbefore⟩)
      · exact ⟨[], n₀, l, rfl, ht, hsend, fun e he => nomatch he⟩
      · refine ⟨(k₀, n₀) :: before, node, after, rfl, ?_, hsend, fun e he => ?_⟩
        · rw [← hdue (node_id, node) (by simp)]
          exact ht
        · rcases List.mem_cons.mp he with rfl | he
          · exact hgoes
          · have h := hbefore e he
            rwa [Aborts, hdue e (by simp [he])] at h
    · rintro ⟨before, node, after, hl, ht, hsend, hbefore⟩
      cases before with
      | nil =>
        cases hl
        exact .inl ⟨rfl, ht, hsend⟩
      | cons e before =>
        cases hl
        refine .inr ⟨hbefore _ List.mem_cons_self, before, node, after, rfl, ?_, hsend,
          fun e he => ?_⟩
        · rw [hdue (node_id, node) (by simp)]
          exact ht
        · rw [Aborts, hdue e (by simp [he])]
          exact hbefore e (List.mem_cons_of_mem _ he)

/-- Every registered node that is due an interval is sent it in the pass. -/
def NoneStarved (py : Interp) (rejects : Uri → Bool) (a : Answers) (m : Monitor)
    (registered_nodes : Dict Key Node) (delay_state : Dict Key DelayState) : Prop :=
  ∀ node_id node t, registered_nodes.get? node_id = some node →
    m.due py rejects a delay_state node_id node = some t →
    Sends py rejects a node_id t
      (m.next ⟨registered_nodes, delay_state, true⟩ registered_nodes.entries)

/-- The command of every node that is due one can be built, and is confirmed where a node after it
is due one too. -/
def ConfirmedInTurn (py : Interp) (rejects : Uri → Bool) (a : Answers) (m : Monitor)
    (registered_nodes : Dict Key Node) (delay_state : Dict Key DelayState) : Prop :=
  ∀ before node_id node after t, registered_nodes.entries = before ++ (node_id, node) :: after →
    m.due py rejects a delay_state node_id node = some t →
    Sendable py rejects node t ∧
      ((∃ e ∈ after, m.due py rejects a delay_state e.1 e.2 ≠ none) → Confirmed a node_id)

/-- Of two entries of a dictionary, the one that comes first in one splitting of the entries comes
first in the other. -/
theorem mem_before {l before after before' after' : List (Key × Node)} {e e' : Key × Node}
    {node : Node} (hnodup : (l.map Prod.fst).Nodup) (hl : l = before ++ e :: after)
    (he' : e' ∈ after) (hl' : l = before' ++ (e'.1, node) :: after') : e ∈ before' := by
  subst hl
  have hkeys : e.1 ∉ after.map Prod.fst ∧ ∀ x ∈ before, x.1 ∉ after.map Prod.fst := by
    rw [List.map_append, List.map_cons, List.nodup_append, List.nodup_cons] at hnodup
    refine ⟨hnodup.2.1.1, fun x hx hx' => ?_⟩
    exact hnodup.2.2 x.1 (List.mem_map_of_mem hx) x.1 (List.mem_cons_of_mem _ hx') rfl
  have hmem : e'.1 ∈ after.map Prod.fst := List.mem_map_of_mem he'
  rcases List.append_eq_append_iff.mp hl' with ⟨a', rfl, hsplit⟩ | ⟨c', rfl, hsplit⟩
  · cases a' with
    | nil =>
      have hhead := (List.cons.inj hsplit).1
      rw [hhead] at hkeys
      exact absurd hmem hkeys.1
    | cons x a' =>
      rw [(List.cons.inj hsplit).1]
      simp
  · cases c' with
    | nil =>
      have hhead := (List.cons.inj hsplit).1
      rw [← hhead] at hkeys
      exact absurd hmem hkeys.1
    | cons x c' =>
      have hhead := (List.cons.inj hsplit).1
      have hx := hkeys.2 x (by simp)
      rw [← hhead] at hx
      exact absurd hmem hx

/-- A pass sends every node what it is due exactly if the commands can be built and are confirmed,
up to the last node that is due one. -/
theorem none_starved_iff (py : Interp) (rejects : Uri → Bool) (a : Answers) (m : Monitor)
    (registered_nodes : Dict Key Node) (delay_state : Dict Key DelayState) :
    NoneStarved py rejects a m registered_nodes delay_state ↔
      ConfirmedInTurn py rejects a m registered_nodes delay_state := by
  have hnodup := registered_nodes.nodup
  constructor
  · intro h before node_id node after t hl ht
    have hmem : registered_nodes.get? node_id = some node := Dict.get?_of_entries_eq hl
    obtain ⟨before', node', after', hl', -, hsend, -⟩ := (sends_iff a hnodup m _ node_id t).mp
      (h node_id node t hmem ht)
    obtain rfl : node = node' := Option.some.inj (hmem.symm.trans (Dict.get?_of_entries_eq hl'))
    refine ⟨hsend, ?_⟩
    rintro ⟨e, he, hdue⟩
    obtain ⟨t', ht'⟩ := Option.ne_none_iff_exists'.mp hdue
    have hmem' : registered_nodes.get? e.1 = some e.2 := by
      rw [Dict.get?_eq_some_iff, hl]
      exact List.mem_append_right before (List.mem_cons_of_mem _ he)
    obtain ⟨before', node', after', hl', -, -, hbefore⟩ := (sends_iff a hnodup m _ e.1 t').mp
      (h e.1 e.2 t' hmem' ht')
    -- The command did not end the pass before the later node.
    have hgoes := hbefore _ (mem_before hnodup hl he hl')
    by_contra hconfirmed
    exact hgoes ⟨t, ht, fun h => hconfirmed h.2⟩
  · intro h node_id node t hmem ht
    obtain ⟨before, after, hl⟩ := List.append_of_mem
      ((Dict.get?_eq_some_iff registered_nodes node_id node).mp hmem)
    refine (sends_iff a hnodup m _ node_id t).mpr
      ⟨before, node, after, hl, ht, (h before node_id node after t hl ht).1, ?_⟩
    rintro e he ⟨t', ht', hfails⟩
    obtain ⟨before₁, before₂, rfl⟩ := List.append_of_mem he
    have hl' : registered_nodes.entries =
        before₁ ++ (e.1, e.2) :: (before₂ ++ (node_id, node) :: after) := by
      rw [hl, List.append_assoc, List.cons_append]
    obtain ⟨hsend, hconfirmed⟩ := h before₁ e.1 e.2 _ t' hl' ht'
    refine hfails ⟨hsend, hconfirmed ⟨(node_id, node), by simp, ?_⟩⟩
    rw [ht]
    exact Option.some_ne_none t

/-- Two congested nodes of which the first does not answer: the second is not slowed down. -/
theorem second_node_is_starved :
    let info : String → Obj := fun id => [(Numeral.text "node_id", .str (Numeral.text id)),
      (Numeral.text "type", .str (Numeral.text "solar")),
      (Numeral.text "ip", .str (Numeral.text "fd00::1"))]
    let nodes : Dict Key Node :=
      (Dict.empty.set (.str (Numeral.text "a")) ⟨0, info "a"⟩).set (.str (Numeral.text "b"))
        ⟨1, info "b"⟩
    let delays : Dict Key DelayState :=
      (Dict.empty.set (.str (Numeral.text "a")) ⟨.fin 900, true, 5⟩).set (.str (Numeral.text "b"))
        ⟨.fin 900, true, 5⟩
    let baselines : Dict Key ℤ :=
      (Dict.empty.set (.str (Numeral.text "a")) 800).set (.str (Numeral.text "b")) 800
    ¬ NoneStarved .cpython (fun _ => false) ⟨fun _ => none, fun _ => none⟩
      ⟨Dict.empty, baselines, .sleeping none⟩ nodes delays := by
  intro info nodes delays baselines h
  have hsends := h (.str (Numeral.text "b")) ⟨1, info "b"⟩ 5000 rfl (by decide)
  obtain ⟨before, node, after, hl, -, -, hbefore⟩ :=
    (sends_iff _ nodes.nodup _ _ (.str (Numeral.text "b")) 5000).mp hsends
  have hentries : nodes.entries = [] ++ (.str (Numeral.text "a"), ⟨0, info "a"⟩) ::
      [(.str (Numeral.text "b"), ⟨1, info "b"⟩)] := rfl
  have hfirst := mem_before nodes.nodup hentries List.mem_cons_self hl
  refine hbefore _ hfirst ⟨5000, by decide, ?_⟩
  rintro ⟨-, _, h, -⟩
  cases h

end Monitor

end EnergyStation.Cloud
