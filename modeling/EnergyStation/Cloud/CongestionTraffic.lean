import EnergyStation.Cloud.Congestion
import EnergyStation.Lib.Runs

/-!
# The traffic of the congestion monitor

What `_monitor_network_congestion` sends over a whole run, whatever registry and delay state its
passes find and whatever becomes of its requests. A pass sends a node at most one request of each
kind. A baseline that has been read is never read again and never changes. A command is not
repeated, unless it has failed, the node was not registered when some pass began, or the node has
been sent another interval since (`monitor_traffic`).
-/

namespace EnergyStation.Cloud.CongestionTraffic

open Python Runs

/-- What happens to the monitor. -/
inductive Event where
  /-- Its sleep ends, with the registry and the delay state of that moment. -/
  | wake (registry : Registry) (delay_state : Dict Key DelayState)
  /-- It runs on. -/
  | run
  /-- The node has handled the request that is awaited. -/
  | handled (response : Response)
  /-- The response arrives. -/
  | reply
  /-- The request, or its response, is lost, and the call raises. -/
  | lose

/-- The node has handled the request that the task awaits. -/
def handled (response : Response) (m : Monitor) : Monitor :=
  match m.task with
  | .getting pass node_id node rest none =>
    { m with task := .getting pass node_id node rest (some response) }
  | .putting pass node_id node target_interval body rest none =>
    { m with task := .putting pass node_id node target_interval body rest (some response) }
  | _ => m

/-- One event. An event that cannot happen changes nothing. -/
def step (py : Interp) (rejects : Uri → Bool) (m : Monitor) : Event → Monitor
  | .wake registry delay_state => if m.task.asleep then m.wake registry delay_state else m
  | .run => m.run py rejects
  | .handled response => handled response m
  | .reply => m.reply py rejects
  | .lose => m.lose

/-- A request to a node. -/
inductive Request where
  /-- `get_sampling_interval` -/
  | get (node_id : Key)
  /-- `set_sampling_interval` -/
  | put (node_id : Key) (interval_ms : ℤ)

/-- The node and the kind of a request. -/
def Request.line : Request → Key × Bool
  | .get k => (k, false)
  | .put k _ => (k, true)

/-- The request that no node has handled yet. -/
def unhandled : MonitorTask → Option Request
  | .getting _ k _ _ none => some (.get k)
  | .putting _ k _ t _ _ none => some (.put k t)
  | _ => none

/-- The request that the monitor sends. -/
def sends (py : Interp) (rejects : Uri → Bool) (m : Monitor) (e : Event) : Option Request :=
  match unhandled m.task with
  | none => unhandled (step py rejects m e).task
  | some _ => none

/-- The request that fails. -/
def fails (py : Interp) (m : Monitor) : Event → Option Request
  | .lose =>
    match m.task with
    | .getting _ k _ _ _ => some (.get k)
    | .putting _ k _ t _ _ _ => some (.put k t)
    | _ => none
  | .reply =>
    match m.task with
    | .getting _ k _ _ (some response) =>
      if (getSamplingReply py response).isOk then none else some (.get k)
    | .putting _ k _ t _ _ (some response) =>
      if (setSamplingReply response).isOk then none else some (.put k t)
    | _ => none
  | _ => none

/-- A pass begins, and the node is not registered. -/
def Forgets (k : Key) (m : Monitor) (e : Event) : Prop :=
  ∃ registry delay_state registered_nodes, e = .wake registry delay_state ∧ m.task.asleep = true ∧
    registeredNodes registry.getAllNodes = .ok registered_nodes ∧ registered_nodes.get? k = none

section

variable {py : Interp} {rejects : Uri → Bool}

/-- What the loop's body does for a node: it goes on, ends the pass, reads a baseline that it does
not have, or sends an interval that is the target and not in the table. -/
inductive Turn (m : Monitor) (pass : Pass) (k : Key) (node : Node) (rest : List (Key × Node)) :
    Monitor → Prop where
  /-- On to the next node. -/
  | next : Turn m pass k node rest (m.next pass rest)
  /-- The pass ends. -/
  | sleep : Turn m pass k node rest (m.sleep pass)
  /-- The baseline is read. -/
  | get (hbaseline : m.sensor_baseline_interval_ms.get? k = none) :
      Turn m pass k node rest { m with task := .getting pass k node rest none }
  /-- An interval is sent. -/
  | put (t : ℤ) (body : CStdlib.Bytes) (htable : m.sampling_interval_state.get? k ≠ some t)
      (htarget : m.target pass k = some (some t)) :
      Turn m pass k node rest { m with task := .putting pass k node t body rest none }

theorem turn_adapt (m : Monitor) (pass : Pass) (k : Key) (node : Node) (rest : List (Key × Node)) :
    Turn m pass k node rest (m.adapt py rejects pass k node rest) := by
  unfold Monitor.adapt
  rcases hstate : pass.delay_state.get? k with _ | state
  · exact .next
  · simp only
    by_cases hsamples : state.samples < 3
    · rw [if_pos hsamples]
      exact .next
    · rw [if_neg hsamples]
      rcases htarget : m.targetInterval k state.congested with _ | t
      · exact .sleep
      · simp only
        by_cases htable : m.sampling_interval_state.get? k = some t
        · rw [if_pos htable]
          exact .next
        · rw [if_neg htable]
          unfold Monitor.put
          rcases samplingUri py rejects node.info with e | uri
          · exact .sleep
          · rcases samplingBody t with e | body
            · exact .sleep
            · refine .put t body htable ?_
              rw [Monitor.target, hstate]
              simp only
              rw [if_neg hsamples, htarget]

theorem turn_visit (m : Monitor) (pass : Pass) (k : Key) (node : Node) (rest : List (Key × Node)) :
    Turn m pass k node rest (m.visit py rejects pass k node rest) := by
  unfold Monitor.visit
  split_ifs with hbattery hbaseline
  · exact .next
  · rcases samplingUri py rejects node.info with e | uri
    · exact .next
    · exact .get (Option.isNone_iff_eq_none.mp hbaseline)
  · exact turn_adapt m pass k node rest

/-- What can happen to the monitor at an event. -/
inductive Move (py : Interp) (m : Monitor) : Event → Monitor → Prop where
  /-- Nothing. -/
  | idle (e : Event) : Move py m e m
  /-- A pass begins. -/
  | wake (registry : Registry) (delay_state : Dict Key DelayState)
      (hasleep : m.task.asleep = true) :
      Move py m (.wake registry delay_state) (m.wake registry delay_state)
  /-- A pass is through. -/
  | finish (pass : Pass) (htask : m.task = .running pass []) : Move py m .run (m.sleep pass)
  /-- The next node is visited. -/
  | visit (pass : Pass) (k : Key) (node : Node) (rest : List (Key × Node)) (m' : Monitor)
      (htask : m.task = .running pass ((k, node) :: rest)) (hturn : Turn m pass k node rest m') :
      Move py m .run m'
  /-- A node has handled the read of its interval. -/
  | read (pass : Pass) (k : Key) (node : Node) (rest : List (Key × Node)) (response : Response)
      (htask : m.task = .getting pass k node rest none) :
      Move py m (.handled response) { m with task := .getting pass k node rest (some response) }
  /-- A node has handled a command. -/
  | applied (pass : Pass) (k : Key) (node : Node) (t : ℤ) (body : CStdlib.Bytes)
      (rest : List (Key × Node)) (response : Response)
      (htask : m.task = .putting pass k node t body rest none) :
      Move py m (.handled response)
        { m with task := .putting pass k node t body rest (some response) }
  /-- A baseline is learned. -/
  | learn (pass : Pass) (k : Key) (node : Node) (rest : List (Key × Node)) (response : Response)
      (b : ℤ)
      (m' : Monitor) (htask : m.task = .getting pass k node rest (some response))
      (hturn : Turn { m with sensor_baseline_interval_ms := m.sensor_baseline_interval_ms.set k b }
        pass k node rest m') : Move py m .reply m'
  /-- The read of a baseline fails. -/
  | unread (e : Event) (pass : Pass) (k : Key) (node : Node) (rest : List (Key × Node))
      (response : Option Response) (htask : m.task = .getting pass k node rest response)
      (hfails : fails py m e = some (.get k)) :
      Move py m e (m.next { pass with clean := false } rest)
  /-- A command is confirmed. -/
  | confirm (pass : Pass) (k : Key) (node : Node) (t : ℤ) (body : CStdlib.Bytes)
      (rest : List (Key × Node)) (response : Response)
      (htask : m.task = .putting pass k node t body rest (some response)) :
      Move py m .reply
        ({ m with sampling_interval_state := m.sampling_interval_state.set k t }.next pass rest)
  /-- A command fails. -/
  | unconfirmed (e : Event) (pass : Pass) (k : Key) (node : Node) (t : ℤ) (body : CStdlib.Bytes)
      (rest : List (Key × Node)) (response : Option Response)
      (htask : m.task = .putting pass k node t body rest response)
      (hfails : fails py m e = some (.put k t)) : Move py m e (m.sleep { pass with clean := false })

theorem step_move (m : Monitor) (e : Event) : Move py m e (step py rejects m e) := by
  cases e with
  | wake registry delay_state =>
    simp only [step]
    split_ifs with hasleep
    · exact .wake registry delay_state hasleep
    · exact .idle _
  | run =>
    simp only [step, Monitor.run]
    rcases htask : m.task with ended | ⟨pass, _ | ⟨⟨k, node⟩, rest⟩⟩ | ⟨pass, k, node, rest, r⟩ |
      ⟨pass, k, node, t, body, rest, r⟩
    · exact .idle _
    · exact .finish pass htask
    · exact .visit pass k node rest _ htask (turn_visit m pass k node rest)
    · exact .idle _
    · exact .idle _
  | handled response =>
    simp only [step, handled]
    rcases htask : m.task with ended | ⟨pass, rest⟩ | ⟨pass, k, node, rest, _ | r⟩ |
      ⟨pass, k, node, t, body, rest, _ | r⟩
    · exact .idle _
    · exact .idle _
    · exact .read pass k node rest response htask
    · exact .idle _
    · exact .applied pass k node t body rest response htask
    · exact .idle _
  | reply =>
    simp only [step, Monitor.reply]
    rcases htask : m.task with ended | ⟨pass, rest⟩ | ⟨pass, k, node, rest, _ | response⟩ |
      ⟨pass, k, node, t, body, rest, _ | response⟩
    · exact .idle _
    · exact .idle _
    · exact .idle _
    · simp only
      rcases hreply : getSamplingReply py response with exc | b
      · exact .unread .reply pass k node rest (some response) htask
          (by simp [fails, htask, hreply, Except.isOk, Except.toBool])
      · exact .learn pass k node rest response b _ htask (turn_adapt _ pass k node rest)
    · exact .idle _
    · simp only
      rcases hreply : setSamplingReply response with exc | ⟨⟩
      · exact .unconfirmed .reply pass k node t body rest (some response) htask
          (by simp [fails, htask, hreply, Except.isOk, Except.toBool])
      · exact .confirm pass k node t body rest response htask
  | lose =>
    simp only [step, Monitor.lose]
    rcases htask : m.task with ended | ⟨pass, rest⟩ | ⟨pass, k, node, rest, r⟩ |
      ⟨pass, k, node, t, body, rest, r⟩
    · exact .idle _
    · exact .idle _
    · exact .unread .lose pass k node rest r htask (by simp [fails, htask])
    · exact .unconfirmed .lose pass k node t body rest r htask (by simp [fails, htask])

/-- A pass that begins has the registered nodes before it, and the table keeps their entries. -/
theorem wake_cases (m : Monitor) (registry : Registry) (delay_state : Dict Key DelayState) :
    m.wake registry delay_state = { m with task := .sleeping none } ∨
    ∃ registered_nodes, registeredNodes registry.getAllNodes = .ok registered_nodes ∧
      m.wake registry delay_state =
        { m with
          sampling_interval_state := m.sampling_interval_state.filterKeys fun node_id =>
            (registered_nodes.get? node_id).isSome
          task := .running ⟨registered_nodes, delay_state, true⟩ registered_nodes.entries } := by
  unfold Monitor.wake
  rcases registeredNodes registry.getAllNodes with exc | registered_nodes
  · exact .inl rfl
  · exact .inr ⟨registered_nodes, rfl, rfl⟩

/-- What the monitor has before it when it sends a request. -/
inductive Sent (m m' : Monitor) : Request → Prop where
  /-- It visits a node whose baseline it does not have. -/
  | get (pass : Pass) (k : Key) (node : Node) (rest : List (Key × Node))
      (htask : m.task = .running pass ((k, node) :: rest))
      (hbaseline : m.sensor_baseline_interval_ms.get? k = none)
      (hsent : m'.task = .getting pass k node rest none) : Sent m m' (.get k)
  /-- It visits a node whose table entry is not the target, or has just learned its baseline. -/
  | put (pass : Pass) (k : Key) (node : Node) (t : ℤ) (body : CStdlib.Bytes)
      (rest : List (Key × Node))
      (htask : m.task = .running pass ((k, node) :: rest) ∨
        ∃ response, m.task = .getting pass k node rest (some response))
      (htable : m.sampling_interval_state.get? k ≠ some t)
      (htarget : m'.target pass k = some (some t))
      (hsent : m'.task = .putting pass k node t body rest none) : Sent m m' (.put k t)

theorem sent_of_sends {m : Monitor} {e : Event} {q : Request} (h : sends py rejects m e = some q) :
    Sent m (step py rejects m e) q := by
  unfold sends at h
  rcases hbefore : unhandled m.task with _ | q'
  · rw [hbefore] at h
    have hmove := @step_move py rejects m e
    generalize step py rejects m e = m' at hmove h ⊢
    cases hmove with
    | idle => cases hbefore.symm.trans h
    | wake registry delay_state hasleep =>
      rcases wake_cases m registry delay_state with hwake | ⟨registered_nodes, -, hwake⟩
      · rw [hwake] at h
        cases h
      · rw [hwake] at h
        cases h
    | finish pass htask => cases h
    | visit pass k node rest _ htask hturn =>
      cases hturn with
      | next => cases h
      | sleep => cases h
      | get hbaseline =>
        cases h
        exact .get pass k node rest htask hbaseline rfl
      | put t body htable htarget =>
        cases h
        exact .put pass k node t body rest (.inl htask) htable htarget rfl
    | read pass k node rest response htask => cases h
    | applied pass k node t body rest response htask => cases h
    | learn pass k node rest response b _ htask hturn =>
      cases hturn with
      | next => cases h
      | sleep => cases h
      | get hbaseline =>
        -- The baseline has just been learned.
        rw [Dict.get?_set, if_pos rfl] at hbaseline
        cases hbaseline
      | put t body htable htarget =>
        cases h
        exact .put pass k node t body rest (.inr ⟨response, htask⟩) htable htarget rfl
    | unread _ pass k node rest response htask hfails => cases h
    | confirm pass k node t body rest response htask => cases h
    | unconfirmed _ pass k node t body rest response htask hfails => cases h
  · rw [hbefore] at h
    cases h

/-- The nodes that the task has still to deal with in its pass. -/
def ahead : MonitorTask → List Key
  | .sleeping _ => []
  | .running _ rest => rest.map Prod.fst
  | .getting _ _ _ rest _ => rest.map Prod.fst
  | .putting _ _ _ _ _ rest _ => rest.map Prod.fst

/-- The node that the task awaits. -/
def awaited : MonitorTask → List Key
  | .getting _ k _ _ _ => [k]
  | .putting _ k _ _ _ _ _ => [k]
  | _ => []

/-- What is true of every state that a run reaches. -/
structure Ordered (m : Monitor) : Prop where
  /-- A baseline is read where none is known. -/
  unlearned : ∀ pass k node rest r, m.task = .getting pass k node rest r →
    m.sensor_baseline_interval_ms.get? k = none
  /-- A pass deals with each node once. -/
  nodup : (awaited m.task ++ ahead m.task).Nodup

theorem ordered_boot : Ordered Monitor.boot := ⟨(fun _ _ _ _ _ h => by cases h), List.nodup_nil⟩

/-- What is left of a pass deals with each node once. -/
theorem Turn.ordered {m m' : Monitor} {pass : Pass} {k : Key} {node : Node}
    {rest : List (Key × Node)} (h : Turn m pass k node rest m')
    (hnodup : (k :: rest.map Prod.fst).Nodup) : Ordered m' := by
  cases h with
  | next => exact ⟨(fun _ _ _ _ _ h => by cases h), (List.nodup_cons.mp hnodup).2⟩
  | sleep => exact ⟨(fun _ _ _ _ _ h => by cases h), List.nodup_nil⟩
  | get hbaseline =>
    refine ⟨fun _ _ _ _ _ h => ?_, hnodup⟩
    cases h
    exact hbaseline
  | put t body htable htarget => exact ⟨(fun _ _ _ _ _ h => by cases h), hnodup⟩

theorem Ordered.step {m : Monitor} (h : Ordered m) (e : Event) : Ordered (step py rejects m e) := by
  have hnodup := h.nodup
  have hmove := @step_move py rejects m e
  generalize CongestionTraffic.step py rejects m e = m' at hmove ⊢
  cases hmove with
  | idle => exact h
  | wake registry delay_state hasleep =>
    rcases wake_cases m registry delay_state with hwake | ⟨registered_nodes, -, hwake⟩
    · rw [hwake]
      exact ⟨(fun _ _ _ _ _ h => by cases h), List.nodup_nil⟩
    · rw [hwake]
      exact ⟨(fun _ _ _ _ _ h => by cases h), registered_nodes.nodup⟩
  | finish pass htask => exact ⟨(fun _ _ _ _ _ h => by cases h), List.nodup_nil⟩
  | visit pass k node rest _ htask hturn =>
    rw [htask] at hnodup
    exact hturn.ordered hnodup
  | read pass k node rest response htask =>
    rw [htask] at hnodup
    refine ⟨fun _ _ _ _ _ heq => ?_, hnodup⟩
    cases heq
    exact h.unlearned _ _ _ _ _ htask
  | applied pass k node t body rest response htask =>
    rw [htask] at hnodup
    exact ⟨(fun _ _ _ _ _ h => by cases h), hnodup⟩
  | learn pass k node rest response b _ htask hturn =>
    rw [htask] at hnodup
    exact hturn.ordered hnodup
  | unread _ pass k node rest response htask hfails =>
    rw [htask] at hnodup
    exact ⟨(fun _ _ _ _ _ h => by cases h), (List.nodup_cons.mp hnodup).2⟩
  | confirm pass k node t body rest response htask =>
    rw [htask] at hnodup
    exact ⟨(fun _ _ _ _ _ h => by cases h), (List.nodup_cons.mp hnodup).2⟩
  | unconfirmed _ pass k node t body rest response htask hfails =>
    exact ⟨(fun _ _ _ _ _ h => by cases h), List.nodup_nil⟩

theorem ordered_run (es : List Event) : Ordered (run (step py rejects) Monitor.boot es) :=
  run_invariant' (fun _ e h => h.step e) ordered_boot es

/-- A turn leaves the baselines and the table as they are. -/
theorem Turn.tables {m m' : Monitor} {pass : Pass} {k : Key} {node : Node}
    {rest : List (Key × Node)} (h : Turn m pass k node rest m') :
    m'.sensor_baseline_interval_ms = m.sensor_baseline_interval_ms ∧
      m'.sampling_interval_state = m.sampling_interval_state := by
  cases h with
  | next => exact ⟨rfl, rfl⟩
  | sleep => exact ⟨rfl, rfl⟩
  | get hbaseline => exact ⟨rfl, rfl⟩
  | put t body htable htarget => exact ⟨rfl, rfl⟩

/-- A baseline that is known stays as it is. -/
theorem baseline_step {m : Monitor} (h : Ordered m) {k : Key} {b : ℤ}
    (hb : m.sensor_baseline_interval_ms.get? k = some b) (e : Event) :
    (step py rejects m e).sensor_baseline_interval_ms.get? k = some b := by
  have hmove := @step_move py rejects m e
  generalize step py rejects m e = m' at hmove ⊢
  cases hmove with
  | idle => exact hb
  | wake registry delay_state hasleep =>
    rcases wake_cases m registry delay_state with hwake | ⟨registered_nodes, -, hwake⟩
    · rw [hwake]
      exact hb
    · rw [hwake]
      exact hb
  | finish pass htask => exact hb
  | visit pass k' node rest _ htask hturn => rwa [hturn.tables.1]
  | read pass k' node rest response htask => exact hb
  | applied pass k' node t body rest response htask => exact hb
  | learn pass k' node rest response b' _ htask hturn =>
    rw [hturn.tables.1, Dict.get?_set]
    by_cases hk : k = k'
    · -- A baseline that is known is not read.
      have hnone := h.unlearned _ _ _ _ _ htask
      rw [← hk, hb] at hnone
      cases hnone
    · rwa [if_neg hk]
  | unread _ pass k' node rest response htask hfails => exact hb
  | confirm pass k' node t body rest response htask => exact hb
  | unconfirmed _ pass k' node t body rest response htask hfails => exact hb

/-- The task is reading the baseline of the node, or the baseline is known. -/
def Reading (k : Key) (m : Monitor) : Prop :=
  (∃ pass node rest r, m.task = .getting pass k node rest r) ∨
    (m.sensor_baseline_interval_ms.get? k).isSome = true

/-- A baseline that is being read is known after it, unless the request fails. -/
theorem Reading.step {k : Key} {m : Monitor} (hm : Ordered m) (h : Reading k m) {e : Event}
    (hfails : fails py m e ≠ some (.get k)) : Reading k (step py rejects m e) := by
  rcases h with ⟨pass, node, rest, r, htask⟩ | hknown
  · have hmove := @step_move py rejects m e
    generalize CongestionTraffic.step py rejects m e = m' at hmove ⊢
    cases hmove with
    | idle => exact .inl ⟨pass, node, rest, r, htask⟩
    | wake registry delay_state hasleep =>
      rw [htask] at hasleep
      cases hasleep
    | finish pass' htask' => cases htask.symm.trans htask'
    | visit pass' k' node' rest' _ htask' hturn => cases htask.symm.trans htask'
    | read pass' k' node' rest' response htask' =>
      cases htask.symm.trans htask'
      exact .inl ⟨pass, node, rest, some response, rfl⟩
    | applied pass' k' node' t body rest' response htask' => cases htask.symm.trans htask'
    | learn pass' k' node' rest' response b _ htask' hturn =>
      cases htask.symm.trans htask'
      right
      rw [hturn.tables.1, Dict.get?_set, if_pos rfl]
      rfl
    | unread _ pass' k' node' rest' response htask' hfails' =>
      cases htask.symm.trans htask'
      exact absurd hfails' hfails
    | confirm pass' k' node' t body rest' response htask' => cases htask.symm.trans htask'
    | unconfirmed _ pass' k' node' t body rest' response htask' hfails' =>
      cases htask.symm.trans htask'
  · obtain ⟨b, hb⟩ := Option.isSome_iff_exists.mp hknown
    right
    rw [baseline_step hm hb e]
    rfl

/-- A read that is sent is being waited for. -/
theorem reading_of_sends {k : Key} {m : Monitor} {e : Event}
    (h : sends py rejects m e = some (.get k)) : Reading k (step py rejects m e) := by
  have hsent := sent_of_sends h
  generalize CongestionTraffic.step py rejects m e = m' at hsent ⊢
  cases hsent with
  | get pass _ node rest htask hbaseline hsent => exact .inl ⟨pass, node, rest, none, hsent⟩

/-- A baseline that is being read, or is known, is not read. -/
theorem Reading.not_sends {k : Key} {m : Monitor} (h : Reading k m) (e : Event) :
    sends py rejects m e ≠ some (.get k) := by
  intro hsends
  have hsent := sent_of_sends hsends
  generalize CongestionTraffic.step py rejects m e = m' at hsent
  cases hsent with
  | get pass _ node rest htask hbaseline hsent =>
    rcases h with ⟨pass', node', rest', r, htask'⟩ | hknown
    · cases htask.symm.trans htask'
    · rw [hbaseline] at hknown
      cases hknown

/-- The interval is on its way to the node, or the table has it and nothing is on its way to the
node. -/
def Commanded (k : Key) (t : ℤ) (m : Monitor) : Prop :=
  (∃ pass node body rest r, m.task = .putting pass k node t body rest r) ∨
    (m.sampling_interval_state.get? k = some t ∧
      ∀ pass node t' body rest r, m.task ≠ .putting pass k node t' body rest r)

/-- A turn that commands the node sends an interval that the table does not have. -/
theorem Turn.commanded {m m' : Monitor} {pass : Pass} {k k' : Key} {node : Node}
    {rest : List (Key × Node)} {t : ℤ} (h : Turn m pass k' node rest m')
    (htable : m.sampling_interval_state.get? k = some t)
    (hother : ∀ t' ≠ t, unhandled m'.task ≠ some (.put k t')) : Commanded k t m' := by
  refine .inr ⟨by rwa [h.tables.2], fun pass' node' t' body' rest' r heq => ?_⟩
  cases h with
  | next => cases heq
  | sleep => cases heq
  | get hbaseline => cases heq
  | put t'' body htable' htarget =>
    cases heq
    refine hother t' (fun ht => htable' ?_) rfl
    rw [htable, ht]

/-- The table keeps an interval that has been sent, unless the command fails, the node is not
registered when a pass begins, or another interval is sent. -/
theorem Commanded.step {k : Key} {t : ℤ} {m : Monitor} (h : Commanded k t m) {e : Event}
    (hfails : fails py m e ≠ some (.put k t)) (hforgets : ¬ Forgets k m e)
    (hother : ∀ t' ≠ t, sends py rejects m e ≠ some (.put k t')) :
    Commanded k t (step py rejects m e) := by
  unfold sends at hother
  have hmove := @step_move py rejects m e
  generalize CongestionTraffic.step py rejects m e = m' at hmove hother ⊢
  rcases h with ⟨pass, node, body, rest, r, htask⟩ | ⟨htable, hnone⟩
  · cases hmove with
    | idle => exact .inl ⟨pass, node, body, rest, r, htask⟩
    | wake registry delay_state hasleep =>
      rw [htask] at hasleep
      cases hasleep
    | finish pass' htask' => cases htask.symm.trans htask'
    | visit pass' k' node' rest' _ htask' hturn => cases htask.symm.trans htask'
    | read pass' k' node' rest' response htask' => cases htask.symm.trans htask'
    | applied pass' k' node' t' body' rest' response htask' =>
      cases htask.symm.trans htask'
      exact .inl ⟨pass, node, body, rest, some response, rfl⟩
    | learn pass' k' node' rest' response b _ htask' hturn => cases htask.symm.trans htask'
    | unread _ pass' k' node' rest' response htask' hfails' => cases htask.symm.trans htask'
    | confirm pass' k' node' t' body' rest' response htask' =>
      cases htask.symm.trans htask'
      refine .inr ⟨?_, fun _ _ _ _ _ _ heq => by cases heq⟩
      exact (Dict.get?_set _ _ _ _).trans (if_pos rfl)
    | unconfirmed _ pass' k' node' t' body' rest' response htask' hfails' =>
      cases htask.symm.trans htask'
      exact absurd hfails' hfails
  · cases hmove with
    | idle => exact .inr ⟨htable, hnone⟩
    | wake registry delay_state hasleep =>
      rcases wake_cases m registry delay_state with hwake | ⟨registered_nodes, hnodes, hwake⟩
      · rw [hwake]
        exact .inr ⟨htable, fun _ _ _ _ _ _ heq => by cases heq⟩
      · have hregistered : (registered_nodes.get? k).isSome = true := by
          rw [Option.isSome_iff_ne_none]
          exact fun habsent =>
            hforgets ⟨registry, delay_state, registered_nodes, rfl, hasleep, hnodes, habsent⟩
        rw [hwake]
        refine .inr ⟨?_, fun _ _ _ _ _ _ heq => by cases heq⟩
        exact (Dict.get?_filterKeys _ _ k).trans ((if_pos hregistered).trans htable)
    | finish pass htask => exact .inr ⟨htable, fun _ _ _ _ _ _ heq => by cases heq⟩
    | visit pass k' node rest _ htask hturn =>
      rw [htask] at hother
      exact hturn.commanded htable hother
    | read pass k' node rest response htask =>
        exact .inr ⟨htable, fun _ _ _ _ _ _ heq => by cases heq⟩
    | applied pass k' node t' body rest response htask =>
      refine .inr ⟨htable, fun _ _ _ _ _ _ heq => ?_⟩
      cases heq
      exact hnone _ _ _ _ _ _ htask
    | learn pass k' node rest response b _ htask hturn =>
      rw [htask] at hother
      exact hturn.commanded htable hother
    | unread _ pass k' node rest response htask hfails' =>
      exact .inr ⟨htable, fun _ _ _ _ _ _ heq => by cases heq⟩
    | confirm pass k' node t' body rest response htask =>
      refine .inr ⟨?_, fun _ _ _ _ _ _ heq => by cases heq⟩
      -- The confirmed command went to another node.
      have hk : k ≠ k' := by
        rintro rfl
        exact hnone _ _ _ _ _ _ htask
      exact (Dict.get?_set _ _ _ _).trans ((if_neg hk).trans htable)
    | unconfirmed _ pass k' node t' body rest response htask hfails' =>
      exact .inr ⟨htable, fun _ _ _ _ _ _ heq => by cases heq⟩

/-- A command that is sent is on its way. -/
theorem commanded_of_sends {k : Key} {t : ℤ} {m : Monitor} {e : Event}
    (h : sends py rejects m e = some (.put k t)) : Commanded k t (step py rejects m e) := by
  have hsent := sent_of_sends h
  generalize CongestionTraffic.step py rejects m e = m' at hsent ⊢
  cases hsent with
  | put pass _ node _ body rest htask htable htarget hsent =>
      exact .inl ⟨pass, node, body, rest, none, hsent⟩

/-- An interval that is on its way to the node, or in the table, is not sent. -/
theorem Commanded.not_sends {k : Key} {t : ℤ} {m : Monitor} (h : Commanded k t m) (e : Event) :
    sends py rejects m e ≠ some (.put k t) := by
  intro hsends
  have hsent := sent_of_sends hsends
  generalize CongestionTraffic.step py rejects m e = m' at hsent
  cases hsent with
  | put pass _ node _ body rest htask htable htarget hsent =>
    rcases h with ⟨pass', node', body', rest', r, htask'⟩ | ⟨hknown, -⟩
    · rcases htask with htask | ⟨response, htask⟩
      · cases htask.symm.trans htask'
      · cases htask.symm.trans htask'
    · exact htable hknown

/-- A command carries the congested interval or the baseline of the node. -/
theorem interval_of_sends {k : Key} {t : ℤ} {m : Monitor} {e : Event}
    (h : sends py rejects m e = some (.put k t)) :
    t = congestedPublishIntervalMs ∨
      (step py rejects m e).sensor_baseline_interval_ms.get? k = some t := by
  have hsent := sent_of_sends h
  generalize CongestionTraffic.step py rejects m e = m' at hsent ⊢
  cases hsent with
  | put pass _ node _ body rest htask htable htarget hsent =>
    unfold Monitor.target at htarget
    rcases hstate : pass.delay_state.get? k with _ | state
    · rw [hstate] at htarget
      cases htarget
    · rw [hstate] at htarget
      simp only at htarget
      split_ifs at htarget with hsamples
      rw [Option.some_inj, Monitor.targetInterval] at htarget
      split_ifs at htarget with hcongested
      · exact .inl (Option.some.inj htarget).symm
      · exact .inr htarget

/-- The pass has sent its request of the line. -/
def Past (line : Key × Bool) (m : Monitor) : Prop :=
  line.1 ∉ ahead m.task ∧
    (line.2 = true → ∀ pass node rest r, m.task ≠ .getting pass line.1 node rest r)

/-- A turn for another node leaves the line alone. -/
theorem Turn.past {m m' : Monitor} {pass : Pass} {k : Key} {node : Node} {rest : List (Key × Node)}
    {line : Key × Bool} (h : Turn m pass k node rest m') (hrest : line.1 ∉ rest.map Prod.fst)
    (hk : (m.sensor_baseline_interval_ms.get? k).isSome = true ∨ k ≠ line.1) : Past line m' := by
  cases h with
  | next => exact ⟨hrest, fun _ _ _ _ _ heq => by cases heq⟩
  | sleep => exact ⟨List.not_mem_nil, fun _ _ _ _ _ heq => by cases heq⟩
  | get hbaseline =>
    refine ⟨hrest, fun _ _ _ _ _ heq => ?_⟩
    cases heq
    rcases hk with hk | hk
    · rw [hbaseline] at hk
      cases hk
    · exact hk rfl
  | put t body htable htarget => exact ⟨hrest, fun _ _ _ _ _ heq => by cases heq⟩

/-- A pass does not come back to a request that it has sent. -/
theorem Past.step {line : Key × Bool} {m : Monitor} (h : Past line m) {e : Event}
    (hwake : ∀ registry delay_state, e = .wake registry delay_state → m.task.asleep = false) :
    Past line (step py rejects m e) := by
  obtain ⟨hahead, hgetting⟩ := h
  have hmove := @step_move py rejects m e
  generalize CongestionTraffic.step py rejects m e = m' at hmove ⊢
  cases hmove with
  | idle => exact ⟨hahead, hgetting⟩
  | wake registry delay_state hasleep =>
    rw [hwake registry delay_state rfl] at hasleep
    cases hasleep
  | finish pass htask => exact ⟨List.not_mem_nil, fun _ _ _ _ _ heq => by cases heq⟩
  | visit pass k node rest _ htask hturn =>
    rw [htask] at hahead
    obtain ⟨hk, hrest⟩ := not_or.mp fun hmem => hahead (List.mem_cons.mpr hmem)
    exact hturn.past hrest (.inr (Ne.symm hk))
  | read pass k node rest response htask =>
    rw [htask] at hahead
    refine ⟨hahead, fun hline _ _ _ _ heq => ?_⟩
    cases heq
    exact hgetting hline _ _ _ _ htask
  | applied pass k node t body rest response htask =>
    rw [htask] at hahead
    exact ⟨hahead, fun _ _ _ _ _ heq => by cases heq⟩
  | learn pass k node rest response b _ htask hturn =>
    rw [htask] at hahead
    refine hturn.past hahead (.inl ?_)
    rw [Dict.get?_set, if_pos rfl]
    rfl
  | unread _ pass k node rest response htask hfails =>
    rw [htask] at hahead
    exact ⟨hahead, fun _ _ _ _ _ heq => by cases heq⟩
  | confirm pass k node t body rest response htask =>
    rw [htask] at hahead
    exact ⟨hahead, fun _ _ _ _ _ heq => by cases heq⟩
  | unconfirmed _ pass k node t body rest response htask hfails =>
    exact ⟨List.not_mem_nil, fun _ _ _ _ _ heq => by cases heq⟩

/-- A pass is past a request that it has just sent. -/
theorem past_of_sends {m : Monitor} (hm : Ordered m) {e : Event} {q : Request}
    (h : sends py rejects m e = some q) : Past q.line (step py rejects m e) := by
  have hnodup : (awaited (step py rejects m e).task ++ ahead (step py rejects m e).task).Nodup :=
    (hm.step e).nodup
  have hsent := sent_of_sends h
  generalize step py rejects m e = m' at hsent hnodup ⊢
  cases hsent with
  | get pass k node rest htask hbaseline hsent =>
    rw [hsent] at hnodup
    refine ⟨?_, fun hline => by cases hline⟩
    rw [hsent]
    exact (List.nodup_cons.mp hnodup).1
  | put pass k node t body rest htask htable htarget hsent =>
    rw [hsent] at hnodup
    refine ⟨?_, fun _ _ _ _ _ heq => ?_⟩
    · rw [hsent]
      exact (List.nodup_cons.mp hnodup).1
    · rw [hsent] at heq
      cases heq

/-- A pass sends no request of a line that it is past. -/
theorem Past.not_sends {m : Monitor} {e : Event} {q : Request} (h : Past q.line m) :
    sends py rejects m e ≠ some q := by
  intro hsends
  obtain ⟨hahead, hgetting⟩ := h
  have hsent := sent_of_sends hsends
  generalize CongestionTraffic.step py rejects m e = m' at hsent
  cases hsent with
  | get pass k node rest htask hbaseline hsent =>
    rw [htask] at hahead
    exact hahead List.mem_cons_self
  | put pass k node t body rest htask htable htarget hsent =>
    rcases htask with htask | ⟨response, htask⟩
    · rw [htask] at hahead
      exact hahead List.mem_cons_self
    · exact hgetting rfl _ _ _ _ htask

/-- What the monitor sends to a node over a run. -/
structure Traffic (py : Interp) (rejects : Uri → Bool) (k : Key) : Prop where
  /-- A baseline that has been learned never changes. -/
  baseline : ∀ pre mid b,
    (run (step py rejects) Monitor.boot pre).sensor_baseline_interval_ms.get? k = some b →
    (run (step py rejects) Monitor.boot (pre ++ mid)).sensor_baseline_interval_ms.get? k = some b
  /-- A command carries the congested interval or the baseline of the node. -/
  interval : ∀ pre e t, sends py rejects (run (step py rejects) Monitor.boot pre) e =
    some (.put k t) →
    t = congestedPublishIntervalMs ∨
      (run (step py rejects) Monitor.boot (pre ++ [e])).sensor_baseline_interval_ms.get? k = some t
  /-- The interval of the node is read again only after a read that has failed. -/
  get_again : ∀ pre e mid e',
    sends py rejects (run (step py rejects) Monitor.boot pre) e = some (.get k) →
    sends py rejects (run (step py rejects) Monitor.boot (pre ++ e :: mid)) e' = some (.get k) →
    ∃ mid' f, mid' ++ [f] <+: mid ∧
      fails py (run (step py rejects) Monitor.boot (pre ++ e :: mid')) f = some (.get k)
  /-- A command is repeated after one that has failed, after a pass that has not found the node
  registered, or after a command with another interval. -/
  put_again : ∀ pre e mid e' t,
    sends py rejects (run (step py rejects) Monitor.boot pre) e = some (.put k t) →
    sends py rejects (run (step py rejects) Monitor.boot (pre ++ e :: mid)) e' = some (.put k t) →
    ∃ mid' f, mid' ++ [f] <+: mid ∧
      (fails py (run (step py rejects) Monitor.boot (pre ++ e :: mid')) f = some (.put k t) ∨
        Forgets k (run (step py rejects) Monitor.boot (pre ++ e :: mid')) f ∨
        ∃ t' ≠ t, sends py rejects (run (step py rejects) Monitor.boot (pre ++ e :: mid')) f =
          some (.put k t'))
  /-- Between two requests of one kind to the node a pass begins. -/
  one_pass : ∀ pre e mid e' q q',
    sends py rejects (run (step py rejects) Monitor.boot pre) e = some q →
    sends py rejects (run (step py rejects) Monitor.boot (pre ++ e :: mid)) e' = some q' →
    q.line = q'.line → ∃ mid' registry delay_state, mid' ++ [.wake registry delay_state] <+: mid ∧
      (run (step py rejects) Monitor.boot (pre ++ e :: mid')).task.asleep = true

/-- In every run of the monitor, whatever registry and delay state its passes find and whatever
becomes of its requests: a baseline that has been read is never read again and never changes, every
command carries the congested interval or the baseline, a pass sends a node at most one request of
each kind, and a command is repeated only after one that has failed, after a pass in which the node
was not registered, or after a command with another interval. -/
theorem monitor_traffic (py : Interp) (rejects : Uri → Bool) (k : Key) : Traffic py rejects k where
  baseline pre mid b hb := by
    rw [run_append]
    generalize hm : run (step py rejects) Monitor.boot pre = m at hb
    have hboth : Ordered (run (step py rejects) m mid) ∧
        (run (step py rejects) m mid).sensor_baseline_interval_ms.get? k = some b :=
      run_invariant' (I := fun m => Ordered m ∧ m.sensor_baseline_interval_ms.get? k = some b)
        (fun m e h => ⟨h.1.step e, baseline_step h.1 h.2 e⟩) ⟨hm ▸ ordered_run pre, hb⟩ mid
    exact hboth.2
  interval pre e t hsends := by
    rw [run_concat]
    exact interval_of_sends hsends
  get_again pre e mid e' hsends hsends' := by
    by_contra hnone
    push Not at hnone
    rw [run_append, run_cons] at hsends'
    have hnever : Along (step py rejects) (fun m f => fails py m f ≠ some (.get k))
        (step py rejects (run (step py rejects) Monitor.boot pre) e) mid := by
      refine along_iff_at_every_step.mpr fun mid' f hprefix => ?_
      rw [← run_cons, ← run_append]
      exact hnone mid' f hprefix
    have hboth := run_invariant (I := fun m => Ordered m ∧ Reading k m)
      (fun m f h hf => ⟨h.1.step f, h.2.step h.1 hf⟩) ⟨(ordered_run pre).step e,
        reading_of_sends hsends⟩ hnever
    exact hboth.2.not_sends e' hsends'
  put_again pre e mid e' t hsends hsends' := by
    by_contra hnone
    push Not at hnone
    rw [run_append, run_cons] at hsends'
    have hnever : Along (step py rejects) (fun m f => fails py m f ≠ some (.put k t) ∧
        ¬ Forgets k m f ∧
        ∀ t' ≠ t, sends py rejects m f ≠ some (.put k t'))
        (step py rejects (run (step py rejects) Monitor.boot pre) e) mid := by
      refine along_iff_at_every_step.mpr fun mid' f hprefix => ?_
      rw [← run_cons, ← run_append]
      exact hnone mid' f hprefix
    have hafter := run_invariant (I := Commanded k t) (fun m f h hf => h.step hf.1 hf.2.1 hf.2.2)
      (commanded_of_sends hsends) hnever
    exact hafter.not_sends e' hsends'
  one_pass pre e mid e' q q' hsends hsends' hline := by
    by_contra hnone
    push Not at hnone
    rw [run_append, run_cons] at hsends'
    have hnever : Along (step py rejects)
        (fun m f => ∀ registry delay_state, f = .wake registry delay_state → m.task.asleep = false)
        (step py rejects (run (step py rejects) Monitor.boot pre) e) mid := by
      refine along_iff_at_every_step.mpr fun mid' f hprefix registry delay_state hf => ?_
      rw [← run_cons, ← run_append]
      exact Bool.eq_false_iff.mpr (hnone mid' registry delay_state (hf ▸ hprefix))
    have hpast := run_invariant (I := Past q.line) (fun m f h hf => h.step hf)
      (past_of_sends (ordered_run pre) hsends) hnever
    rw [hline] at hpast
    exact hpast.not_sends hsends'

end

end EnergyStation.Cloud.CongestionTraffic
