import EnergyStation.System.SamplingLedger

/-!
# The invariant of adaptive sampling

Every event that is safe for the ledger keeps `Inv` (`Inv.step`), and at the end of a pass it gives
`Agrees` (`Inv.agrees_of_ended`). The part that has an argument is what a pass knows: a node has
been served when the loop has gone on to the next one, since the loop skips a command only where its
table has the target already, and the table is right about every undisturbed node.
-/

namespace EnergyStation.System.AdaptiveSampling

open Python Firmware Cloud

variable {py : Interp} {rejects : Uri → Bool} {cfg : Key → SamplingBuild}

/-- What a pass owes to a node that is not a battery is the target that the loop computes. -/
theorem due_eq_target {m : Monitor} {pass : Pass} {k : Key} {node : Node} {t : ℤ}
    (h : due pass m.sensor_baseline_interval_ms k node = some t) :
    isStr "battery" (node.info.get "type") = false ∧
      m.sensor_baseline_interval_ms.get? k ≠ none ∧ m.target pass k = some (some t) := by
  unfold due at h
  split_ifs at h with hbattery
  refine ⟨Bool.eq_false_iff.mpr hbattery, ?_⟩
  unfold Monitor.target
  cases hstate : pass.delay_state.get? k with
  | none =>
    simp only [hstate] at h
    cases h
  | some state =>
    cases hbaseline : m.sensor_baseline_interval_ms.get? k with
    | none =>
      simp only [hstate, hbaseline] at h
      cases h
    | some baseline =>
      simp only [hstate, hbaseline] at h
      refine ⟨Option.some_ne_none baseline, ?_⟩
      split_ifs at h with hsamples hcongested
      · simp only
        rw [if_neg hsamples, Monitor.targetInterval, if_pos hcongested, h]
      · simp only
        rw [if_neg hsamples, Monitor.targetInterval, if_neg hcongested, hbaseline, h]

/-- The target that the loop computes is what the pass owes, where the baseline is known. -/
theorem due_of_target {m : Monitor} {pass : Pass} {k : Key} {node : Node} {b t : ℤ}
    (hbattery : isStr "battery" (node.info.get "type") = false)
    (hb : m.sensor_baseline_interval_ms.get? k = some b) (h : m.target pass k = some (some t)) :
    due pass m.sensor_baseline_interval_ms k node = some t := by
  unfold due
  rw [hbattery, if_neg Bool.false_ne_true, hb]
  unfold Monitor.target Monitor.targetInterval at h
  cases hstate : pass.delay_state.get? k with
  | none =>
    rw [hstate] at h
    cases h
  | some state =>
    simp only [hstate, hb] at h ⊢
    split_ifs at h ⊢ with hsamples hcongested
    · exact Option.some.inj h
    · exact Option.some.inj h

/-- A target, where the loop computes one, is in range. -/
theorem inRange_target {m : Monitor} (hm : BaselinesInRange m) {pass : Pass} {k : Key} {t : ℤ}
    (h : m.target pass k = some (some t)) : InRange t := by
  unfold Monitor.target at h
  split at h
  · cases h
  · split_ifs at h
    have ht := Option.some.inj h
    unfold Monitor.targetInterval at ht
    split_ifs at ht
    · rw [← Option.some.inj ht]
      exact ⟨by decide, by decide⟩
    · exact hm k t ht

/-- With a known baseline the lookup of the target does not raise. -/
theorem exists_target {m : Monitor} {pass : Pass} {k : Key} {b : ℤ}
    (hb : m.sensor_baseline_interval_ms.get? k = some b) {t : Option ℤ}
    (h : m.target pass k = some t) : ∃ t', t = some t' := by
  unfold Monitor.target Monitor.targetInterval at h
  split at h
  · cases h
  · split_ifs at h
    · exact ⟨_, (Option.some.inj h).symm⟩
    · exact ⟨b, by rw [← Option.some.inj h, hb]⟩

/-- What a pass owes to a node depends on that node's baseline alone. -/
theorem due_congr {pass : Pass} {d d' : Dict Key ℤ} {k : Key} (h : d.get? k = d'.get? k)
    (node : Node) : due pass d k node = due pass d' k node := by
  unfold due
  rw [h]

section

variable {s s' : State} {pass : Pass} {x : Key × Node} {rest : List (Key × Node)}

/-- On to the next node, where this one has been served. -/
theorem Through.next (h : Through s pass (x :: rest)) (hx : pass.clean = true → Served s pass x) :
    Through s pass rest := by
  obtain ⟨done, hsplit, hdone⟩ := h
  refine ⟨done ++ [x], by rw [hsplit, List.append_assoc]; rfl, fun hclean y hy => ?_⟩
  rcases List.mem_append.mp hy with hy | hy
  · exact hdone hclean y hy
  · rw [List.mem_singleton.mp hy]
    exact hx hclean

/-- On to the next node, after a request that has failed. -/
theorem Through.unclean (h : Through s pass (x :: rest)) :
    Through s { pass with clean := false } rest := by
  obtain ⟨done, hsplit, -⟩ := h
  have hsplit' : pass.registered_nodes.entries = (done ++ [x]) ++ rest := by
    rw [hsplit, List.append_assoc]
    rfl
  exact ⟨done ++ [x], hsplit', fun hclean => nomatch hclean⟩

/-- A pass that has come to the end of its snapshot has served all of it. -/
theorem Through.all (h : Through s pass []) (hclean : pass.clean = true) :
    ∀ x ∈ pass.registered_nodes.entries, Served s pass x := by
  obtain ⟨done, hsplit, hdone⟩ := h
  rw [hsplit, List.append_nil]
  exact hdone hclean

/-- Served nodes stay served while a step moves the node that is being visited. -/
theorem Through.frame (h : Through s pass (x :: rest))
    (hserved : ∀ y, y.1 ≠ x.1 → Served s pass y → Served s' pass y) :
    Through s' pass (x :: rest) := by
  obtain ⟨done, hsplit, hdone⟩ := h
  refine ⟨done, hsplit, fun hclean y hy => hserved y ?_ (hdone hclean y hy)⟩
  have hnodup := pass.registered_nodes.nodup
  rw [hsplit, List.map_append, List.nodup_append] at hnodup
  exact hnodup.2.2 y.1 (List.mem_map_of_mem hy) x.1
    (List.mem_map_of_mem List.mem_cons_self)

/-- Served nodes stay served in a step that serves no node. -/
theorem Through.mono (h : Through s pass rest) (hserved : ∀ y, Served s pass y → Served s' pass y) :
    Through s' pass rest := by
  obtain ⟨done, hsplit, hdone⟩ := h
  exact ⟨done, hsplit, fun hclean y hy => hserved y (hdone hclean y hy)⟩

/-- The node that is being visited is in the snapshot. -/
theorem Through.mem (h : Through s pass (x :: rest)) :
    x ∈ pass.registered_nodes.entries := by
  obtain ⟨done, hsplit, -⟩ := h
  rw [hsplit]
  exact List.mem_append_right done List.mem_cons_self

end

/-- With no command in flight the table is right about every node that has not been disturbed. -/
theorem Inv.table {s : State} (h : Inv py rejects s) (happlied : applied s.monitor.task = none)
    {k : Key} {t : ℤ} (hdisturbed : s.disturbed k = false)
    (hrec : s.monitor.sampling_interval_state.get? k = some t) : s.interval k = t := by
  have htrusted : s.ledger.trusted k = true := by
    show (!s.pending k) = true
    rw [h.undisturbed k hdisturbed]
    rfl
  have hexpected : s.ledger.expected = s.ledger.recorded := Ledger.expected_of_none happlied
  exact h.agrees k t htrusted (by rw [hexpected]; exact hrec)

/-- The rest of the loop's body keeps what the pass knows, where the table is right about the node
that is being visited. -/
theorem taskInv_adapt {s : State} {pass : Pass} {k : Key} {node : Node}
    {rest : List (Key × Node)} (hthrough : Through s pass ((k, node) :: rest))
    (hbattery : isStr "battery" (node.info.get "type") = false)
    (hbaselines : BaselinesInRange s.monitor) {b : ℤ}
    (hb : s.monitor.sensor_baseline_interval_ms.get? k = some b)
    (htable : ∀ t, s.disturbed k = false →
      s.monitor.sampling_interval_state.get? k = some t → s.interval k = t) :
    TaskInv py rejects { s with monitor := s.monitor.adapt py rejects pass k node rest }
      (s.monitor.adapt py rejects pass k node rest).task := by
  rcases s.monitor.adapt_cases pass k node rest with ⟨h, hskip⟩ | ⟨t, body, h, htarget, hbody⟩ |
    ⟨h, t, htarget, hfail⟩
  · rw [h]
    show Through s pass rest
    refine hthrough.next fun _ hdisturbed t hdue => ?_
    obtain ⟨t', ht', hrec⟩ := hskip (some t) (due_eq_target hdue).2.2
    exact htable t hdisturbed (by rw [hrec, Option.some.inj ht'])
  · rw [h]
    refine ⟨hthrough, inRange_target hbaselines htarget, (samplingBody_eq_ok.mp hbody).2, ?_,
      fun r hr => nomatch hr⟩
    intro t' hdue
    have hsame := (due_eq_target hdue).2.2.symm.trans htarget
    exact Option.some.inj (Option.some.inj hsame)
  · rw [h]
    intro _ haddr
    obtain ⟨t', rfl⟩ := exists_target hb htarget
    have hnode := (Dict.get?_eq_some_iff pass.registered_nodes k node).mpr hthrough.mem
    obtain ⟨hrecorded, hno⟩ := hfail t' rfl
    -- The pass ends here only where the node has no address.
    obtain ⟨uri, huri⟩ := haddr k node t' hnode (due_of_target hbattery hb htarget) hrecorded
    have hrange := inRange_target hbaselines htarget
    rcases hno with hno | hno
    · exact absurd huri (hno uri)
    · exact absurd (samplingBody_eq_ok.mpr ⟨hrange.1, rfl⟩) (hno _)

/-- A node is stored under its id for as long as it is stored. -/
theorem StoredUnderId.insert {r : Registry} (h : StoredUnderId r) {k : Key} {now_ms : ℤ}
    {node_info : Obj} (hk : hashKey (storedId node_info) = .ok k) :
    StoredUnderId (r.insert k now_ms node_info) := by
  intro k' n hn hid
  rw [Registry.get?_insert] at hn
  split_ifs at hn with hkk
  · have hget : (storedInfo now_ms node_info).get "node_id" = node_info.get "node_id" :=
      storedInfo_getD (by decide) now_ms node_info .none
    rw [← Option.some.inj hn] at hid ⊢
    have hid' : truthy (node_info.get "node_id") = true := by
      rw [← hget]
      exact hid
    have hstored : storedId node_info = node_info.get "node_id" := by
      unfold storedId
      rw [if_pos hid']
    show hashKey ((storedInfo now_ms node_info).get "node_id") = .ok k'
    rw [hget, ← hstored, hkk, hk]
  · exact h k' n hn hid

/-- A removal leaves the other nodes where they are. -/
theorem StoredUnderId.delete {r : Registry} (h : StoredUnderId r) (k : Key) :
    StoredUnderId (r.delete k) := by
  intro k' n hn
  rw [Registry.get?_delete] at hn
  split_ifs at hn
  exact h k' n hn

/-- Every event leaves the nodes stored under their ids. -/
theorem stored_step {s : State} (h : StoredUnderId s.registry) (e : Event) :
    StoredUnderId (step py rejects cfg s e).registry := by
  cases e with
  | register now_ms node_info =>
    rcases step_register_cases s now_ms node_info with heq | ⟨k, hk, heq⟩
    · rwa [heq]
    · rw [heq]
      exact h.insert hk
  | remove node_id =>
    rcases step_remove_cases s node_id with heq | ⟨k, heq⟩
    · rwa [heq]
    · rw [heq]
      exact h.delete k
  | wake delay_state =>
    simp only [step]
    split_ifs <;> exact h
  | deliver =>
    simp only [step, deliver]
    split <;> exact h
  | reboot k => exact h
  | run => exact h
  | reply => exact h
  | lose => exact h

/-- Every event leaves the undisturbed nodes registered. -/
theorem undisturbed_step {s : State} (h : Undisturbed s) (e : Event) :
    Undisturbed (step py rejects cfg s e) := by
  cases e with
  | register now_ms node_info =>
    rcases step_register_cases s now_ms node_info with heq | ⟨k, -, heq⟩
    · rwa [heq]
    · rw [heq]
      intro k' hk'
      have hpending : s.pending k' = false := h k' hk'
      show (s.pending k' && !registersAs node_info k') = false
      rw [hpending, Bool.false_and]
  | remove node_id =>
    rcases step_remove_cases s node_id with heq | ⟨k, heq⟩
    · rwa [heq]
    · rwa [heq]
  | reboot k' =>
    intro k hk
    simp only [step] at hk ⊢
    by_cases hkk : k = k'
    · rw [hkk, Function.update_self] at hk
      cases hk
    · rw [Function.update_of_ne hkk] at hk ⊢
      exact h k hk
  | wake delay_state =>
    simp only [step]
    split_ifs
    · exact fun k hk => hk
    · exact h
  | deliver =>
    simp only [step, deliver]
    split <;> exact h
  | run => exact h
  | reply => exact h
  | lose => exact h

/-- A baseline that is learned from a node is in range. -/
theorem BaselinesInRange.set {m : Monitor} (h : BaselinesInRange m) {k : Key} {v : ℤ}
    (hv : InRange v) :
    BaselinesInRange
      { m with sensor_baseline_interval_ms := m.sensor_baseline_interval_ms.set k v } := by
  intro k' b hb
  have hset : (m.sensor_baseline_interval_ms.set k v).get? k' = some b := hb
  rw [Dict.get?_set] at hset
  split_ifs at hset
  · rw [← Option.some.inj hset]
    exact hv
  · exact h k' b hset

/-- The rest of the loop's body learns no baseline. -/
theorem baselines_adapt (m : Monitor) (pass : Pass) (k : Key) (node : Node)
    (rest : List (Key × Node)) :
    (m.adapt py rejects pass k node rest).sensor_baseline_interval_ms =
      m.sensor_baseline_interval_ms := by
  rcases m.adapt_cases pass k node rest with ⟨h, -⟩ | ⟨t, body, h, -⟩ | ⟨h, -⟩
  · rw [h]
    rfl
  · rw [h]
  · rw [h]
    rfl

/-- The loop's body learns no baseline before its first suspension. -/
theorem baselines_visit (m : Monitor) (pass : Pass) (k : Key) (node : Node)
    (rest : List (Key × Node)) :
    (m.visit py rejects pass k node rest).sensor_baseline_interval_ms =
      m.sensor_baseline_interval_ms := by
  rcases m.visit_cases pass k node rest with ⟨h, -⟩ | ⟨-, h⟩ | ⟨-, -, h⟩
  · rw [h]
    rfl
  · rw [h]
  · rw [h]
    exact baselines_adapt m pass k node rest

/-- Every baseline is learned from a node, whose interval is in range. -/
theorem baselines_step {s : State} (h : Inv py rejects s) (e : Event) :
    BaselinesInRange (step py rejects cfg s e).monitor := by
  obtain ⟨-, hbaselines, -, -, htask⟩ := h
  cases e with
  | register now_ms node_info => rwa [step_register_monitor]
  | remove node_id => rwa [step_remove_monitor]
  | reboot k => exact hbaselines
  | wake delay_state =>
    simp only [step]
    split_ifs
    · unfold Monitor.wake
      split <;> exact hbaselines
    · exact hbaselines
  | run =>
    simp only [step, Monitor.run]
    split
    · exact hbaselines
    · rename_i pass k node rest hrunning
      intro k' b hb
      rw [baselines_visit] at hb
      exact hbaselines k' b hb
    · exact hbaselines
  | deliver =>
    simp only [step, deliver]
    split <;> exact hbaselines
  | reply =>
    simp only [step]
    rcases reply_cases htask with ⟨heq, -⟩ | ⟨pass, k, node, rest, r, v, -, hv, heq⟩ |
      ⟨pass, k, node, t, body, rest, r, -, heq⟩
    · rwa [heq]
    · rw [heq]
      intro k' b hb
      rw [baselines_adapt] at hb
      exact hbaselines.set hv k' b hb
    · rw [heq]
      exact hbaselines
  | lose =>
    simp only [step, Monitor.lose]
    split <;> exact hbaselines

/-- What a pass knows is about the nodes it has served, the commands it has sent and the baselines,
and nothing else. -/
theorem TaskInv.mono {s s' : State} {task : MonitorTask} (h : TaskInv py rejects s task)
    (hmonitor : s'.monitor = s.monitor) (hserved : ∀ pass y, Served s pass y → Served s' pass y) :
    TaskInv py rejects s' task := by
  cases task with
  | sleeping ended =>
    cases ended with
    | none => trivial
    | some pass =>
      intro hclean haddr x hx
      unfold Addressable at haddr
      rw [hmonitor] at haddr
      exact hserved pass x (h hclean haddr x hx)
  | running pass rest => exact Through.mono h (hserved pass)
  | getting pass k node rest response => exact ⟨h.1.mono (hserved pass), h.2⟩
  | putting pass k node t body rest response =>
    obtain ⟨hthrough, ht, hbody, hdue, hresponse⟩ := h
    refine ⟨hthrough.mono (hserved pass), ht, hbody, ?_, hresponse⟩
    rw [hmonitor]
    exact hdue

/-- The start of a pass has served no node. -/
theorem taskInv_wake {s : State} (h : StoredUnderId s.registry)
    (delay_state : Dict Key DelayState) :
    TaskInv py rejects { s with
        monitor := s.monitor.wake s.registry delay_state, disturbed := s.pending }
      (s.monitor.wake s.registry delay_state).task := by
  obtain ⟨registered_nodes, hnodes, -⟩ := registeredNodes_getAllNodes h
  unfold Monitor.wake
  rw [hnodes]
  exact ⟨[], rfl, fun _ => List.forall_mem_nil _⟩

/-- The monitor that runs on keeps what the pass knows. -/
theorem taskInv_run {s : State} (h : Inv py rejects s) :
    TaskInv py rejects { s with monitor := s.monitor.run py rejects }
      (s.monitor.run py rejects).task := by
  have htask := h.task
  unfold Monitor.run
  split
  · rename_i pass hrunning
    rw [hrunning] at htask
    exact fun hclean _ => htask.all hclean
  · rename_i pass k node rest hrunning
    rw [hrunning] at htask
    rcases s.monitor.visit_cases pass k node rest with ⟨hvisit, hskip⟩ | ⟨hbattery, hvisit⟩ |
      ⟨hbattery, ⟨b, hb⟩, hvisit⟩
    · rw [hvisit]
      show Through s pass rest
      -- Nothing is owed to a battery, or to a node whose baseline is not known.
      refine Through.next htask fun _ _ t hdue => ?_
      obtain ⟨hbattery, hbaseline, -⟩ := due_eq_target hdue
      rcases hskip with hskip | hskip
      · rw [hskip] at hbattery
        cases hbattery
      · exact absurd hskip hbaseline
    · rw [hvisit]
      exact ⟨htask, hbattery, fun r hr => nomatch hr⟩
    · rw [hvisit]
      have happlied : applied s.monitor.task = none := by
        rw [hrunning]
        rfl
      exact taskInv_adapt htask hbattery h.baselines hb fun t hdisturbed hrec =>
        h.table happlied hdisturbed hrec
  · exact htask

/-- A request that reaches its node keeps what the pass knows. -/
theorem taskInv_deliver {s : State} (h : TaskInv py rejects s s.monitor.task) :
    TaskInv py rejects (deliver cfg s) (deliver cfg s).monitor.task := by
  unfold deliver
  split
  · rename_i pass k node rest hgetting
    rw [hgetting] at h
    obtain ⟨hthrough, hbattery, -⟩ := h
    refine ⟨hthrough, hbattery, fun r hr => ?_⟩
    exact ⟨_, s.inRange_interval k, (Option.some.inj hr).symm⟩
  · rename_i pass k node t body rest hputting
    rw [hputting] at h
    obtain ⟨hthrough, ht, rfl, hdue, -⟩ := h
    refine ⟨?_, ht, rfl, hdue, fun r hr => ?_⟩
    · refine hthrough.frame fun y hy hserved hdisturbed t' ht' => ?_
      exact (interval_of_ne s hy _).trans (hserved hdisturbed t' ht')
    · rw [← Option.some.inj hr]
      exact (interval_resPutHandler s k ht).1
  · exact h

/-- A response that reaches the monitor keeps what the pass knows. -/
theorem taskInv_reply {s : State} (h : Inv py rejects s) :
    TaskInv py rejects { s with monitor := s.monitor.reply py rejects }
      (s.monitor.reply py rejects).task := by
  have htask := h.task
  rcases reply_cases htask with ⟨heq, -⟩ | ⟨pass, k, node, rest, r, v, hgetting, hv, heq⟩ |
    ⟨pass, k, node, t, body, rest, r, hputting, heq⟩
  · rwa [heq]
  · have happlied : applied s.monitor.task = none := by
      rw [hgetting]
      rfl
    rw [hgetting] at htask
    obtain ⟨hthrough, hbattery, -⟩ := htask
    let s' : State := { s with
      monitor := { s.monitor with
        sensor_baseline_interval_ms := s.monitor.sensor_baseline_interval_ms.set k v } }
    -- The new baseline is the visited node's, and nothing is yet owed to that node.
    have hthrough' : Through s' pass ((k, node) :: rest) := by
      refine hthrough.frame fun y hy hserved hdisturbed t ht => hserved hdisturbed t ?_
      rw [← ht]
      exact due_congr (Dict.get?_set_ne _ hy _).symm y.2
    rw [heq]
    exact taskInv_adapt hthrough' hbattery (h.baselines.set hv) (Dict.get?_set_self _ _ _)
      fun t hdisturbed hrec => h.table happlied hdisturbed hrec
  · have happlied : s.ledger.applied = some (k, t) := by
      show applied s.monitor.task = some (k, t)
      rw [hputting]
      rfl
    rw [hputting] at htask
    obtain ⟨hthrough, -, -, hdue, -⟩ := htask
    rw [heq]
    show Through s pass rest
    refine hthrough.next fun _ hdisturbed t' ht' => ?_
    have htrusted : s.ledger.trusted k = true := by
      show (!s.pending k) = true
      rw [h.undisturbed k hdisturbed]
      rfl
    have hexpected : s.ledger.expected k = some t := by
      rw [Ledger.expected_of_applied happlied, if_pos rfl]
    rw [hdue t' ht']
    exact h.agrees k t htrusted hexpected

/-- A request that is lost ends what is asked of the pass. -/
theorem taskInv_lose {s : State} (h : TaskInv py rejects s s.monitor.task) :
    TaskInv py rejects { s with monitor := s.monitor.lose } s.monitor.lose.task := by
  unfold Monitor.lose
  split
  · rename_i pass k node rest response hgetting
    rw [hgetting] at h
    exact h.1.unclean
  · exact fun hclean => nomatch hclean
  · exact h

/-- Every event keeps what the pass knows. -/
theorem task_step {s : State} (h : Inv py rejects s) (e : Event) :
    TaskInv py rejects (step py rejects cfg s e) (step py rejects cfg s e).monitor.task := by
  have htask := h.task
  cases e with
  | register now_ms node_info =>
    rcases step_register_cases s now_ms node_info with heq | ⟨k, -, heq⟩
    · rwa [heq]
    · rw [heq]
      exact htask.mono rfl fun _ _ hserved => hserved
  | remove node_id =>
    rcases step_remove_cases s node_id with heq | ⟨k, heq⟩
    · rwa [heq]
    · rw [heq]
      exact htask.mono rfl fun _ _ hserved => hserved
  | reboot k =>
    refine htask.mono rfl fun pass y hserved hdisturbed t ht => ?_
    simp only [step] at hdisturbed
    by_cases hy : y.1 = k
    · rw [hy, Function.update_self] at hdisturbed
      cases hdisturbed
    · rw [Function.update_of_ne hy] at hdisturbed
      exact (interval_of_ne s hy _).trans (hserved hdisturbed t ht)
  | wake delay_state =>
    simp only [step]
    split_ifs
    · exact taskInv_wake h.stored delay_state
    · exact htask
  | run => exact taskInv_run h
  | deliver => exact taskInv_deliver htask
  | reply => exact taskInv_reply h
  | lose => exact taskInv_lose htask

/-- A request is not lost after its node has applied it, while the table has another interval for
the node. -/
def NoOrphan (s : State) : Event → Prop
  | .lose => ∀ k t, applied s.monitor.task = some (k, t) →
      ∀ v, s.monitor.sampling_interval_state.get? k = some v → v = t
  | _ => True

/-- A node that registers after a restart has the interval that is recorded for it, where one is. -/
def FreshRegistration (s : State) : Event → Prop
  | .register _ node_info => ∀ k, registersAs node_info k = true → s.pending k = true →
      ∀ v, s.ledger.expected k = some v → s.interval k = v
  | _ => True

/-- The two conditions are what the ledger needs. -/
theorem safe_ledgerOp {s : State} {e : Event} (horphan : NoOrphan s e)
    (hfresh : FreshRegistration s e) {o : Ledger.Op Key ℤ} (ho : ledgerOp cfg s e = some o) :
    s.ledger.Safe o := by
  cases e with
  | register now_ms node_info =>
    simp only [ledgerOp] at ho
    split_ifs at ho
    cases hkey : hashKey (storedId node_info) with
    | error e =>
      rw [hkey] at ho
      cases ho
    | ok k =>
      rw [hkey] at ho
      rw [← Option.some.inj ho]
      intro htrusted v hv
      -- The ledger trusts the registration of a node that has restarted.
      have hpending : s.pending k = true := by
        have hnot : (!s.pending k) = false := htrusted
        rwa [Bool.not_eq_false'] at hnot
      have hregisters : registersAs node_info k = true := by
        unfold registersAs
        rw [hkey]
        exact decide_eq_true rfl
      exact hfresh k hregisters hpending v hv
  | remove node_id => cases ho
  | reboot k =>
    rw [← Option.some.inj ho]
    trivial
  | wake delay_state =>
    simp only [ledgerOp] at ho
    split_ifs at ho
    obtain ⟨registered_nodes, -, rfl⟩ := Option.map_eq_some_iff.mp ho
    trivial
  | run => cases ho
  | deliver =>
    obtain ⟨c, hc, rfl⟩ := Option.map_eq_some_iff.mp ho
    -- A request that has not arrived has not been applied.
    show applied s.monitor.task = none
    unfold sent at hc
    split at hc
    · rename_i hputting
      rw [hputting]
      rfl
    · cases hc
  | reply =>
    rw [← Option.some.inj ho]
    trivial
  | lose =>
    rw [← Option.some.inj ho]
    exact horphan

/-- An event that orphans no record keeps the invariant. -/
theorem Inv.step {s : State} (h : Inv py rejects s) {e : Event} (horphan : NoOrphan s e)
    (hfresh : FreshRegistration s e) : Inv py rejects (step py rejects cfg s e) where
  stored := stored_step h.stored e
  baselines := baselines_step h e
  agrees := by
    rw [ledger_step h, State.ledgerAfter]
    cases ho : ledgerOp cfg s e with
    | none => exact h.agrees
    | some o => exact h.agrees.step (safe_ledgerOp horphan hfresh ho)
  undisturbed := undisturbed_step h.undisturbed e
  task := task_step h e

/-- The cloud starts with nothing recorded. -/
theorem inv_boot (fleet : Key → Sampling) : Inv py rejects (boot fleet) where
  stored := fun _ _ hn => nomatch hn
  baselines := fun _ _ hb => nomatch hb
  agrees := fun _ _ _ hexpected => nomatch hexpected
  undisturbed := fun _ _ => rfl
  task := trivial

/-- At the end of a pass that has lost no request, every undisturbed node has the interval that the
pass owes it. -/
theorem Inv.agrees_of_ended {s : State} (h : Inv py rejects s) {pass : Pass}
    (hended : s.monitor.task = .sleeping (some pass)) (hclean : pass.clean = true)
    (haddr : Addressable py rejects s pass) {k : Key} (hk : s.disturbed k = false) :
    Agrees s pass k := by
  have htask := h.task
  rw [hended] at htask
  intro node t hnode hdue
  have hmem := (Dict.get?_eq_some_iff pass.registered_nodes k node).mp hnode
  exact htask hclean haddr (k, node) hmem hk t hdue

end EnergyStation.System.AdaptiveSampling
