import EnergyStation.Lib.Ledger
import EnergyStation.System.AdaptiveSampling

/-!
# The monitor's table as a ledger

The monitor's table of commanded intervals and the nodes' intervals form a `Ledger`, and
`ledger_step` says which of its operations each event is. That a command sets the interval it
carries depends on what the pass has put into its request, so the invariant `Inv` of the whole
system is stated here.
-/

namespace EnergyStation.System.AdaptiveSampling

open Python Firmware Cloud

/-- The command that has been sent and not yet been applied. -/
def sent : MonitorTask → Option (Key × ℤ)
  | .putting _ k _ target_interval _ _ none => some (k, target_interval)
  | _ => none

/-- The command that has been applied and not yet been acknowledged. -/
def applied : MonitorTask → Option (Key × ℤ)
  | .putting _ k _ target_interval _ _ (some _) => some (k, target_interval)
  | _ => none

/-- The monitor's table and the nodes' intervals. -/
def State.ledger (s : State) : Ledger Key ℤ where
  recorded k := s.monitor.sampling_interval_state.get? k
  applied := applied s.monitor.task
  cell := s.interval
  trusted k := !s.pending k

/-- Which operation of the ledger an event is. -/
def ledgerOp (cfg : Key → SamplingBuild) (s : State) : Event → Option (Ledger.Op Key ℤ)
  | .register _ node_info =>
    if s.monitor.task.busy then none else (hashKey (storedId node_info)).toOption.map .vouch
  | .reboot k => some (.restart k (cfg k).mqttPublishIntervalMs)
  | .wake _ =>
    if s.monitor.task.asleep then
      (registeredNodes s.registry.getAllNodes).toOption.map fun registered_nodes =>
        .forget fun k => (registered_nodes.get? k).isSome
    else none
  | .deliver => (sent s.monitor.task).map fun c => .apply c.1 c.2
  | .reply => some .acknowledge
  | .lose => some .lose
  | _ => none

/-- The interval is one that a node can have. -/
def InRange (interval_ms : ℤ) : Prop :=
  0 < interval_ms ∧ interval_ms ≤ mqttPublishIntervalStressedMs

/-- Every node that has an id is stored under it. -/
def StoredUnderId (r : Registry) : Prop :=
  ∀ k n, r.nodes.get? k = some n → truthy (n.info.get "node_id") = true →
    hashKey (n.info.get "node_id") = .ok k

/-- A node that has not been disturbed is not waiting to register. -/
def Undisturbed (s : State) : Prop := ∀ k, s.disturbed k = false → s.pending k = false

/-- Every baseline is an interval that a node can have. -/
def BaselinesInRange (m : Monitor) : Prop :=
  ∀ k b, m.sensor_baseline_interval_ms.get? k = some b → InRange b

section

variable (py : Interp) (rejects : Uri → Bool)

/-- A node of the snapshot has the interval that the pass owes it, unless it has been disturbed. -/
def Served (s : State) (pass : Pass) (x : Key × Node) : Prop :=
  s.disturbed x.1 = false →
    ∀ t, due pass s.monitor.sensor_baseline_interval_ms x.1 x.2 = some t → s.interval x.1 = t

/-- A pass has dealt with the nodes of its snapshot that are not still to come. -/
def Through (s : State) (pass : Pass) (rest : List (Key × Node)) : Prop :=
  ∃ done, pass.registered_nodes.entries = done ++ rest ∧
    (pass.clean = true → ∀ x ∈ done, Served s pass x)

/-- What a pass knows at each of its suspension points. -/
def TaskInv (s : State) : MonitorTask → Prop
  | .sleeping none => True
  -- The pass can also have ended at a node that it could not address.
  | .sleeping (some pass) => pass.clean = true → Addressable py rejects s pass →
    ∀ x ∈ pass.registered_nodes.entries, Served s pass x
  | .running pass rest => Through s pass rest
  | .getting pass k node rest response =>
    Through s pass ((k, node) :: rest) ∧
      isStr "battery" (node.info.get "type") = false ∧
      ∀ r, response = some r → ∃ v : ℕ, InRange v ∧ r = ⟨.content, Sampling.intervalBody v⟩
  | .putting pass k node target_interval body rest response =>
    Through s pass ((k, node) :: rest) ∧
      InRange target_interval ∧ body = Sampling.intervalBody target_interval.toNat ∧
      (∀ t, due pass s.monitor.sensor_baseline_interval_ms k node = some t →
        t = target_interval) ∧
      ∀ r, response = some r → r = ⟨.changed, Sampling.intervalBody target_interval.toNat⟩

/-- The invariant of runs whose steps are all safe for the ledger. -/
structure Inv (s : State) : Prop where
  /-- The registry's keys are the nodes' ids. -/
  stored : StoredUnderId s.registry
  /-- The baselines have been learned from nodes. -/
  baselines : BaselinesInRange s.monitor
  /-- The monitor's table is right about the nodes that have registered since they restarted. -/
  agrees : s.ledger.Agrees
  /-- The undisturbed nodes have registered. -/
  undisturbed : Undisturbed s
  /-- What the pass knows. -/
  task : TaskInv py rejects s s.monitor.task

end

section

variable {py : Interp} {rejects : Uri → Bool} {cfg : Key → SamplingBuild}

/-- The monitor reads the interval that the firmware's response carries. -/
theorem getSamplingReply_interval (py : Interp) {v : ℕ} (h : InRange v) :
    getSamplingReply py ⟨.content, Sampling.intervalBody v⟩ = .ok v := by
  have hle : (v : ℤ) ≤ 15000 := h.2
  unfold getSamplingReply Sampling.intervalBody
  rw [replyText_decimal, Except.bind, strip_decimal]
  exact intOfStr_decimal py 5 (by norm_num) (by omega) (by norm_num)

/-- The monitor takes the firmware's response to a command for a success. -/
theorem setSamplingReply_interval (v : ℕ) :
    setSamplingReply ⟨.changed, Sampling.intervalBody v⟩ = .ok () := by
  unfold setSamplingReply Sampling.intervalBody
  rw [replyText_decimal]
  rfl

/-- The interval of a node is in range. -/
theorem State.inRange_interval (s : State) (k : Key) : InRange (s.interval k) := by
  have hpos := (s.fleet k).pos
  have hle := (s.fleet k).le
  unfold InRange State.interval
  omega

/-- The body of a command is made where the interval is positive. -/
theorem samplingBody_eq_ok {t : ℤ} {body : CStdlib.Bytes} :
    samplingBody t = .ok body ↔ 0 < t ∧ body = Sampling.intervalBody t.toNat := by
  unfold samplingBody Sampling.intervalBody
  split_ifs with h
  · constructor
    · intro heq
      cases heq
    · rintro ⟨hpos, -⟩
      omega
  · constructor
    · intro heq
      exact ⟨by omega, (Except.ok.inj heq).symm⟩
    · rintro ⟨-, rfl⟩
      rfl

/-- Between suspension points the table and the nodes stay as they are, and no command is in
flight. -/
theorem ledger_adapt (s : State) (pass : Pass) (k : Key) (node : Node)
    (rest : List (Key × Node)) :
    State.ledger { s with monitor := s.monitor.adapt py rejects pass k node rest } =
      { s.ledger with applied := none } := by
  rcases s.monitor.adapt_cases pass k node rest with ⟨h, -⟩ | ⟨t, body, h, -⟩ | ⟨h, -⟩
  · rw [h]
    rfl
  · rw [h]
    rfl
  · rw [h]
    rfl

/-- A monitor that sleeps has no command in flight. -/
theorem applied_of_asleep {task : MonitorTask} (h : task.asleep = true) : applied task = none := by
  cases task with
  | sleeping ended => rfl
  | running pass rest => rfl
  | getting pass k node rest response => rfl
  | putting pass k node t body rest response => exact absurd h Bool.false_ne_true

/-- The ledger where no command is in flight. -/
theorem ledger_of_quiet {s : State} (h : applied s.monitor.task = none) :
    { s.ledger with applied := none } = s.ledger := by
  rw [← h]
  rfl

/-- A node that handles the command of the pass has the interval that it carries. -/
theorem interval_resPutHandler (s : State) (k : Key) {t : ℤ} (ht : InRange t) :
    ((s.fleet k).resPutHandler (cfg k) (Sampling.intervalBody t.toNat)).1 =
        ⟨.changed, Sampling.intervalBody t.toNat⟩ ∧
      (((s.fleet k).resPutHandler (cfg k) (Sampling.intervalBody t.toNat)).2
        |>.current_publish_interval_ms : ℤ) = t := by
  obtain ⟨hpos, hle⟩ := ht
  obtain ⟨hcode, hcurrent⟩ := (s.fleet k).resPutHandler_intervalBody (cfg k)
    (show 0 < t.toNat by omega) (show t.toNat ≤ mqttPublishIntervalStressedMs by omega)
  refine ⟨hcode, ?_⟩
  rw [hcurrent]
  omega

/-- A node that changes leaves the intervals of the others. -/
theorem interval_of_ne (s : State) {k k' : Key} (h : k' ≠ k) (n : Sampling) :
    ((Function.update s.fleet k n k').current_publish_interval_ms : ℤ) = s.interval k' := by
  rw [Function.update_of_ne h]
  rfl

/-- The intervals after a node has changed. -/
theorem interval_update (s : State) (k : Key) (n : Sampling) :
    (fun k' => ((Function.update s.fleet k n k').current_publish_interval_ms : ℤ)) =
      Function.update s.interval k n.current_publish_interval_ms := by
  funext k'
  by_cases hk : k' = k
  · rw [hk, Function.update_self, Function.update_self]
  · rw [interval_of_ne s hk, Function.update_of_ne hk]

/-- A response that arrives is one that its node has given: a baseline, which the loop's body goes
on with, or the acknowledgement of the command, which the table takes over. -/
theorem reply_cases {s : State} (h : TaskInv py rejects s s.monitor.task) :
    (s.monitor.reply py rejects = s.monitor ∧ applied s.monitor.task = none) ∨
    (∃ pass k node rest r, ∃ v : ℕ, s.monitor.task = .getting pass k node rest (some r) ∧
      InRange v ∧ s.monitor.reply py rejects =
        { s.monitor with
          sensor_baseline_interval_ms :=
            s.monitor.sensor_baseline_interval_ms.set k v }.adapt py rejects pass k node rest) ∨
    (∃ pass k node t body rest r,
      s.monitor.task = .putting pass k node t body rest (some r) ∧
      s.monitor.reply py rejects =
        { s.monitor with
          sampling_interval_state := s.monitor.sampling_interval_state.set k t }.next
            pass rest) := by
  unfold Monitor.reply
  split
  · rename_i pass k node rest r hgetting
    rw [hgetting] at h
    obtain ⟨-, -, hresponse⟩ := h
    obtain ⟨v, hv, rfl⟩ := hresponse r rfl
    rw [getSamplingReply_interval py hv]
    exact .inr (.inl ⟨pass, k, node, rest, _, v, hgetting, hv, rfl⟩)
  · rename_i pass k node t body rest r hputting
    rw [hputting] at h
    obtain ⟨-, -, -, -, hresponse⟩ := h
    rw [hresponse r rfl, setSamplingReply_interval]
    exact .inr (.inr ⟨pass, k, node, t, body, rest, r, hputting, rfl⟩)
  · rename_i hget hput
    refine .inl ⟨rfl, ?_⟩
    unfold applied
    split
    · exact absurd ‹_› (hput _ _ _ _ _ _ _)
    · rfl

/-- The operation of the ledger that an event is, performed on it. -/
def State.ledgerAfter (cfg : Key → SamplingBuild) (s : State) (e : Event) : Ledger Key ℤ :=
  (ledgerOp cfg s e).elim s.ledger s.ledger.step

/-- A registration vouches for its node. -/
theorem ledger_register (s : State) (now_ms : ℤ) (node_info : Obj) :
    (step py rejects cfg s (.register now_ms node_info)).ledger =
      s.ledgerAfter cfg (.register now_ms node_info) := by
  simp only [step, State.ledgerAfter, ledgerOp]
  split_ifs
  · rfl
  · unfold Registry.addNode
    cases hkey : hashKey (storedId node_info) with
    | error e => rfl
    | ok k =>
      have htrusted : (fun k' => !(s.pending k' && !registersAs node_info k')) =
          Function.update (fun k' => !s.pending k') k true := by
        funext k'
        unfold registersAs
        rw [hkey]
        by_cases hk : k' = k
        · rw [hk, Function.update_self]
          simp
        · rw [Function.update_of_ne hk]
          simp [hk]
      exact congrArg (fun trusted => { s.ledger with trusted := trusted }) htrusted

/-- A restart restarts a cell. -/
theorem ledger_reboot (s : State) (k : Key) :
    (step py rejects cfg s (.reboot k)).ledger = s.ledgerAfter cfg (.reboot k) := by
  have hcell := interval_update s k (Sampling.boot (cfg k))
  have htrusted : (fun k' => !Function.update s.pending k true k') =
      Function.update (fun k' => !s.pending k') k false := by
    funext k'
    by_cases hk : k' = k
    · rw [hk, Function.update_self, Function.update_self]
      rfl
    · rw [Function.update_of_ne hk, Function.update_of_ne hk]
  exact (congrArg (fun cell => { s.ledger with
      cell := cell, trusted := fun k' => !Function.update s.pending k true k' }) hcell).trans
    (congrArg (fun trusted => { s.ledger with
      cell := Function.update s.interval k (cfg k).mqttPublishIntervalMs
      trusted := trusted }) htrusted)

/-- The start of a pass drops the records of the nodes that are not registered. -/
theorem ledger_wake (s : State) (delay_state : Dict Key DelayState) :
    (step py rejects cfg s (.wake delay_state)).ledger = s.ledgerAfter cfg (.wake delay_state) := by
  simp only [step, State.ledgerAfter, ledgerOp]
  split_ifs with hasleep
  · have hquiet := applied_of_asleep hasleep
    unfold Monitor.wake
    cases registeredNodes s.registry.getAllNodes with
    | error e =>
      show _ = s.ledger
      rw [← ledger_of_quiet hquiet]
      rfl
    | ok registered_nodes =>
      have hrec : (fun k => (s.monitor.sampling_interval_state.filterKeys fun node_id =>
          (registered_nodes.get? node_id).isSome).get? k) = fun k =>
            if (registered_nodes.get? k).isSome then s.ledger.recorded k else none :=
        funext fun k => Dict.get?_filterKeys _ _ k
      have hledger : s.ledger.step (.forget fun k => (registered_nodes.get? k).isSome) =
          { s.ledger with
            recorded := fun k =>
              if (registered_nodes.get? k).isSome then s.ledger.recorded k else none
            applied := none } := by
        rw [← hquiet]
        rfl
      show _ = s.ledger.step (.forget fun k => (registered_nodes.get? k).isSome)
      rw [hledger]
      exact congrArg (fun recorded => { s.ledger with recorded := recorded, applied := none })
        hrec
  · rfl

/-- What the monitor does between suspension points is no operation of the ledger. -/
theorem ledger_run (s : State) :
    (step py rejects cfg s .run).ledger = s.ledgerAfter cfg .run := by
  simp only [step, State.ledgerAfter, ledgerOp, Option.elim_none, Monitor.run]
  split
  · rename_i pass hrunning
    rw [← ledger_of_quiet (s := s) (by rw [hrunning]; rfl)]
    rfl
  · rename_i pass k node rest hrunning
    rw [← ledger_of_quiet (s := s) (by rw [hrunning]; rfl)]
    rcases s.monitor.visit_cases pass k node rest with ⟨h, -⟩ | ⟨-, h⟩ | ⟨-, -, h⟩
    · rw [h]
      rfl
    · rw [h]
      rfl
    · rw [h]
      exact ledger_adapt s pass k node rest
  · rfl

/-- A command that reaches its node is applied. -/
theorem ledger_deliver {s : State} (h : TaskInv py rejects s s.monitor.task) :
    (step py rejects cfg s .deliver).ledger = s.ledgerAfter cfg .deliver := by
  simp only [step, State.ledgerAfter, ledgerOp, deliver]
  split
  · rename_i pass k node rest hgetting
    have hsent : sent s.monitor.task = none := by
      rw [hgetting]
      rfl
    rw [hsent]
    show _ = s.ledger
    rw [← ledger_of_quiet (s := s) (by rw [hgetting]; rfl)]
    rfl
  · rename_i pass k node t body rest hputting
    have hsent : sent s.monitor.task = some (k, t) := by
      rw [hputting]
      rfl
    rw [hputting] at h
    obtain ⟨-, ht, rfl, -, -⟩ := h
    have hcell := interval_update s k
      ((s.fleet k).resPutHandler (cfg k) (Sampling.intervalBody t.toNat)).2
    rw [(interval_resPutHandler s k ht).2] at hcell
    rw [hsent]
    exact congrArg (fun cell => { s.ledger with applied := some (k, t), cell := cell }) hcell
  · rename_i hget hput
    have hsent : sent s.monitor.task = none := by
      unfold sent
      split
      · exact absurd ‹_› (hput _ _ _ _ _ _)
      · rfl
    rw [hsent]
    rfl

/-- A response that arrives acknowledges the command, where there is one. -/
theorem ledger_reply {s : State} (h : TaskInv py rejects s s.monitor.task) :
    (step py rejects cfg s .reply).ledger = s.ledgerAfter cfg .reply := by
  simp only [step, State.ledgerAfter, ledgerOp, Option.elim_some]
  rcases reply_cases h with ⟨heq, hnone⟩ | ⟨pass, k, node, rest, r, v, hgetting, -, heq⟩ |
    ⟨pass, k, node, t, body, rest, r, hputting, heq⟩
  · rw [heq, Ledger.step_acknowledge_of_none hnone]
  · have hnone : s.ledger.applied = none := by
      show applied s.monitor.task = none
      rw [hgetting]
      rfl
    rw [heq, Ledger.step_acknowledge_of_none hnone, ← ledger_of_quiet hnone]
    exact ledger_adapt { s with
      monitor := { s.monitor with
        sensor_baseline_interval_ms := s.monitor.sensor_baseline_interval_ms.set k v } }
      pass k node rest
  · have happlied : s.ledger.applied = some (k, t) := by
      show applied s.monitor.task = some (k, t)
      rw [hputting]
      rfl
    have hrec : (fun k' => (s.monitor.sampling_interval_state.set k t).get? k') =
        s.ledger.expected := by
      funext k'
      rw [Dict.get?_set, Ledger.expected_of_applied happlied]
      rfl
    rw [heq]
    exact congrArg (fun recorded => { s.ledger with recorded := recorded, applied := none }) hrec

/-- A request that is lost takes with it the command that may have been applied. -/
theorem ledger_lose (s : State) :
    (step py rejects cfg s .lose).ledger = s.ledgerAfter cfg .lose := by
  simp only [step, State.ledgerAfter, ledgerOp, Monitor.lose, Option.elim_some]
  split
  · rfl
  · rfl
  · rename_i hget hput
    have hnone : s.ledger.applied = none := by
      show applied s.monitor.task = none
      unfold applied
      split
      · exact absurd ‹_› (hput _ _ _ _ _ _ _)
      · rfl
    exact (Ledger.step_lose_of_none hnone).symm

/-- Every event is one operation of the ledger, or none. -/
theorem ledger_step {s : State} (h : Inv py rejects s) (e : Event) :
    (step py rejects cfg s e).ledger = s.ledgerAfter cfg e := by
  cases e with
  | register now_ms node_info => exact ledger_register s now_ms node_info
  | remove node_id =>
    rcases step_remove_cases s node_id with heq | ⟨k, heq⟩
    · rw [heq]
      rfl
    · rw [heq]
      rfl
  | reboot k => exact ledger_reboot s k
  | wake delay_state => exact ledger_wake s delay_state
  | run => exact ledger_run s
  | deliver => exact ledger_deliver h.task
  | reply => exact ledger_reply h.task
  | lose => exact ledger_lose s

end

end EnergyStation.System.AdaptiveSampling
