import EnergyStation.Lib.Runs
import EnergyStation.System.SamplingInvariant

/-!
# When the intervals agree with the passes

Two ways in which the monitor's table and a node come apart, and what holds without them. Over a
lossy network, nodes that do not restart have the intervals that are owed to them after every pass
whose exchanges all complete, unless a command has been applied with its reply lost while the table
had another interval for the node (`agrees_of_noOrphan`). Over a reliable network, nodes that
restart and register again have the intervals that are owed to them after every pass, unless the
table still had another interval for a node when it registered (`agrees_of_freshRegistration`). In
both cases the monitor goes on to skip the command that the node needs.
-/

namespace EnergyStation.System.AdaptiveSampling

open Python Firmware Cloud Numeral Runs

/-- The event is not a restart. -/
def NoReboot : Event → Prop
  | .reboot _ => False
  | _ => True

/-- The event is not the loss of a request. -/
def Reliable : Event → Prop
  | .lose => False
  | _ => True

section

variable (py : Interp) (rejects : Uri → Bool)

/-- At the end of a pass in which every exchange has completed, every node has the interval that the
pass owes it. -/
def EndsAgreed (s : State) : Prop :=
  ∀ pass, s.monitor.task = .sleeping (some pass) → pass.clean = true →
    Addressable py rejects s pass → ∀ k, Agrees s pass k

/-- At the end of a pass, every node that had registered since its last restart when the pass began
has the interval that the pass owes it. -/
def EndsAgreedOnRegistered (s : State) : Prop :=
  ∀ pass, s.monitor.task = .sleeping (some pass) → Addressable py rejects s pass →
    ∀ k, s.disturbed k = false → Agrees s pass k

end

variable {py : Interp} {rejects : Uri → Bool} {cfg : Key → SamplingBuild}

/-- No node has restarted. -/
def NeverRestarted (s : State) : Prop := ∀ k, s.pending k = false ∧ s.disturbed k = false

/-- Only a restart makes a node restart. -/
theorem NeverRestarted.step {s : State} (h : NeverRestarted s) {e : Event} (he : NoReboot e) :
    NeverRestarted (step py rejects cfg s e) := by
  cases e with
  | register now_ms node_info =>
    rcases step_register_cases s now_ms node_info with heq | ⟨k, -, heq⟩
    · rwa [heq]
    · rw [heq]
      intro k'
      have hpending : s.pending k' = false := (h k').1
      refine ⟨?_, (h k').2⟩
      show (s.pending k' && !registersAs node_info k') = false
      rw [hpending, Bool.false_and]
  | remove node_id =>
    rcases step_remove_cases s node_id with heq | ⟨k, heq⟩
    · rwa [heq]
    · rwa [heq]
  | reboot k => exact absurd he id
  | wake delay_state =>
    simp only [AdaptiveSampling.step]
    split_ifs
    · exact fun k => ⟨(h k).1, (h k).1⟩
    · exact h
  | deliver =>
    simp only [AdaptiveSampling.step, deliver]
    split <;> exact h
  | run => exact h
  | reply => exact h
  | lose => exact h

/-- Where no node has restarted, none registers after a restart. -/
theorem NeverRestarted.freshRegistration {s : State} (h : NeverRestarted s) (e : Event) :
    FreshRegistration s e := by
  cases e with
  | register now_ms node_info =>
    intro k _ hpending
    rw [(h k).1] at hpending
    cases hpending
  | _ => trivial

/-- No request of the pass that is under way, or of the last one, has failed. -/
def TaskClean : MonitorTask → Prop
  | .sleeping none => True
  | .sleeping (some pass) => pass.clean = true
  | .running pass _ => pass.clean = true
  | .getting pass _ _ _ _ => pass.clean = true
  | .putting pass _ _ _ _ _ _ => pass.clean = true

/-- The rest of the loop's body loses no request. -/
theorem taskClean_adapt {m : Monitor} {pass : Pass} (h : pass.clean = true) (k : Key) (node : Node)
    (rest : List (Key × Node)) : TaskClean (m.adapt py rejects pass k node rest).task := by
  rcases m.adapt_cases pass k node rest with ⟨heq, -⟩ | ⟨t, body, heq, -⟩ | ⟨heq, -⟩
  · rw [heq]
    exact h
  · rw [heq]
    exact h
  · rw [heq]
    exact h

/-- A request fails only where it is lost, since a node answers every request of the monitor as the
monitor expects. -/
theorem taskClean_step {s : State} (hinv : Inv py rejects s) (h : TaskClean s.monitor.task)
    {e : Event} (he : Reliable e) : TaskClean (step py rejects cfg s e).monitor.task := by
  have htask := hinv.task
  cases e with
  | register now_ms node_info => rwa [step_register_monitor]
  | remove node_id => rwa [step_remove_monitor]
  | reboot k => exact h
  | wake delay_state =>
    simp only [step]
    split_ifs
    · unfold Monitor.wake
      split
      · trivial
      · exact rfl
    · exact h
  | run =>
    simp only [step, Monitor.run]
    split
    · rename_i pass hrunning
      rw [hrunning] at h
      exact h
    · rename_i pass k node rest hrunning
      rw [hrunning] at h
      -- The task skips the node, asks for its baseline, or goes on with its interval.
      rcases s.monitor.visit_cases pass k node rest with ⟨heq, -⟩ | ⟨-, heq⟩ | ⟨-, -, heq⟩
      · rw [heq]
        exact h
      · rw [heq]
        exact h
      · rw [heq]
        exact taskClean_adapt h k node rest
    · exact h
  | deliver =>
    simp only [step, deliver]
    split
    · rename_i hgetting
      rw [hgetting] at h
      exact h
    · rename_i hputting
      rw [hputting] at h
      exact h
    · exact h
  | reply =>
    simp only [step]
    rcases reply_cases htask with ⟨heq, -⟩ | ⟨pass, k, node, rest, r, v, hgetting, -, heq⟩ |
      ⟨pass, k, node, t, body, rest, r, hputting, heq⟩
    · rwa [heq]
    · rw [hgetting] at h
      rw [heq]
      exact taskClean_adapt h k node rest
    · rw [hputting] at h
      rw [heq]
      exact h
  | lose => exact absurd he id

/-- A reliable event orphans no record. -/
theorem noOrphan_of_reliable {e : Event} (he : Reliable e) (s : State) : NoOrphan s e := by
  cases e with
  | lose => exact absurd he id
  | _ => trivial

/-- What the pass that has just ended owes to a node. It owes nothing where it has lost a request or
cannot address a node of its snapshot. -/
def owed (rejects : Uri → Bool) (s : State) (k : Key) : Option ℤ :=
  match s.monitor.task with
  | .sleeping (some pass) =>
    if pass.clean && pass.registered_nodes.entries.all
        (fun x => (samplingUri .cpython rejects x.2.info).isOk) then
      (pass.registered_nodes.get? k).bind (due pass s.monitor.sensor_baseline_interval_ms k)
    else none
  | _ => none

/-- What a state owes is owed by the pass that has just ended. -/
theorem exists_pass_of_owed {s : State} {k : Key} {t : ℤ} (h : owed rejects s k = some t) :
    ∃ pass node, s.monitor.task = .sleeping (some pass) ∧ pass.clean = true ∧
      Addressable .cpython rejects s pass ∧ pass.registered_nodes.get? k = some node ∧
      due pass s.monitor.sensor_baseline_interval_ms k node = some t := by
  unfold owed at h
  split at h
  · rename_i pass hended
    split_ifs at h with hok
    obtain ⟨hclean, hall⟩ := Bool.and_eq_true_iff.mp hok
    obtain ⟨node, hnode, hdue⟩ := Option.bind_eq_some_iff.mp h
    refine ⟨pass, node, hended, hclean, fun k' node' _ hnode' _ _ => ?_, hnode, hdue⟩
    have hx' := List.all_eq_true.mp hall (k', node')
      ((Dict.get?_eq_some_iff pass.registered_nodes k' node').mp hnode')
    cases huri : samplingUri .cpython rejects node'.info with
    | error e =>
      rw [huri] at hx'
      cases hx'
    | ok uri => exact ⟨uri, rfl⟩
  · cases h

/-- A registration. -/
def nodeInfo : Obj :=
  [(text "node_id", .str (text "a")), (text "type", .str (text "solar")),
    (text "ip", .str (text "fd00::2"))]

/-- The key of that registration. -/
def nodeKey : Key := .str (text "a")

/-- The delay state of a node with three samples. -/
def delays (congested : Bool) : Dict Key DelayState :=
  Dict.empty.set nodeKey ⟨.fin (if congested then 600 else 0), congested, 3⟩

/-- The node registers, and a pass learns its baseline and sets its interval. -/
def firstPass (congested : Bool) : List Event :=
  [.register 0 nodeInfo, .wake (delays congested), .run, .deliver, .reply, .deliver, .reply, .run]

/-- The state after events that start with one solar sensor. -/
def after (es : List Event) : State :=
  run (step .cpython (fun _ => false) fun _ => solarSampling)
    (boot fun _ => Sampling.boot solarSampling) es

theorem after_mem_visited (es : List Event) :
    after es ∈ visited (step .cpython (fun _ => false) fun _ => solarSampling)
      (boot fun _ => Sampling.boot solarSampling) es :=
  mem_visited_iff.mpr ⟨es, List.prefix_rfl, rfl⟩

/-- In every run without restarts in which no command is applied with its reply lost while the table
has another interval for the node, every pass whose exchanges all complete ends with every node at
the interval that the pass owes it. -/
theorem agrees_of_noOrphan (py : Interp) (rejects : Uri → Bool) (cfg : Key → SamplingBuild)
    (fleet : Key → Sampling) (es : List Event) (hreboot : ∀ e ∈ es, NoReboot e)
    (hes : Along (step py rejects cfg) NoOrphan (boot fleet) es) :
    ∀ s ∈ visited (step py rejects cfg) (boot fleet) es, EndsAgreed py rejects s := by
  have hstep : ∀ s e, Inv py rejects s ∧ NeverRestarted s → NoReboot e ∧ NoOrphan s e →
      Inv py rejects (step py rejects cfg s e) ∧ NeverRestarted (step py rejects cfg s e) :=
    fun s e hs he => ⟨hs.1.step he.2 (hs.2.freshRegistration e), hs.2.step he.1⟩
  have hboot : Inv py rejects (boot fleet) ∧ NeverRestarted (boot fleet) :=
    ⟨inv_boot fleet, fun _ => ⟨rfl, rfl⟩⟩
  intro s hs pass hended hclean haddr k
  obtain ⟨hinv, hrestart⟩ := visited_invariant hstep hboot (along_and hreboot hes) s hs
  exact hinv.agrees_of_ended hended hclean haddr (hrestart k).2

/-- A pass that finds a node congested sets its interval to 5000 ms. -/
theorem agrees_of_noOrphan_firstPass : (after (firstPass true)).interval nodeKey = 5000 := by
  have howed : owed (fun _ => false) (after (firstPass true)) nodeKey = some 5000 := by
    decide +kernel
  obtain ⟨pass, node, hended, hclean, haddr, hnode, hdue⟩ := exists_pass_of_owed howed
  have hreboot : ∀ e ∈ firstPass true, NoReboot e := by
    simp [firstPass, NoReboot]
  have hagrees := agrees_of_noOrphan .cpython (fun _ => false) (fun _ => solarSampling)
    (fun _ => Sampling.boot solarSampling) (firstPass true) hreboot
    ⟨trivial, trivial, trivial, trivial, trivial, trivial, trivial, trivial, trivial⟩ _
    (after_mem_visited (firstPass true))
  exact hagrees pass hended hclean haddr nodeKey node 5000 hnode hdue

/-- The baseline is commanded, the node is told to slow down and the reply is lost; once the
congestion is over, the pass skips the command that would restore the baseline. -/
theorem lost_reply_disagrees :
    ¬ ∀ es, (∀ e ∈ es, NoReboot e) →
      ∀ s ∈ visited (step .cpython (fun _ => false) fun _ => solarSampling)
        (boot fun _ => Sampling.boot solarSampling) es, EndsAgreed .cpython (fun _ => false) s := by
  intro h
  let es : List Event := firstPass false ++
    [.wake (delays true), .run, .deliver, .lose, .wake (delays false), .run, .run]
  have howed : owed (fun _ => false) (after es) nodeKey = some 800 := by decide +kernel
  have hinterval : (after es).interval nodeKey = 5000 := by decide +kernel
  obtain ⟨pass, node, hended, hclean, haddr, hnode, hdue⟩ := exists_pass_of_owed howed
  have hreboot : ∀ e ∈ es, NoReboot e := by
    simp [es, firstPass, NoReboot]
  have hagrees := h es hreboot _ (after_mem_visited es) pass hended hclean haddr nodeKey node 800
    hnode hdue
  rw [hinterval] at hagrees
  exact absurd hagrees (by decide)

/-- In every run over a reliable network in which no node registers after a restart while another
interval is recorded for it, every pass ends with every node, if it had registered since its last
restart when the pass began, at the interval that the pass owes it. -/
theorem agrees_of_freshRegistration (py : Interp) (rejects : Uri → Bool)
    (cfg : Key → SamplingBuild) (fleet : Key → Sampling) (es : List Event)
    (hreliable : ∀ e ∈ es, Reliable e)
    (hes : Along (step py rejects cfg) FreshRegistration (boot fleet) es) :
    ∀ s ∈ visited (step py rejects cfg) (boot fleet) es, EndsAgreedOnRegistered py rejects s := by
  have hstep : ∀ s e, Inv py rejects s ∧ TaskClean s.monitor.task →
      Reliable e ∧ FreshRegistration s e → Inv py rejects (step py rejects cfg s e) ∧
        TaskClean (step py rejects cfg s e).monitor.task :=
    fun s e hs he =>
      ⟨hs.1.step (noOrphan_of_reliable he.1 s) he.2, taskClean_step hs.1 hs.2 he.1⟩
  have hboot : Inv py rejects (boot fleet) ∧ TaskClean (boot fleet).monitor.task :=
    ⟨inv_boot fleet, trivial⟩
  intro s hs pass hended haddr k hk
  obtain ⟨hinv, hclean⟩ := visited_invariant hstep hboot (along_and hreliable hes) s hs
  rw [hended] at hclean
  exact hinv.agrees_of_ended hended hclean haddr hk

/-- A node that is unregistered for a pass, restarts and registers again is told to slow down
again. -/
theorem agrees_of_freshRegistration_afterRemoval :
    (after (firstPass true ++ [.remove (.str (text "a")), .wake (delays true), .run,
      .reboot nodeKey, .register 1 nodeInfo, .wake (delays true), .run, .deliver, .reply,
      .run])).interval nodeKey = 5000 := by
  let es₁ : List Event :=
    firstPass true ++ [.remove (.str (text "a")), .wake (delays true), .run, .reboot nodeKey]
  let es₂ : List Event :=
    [.register 1 nodeInfo, .wake (delays true), .run, .deliver, .reply, .run]
  have howed : owed (fun _ => false) (after (es₁ ++ es₂)) nodeKey = some 5000 := by
    decide +kernel
  have hdisturbed : (after (es₁ ++ es₂)).disturbed nodeKey = false := by decide +kernel
  have hforgotten : (after es₁).ledger.expected nodeKey = none := by decide +kernel
  have hreliable : ∀ e ∈ es₁ ++ es₂, Reliable e := by
    simp [es₁, es₂, firstPass, Reliable]
  have hfirst : FreshRegistration (boot fun _ => Sampling.boot solarSampling)
      (.register 0 nodeInfo) := fun _ _ hpending => absurd hpending Bool.false_ne_true
  have hagain : FreshRegistration (after es₁) (.register 1 nodeInfo) := by
    intro k hregisters _ v hv
    have hk : k = nodeKey := of_decide_eq_true hregisters
    rw [hk, hforgotten] at hv
    cases hv
  obtain ⟨pass, node, hended, -, haddr, hnode, hdue⟩ := exists_pass_of_owed howed
  have hagrees := agrees_of_freshRegistration .cpython (fun _ => false) (fun _ => solarSampling)
    (fun _ => Sampling.boot solarSampling) (es₁ ++ es₂) hreliable
    ((along_append _ _ es₁ es₂).mpr
      ⟨⟨hfirst, trivial, trivial, trivial, trivial, trivial, trivial, trivial, trivial, trivial,
        trivial, trivial, trivial⟩,
        ⟨hagain, trivial, trivial, trivial, trivial, trivial, trivial⟩⟩) _
    (after_mem_visited (es₁ ++ es₂))
  exact hagrees pass hended haddr nodeKey hdisturbed node 5000 hnode hdue

/-- A node that has been told to slow down restarts, and registers before the next pass; that pass
skips the command, although the node is back at its own interval. -/
theorem restart_disagrees :
    ¬ ∀ es, (∀ e ∈ es, Reliable e) →
      ∀ s ∈ visited (step .cpython (fun _ => false) fun _ => solarSampling)
        (boot fun _ => Sampling.boot solarSampling) es,
        EndsAgreedOnRegistered .cpython (fun _ => false) s := by
  intro h
  let es : List Event := firstPass true ++
    [.reboot nodeKey, .register 1 nodeInfo, .wake (delays true), .run, .run]
  have howed : owed (fun _ => false) (after es) nodeKey = some 5000 := by decide +kernel
  have hinterval : (after es).interval nodeKey = 800 := by decide +kernel
  have hdisturbed : (after es).disturbed nodeKey = false := by decide +kernel
  obtain ⟨pass, node, hended, -, haddr, hnode, hdue⟩ := exists_pass_of_owed howed
  have hreliable : ∀ e ∈ es, Reliable e := by
    simp [es, firstPass, Reliable]
  have hagrees := h es hreliable _ (after_mem_visited es) pass hended haddr nodeKey hdisturbed
    node 5000 hnode hdue
  rw [hinterval] at hagrees
  exact absurd hagrees (by decide)

end EnergyStation.System.AdaptiveSampling
