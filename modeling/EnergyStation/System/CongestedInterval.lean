import EnergyStation.Firmware.KeepAlive
import EnergyStation.System.SamplingAgreement

/-!
# The congested interval

The monitor sends every congested node the same interval, and a node may have been set to a longer
one. Here the nodes of adaptive sampling also answer the sampling PUTs of other clients, and
`NeverFaster` says of a step that the command it sends, where it sends one, makes no congested node
faster and restores no node to more than the congested interval. Every step of every run meets it
exactly if nothing sets a node that can be asked to more than the congested interval
(`never_faster_iff`): the invariant `Below` carries one direction, and the other needs a single
pass, which asks the node and finds it congested.
-/

namespace EnergyStation.System.AdaptiveSampling

open Python Firmware Cloud CStdlib Numeral Runs
open Firmware.MqttSensor (acceptedInterval resPutHandler_current)

/-- What can happen where the nodes have other clients. -/
inductive SharedEvent where
  /-- An event of the cloud, of its network or of a node. -/
  | cloud (e : Event)
  /-- A node handles a sampling PUT of another client. -/
  | put (node_id : Key) (body : Bytes)

/-- One event. -/
def sharedStep (py : Interp) (rejects : Uri → Bool) (cfg : Key → SamplingBuild) (s : State) :
    SharedEvent → State
  | .cloud e => step py rejects cfg s e
  | .put k body =>
    { s with fleet := Function.update s.fleet k ((s.fleet k).resPutHandler (cfg k) body).2 }

/-- A pass finds the node congested. -/
def congestedIn (pass : Pass) (k : Key) : Bool :=
  match pass.delay_state.get? k with
  | none => false
  | some state => state.congested

/-- The command that a pass has sent and its node has not handled. -/
def command : MonitorTask → Option (Pass × Key × ℤ)
  | .putting pass k _ target_interval _ _ none => some (pass, k, target_interval)
  | _ => none

/-- The command that the step sends, where it sends one, is not below the node's interval if the
node is congested, and not above the congested interval otherwise. -/
def NeverFaster (py : Interp) (rejects : Uri → Bool) (cfg : Key → SamplingBuild) (s : State)
    (e : SharedEvent) : Prop :=
  ∀ pass k t, command s.monitor.task = none →
    command (sharedStep py rejects cfg s e).monitor.task = some (pass, k, t) →
    (congestedIn pass k = true → s.interval k ≤ t) ∧
      (congestedIn pass k = false → t ≤ congestedPublishIntervalMs)

/-- The monitor can ask a node that registers like this. -/
structure AskableAs (py : Interp) (rejects : Uri → Bool) (k : Key) (node_info : Obj) : Prop where
  /-- It has an id. -/
  id : truthy (node_info.get "node_id") = true
  /-- The id is this key. -/
  key : hashKey (node_info.get "node_id") = .ok k
  /-- It is no battery. -/
  type : isStr "battery" (node_info.get "type") = false
  /-- A request can be sent to its address. -/
  address : ∃ uri, samplingUri py rejects node_info = .ok uri

/-- The monitor can ask a node that registers under the id. -/
def Askable (py : Interp) (rejects : Uri → Bool) (k : Key) : Prop :=
  ∃ node_info, AskableAs py rejects k node_info

/-- The other clients send each node only what is allowed. -/
def Within (puts : Key → Bytes → Prop) : SharedEvent → Prop
  | .put k body => puts k body
  | .cloud _ => True

/-- Nothing sets the node to more than the congested interval: it does not start above, its build
does not, and no PUT that is allowed does. -/
structure StaysBelow (cfg : Key → SamplingBuild) (fleet : Key → Sampling)
    (puts : Key → Bytes → Prop) (k : Key) : Prop where
  /-- The interval that the node has when the cloud starts. -/
  start : ((fleet k).current_publish_interval_ms : ℤ) ≤ congestedPublishIntervalMs
  /-- The interval that it has after a restart. -/
  build : ((cfg k).mqttPublishIntervalMs : ℤ) ≤ congestedPublishIntervalMs
  /-- The intervals that other clients set. -/
  put : ∀ body, puts k body → ∀ i, acceptedInterval body = some i →
    (i : ℤ) ≤ congestedPublishIntervalMs

/-- The interval is one that a pass can send. -/
def Low (interval_ms : ℤ) : Prop := 0 < interval_ms ∧ interval_ms ≤ congestedPublishIntervalMs

/-- The node is in a snapshot under its id. -/
def Listed (x : Key × Node) : Prop :=
  truthy (x.2.info.get "node_id") = true ∧ hashKey (x.2.info.get "node_id") = .ok x.1

section

variable (py : Interp) (rejects : Uri → Bool)

/-- What a pass knows of the intervals at each of its suspension points. -/
def TaskBelow : MonitorTask → Prop
  | .sleeping _ => True
  | .running _ rest => ∀ x ∈ rest, Listed x
  | .getting _ k _ rest response =>
    Askable py rejects k ∧ (∀ x ∈ rest, Listed x) ∧
      ∀ r, response = some r → ∃ v : ℕ, Low v ∧ r = ⟨.content, Sampling.intervalBody v⟩
  | .putting pass k _ target_interval body rest _ =>
    Askable py rejects k ∧ (∀ x ∈ rest, Listed x) ∧ Low target_interval ∧
      body = Sampling.intervalBody target_interval.toNat ∧
      (congestedIn pass k = true → target_interval = congestedPublishIntervalMs)

/-- Every baseline is the interval of a node that can be asked. -/
def BaselinesBelow (m : Monitor) : Prop :=
  ∀ k b, m.sensor_baseline_interval_ms.get? k = some b → Low b ∧ Askable py rejects k

/-- No node that can be asked is above the congested interval, and no pass has seen one that was. -/
structure Below (s : State) : Prop where
  /-- The nodes. -/
  nodes : ∀ k, Askable py rejects k → s.interval k ≤ congestedPublishIntervalMs
  /-- What has been learned from them. -/
  baselines : BaselinesBelow py rejects s.monitor
  /-- What the pass knows. -/
  task : TaskBelow py rejects s.monitor.task

end

variable {py : Interp} {rejects : Uri → Bool} {cfg : Key → SamplingBuild}

/-- A command below the congested interval is one that a node takes. -/
theorem Low.inRange {t : ℤ} (h : Low t) : InRange t :=
  ⟨h.1, h.2.trans (by decide)⟩

/-- A round of the comprehension lists its node under its id, or leaves it out. -/
theorem listed_collect {d d' : Dict Key Node} {node : Node} (h : collect d node = .ok d')
    (hd : ∀ k n, d.get? k = some n → Listed (k, n)) {k : Key} {n : Node} (hn : d'.get? k = some n) :
    Listed (k, n) := by
  unfold collect at h
  split_ifs at h with hid
  · obtain ⟨k', hk', rfl⟩ := map_eq_ok.mp h
    rw [Dict.get?_set] at hn
    split_ifs at hn with hkk
    · rw [← Option.some.inj hn, hkk]
      exact ⟨hid, hk'⟩
    · exact hd k n hn
  · rw [← Except.ok.inj h] at hn
    exact hd k n hn

/-- The snapshot lists every node under its id. -/
theorem listed_registeredNodes {nodes : List Node} {d d' : Dict Key Node}
    (h : nodes.foldlM collect d = .ok d') (hd : ∀ k n, d.get? k = some n → Listed (k, n)) :
    ∀ k n, d'.get? k = some n → Listed (k, n) := by
  induction nodes generalizing d with
  | nil =>
    rw [← Except.ok.inj h]
    exact hd
  | cons node nodes ih =>
    rw [List.foldlM_cons] at h
    obtain ⟨d₁, hcollect, hfold⟩ := bind_eq_ok.mp h
    exact ih hfold fun k n hn => listed_collect hcollect hd hn

/-- The target that the loop computes is low, and the congested interval for a congested node. -/
theorem low_target {m : Monitor} (hm : BaselinesBelow py rejects m) {pass : Pass} {k : Key} {t : ℤ}
    (h : m.target pass k = some (some t)) :
    Low t ∧ (congestedIn pass k = true → t = congestedPublishIntervalMs) := by
  unfold Monitor.target at h
  unfold congestedIn
  cases hstate : pass.delay_state.get? k with
  | none =>
    rw [hstate] at h
    cases h
  | some state =>
    simp only [hstate] at h ⊢
    split_ifs at h
    have ht := Option.some.inj h
    unfold Monitor.targetInterval at ht
    split_ifs at ht with hcongested
    · rw [← Option.some.inj ht]
      exact ⟨⟨by decide, le_refl _⟩, fun _ => rfl⟩
    · exact ⟨(hm k t ht).1, fun hcongested' => absurd hcongested' hcongested⟩

/-- The rest of the loop's body sends what is low. -/
theorem taskBelow_adapt {m : Monitor} (hm : BaselinesBelow py rejects m) {pass : Pass} {k : Key}
    {node : Node} {rest : List (Key × Node)} (hk : Askable py rejects k)
    (hrest : ∀ x ∈ rest, Listed x) :
    TaskBelow py rejects (m.adapt py rejects pass k node rest).task := by
  rcases m.adapt_cases pass k node rest with ⟨heq, -⟩ | ⟨t, body, heq, htarget, hbody⟩ | ⟨heq, -⟩
  · rw [heq]
    exact hrest
  · rw [heq]
    obtain ⟨hlow, hcongested⟩ := low_target hm htarget
    exact ⟨hk, hrest, hlow, (samplingBody_eq_ok.mp hbody).2, hcongested⟩
  · rw [heq]
    trivial

/-- The loop's body asks a node that can be asked, and sends what is low. -/
theorem taskBelow_visit {m : Monitor} (hm : BaselinesBelow py rejects m) {pass : Pass} {k : Key}
    {node : Node} {rest : List (Key × Node)} (hlisted : ∀ x ∈ (k, node) :: rest, Listed x) :
    TaskBelow py rejects (m.visit py rejects pass k node rest).task := by
  have hrest : ∀ x ∈ rest, Listed x := fun x hx => hlisted x (List.mem_cons_of_mem _ hx)
  unfold Monitor.visit
  split_ifs with hbattery hbaseline
  · exact hrest
  · cases huri : samplingUri py rejects node.info with
    | error e => exact hrest
    | ok uri =>
      obtain ⟨hid, hk⟩ := hlisted (k, node) List.mem_cons_self
      have hask : Askable py rejects k :=
        ⟨node.info, ⟨hid, hk, Bool.eq_false_iff.mpr hbattery, uri, huri⟩⟩
      exact ⟨hask, hrest, fun r hr => nomatch hr⟩
  · obtain ⟨b, hb⟩ := Option.ne_none_iff_exists'.mp fun hnone =>
      hbaseline (Option.isNone_iff_eq_none.mpr hnone)
    exact taskBelow_adapt hm (hm k b hb).2 hrest

/-- The invariant is about the nodes and the monitor alone. -/
theorem Below.congr {s s' : State} (h : Below py rejects s) (hfleet : s'.fleet = s.fleet)
    (hmonitor : s'.monitor = s.monitor) : Below py rejects s' where
  nodes := by
    unfold State.interval
    rw [hfleet]
    exact h.nodes
  baselines := hmonitor ▸ h.baselines
  task := hmonitor ▸ h.task

/-- A node that changes to a low interval leaves every node low. -/
theorem Below.update {s : State} (h : Below py rejects s) {k : Key} {n : Sampling}
    (hn : Askable py rejects k → (n.current_publish_interval_ms : ℤ) ≤ congestedPublishIntervalMs)
    (k' : Key) (hk' : Askable py rejects k') :
    ((Function.update s.fleet k n k').current_publish_interval_ms : ℤ) ≤
    congestedPublishIntervalMs := by
  by_cases hk : k' = k
  · rw [hk, Function.update_self]
    exact hn (hk ▸ hk')
  · rw [interval_of_ne s hk]
    exact h.nodes k' hk'

/-- A request that reaches its node sets it to what is low, or reads what is. -/
theorem below_deliver {s : State} (h : Below py rejects s) : Below py rejects (deliver cfg s) := by
  have htask := h.task
  unfold deliver
  split
  · rename_i pass k node rest hgetting
    rw [hgetting] at htask
    obtain ⟨hk, hrest, -⟩ := htask
    have hlow : Low (s.interval k) := ⟨(s.inRange_interval k).1, h.nodes k hk⟩
    exact ⟨h.nodes, h.baselines, hk, hrest, fun r hr => ⟨_, hlow, (Option.some.inj hr).symm⟩⟩
  · rename_i pass k node t body rest hputting
    rw [hputting] at htask
    obtain ⟨hk, hrest, hlow, rfl, hcongested⟩ := htask
    refine ⟨h.update fun _ => ?_, h.baselines, hk, hrest, hlow, rfl, hcongested⟩
    rw [(interval_resPutHandler s k hlow.inRange).2]
    exact hlow.2
  · exact h

/-- A response that reaches the monitor is learned from a node that can be asked. -/
theorem below_reply {s : State} (h : Below py rejects s) :
    Below py rejects { s with monitor := s.monitor.reply py rejects } := by
  have htask := h.task
  unfold Monitor.reply
  split
  · rename_i pass k node rest r hgetting
    rw [hgetting] at htask
    obtain ⟨hk, hrest, hresponse⟩ := htask
    obtain ⟨v, hv, rfl⟩ := hresponse r rfl
    rw [getSamplingReply_interval py hv.inRange]
    let m : Monitor := { s.monitor with
      sensor_baseline_interval_ms := s.monitor.sensor_baseline_interval_ms.set k v }
    have hm : BaselinesBelow py rejects m := by
      intro k' b hb
      have hset : (s.monitor.sensor_baseline_interval_ms.set k v).get? k' = some b := hb
      rw [Dict.get?_set] at hset
      split_ifs at hset with hkk
      · rw [← Option.some.inj hset, hkk]
        exact ⟨hv, hk⟩
      · exact h.baselines k' b hset
    refine ⟨h.nodes, fun k' b hb => hm k' b ?_, taskBelow_adapt hm hk hrest⟩
    rwa [← baselines_adapt m pass k node rest]
  · rename_i pass k node t body rest r hputting
    rw [hputting] at htask
    cases setSamplingReply r with
    | error e => exact ⟨h.nodes, h.baselines, trivial⟩
    | ok u => exact ⟨h.nodes, h.baselines, htask.2.1⟩
  · exact h

/-- A pass that starts lists its nodes. -/
theorem below_wake {s : State} (h : Below py rejects s) (delay_state : Dict Key DelayState)
    (disturbed : Key → Bool) :
    Below py rejects { s with
      monitor := s.monitor.wake s.registry delay_state, disturbed := disturbed } := by
  unfold Monitor.wake
  cases hnodes : registeredNodes s.registry.getAllNodes with
  | error e => exact ⟨h.nodes, h.baselines, trivial⟩
  | ok registered_nodes =>
    refine ⟨h.nodes, h.baselines, fun x hx => ?_⟩
    have hget := (Dict.get?_eq_some_iff registered_nodes x.1 x.2).mpr hx
    have hempty : ∀ k n, (Dict.empty : Dict Key Node).get? k = some n → Listed (k, n) := by
      intro k n hn
      cases hn
    exact listed_registeredNodes hnodes hempty x.1 x.2 hget

/-- The monitor that runs on learns nothing. -/
theorem below_run {s : State} (h : Below py rejects s) :
    Below py rejects { s with monitor := s.monitor.run py rejects } := by
  have htask := h.task
  unfold Monitor.run
  split
  · exact ⟨h.nodes, h.baselines, trivial⟩
  · rename_i pass k node rest hrunning
    rw [hrunning] at htask
    have hbaselines : (s.monitor.visit py rejects pass k node rest).sensor_baseline_interval_ms =
        s.monitor.sensor_baseline_interval_ms := baselines_visit s.monitor pass k node rest
    refine ⟨h.nodes, fun k' b hb => h.baselines k' b ?_, taskBelow_visit h.baselines htask⟩
    rwa [← hbaselines]
  · exact h

/-- The cloud has learned nothing when it starts. -/
theorem below_boot {fleet : Key → Sampling} (h : ∀ k, Askable py rejects k →
    ((fleet k).current_publish_interval_ms : ℤ) ≤ congestedPublishIntervalMs) :
    Below py rejects (boot fleet) where
  nodes := h
  baselines := fun _ _ hb => nomatch hb
  task := trivial

/-- Every event keeps the invariant, where nothing sets a node above the congested interval. -/
theorem Below.step {fleet : Key → Sampling} {puts : Key → Bytes → Prop}
    (hbelow : ∀ k, Askable py rejects k → StaysBelow cfg fleet puts k) {s : State}
    (h : Below py rejects s) {e : SharedEvent} (he : Within puts e) :
    Below py rejects (sharedStep py rejects cfg s e) := by
  cases e with
  | put k body =>
    refine ⟨h.update fun hk => ?_, h.baselines, h.task⟩
    rw [resPutHandler_current]
    cases hbody : acceptedInterval body with
    | none => exact h.nodes k hk
    | some i => exact (hbelow k hk).put body he i hbody
  | cloud e =>
    cases e with
    | register now_ms node_info => exact h.congr (by simp [sharedStep]) (by simp [sharedStep])
    | remove node_id => exact h.congr (by simp [sharedStep]) (by simp [sharedStep])
    | reboot k => exact ⟨h.update fun hk => (hbelow k hk).build, h.baselines, h.task⟩
    | wake delay_state =>
      simp only [sharedStep, AdaptiveSampling.step]
      split_ifs
      · exact below_wake h delay_state s.pending
      · exact h
    | run => exact below_run h
    | deliver => exact below_deliver h
    | reply => exact below_reply h
    | lose =>
      have htask := h.task
      simp only [sharedStep, AdaptiveSampling.step, Monitor.lose]
      split
      · rename_i hgetting
        rw [hgetting] at htask
        exact ⟨h.nodes, h.baselines, htask.2.1⟩
      · exact ⟨h.nodes, h.baselines, trivial⟩
      · exact h

/-- A step between two states of the invariant makes no congested node faster. -/
theorem Below.neverFaster {s : State} {e : SharedEvent} (h : Below py rejects s)
    (h' : Below py rejects (sharedStep py rejects cfg s e)) : NeverFaster py rejects cfg s e := by
  intro pass k t _ hcommand
  have htask := h'.task
  unfold command at hcommand
  split at hcommand
  · rename_i hputting
    rw [hputting] at htask
    cases hcommand
    obtain ⟨hk, -, hlow, -, hcongested⟩ := htask
    refine ⟨fun hc => ?_, fun _ => hlow.2⟩
    rw [hcongested hc]
    exact h.nodes k hk
  · cases hcommand

/-- A pass whose one node is congested. -/
def askPass (k : Key) (node_info : Obj) : Pass :=
  ⟨Dict.empty.set k (Registry.boot.fresh 0 node_info), Dict.empty.set k ⟨.fin 401, true, 5⟩, true⟩

/-- The events of that pass, from the node's registration to its first response. -/
def askCongested (k : Key) (node_info : Obj) : List SharedEvent :=
  [.cloud (.register 0 node_info), .cloud (.wake (askPass k node_info).delay_state), .cloud .run,
    .cloud .deliver, .cloud .reply]

/-- The registration is sent to the same URI once it is stored. -/
theorem samplingUri_storedInfo (now_ms : ℤ) (node_info : Obj) :
    samplingUri py rejects (storedInfo now_ms node_info) = samplingUri py rejects node_info := by
  have hip : (storedInfo now_ms node_info).get? "ip" = node_info.get? "ip" :=
    Assoc.get?_set_ne node_info (by decide) _
  have hport := storedInfo_getD (by decide : text "port" ≠ text "last_seen_ms") now_ms node_info
    (.int 5683)
  unfold samplingUri requestUri
  rw [hip, hport]

/-- What can be asked can be asked once it is stored. -/
theorem AskableAs.stored {k : Key} {node_info : Obj} (h : AskableAs py rejects k node_info)
    (now_ms : ℤ) : AskableAs py rejects k (storedInfo now_ms node_info) := by
  have hid : (storedInfo now_ms node_info).get "node_id" = node_info.get "node_id" :=
    storedInfo_getD (by decide) now_ms node_info .none
  have htype : (storedInfo now_ms node_info).get "type" = node_info.get "type" :=
    storedInfo_getD (by decide) now_ms node_info .none
  refine ⟨by rw [hid, h.id], by rw [hid, h.key], by rw [htype, h.type], ?_⟩
  rw [samplingUri_storedInfo]
  exact h.address

/-- The snapshot of a registry with one node. -/
theorem AskableAs.registeredNodes {k : Key} {node : Node} (h : AskableAs py rejects k node.info) :
    registeredNodes [node] = .ok (Dict.empty.set k node) := by
  have hcollect : collect Dict.empty node = .ok (Dict.empty.set k node) := by
    rw [collect, if_pos h.id, h.key]
    rfl
  unfold Cloud.registeredNodes
  rw [List.foldlM_cons, hcollect]
  rfl

/-- A node whose baseline is not known is asked for it. -/
theorem AskableAs.visit {k : Key} {node : Node} (h : AskableAs py rejects k node.info) {m : Monitor}
    (hbaseline : m.sensor_baseline_interval_ms.get? k = none) (pass : Pass)
    (rest : List (Key × Node)) :
    m.visit py rejects pass k node rest = { m with task := .getting pass k node rest none } := by
  obtain ⟨uri, huri⟩ := h.address
  simp only [Monitor.visit, h.type, hbaseline, huri]
  rfl

/-- A congested node that the table does not have is sent the congested interval. -/
theorem AskableAs.adapt {k : Key} {node : Node} (h : AskableAs py rejects k node.info) {m : Monitor}
    (htable : m.sampling_interval_state.get? k = none) {pass : Pass} {avg_delay_ms : ExtRat}
    (hdelay : pass.delay_state.get? k = some ⟨avg_delay_ms, true, 5⟩) (rest : List (Key × Node)) :
    m.adapt py rejects pass k node rest =
      { m with task := (.putting pass k node congestedPublishIntervalMs
        (Sampling.intervalBody 5000) rest none) } := by
  obtain ⟨uri, huri⟩ := h.address
  simp only [Monitor.adapt, hdelay, Monitor.targetInterval, htable, Monitor.put, huri]
  rfl

/-- The state in which the node's response to the first request of that pass is on its way. -/
def askedState (s : State) (k : Key) (node_info : Obj) : State where
  registry := Registry.boot.insert k 0 node_info
  monitor := { Monitor.boot with
    task := .getting (askPass k node_info) k (Registry.boot.fresh 0 node_info) []
      (some (s.fleet k).resGetHandler) }
  fleet := s.fleet
  pending k := s.pending k && !registersAs node_info k
  disturbed k := s.pending k && !registersAs node_info k

/-- The pass gets to that state. -/
theorem AskableAs.run_askCongested {k : Key} {node_info : Obj}
    (h : AskableAs py rejects k node_info) {s : State} (hregistry : s.registry = Registry.boot)
    (hmonitor : s.monitor = Monitor.boot) :
    run (sharedStep py rejects cfg) s
      [.cloud (.register 0 node_info), .cloud (.wake (askPass k node_info).delay_state),
        .cloud .run, .cloud .deliver] = askedState s k node_info := by
  obtain ⟨registry, monitor, fleet, pending, disturbed⟩ := s
  subst hregistry hmonitor
  let node := Registry.boot.fresh 0 node_info
  have hstored : AskableAs py rejects k node.info := h.stored 0
  have hid : storedId node_info = node_info.get "node_id" := if_pos h.id
  have hadd : Registry.boot.addNode 0 node_info = .ok (Registry.boot.insert k 0 node_info) :=
    Registry.addNode_eq_ok.mpr ⟨k, hid ▸ h.key, rfl⟩
  -- The events of the pass, one after another.
  let s₁ : State := ⟨Registry.boot.insert k 0 node_info, Monitor.boot, fleet,
    fun k => pending k && !registersAs node_info k, disturbed⟩
  have hregister : step py rejects cfg ⟨Registry.boot, Monitor.boot, fleet, pending, disturbed⟩
      (.register 0 node_info) = s₁ := by
    simp only [step, hadd]
    rfl
  have hwake : Monitor.boot.wake s₁.registry (askPass k node_info).delay_state =
      { Monitor.boot with task := .running (askPass k node_info) [(k, node)] } := by
    have hall : s₁.registry.getAllNodes = [node] := rfl
    unfold Monitor.wake
    rw [hall, hstored.registeredNodes]
    rfl
  have hstart : step py rejects cfg s₁ (.wake (askPass k node_info).delay_state) =
      { s₁ with
        monitor := { Monitor.boot with task := .running (askPass k node_info) [(k, node)] }
        disturbed := s₁.pending } :=
    congrArg (fun monitor => { s₁ with monitor := monitor, disturbed := s₁.pending }) hwake
  have hrun : Monitor.run py rejects
      { Monitor.boot with task := .running (askPass k node_info) [(k, node)] } =
      { Monitor.boot with task := .getting (askPass k node_info) k node [] none } :=
    hstored.visit rfl (askPass k node_info) []
  simp only [run_cons, run_nil, sharedStep, hregister, hstart]
  simp only [step, hrun]
  rfl

/-- A pass that asks a node and finds it congested sends it the congested interval, so it makes the
node faster unless the node's interval is not above that. -/
theorem AskableAs.interval_le {k : Key} {node_info : Obj} (h : AskableAs py rejects k node_info)
    {s : State} (hregistry : s.registry = Registry.boot) (hmonitor : s.monitor = Monitor.boot)
    (hrun : Along (sharedStep py rejects cfg) (NeverFaster py rejects cfg) s
      (askCongested k node_info)) : s.interval k ≤ congestedPublishIntervalMs := by
  have hasked : run (sharedStep py rejects cfg) s _ = askedState s k node_info :=
    h.run_askCongested hregistry hmonitor
  have hlast : NeverFaster py rejects cfg (askedState s k node_info) (.cloud .reply) := by
    rw [← hasked]
    exact hrun.2.2.2.2.1
  have hdelay : (askPass k node_info).delay_state.get? k = some ⟨.fin 401, true, 5⟩ :=
    Dict.get?_set_self _ _ _
  have hcongested : congestedIn (askPass k node_info) k = true := by
    rw [congestedIn, hdelay]
  have hreply : getSamplingReply py (s.fleet k).resGetHandler = .ok (s.interval k) :=
    getSamplingReply_interval py (s.inRange_interval k)
  have hstored : AskableAs py rejects k (Registry.boot.fresh 0 node_info).info := h.stored 0
  refine (hlast (askPass k node_info) k congestedPublishIntervalMs rfl ?_).1 hcongested
  simp only [sharedStep, step, askedState, Monitor.reply, hreply]
  rw [hstored.adapt rfl hdelay]
  rfl

/-- Congestion control makes no node faster, in any run in which the other clients send only what is
allowed, exactly if nothing sets a node that can be asked to more than the congested interval. -/
theorem never_faster_iff (py : Interp) (rejects : Uri → Bool) (cfg : Key → SamplingBuild)
    (fleet : Key → Sampling) (puts : Key → Bytes → Prop) :
    (∀ es, (∀ e ∈ es, Within puts e) →
        Along (sharedStep py rejects cfg) (NeverFaster py rejects cfg) (boot fleet) es) ↔
      ∀ k, Askable py rejects k → StaysBelow cfg fleet puts k := by
  constructor
  · rintro h k ⟨node_info, hask⟩
    have hwithin : ∀ e ∈ askCongested k node_info, Within puts e := by
      simp [askCongested, Within]
    -- The pass comes after whatever has set the node.
    have hasked : ∀ e, Within puts e → (sharedStep py rejects cfg (boot fleet) e).registry =
        Registry.boot → (sharedStep py rejects cfg (boot fleet) e).monitor = Monitor.boot →
        (sharedStep py rejects cfg (boot fleet) e).interval k ≤ congestedPublishIntervalMs := by
      intro e he hregistry hmonitor
      have hes : ∀ e' ∈ e :: askCongested k node_info, Within puts e' := by
        simpa [he] using hwithin
      exact hask.interval_le hregistry hmonitor (h _ hes).2
    refine ⟨?_, ?_, fun body hbody i hi => ?_⟩
    · exact hask.interval_le rfl rfl (h _ hwithin)
    · have hreboot := hasked (.cloud (.reboot k)) trivial rfl rfl
      simpa [State.interval, sharedStep, step, Sampling.boot] using hreboot
    · have hput := hasked (.put k body) hbody rfl rfl
      simpa [State.interval, sharedStep, resPutHandler_current, hi] using hput
  · intro h es hes
    have hboot : Below py rejects (boot fleet) := below_boot fun k hk => (h k hk).start
    have hstep : ∀ s e, Below py rejects s → Within puts e →
        Below py rejects (sharedStep py rejects cfg s e) ∧ NeverFaster py rejects cfg s e :=
      fun s e hs he => ⟨hs.step h he, hs.neverFaster (hs.step h he)⟩
    exact along_of_invariant hstep hboot (along_of_forall_mem hes)

/-- A client sets a node to 15 s; the node registers and is congested, and is told to publish every
5 s. -/
theorem stressed_node_is_sped_up :
    ¬ ∀ es, Along (sharedStep .cpython (fun _ => false) fun _ => solarSampling)
      (NeverFaster .cpython (fun _ => false) fun _ => solarSampling)
      (boot fun _ => Sampling.boot solarSampling) es := by
  intro h
  have hask : AskableAs .cpython (fun _ => false) nodeKey nodeInfo :=
    ⟨by decide, rfl, by decide, _, rfl⟩
  have hle := hask.interval_le rfl rfl
    (h (.put nodeKey (Sampling.intervalBody 15000) :: askCongested nodeKey nodeInfo)).2
  have hinterval : ((sharedStep .cpython (fun _ => false) (fun _ => solarSampling)
      (boot fun _ => Sampling.boot solarSampling)
      (.put nodeKey (Sampling.intervalBody 15000))).interval nodeKey) = 15000 := by
    decide +kernel
  rw [hinterval] at hle
  exact absurd hle (by decide)

end EnergyStation.System.AdaptiveSampling
