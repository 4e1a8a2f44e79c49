import EnergyStation.Lib.Drift
import EnergyStation.Liveness.LostUpdate
import EnergyStation.Telemetry.Registrations

/-!
# The members of the fleet

The nodes of a fleet, each with its `coap_register_process`, the POSTs that are on their way, and
the cloud with its heartbeat loop. A node sends one POST for each boot, so it is registered at most
once for each boot, and one that the cloud has removed stays out until it restarts, although it goes
on publishing (`removed_until_reboot`). The layers below the two applications transmit a POST as
often as they have to and handle it once, or never.
-/

namespace EnergyStation.System.Members

open Cloud CStdlib Firmware Numeral Python Runs Telemetry

/-- The nodes of a fleet, each on a network on which it has a route. -/
structure Fleet (ι : Type*) where
  /-- The nodes. -/
  device : ι → Device
  /-- No two nodes have the same identifier. -/
  nodeId_injective : Function.Injective fun i => (device i).nodeId
  /-- An IPv6 address has a colon. -/
  ip_colon : ∀ i, 58 ∈ (device i).ip
  /-- It does not start with a bracket. -/
  ip_head : ∀ i, (device i).ip.head? ≠ some 91

variable {ι : Type*}

/-- The key under which the cloud stores a node. -/
def Fleet.key (F : Fleet ι) (i : ι) : Key := .str (F.device i).nodeId

theorem Fleet.key_injective (F : Fleet ι) : Function.Injective F.key :=
  fun _ _ h => F.nodeId_injective (Key.str.inj h)

/-- The entry is what the cloud stores of a registration of the node. -/
def Fleet.StoredOf (F : Fleet ι) (i : ι) (info : Obj) : Prop :=
  ∃ sent_ms now_ms, info = storedInfo now_ms (deviceFields sent_ms (F.device i))

/-- A registration on its way. -/
structure Post (ι : Type*) where
  /-- The sender. -/
  node : ι
  /-- The payload. -/
  payload : Bytes

/-- The fleet, the network and the cloud. -/
structure State (ι : Type*) where
  /-- The cloud. -/
  cloud : Liveness.State
  /-- `coap_register_process` of each node. -/
  process : ι → RegisterProcess
  /-- The POSTs that have neither been handled nor been lost. -/
  flight : List (Post ι)

/-- What can happen. -/
inductive Event (ι : Type*) where
  /-- A node restarts, at some time of its clock. -/
  | reboot (i : ι) (clock : ℕ)
  /-- Something happens to the process of a node. -/
  | process (i : ι) (e : RegisterEvent) (uptime_ms : ℕ)
  /-- A POST reaches the cloud. -/
  | deliver (k : ℕ) (now_ms : ℤ) (accepts : Bool)
  /-- A POST is lost. -/
  | lose (k : ℕ)
  /-- Something else happens to the cloud. -/
  | cloud (e : Liveness.Event)

/-- The event is a request to `/register`. -/
def isRegister : Liveness.Event → Bool
  | .register .. => true
  | _ => false

/-- Everything has just started. -/
def boot (p : Platform) : State ι := ⟨Liveness.boot, fun _ => .boot p 0, []⟩

section

variable [DecidableEq ι] (F : Fleet ι) (p : Platform) (py : Interp) (rejects : Uri → Bool)

/-- What the process of a node sends. -/
def posts (s : State ι) (i : ι) (e : RegisterEvent) (uptime_ms : ℕ) : List (Post ι) :=
  if (s.process i).sends e then [⟨i, (F.device i).registerPayload (.ofNat (sentMs uptime_ms))⟩]
    else []

/-- One event. -/
def step (s : State ι) : Event ι → State ι
  | .reboot i clock => { s with process := Function.update s.process i (.boot p clock) }
  | .process i e uptime_ms =>
    { s with
      process := Function.update s.process i ((s.process i).step p e)
      flight := s.flight ++ posts F s i e uptime_ms }
  | .deliver k now_ms accepts =>
    match s.flight[k]? with
    | none => s
    | some post =>
      -- No handler runs while the heartbeat loop does.
      if s.cloud.task.busy then s
      else
        { s with
          cloud := Liveness.step py rejects s.cloud (.register now_ms accepts post.payload)
          flight := s.flight.eraseIdx k }
  | .lose k => { s with flight := s.flight.eraseIdx k }
  -- Nobody but the nodes of the fleet registers.
  | .cloud e => if isRegister e then s else { s with cloud := Liveness.step py rejects s.cloud e }

/-- The cloud handles a POST of the node. -/
def handles (i : ι) (s : State ι) : Event ι → Bool
  | .deliver k _ _ => (s.flight[k]?).any (fun post => decide (post.node = i)) && !s.cloud.task.busy
  | _ => false

/-- The node restarts. -/
def reboots (i : ι) (_ : State ι) : Event ι → Bool
  | .reboot j _ => decide (j = i)
  | _ => false

end

/-- What is true of every state that a run reaches. -/
structure Sound (F : Fleet ι) (s : State ι) : Prop where
  /-- A POST has the payload of its sender. -/
  flight : ∀ post ∈ s.flight, ∃ sent_ms, post.payload = (F.device post.node).registerPayload sent_ms
  /-- An entry is stored under the key of its node. -/
  stored : ∀ k n, s.cloud.registry.nodes.get? k = some n → ∃ i, k = F.key i ∧ F.StoredOf i n.info
  /-- The cloud subscribes to what it has stored. -/
  scheduled : ∀ n ∈ s.cloud.registry.scheduled, ∃ i, F.StoredOf i n.info
  /-- The heartbeat loop holds what the cloud has stored. -/
  held : ∀ n ∈ s.cloud.task.held, ∃ i, F.StoredOf i n.info

section

variable {F : Fleet ι} {p : Platform} {py : Interp} {rejects : Uri → Bool}

theorem sound_boot : Sound F (boot p) where
  flight := fun _ h => by cases h
  stored := fun _ _ h => by cases h
  scheduled := fun _ h => by cases h
  held := fun _ h => by cases h

/-- The registry after an event of the cloud keeps to the fleet, where what is registered does. -/
theorem Sound.cloud {s : State ι} (hs : Sound F s) (e : Liveness.Event)
    (he : ∀ payload, Liveness.Registers py s.cloud e payload →
      ∃ i sent_ms, payload = deviceFields sent_ms (F.device i)) {process : ι → RegisterProcess}
    {flight : List (Post ι)}
    (hflight : ∀ post ∈ flight, ∃ sent_ms, post.payload =
    (F.device post.node).registerPayload sent_ms) :
    Sound F ⟨Liveness.step py rejects s.cloud e, process, flight⟩ where
  flight := hflight
  stored := by
    -- An entry is one of a payload that is registered now, or was there before.
    refine Liveness.stored_step (Q := fun k info => ∃ i, k = F.key i ∧ F.StoredOf i info)
      hs.stored e ?_
    intro payload k now_ms hreg hk
    obtain ⟨i, sent_ms, rfl⟩ := he payload hreg
    rw [hashKey_storedId_deviceFields] at hk
    exact ⟨i, (Except.ok.inj hk).symm, sent_ms, now_ms, rfl⟩
  scheduled := by
    intro n hn
    -- Only a registration schedules a subscription.
    rcases Liveness.step_registry_cases rejects s.cloud e with
      hr | ⟨payload, k, now_ms, hreg, -, hr⟩ | ⟨k, hr⟩
    · exact hs.scheduled n (hr ▸ hn)
    · obtain ⟨i, sent_ms, rfl⟩ := he payload hreg
      rw [hr] at hn
      rcases List.mem_append.mp hn with hn | hn
      · exact hs.scheduled n hn
      · rw [List.mem_singleton.mp hn]
        exact ⟨i, sent_ms, now_ms, rfl⟩
    · rw [hr] at hn
      exact hs.scheduled n hn
  held := Liveness.held_step (fun k n hn => (hs.stored k n hn).imp fun _ h => h.2) hs.held e

/-- A POST of the fleet registers its sender. -/
theorem registers_post (hdepth : 0 < py.recursionLimit) {s : State ι} (hs : Sound F s)
    {post : Post ι} (hpost : post ∈ s.flight) {now_ms : ℤ} {accepts : Bool} {payload : Obj}
    (h : Liveness.Registers py s.cloud (.register now_ms accepts post.payload) payload) :
    ∃ sent_ms, payload = deviceFields sent_ms (F.device post.node) := by
  obtain ⟨sent_ms, hpayload⟩ := hs.flight post hpost
  obtain ⟨now_ms', accepts', body, heq, -, hbody, -⟩ := h
  cases heq
  rw [hpayload, loadObject_registerPayload hdepth] at hbody
  exact ⟨sent_ms, (Except.ok.inj hbody).symm⟩

/-- What is not a request to `/register` registers nothing. -/
theorem not_registers {s : Liveness.State} {e : Liveness.Event} (he : ¬ isRegister e = true)
    {payload : Obj} : ¬ Liveness.Registers py s e payload := by
  rintro ⟨now_ms, accepts, body, rfl, -⟩
  exact he rfl

variable [DecidableEq ι]

/-- A POST that reaches the cloud is handled, or nothing happens. -/
theorem step_deliver_cases (s : State ι) (k : ℕ) (now_ms : ℤ) (accepts : Bool) :
    (step F p py rejects s (.deliver k now_ms accepts) = s ∧
      ∀ i, handles i s (.deliver k now_ms accepts) = false) ∨
    ∃ post, s.flight[k]? = some post ∧
      (∀ i, handles i s (.deliver k now_ms accepts) = decide (post.node = i)) ∧
      step F p py rejects s (.deliver k now_ms accepts) =
        { s with
          cloud := Liveness.step py rejects s.cloud (.register now_ms accepts post.payload)
          flight := s.flight.eraseIdx k } := by
  simp only [step, handles]
  rcases hk : s.flight[k]? with _ | post
  · exact .inl ⟨rfl, fun _ => rfl⟩
  · cases hbusy : s.cloud.task.busy with
    | true => exact .inl ⟨rfl, fun i => by simp⟩
    | false => exact .inr ⟨post, rfl, fun i => by simp, rfl⟩

/-- An event of the cloud registers nothing. -/
theorem step_cloud_cases (s : State ι) (e : Liveness.Event) :
    step F p py rejects s (.cloud e) = s ∨
    (¬ isRegister e = true ∧
      step F p py rejects s (.cloud e) =
        { s with cloud := Liveness.step py rejects s.cloud e }) := by
  simp only [step]
  split_ifs with he
  · exact .inl rfl
  · exact .inr ⟨he, rfl⟩

/-- Every step keeps to the fleet. -/
theorem Sound.step (hdepth : 0 < py.recursionLimit) {s : State ι} (hs : Sound F s) (e : Event ι) :
    Sound F (step F p py rejects s e) := by
  -- A POST that has left the network leaves the others as they were.
  have herase : ∀ k, ∀ post ∈ s.flight.eraseIdx k,
      ∃ sent_ms, post.payload = (F.device post.node).registerPayload sent_ms :=
    fun k post hpost => hs.flight post (List.mem_of_mem_eraseIdx hpost)
  cases e with
  | reboot i clock => exact ⟨hs.flight, hs.stored, hs.scheduled, hs.held⟩
  | process i e uptime_ms =>
    refine ⟨fun post hpost => ?_, hs.stored, hs.scheduled, hs.held⟩
    rcases List.mem_append.mp hpost with hpost | hpost
    · exact hs.flight post hpost
    · -- The process prints the fields of its own device.
      unfold posts at hpost
      split_ifs at hpost
      · rw [List.mem_singleton.mp hpost]
        exact ⟨_, rfl⟩
      · cases hpost
  | deliver k now_ms accepts =>
    rcases step_deliver_cases s k now_ms accepts with ⟨hstep, -⟩ | ⟨post, hk, -, hstep⟩
    · rwa [hstep]
    · rw [hstep]
      exact hs.cloud _ (fun payload h =>
        ⟨post.node, registers_post hdepth hs (List.mem_of_getElem? hk) h⟩)
        (herase k)
  | lose k => exact ⟨herase k, hs.stored, hs.scheduled, hs.held⟩
  | cloud e =>
    rcases step_cloud_cases s e with hstep | ⟨he, hstep⟩
    · rwa [hstep]
    · rw [hstep]
      -- Nothing but a delivered POST registers.
      exact hs.cloud e (fun payload h => absurd h (not_registers he)) hs.flight

/-- Every state of a run keeps to the fleet. -/
theorem sound_run (hdepth : 0 < py.recursionLimit) (es : List (Event ι)) :
    Sound F (run (step F p py rejects) (boot p) es) :=
  run_invariant' (fun _ e hs => hs.step hdepth e) sound_boot es

/-- An entry of a node is the one that was there, or a POST of the node is handled. -/
theorem entry_step (hdepth : 0 < py.recursionLimit) {s : State ι} (hs : Sound F s) {e : Event ι}
    {i : ι} {n : Node}
    (hn : (step F p py rejects s e).cloud.registry.nodes.get? (F.key i) = some n) :
    s.cloud.registry.nodes.get? (F.key i) = some n ∨ handles i s e = true := by
  cases e with
  | reboot j clock => exact .inl hn
  | process j e uptime_ms => exact .inl hn
  | lose k => exact .inl hn
  | cloud e =>
    left
    rcases step_cloud_cases s e with hstep | ⟨he, hstep⟩
    · rwa [hstep] at hn
    · rw [hstep] at hn
      -- Of the events of the cloud, an unregistration and a failed probe delete, and none stores.
      rcases Liveness.step_registry_cases rejects s.cloud e with
        hr | ⟨payload, k, now_ms, hreg, -, -⟩ | ⟨k, hr⟩
      · rwa [hr] at hn
      · exact absurd hreg (not_registers he)
      · rw [hr, Registry.get?_delete] at hn
        split_ifs at hn
        exact hn
  | deliver k now_ms accepts =>
    rcases step_deliver_cases s k now_ms accepts with ⟨hstep, -⟩ | ⟨post, hk, hhandles, hstep⟩
    · rw [hstep] at hn
      exact .inl hn
    · rw [hhandles, decide_eq_true_eq]
      rw [hstep] at hn
      rcases Liveness.step_registry_cases rejects s.cloud
        (.register now_ms accepts post.payload) with
        hr | ⟨payload, k', now_ms', hreg, hk', hr⟩ | ⟨k', hr⟩
      · rw [hr] at hn
        exact .inl hn
      · -- The POST is stored under the key of its sender.
        obtain ⟨sent_ms, rfl⟩ := registers_post hdepth hs (List.mem_of_getElem? hk) hreg
        rw [hashKey_storedId_deviceFields] at hk'
        rw [hr, Registry.get?_insert] at hn
        split_ifs at hn with hkey
        · exact .inr (F.key_injective ((Except.ok.inj hk').trans hkey.symm))
        · exact .inl hn
      · rw [hr, Registry.get?_delete] at hn
        split_ifs at hn
        exact .inl hn

/-- The POSTs of a node that are on their way, and the one that it has still to send. -/
def stock (i : ι) (s : State ι) : ℕ :=
  s.flight.countP (fun post => decide (post.node = i)) + if (s.process i).Sent then 0 else 1

/-- A POST that leaves the network is one less of its sender. -/
theorem countP_eraseIdx {l : List (Post ι)} {k : ℕ} {post : Post ι} (h : l[k]? = some post)
    (i : ι) : (if decide (post.node = i) = true then 1 else 0) +
      (l.eraseIdx k).countP (fun post => decide (post.node = i)) =
        l.countP fun post => decide (post.node = i) := by
  induction l generalizing k with
  | nil => cases h
  | cons post' l ih =>
    cases k with
    | zero =>
      rw [List.getElem?_cons_zero, Option.some_inj] at h
      rw [List.eraseIdx_cons_zero, List.countP_cons, h, Nat.add_comm]
    | succ k =>
      rw [List.getElem?_cons_succ] at h
      rw [List.eraseIdx_cons_succ, List.countP_cons, List.countP_cons, ← ih h, Nat.add_assoc]

/-- A POST that is handled is taken from the stock of its sender, and only a restart adds to it. -/
theorem stock_step (i : ι) (s : State ι) (e : Event ι) :
    (if handles i s e then 1 else 0) + stock i (step F p py rejects s e) ≤
      stock i s + if reboots i s e then 1 else 0 := by
  -- What is counted: the POSTs of the node in flight, and one more where it has not sent its own.
  unfold stock
  cases e with
  | reboot j clock =>
    by_cases hj : j = i
    · subst hj
      -- A node that restarts may send again.
      have hboot : ¬ (RegisterProcess.boot p clock).Sent := fun h => h rfl
      simp [handles, reboots, step, hboot]
    · simp [handles, reboots, step, hj, Function.update_of_ne (Ne.symm hj)]
  | process j e uptime_ms =>
    by_cases hj : j = i
    · subst hj
      -- A POST that is sent moves from the process to the network.
      have hsent := RegisterProcess.sent_step_iff p (s.process j) e
      have hsends := RegisterProcess.sends_iff p (s.process j) e
      simp only [handles, reboots, step, posts, Function.update_self, hsent]
      by_cases hs : (s.process j).sends e = true
      · simp [hs, (hsends.mp hs).1]
      · simp [hs]
    · by_cases hs : (s.process j).sends e = true
      · simp [handles, reboots, step, posts, Function.update_of_ne (Ne.symm hj), hs, hj]
      · simp [handles, reboots, step, posts, Function.update_of_ne (Ne.symm hj), hs]
  | deliver k now_ms accepts =>
    rcases step_deliver_cases s k now_ms accepts with
      ⟨hstep, hhandles⟩ | ⟨post, hk, hhandles, hstep⟩
    · rw [hstep, hhandles]
      simp [reboots]
    · rw [hstep, hhandles, ← countP_eraseIdx hk i]
      simp only [reboots]
      omega
  | lose k =>
    -- A POST that is lost is counted no more.
    have hle : (s.flight.eraseIdx k).countP (fun post => decide (post.node = i)) ≤
        s.flight.countP fun post => decide (post.node = i) :=
      (List.eraseIdx_sublist s.flight k).countP_le
    simp only [handles, reboots, step, Bool.false_eq_true, if_false, Nat.zero_add, Nat.add_zero]
    exact Nat.add_le_add_right hle _
  | cloud e =>
    rcases step_cloud_cases s e with hstep | ⟨-, hstep⟩
    · rw [hstep]
      simp [handles, reboots]
    · rw [hstep]
      simp [handles, reboots]

/-- The registrations of a node are no more than its boots. -/
theorem count_handles_le (i : ι) (es : List (Event ι)) :
    count (step F p py rejects) (handles i) (boot p) es ≤
      1 + count (step F p py rejects) (reboots i) (boot p) es := by
  have hstock := count_add_le (I := fun _ : State ι => True) (fun _ _ _ => trivial)
    (fun s e _ => @stock_step ι F p py rejects _ i s e) (s := boot p) trivial es
  have hboot : stock i (boot p : State ι) = 1 := rfl
  omega

/-- The node has sent its POST, which is no longer on its way. -/
structure Spent (i : ι) (s : State ι) : Prop where
  /-- The node sends no more. -/
  sent : (s.process i).Sent
  /-- Nothing of it is on its way. -/
  flight : ∀ post ∈ s.flight, post.node ≠ i

/-- The node has sent its POST, none of its POSTs is on its way, and the cloud has no entry of
it. -/
structure Out (F : Fleet ι) (i : ι) (s : State ι) : Prop extends Spent i s where
  /-- It is not registered. -/
  absent : s.cloud.registry.nodes.get? (F.key i) = none

/-- None of the POSTs on their way is handled. -/
theorem not_handles {i : ι} {s : State ι} (h : ∀ post ∈ s.flight, post.node ≠ i) (e : Event ι) :
    handles i s e = false := by
  cases e with
  | deliver k now_ms accepts =>
    rcases hk : s.flight[k]? with _ | post
    · simp [handles, hk]
    · simp [handles, hk, h post (List.mem_of_getElem? hk)]
  | reboot j clock => rfl
  | process j e uptime_ms => rfl
  | lose k => rfl
  | cloud e => rfl

/-- A node that has sent its POST sends no more in any step but its restart. -/
theorem Spent.step {i : ι} {s : State ι} (h : Spent i s) {e : Event ι}
    (he : reboots i s e = false) : Spent i (step F p py rejects s e) where
  -- A process that has sent its POST sends none before it restarts.
  sent := by
    cases e with
    | reboot j clock =>
      have hj : i ≠ j := fun hij => by simp [reboots, hij] at he
      simpa [Members.step, Function.update_of_ne hj] using h.sent
    | process j e uptime_ms =>
      by_cases hj : i = j
      · subst hj
        simpa [Members.step] using h.sent.step e
      · simpa [Members.step, Function.update_of_ne hj] using h.sent
    | deliver k now_ms accepts =>
      rcases step_deliver_cases s k now_ms accepts with ⟨hstep, -⟩ | ⟨post, -, -, hstep⟩
      · rw [hstep]
        exact h.sent
      · rw [hstep]
        exact h.sent
    | lose k => exact h.sent
    | cloud e =>
      rcases step_cloud_cases s e with hstep | ⟨-, hstep⟩
      · rw [hstep]
        exact h.sent
      · rw [hstep]
        exact h.sent
  -- So no POST of the node gets into the network, and there was none.
  flight := by
    cases e with
    | reboot j clock => exact h.flight
    | process j e uptime_ms =>
      intro post hpost
      rcases List.mem_append.mp hpost with hpost | hpost
      · exact h.flight post hpost
      · unfold posts at hpost
        split_ifs at hpost with hsends
        · -- The node itself has sent before.
          rw [List.mem_singleton.mp hpost]
          rintro rfl
          exact ((RegisterProcess.sends_iff p _ e).mp hsends).1 h.sent
        · cases hpost
    | deliver k now_ms accepts =>
      rcases step_deliver_cases s k now_ms accepts with ⟨hstep, -⟩ | ⟨post, -, -, hstep⟩
      · rw [hstep]
        exact h.flight
      · rw [hstep]
        exact fun post hpost => h.flight post (List.mem_of_mem_eraseIdx hpost)
    | lose k => exact fun post hpost => h.flight post (List.mem_of_mem_eraseIdx hpost)
    | cloud e =>
      rcases step_cloud_cases s e with hstep | ⟨-, hstep⟩
      · rw [hstep]
        exact h.flight
      · rw [hstep]
        exact h.flight

/-- A node that is out stays out in every step but its restart. -/
theorem Out.step (hdepth : 0 < py.recursionLimit) {i : ι} {s : State ι} (hs : Sound F s)
    (h : Out F i s) {e : Event ι} (he : reboots i s e = false) :
    Out F i (step F p py rejects s e) where
  toSpent := h.toSpent.step he
  absent := by
    by_contra hsome
    obtain ⟨n, hn⟩ := Option.ne_none_iff_exists'.mp hsome
    rcases entry_step hdepth hs hn with hbefore | hhandles
    · rw [h.absent] at hbefore
      cases hbefore
    · rw [not_handles h.flight] at hhandles
      cases hhandles

/-- A list of events without a restart of the node. -/
theorem not_reboots {i : ι} {es : List (Event ι)} (hes : ∀ clock, .reboot i clock ∉ es) :
    ∀ e ∈ es, ∀ s, reboots i s e = false := by
  intro e he s
  cases e with
  | reboot j clock =>
    refine decide_eq_false fun hj => ?_
    subst hj
    exact hes clock he
  | process j e uptime_ms => rfl
  | deliver k now_ms accepts => rfl
  | lose k => rfl
  | cloud e => rfl

/-- A node that is out stays out until it restarts. -/
theorem Out.run (hdepth : 0 < py.recursionLimit) {i : ι} {s : State ι} (hs : Sound F s)
    (h : Out F i s) {es : List (Event ι)} (hes : ∀ clock, .reboot i clock ∉ es) :
    Out F i (run (Members.step F p py rejects) s es) := by
  have hboth : Sound F (Runs.run (Members.step F p py rejects) s es) ∧
      Out F i (Runs.run (Members.step F p py rejects) s es) :=
    run_invariant (I := fun s => Sound F s ∧ Out F i s) (C := fun _ e => ∀ s, reboots i s e = false)
      (fun s e hs he => ⟨hs.1.step hdepth e, hs.2.step hdepth hs.1 (he s)⟩) ⟨hs, h⟩
      (along_of_forall_mem (not_reboots hes))
  exact hboth.2

/-- How often a node is registered, and how long it is out. -/
structure Registration (F : Fleet ι) (p : Platform) (py : Interp) (rejects : Uri → Bool) (i : ι) :
    Prop where
  /-- The cloud handles at most one POST of it for each of its boots. -/
  once : ∀ es, count (step F p py rejects) (handles i) (boot p) es ≤
    1 + count (step F p py rejects) (reboots i) (boot p) es
  /-- An entry of it appears only when the cloud handles a POST of it. -/
  appears : ∀ pre e n,
    (run (step F p py rejects) (boot p) (pre ++ [e])).cloud.registry.nodes.get? (F.key i) = some n →
    (run (step F p py rejects) (boot p) pre).cloud.registry.nodes.get? (F.key i) = some n ∨
      handles i (run (step F p py rejects) (boot p) pre) e = true
  /-- Once it has sent its POST, which is no longer on its way, and has no entry, it has none until
  it restarts. -/
  out : ∀ pre mid, Out F i (run (step F p py rejects) (boot p) pre) →
    (∀ clock, .reboot i clock ∉ mid) →
    (run (step F p py rejects) (boot p) (pre ++ mid)).cloud.registry.nodes.get? (F.key i) = none

/-- Whatever the order in which the nodes of a fleet start, register and restart, in which their
POSTs are handled or lost, and in which the cloud probes, removes and unregisters: a node is
registered at most once for each of its boots, and one whose POST was lost, or whose entry has been
removed, is out of the registry until it restarts. -/
theorem removed_until_reboot (hdepth : 0 < py.recursionLimit) (F : Fleet ι) (p : Platform)
    (rejects : Uri → Bool) (i : ι) : Registration F p py rejects i where
  once := count_handles_le i
  appears pre e n hn := by
    rw [run_concat] at hn
    exact entry_step hdepth (sound_run hdepth pre) hn
  out pre mid hout hmid := by
    rw [run_append]
    exact (hout.run hdepth (sound_run hdepth pre) hmid).absent

/-- A fleet of a solar node and a battery. -/
def pair : Fleet Bool where
  device
    | true => .producer solarNode
    | false => .battery ⟨(6, 6), text "fd00::206:6:6:6", by decide, by decide⟩
  nodeId_injective := by decide
  ip_colon := by decide
  ip_head := by decide

/-- On a platform with 128 ticks in a second. -/
theorem removed_until_reboot_pair :
    Registration pair ⟨128, by decide⟩ .cpython (fun _ => false) true ∧
      Registration pair ⟨128, by decide⟩ .cpython (fun _ => false) false :=
  ⟨removed_until_reboot (by decide) pair ⟨128, by decide⟩ (fun _ => false) true,
    removed_until_reboot (by decide) pair ⟨128, by decide⟩ (fun _ => false) false⟩

end

end EnergyStation.System.Members
