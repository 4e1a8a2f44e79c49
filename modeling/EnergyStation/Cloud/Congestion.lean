import EnergyStation.Cloud.CoapClient
import EnergyStation.Cloud.InfluxdbConnect
import EnergyStation.Cloud.NodeRegistry

/-!
# The congestion monitor

`_monitor_network_congestion` as a task of the event loop. A pass takes a snapshot of the registered
nodes and of the delay state, and goes through the nodes one after another; it is suspended while it
awaits the response to a request, and at no other time. `Monitor` has the two tables of the loop,
and its functions go from one suspension to the next.
-/

namespace EnergyStation.Cloud

open Python

/-- `CONGESTED_PUBLISH_INTERVAL_MS` -/
def congestedPublishIntervalMs : ℤ := 5000

/-- What a pass has read when it starts, and whether its requests have been answered so far. -/
structure Pass where
  /-- `registered_nodes` -/
  registered_nodes : Dict Key Node
  /-- `delay_state` -/
  delay_state : Dict Key DelayState
  /-- No request of this pass has failed. -/
  clean : Bool

/-- Where the task is. -/
inductive MonitorTask where
  /-- In `asyncio.sleep`, after a pass that got past its snapshot, where there was one. -/
  | sleeping (ended : Option Pass)
  /-- At the head of the `for` loop, with the nodes still to come. -/
  | running (pass : Pass) (rest : List (Key × Node))
  /-- Awaiting the response of `get_sampling_interval`, which is there once the node has handled the
  request. -/
  | getting (pass : Pass) (node_id : Key) (node : Node) (rest : List (Key × Node))
    (response : Option Response)
  /-- Awaiting the response of `set_sampling_interval`. -/
  | putting (pass : Pass) (node_id : Key) (node : Node) (target_interval : ℤ)
    (body : CStdlib.Bytes) (rest : List (Key × Node)) (response : Option Response)

/-- The task is not suspended, so that nothing else can run. -/
def MonitorTask.busy : MonitorTask → Bool
  | .running .. => true
  | _ => false

/-- The task is in `asyncio.sleep`. -/
def MonitorTask.asleep : MonitorTask → Bool
  | .sleeping _ => true
  | _ => false

/-- The tables of the loop, and the task. -/
structure Monitor where
  /-- `_sampling_interval_state` -/
  sampling_interval_state : Dict Key ℤ
  /-- `_sensor_baseline_interval_ms` -/
  sensor_baseline_interval_ms : Dict Key ℤ
  /-- The task. -/
  task : MonitorTask

/-- One round of the comprehension that makes `registered_nodes`. -/
def collect (registered : Dict Key Node) (node : Node) : Except Exc (Dict Key Node) :=
  if truthy (node.info.get "node_id") then
    (hashKey (node.info.get "node_id")).map fun node_id => registered.set node_id node
  else .ok registered

/-- The comprehension that makes `registered_nodes`. -/
def registeredNodes (nodes : List Node) : Except Exc (Dict Key Node) :=
  nodes.foldlM collect Dict.empty

namespace Monitor

/-- The cloud has just started. -/
def boot : Monitor := ⟨Dict.empty, Dict.empty, .sleeping none⟩

/-- The end of a pass. -/
def sleep (m : Monitor) (pass : Pass) : Monitor := { m with task := .sleeping (some pass) }

/-- On to the next node. -/
def next (m : Monitor) (pass : Pass) (rest : List (Key × Node)) : Monitor :=
  { m with task := .running pass rest }

/-- `target_interval`, or nothing where the lookup of the baseline raises. -/
def targetInterval (m : Monitor) (node_id : Key) (congested : Bool) : Option ℤ :=
  if congested then some congestedPublishIntervalMs
  else m.sensor_baseline_interval_ms.get? node_id

/-- The call of `set_sampling_interval`, up to its request. -/
def put (py : Interp) (rejects : Uri → Bool) (m : Monitor) (pass : Pass) (node_id : Key)
    (node : Node) (target_interval : ℤ) (rest : List (Key × Node)) : Monitor :=
  match samplingUri py rejects node.info, samplingBody target_interval with
  | .ok _, .ok body =>
    { m with task := .putting pass node_id node target_interval body rest none }
  | _, _ => m.sleep pass

/-- The body of the loop from `state = delay_state.get(node_id)` on. -/
def adapt (py : Interp) (rejects : Uri → Bool) (m : Monitor) (pass : Pass) (node_id : Key)
    (node : Node) (rest : List (Key × Node)) : Monitor :=
  match pass.delay_state.get? node_id with
  | none => m.next pass rest
  | some state =>
    if state.samples < 3 then m.next pass rest
    else
      -- An exception from here on ends the pass, since only the loop's own `try` catches it.
      match m.targetInterval node_id state.congested with
      | none => m.sleep pass
      | some target_interval =>
        if m.sampling_interval_state.get? node_id = some target_interval then m.next pass rest
        else m.put py rejects pass node_id node target_interval rest

/-- The body of the loop for a node, up to its first suspension. -/
def visit (py : Interp) (rejects : Uri → Bool) (m : Monitor) (pass : Pass) (node_id : Key)
    (node : Node) (rest : List (Key × Node)) : Monitor :=
  if isStr "battery" (node.info.get "type") then m.next pass rest
  else if (m.sensor_baseline_interval_ms.get? node_id).isNone then
    match samplingUri py rejects node.info with
    | .ok _ => { m with task := .getting pass node_id node rest none }
    -- The address is read within the inner `try`, whose handler goes on to the next node.
    | .error _ => m.next pass rest
  else m.adapt py rejects pass node_id node rest

/-- The start of a pass: the snapshots, and the removal of the entries of nodes that are not
registered. -/
def wake (m : Monitor) (registry : Registry) (delay_state : Dict Key DelayState) : Monitor :=
  match registeredNodes registry.getAllNodes with
  | .error _ => { m with task := .sleeping none }
  | .ok registered_nodes =>
    { m with
      sampling_interval_state := m.sampling_interval_state.filterKeys fun node_id =>
        (registered_nodes.get? node_id).isSome
      task := .running ⟨registered_nodes, delay_state, true⟩ registered_nodes.entries }

/-- The task runs on from the head of the loop. -/
def run (py : Interp) (rejects : Uri → Bool) (m : Monitor) : Monitor :=
  match m.task with
  | .running pass [] => m.sleep pass
  | .running pass ((node_id, node) :: rest) => m.visit py rejects pass node_id node rest
  | _ => m

/-- The response that is awaited arrives. -/
def reply (py : Interp) (rejects : Uri → Bool) (m : Monitor) : Monitor :=
  match m.task with
  | .getting pass node_id node rest (some response) =>
    match getSamplingReply py response with
    -- The inner `try`: without a baseline the node is left for the next pass.
    | .error _ => m.next { pass with clean := false } rest
    | .ok interval_ms =>
      { m with
        sensor_baseline_interval_ms :=
          m.sensor_baseline_interval_ms.set node_id interval_ms }.adapt py rejects pass node_id node
        rest
  | .putting pass node_id _ target_interval _ rest (some response) =>
    match setSamplingReply response with
    -- The table has not been written, and the nodes still to come are left out.
    | .error _ => m.sleep { pass with clean := false }
    | .ok _ =>
      { m with
        sampling_interval_state := m.sampling_interval_state.set node_id target_interval }.next
        pass rest
  | _ => m

/-- The request that is awaited raises. -/
def lose (m : Monitor) : Monitor :=
  match m.task with
  | .getting pass _ _ rest _ => m.next { pass with clean := false } rest
  | .putting pass _ _ _ _ _ _ => m.sleep { pass with clean := false }
  | _ => m

end Monitor

namespace Monitor

variable {py : Interp} {rejects : Uri → Bool}

/-- The target that the monitor has for a node, where the delay state has enough samples. -/
def target (m : Monitor) (pass : Pass) (node_id : Key) : Option (Option ℤ) :=
  match pass.delay_state.get? node_id with
  | none => none
  | some state =>
    if state.samples < 3 then none else some (m.targetInterval node_id state.congested)

/-- What the rest of the loop's body does for a node: nothing where there is no target or the table
has it already, a request where one can be sent, and the end of the pass otherwise. -/
theorem adapt_cases (m : Monitor) (pass : Pass) (node_id : Key) (node : Node)
    (rest : List (Key × Node)) :
    (m.adapt py rejects pass node_id node rest = m.next pass rest ∧
      ∀ t, m.target pass node_id = some t → ∃ t', t = some t' ∧
        m.sampling_interval_state.get? node_id = some t') ∨
    (∃ t body, m.adapt py rejects pass node_id node rest =
        { m with task := .putting pass node_id node t body rest none } ∧
      m.target pass node_id = some (some t) ∧ samplingBody t = .ok body) ∨
    (m.adapt py rejects pass node_id node rest = m.sleep pass ∧
      ∃ t, m.target pass node_id = some t ∧ ∀ t', t = some t' →
        m.sampling_interval_state.get? node_id ≠ some t' ∧
          ((∀ uri, samplingUri py rejects node.info ≠ .ok uri) ∨
            ∀ body, samplingBody t' ≠ .ok body)) := by
  unfold adapt target
  cases pass.delay_state.get? node_id with
  | none => exact .inl ⟨rfl, fun t ht => nomatch ht⟩
  | some state =>
    simp only
    by_cases hsamples : state.samples < 3
    · rw [if_pos hsamples, if_pos hsamples]
      exact .inl ⟨rfl, fun t ht => nomatch ht⟩
    · rw [if_neg hsamples, if_neg hsamples]
      cases htarget : m.targetInterval node_id state.congested with
      | none => exact .inr (.inr ⟨rfl, none, rfl, fun t' ht' => nomatch ht'⟩)
      | some t =>
        simp only
        -- A request is made only for an interval that is not in the table.
        by_cases htable : m.sampling_interval_state.get? node_id = some t
        · rw [if_pos htable]
          refine .inl ⟨rfl, fun t' ht' => ⟨t, (Option.some.inj ht').symm, htable⟩⟩
        · rw [if_neg htable]
          unfold put
          cases huri : samplingUri py rejects node.info with
          | error e =>
            refine .inr (.inr ⟨rfl, some t, rfl, fun t' ht' => ⟨?_, .inl fun uri h => ?_⟩⟩)
            · rwa [← ht']
            · cases h
          | ok uri =>
            cases hbody : samplingBody t with
            | error e =>
              refine .inr (.inr ⟨rfl, some t, rfl, fun t' ht' => ⟨?_, .inr fun body h => ?_⟩⟩)
              · rwa [← ht']
              · rw [← Option.some.inj ht', hbody] at h
                cases h
            | ok body => exact .inr (.inl ⟨t, body, rfl, rfl, hbody⟩)

/-- What the loop's body does for a node, up to its first suspension. -/
theorem visit_cases (m : Monitor) (pass : Pass) (node_id : Key) (node : Node)
    (rest : List (Key × Node)) :
    (m.visit py rejects pass node_id node rest = m.next pass rest ∧
      (isStr "battery" (node.info.get "type") = true ∨
        m.sensor_baseline_interval_ms.get? node_id = none)) ∨
    (isStr "battery" (node.info.get "type") = false ∧
      m.visit py rejects pass node_id node rest =
        { m with task := .getting pass node_id node rest none }) ∨
    (isStr "battery" (node.info.get "type") = false ∧
      (∃ baseline, m.sensor_baseline_interval_ms.get? node_id = some baseline) ∧
      m.visit py rejects pass node_id node rest = m.adapt py rejects pass node_id node rest) := by
  unfold visit
  cases hbattery : isStr "battery" (node.info.get "type") with
  | true => exact .inl ⟨rfl, .inl rfl⟩
  | false =>
    rw [if_neg Bool.false_ne_true]
    cases hbaseline : m.sensor_baseline_interval_ms.get? node_id with
    | none =>
      cases samplingUri py rejects node.info with
      | error e => exact .inl ⟨rfl, .inr rfl⟩
      | ok uri => exact .inr (.inl ⟨rfl, rfl⟩)
    | some baseline => exact .inr (.inr ⟨rfl, ⟨baseline, rfl⟩, rfl⟩)

end Monitor

/-- The comprehension keeps the nodes that have an id, where each is listed under its id. -/
theorem foldlM_collect {l : List (Key × Node)} (hnodup : (l.map Prod.fst).Nodup)
    (hkeys : ∀ e ∈ l, truthy (e.2.info.get "node_id") = true →
      hashKey (e.2.info.get "node_id") = .ok e.1) (d : Dict Key Node) :
    ∃ d', (l.map Prod.snd).foldlM collect d = .ok d' ∧ ∀ k, d'.get? k =
      ((Assoc.get? l k).filter fun n => truthy (n.info.get "node_id")).or (d.get? k) := by
  induction l generalizing d with
  | nil => exact ⟨d, rfl, fun k => rfl⟩
  | cons e l ih =>
    obtain ⟨k₀, n₀⟩ := e
    rw [List.map_cons, List.nodup_cons] at hnodup
    -- No later node has the key of this one.
    have habsent : Assoc.get? l k₀ = none := (Assoc.get?_eq_none_iff l k₀).mpr hnodup.1
    have htail := ih hnodup.2 fun e he => hkeys e (List.mem_cons_of_mem _ he)
    cases hid : truthy (n₀.info.get "node_id") with
    | false =>
      have hcollect : collect d n₀ = .ok d := by
        rw [collect, hid, if_neg Bool.false_ne_true]
      have hf : Option.filter (fun n : Node => truthy (n.info.get "node_id")) (some n₀) = none :=
        Option.filter_some_neg hid
      obtain ⟨d', hfold, hget⟩ := htail d
      refine ⟨d', ?_, fun k => ?_⟩
      · rw [List.map_cons, List.foldlM_cons, hcollect]
        exact hfold
      · rw [hget, Assoc.get?_cons]
        by_cases hk : k₀ = k
        · rw [if_pos hk, ← hk, habsent, hf]
          rfl
        · rw [if_neg hk]
    | true =>
      have hcollect : collect d n₀ = .ok (d.set k₀ n₀) := by
        rw [collect, hid, if_pos rfl, hkeys (k₀, n₀) List.mem_cons_self hid]
        rfl
      have hf : Option.filter (fun n : Node => truthy (n.info.get "node_id")) (some n₀) =
          some n₀ := Option.filter_some_pos hid
      obtain ⟨d', hfold, hget⟩ := htail (d.set k₀ n₀)
      refine ⟨d', ?_, fun k => ?_⟩
      · rw [List.map_cons, List.foldlM_cons, hcollect]
        exact hfold
      · rw [hget, Assoc.get?_cons, Dict.get?_set]
        by_cases hk : k₀ = k
        · rw [if_pos hk, if_pos hk.symm, ← hk, habsent, hf]
          rfl
        · rw [if_neg hk, if_neg (Ne.symm hk)]

/-- Where every node is stored under its id, the snapshot has the registered nodes that have an
id. -/
theorem registeredNodes_getAllNodes {r : Registry}
    (h : ∀ k n, r.nodes.get? k = some n → truthy (n.info.get "node_id") = true →
      hashKey (n.info.get "node_id") = .ok k) :
    ∃ d, registeredNodes r.getAllNodes = .ok d ∧ ∀ k, d.get? k =
      (r.nodes.get? k).filter fun n => truthy (n.info.get "node_id") := by
  obtain ⟨d, hfold, hget⟩ := foldlM_collect r.nodes.nodup (fun e he =>
    h e.1 e.2 ((Dict.get?_eq_some_iff r.nodes e.1 e.2).mpr he)) Dict.empty
  refine ⟨d, hfold, fun k => ?_⟩
  rw [hget, Dict.get?_empty, Option.or_none]
  rfl

end EnergyStation.Cloud
