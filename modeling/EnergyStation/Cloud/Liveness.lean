import EnergyStation.Cloud.CoapClient
import EnergyStation.Cloud.CoapResources

/-!
# The heartbeat loop

`_monitor_sensor_liveness` as a task of the event loop. It takes a snapshot of the registry and
probes the nodes of the snapshot one after another; the handlers of the CoAP resources run while it
sleeps or awaits the response to a probe, and at no other time. A step of the task goes from one
statement of the loop that can suspend, raise or change the registry to the next.
-/

namespace EnergyStation.Cloud.Liveness

open Python Numeral

/-- Where the task is. -/
inductive Task where
  /-- In `asyncio.sleep`. -/
  | sleeping
  /-- At the head of the `for` loop, with the nodes still to come. -/
  | running (rest : List Node)
  /-- Awaiting the response to the probe of a node, with the nodes still to come after it. -/
  | probing (node : Node) (uri : Uri) (rest : List Node)
  /-- Ended by an exception. -/
  | finished (e : Exc)

/-- The handlers' state and the task's. -/
structure State where
  /-- What the handlers share with the task. -/
  site : Site
  /-- The task. -/
  task : Task
  /-- The nodes of the last snapshot. -/
  snapshot : List Node
  /-- The nodes for which `probe_node` has been called since the last snapshot. -/
  probed : List Node

/-- What can happen. -/
inductive Event where
  /-- A request to `/register`. `accepts` says whether the point can be written. -/
  | register (now_ms : ℤ) (accepts : Bool) (body : CStdlib.Bytes)
  /-- A request to `/unregister`. -/
  | unregister (accepts : Bool) (body : CStdlib.Bytes)
  /-- The sleep ends. -/
  | wake
  /-- The task runs on. -/
  | run
  /-- The response to the probe that is awaited, or its failure. -/
  | response (r : Option Code)

/-- The task is not suspended, so that no handler can run. -/
def Task.busy : Task → Bool
  | .running _ => true
  | _ => false

/-- The nodes that the task has read from the registry and has not yet finished with. -/
def Task.held : Task → List Node
  | .running rest => rest
  | .probing node _ rest => node :: rest
  | _ => []

/-- `node.get("node_id", "unknown")`, the id that a failed probe removes. -/
def removalId (info : Obj) : Val := info.getD "node_id" (.str (text "unknown"))

/-- The registry of the site. -/
def State.registry (s : State) : Registry := s.site.registry

/-- The end of the loop's body after a probe that has failed. -/
def State.drop (s : State) (node : Node) (rest : List Node) : State :=
  match s.registry.removeNode (removalId node.info) with
  | .ok r => { s with site := { s.site with registry := r }, task := .running rest }
  -- `remove_node` has raised.
  | .error e => { s with task := .finished e }

/-- The start of the loop's body, up to the first suspension of `probe_node`. -/
def State.probe (py : Interp) (rejects : Uri → Bool) (s : State) (node : Node)
    (rest : List Node) : State :=
  let s := { s with probed := s.probed ++ [node] }
  match probeRequest py rejects node.info with
  -- `probe_node` has raised before its own `try`, and the loop has none.
  | .error e => { s with task := .finished e }
  | .ok none => s.drop node rest
  | .ok (some uri) => { s with task := .probing node uri rest }

/-- One event. An event that cannot happen changes nothing. -/
def step (py : Interp) (rejects : Uri → Bool) (s : State) : Event → State
  | .register now_ms accepts body =>
    if s.task.busy then s
    else { s with site := (RegisterResource.renderPost py now_ms accepts body s.site).2 }
  | .unregister accepts body =>
    if s.task.busy then s
    else { s with site := (UnregisterResource.renderPost py accepts body s.site).2 }
  | .wake =>
    match s.task with
    | .sleeping =>
      { s with
        task := .running s.registry.getAllNodes
        snapshot := s.registry.getAllNodes
        probed := [] }
    | _ => s
  | .run =>
    match s.task with
    | .running [] => { s with task := .sleeping }
    | .running (node :: rest) => s.probe py rejects node rest
    | _ => s
  | .response r =>
    match s.task with
    | .probing node _ rest =>
      if probeAlive r then { s with task := .running rest } else s.drop node rest
    | _ => s

/-- The cloud has just started. -/
def boot : State := ⟨⟨Registry.boot, []⟩, .sleeping, [], []⟩

/-- The node whose probe fails in a step. -/
def failedProbe (py : Interp) (rejects : Uri → Bool) (s : State) : Event → Option Node
  | .run =>
    match s.task with
    | .running (node :: _) =>
      match probeRequest py rejects node.info with
      | .ok none => some node
      | _ => none
    | _ => none
  | .response r =>
    match s.task with
    | .probing node _ _ => if probeAlive r then none else some node
    | _ => none
  | _ => none

/-- A failed probe removes the id of the probed node, or ends the task. -/
theorem drop_cases (s : State) (node : Node) (rest : List Node) :
    (∃ k, hashKey (removalId node.info) = .ok k ∧
      (s.drop node rest).registry = s.registry.delete k ∧
      (s.drop node rest).task = .running rest) ∨
    (hashable (removalId node.info) = false ∧ (s.drop node rest).registry = s.registry ∧
      (s.drop node rest).task = .finished .typeError) := by
  unfold State.drop Registry.removeNode
  cases hh : hashable (removalId node.info) with
  | false =>
    rw [hashKey_of_not_hashable hh]
    exact .inr ⟨rfl, rfl, rfl⟩
  | true =>
    obtain ⟨k, hk⟩ := (hashable_iff _).mp hh
    rw [hk]
    exact .inl ⟨k, rfl, rfl, rfl⟩

@[simp] theorem drop_snapshot (s : State) (node : Node) (rest : List Node) :
    (s.drop node rest).snapshot = s.snapshot := by
  unfold State.drop
  split <;> rfl

@[simp] theorem drop_probed (s : State) (node : Node) (rest : List Node) :
    (s.drop node rest).probed = s.probed := by
  unfold State.drop
  split <;> rfl

/-- The end of the sleep starts a pass over the registry, and does nothing at any other time. -/
theorem step_wake_cases (py : Interp) (rejects : Uri → Bool) (s : State) :
    (s.task = .sleeping ∧ step py rejects s .wake =
      ⟨s.site, .running s.registry.getAllNodes, s.registry.getAllNodes, []⟩) ∨
    step py rejects s .wake = s := by
  rcases htask : s.task with _ | rest | ⟨node, uri, rest⟩ | e
  · exact .inl ⟨rfl, by simp only [step, htask]⟩
  · exact .inr (by simp only [step, htask])
  · exact .inr (by simp only [step, htask])
  · exact .inr (by simp only [step, htask])

/-- What the task can do when it runs on. -/
inductive RunStep (py : Interp) (rejects : Uri → Bool) (s : State) : State → Prop where
  /-- The loop is over. -/
  | done (htask : s.task = .running []) : RunStep py rejects s { s with task := .sleeping }
  /-- `probe_node` raises. -/
  | raised (node : Node) (rest : List Node) (e : Exc) (htask : s.task = .running (node :: rest))
      (hprobe : probeRequest py rejects node.info = .error e) :
      RunStep py rejects s { s with probed := s.probed ++ [node], task := .finished e }
  /-- The node has no address, and its probe fails. -/
  | failed (node : Node) (rest : List Node) (htask : s.task = .running (node :: rest))
      (hprobe : probeRequest py rejects node.info = .ok none) :
      RunStep py rejects s (State.drop { s with probed := s.probed ++ [node] } node rest)
  /-- A request is sent. -/
  | sent (node : Node) (rest : List Node) (uri : Uri) (htask : s.task = .running (node :: rest))
      (hprobe : probeRequest py rejects node.info = .ok (some uri)) :
      RunStep py rejects s
        { s with probed := s.probed ++ [node], task := .probing node uri rest }
  /-- The task is suspended or has ended. -/
  | idle (hbusy : s.task.busy = false) : RunStep py rejects s s

/-- The task runs on in one of these ways. -/
theorem step_run_cases (py : Interp) (rejects : Uri → Bool) (s : State) :
    RunStep py rejects s (step py rejects s .run) := by
  rcases htask : s.task with _ | (_ | ⟨node, rest⟩) | ⟨node, uri, rest⟩ | e
  · simp only [step, htask]
    exact .idle (by rw [htask]; rfl)
  · simp only [step, htask]
    exact .done htask
  · simp only [step, htask, State.probe]
    rcases hprobe : probeRequest py rejects node.info with e | _ | uri
    · exact .raised node rest e htask hprobe
    · exact .failed node rest htask hprobe
    · exact .sent node rest uri htask hprobe
  · simp only [step, htask]
    exact .idle (by rw [htask]; rfl)
  · simp only [step, htask]
    exact .idle (by rw [htask]; rfl)

/-- What the task can do with a response. -/
inductive ResponseStep (s : State) (r : Option Code) : State → Prop where
  /-- The node is alive. -/
  | alive (node : Node) (uri : Uri) (rest : List Node) (htask : s.task = .probing node uri rest)
      (halive : probeAlive r = true) : ResponseStep s r { s with task := .running rest }
  /-- The probe has failed. -/
  | failed (node : Node) (uri : Uri) (rest : List Node) (htask : s.task = .probing node uri rest)
      (halive : probeAlive r = false) : ResponseStep s r (s.drop node rest)
  /-- No response is awaited. -/
  | idle (htask : ∀ node uri rest, s.task ≠ .probing node uri rest) : ResponseStep s r s

/-- The task takes a response in one of these ways. -/
theorem step_response_cases (py : Interp) (rejects : Uri → Bool) (s : State) (r : Option Code) :
    ResponseStep s r (step py rejects s (.response r)) := by
  rcases htask : s.task with _ | rest | ⟨node, uri, rest⟩ | e
  · simp only [step, htask]
    exact .idle fun node uri rest h => by rw [htask] at h; cases h
  · simp only [step, htask]
    exact .idle fun node uri rest h => by rw [htask] at h; cases h
  · simp only [step, htask]
    rcases halive : probeAlive r with _ | _
    · exact .failed node uri rest htask halive
    · exact .alive node uri rest htask halive
  · simp only [step, htask]
    exact .idle fun node uri rest h => by rw [htask] at h; cases h

/-- No probe fails while no node is probed. -/
theorem failedProbe_run_of_not_busy {py : Interp} {rejects : Uri → Bool} {s : State}
    (h : s.task.busy = false) : failedProbe py rejects s .run = none := by
  rcases htask : s.task with _ | rest | ⟨node, uri, rest⟩ | e
  · simp only [failedProbe, htask]
  · rw [htask] at h
    cases h
  · simp only [failedProbe, htask]
  · simp only [failedProbe, htask]

/-- A response that is not awaited is no failure. -/
theorem failedProbe_response_of_not_probing {py : Interp} {rejects : Uri → Bool} {s : State}
    (h : ∀ node uri rest, s.task ≠ .probing node uri rest) (r : Option Code) :
    failedProbe py rejects s (.response r) = none := by
  rcases htask : s.task with _ | rest | ⟨node, uri, rest⟩ | e
  · simp only [failedProbe, htask]
  · simp only [failedProbe, htask]
  · exact absurd htask (h node uri rest)
  · simp only [failedProbe, htask]

/-- A request to `/register` leaves the task alone. It stores its payload where it is answered 2.01,
and nothing elsewhere. -/
theorem step_register_cases (py : Interp) (rejects : Uri → Bool) (s : State) (now_ms : ℤ)
    (accepts : Bool) (body : CStdlib.Bytes) :
    ∃ site, step py rejects s (.register now_ms accepts body) = { s with site := site } ∧
      (site.registry = s.registry ∨
        ∃ payload k, loadObject py body = .ok payload ∧ hashKey (storedId payload) = .ok k ∧
          (RegisterResource.renderPost py now_ms accepts body s.site).1.code = .created ∧
          site.registry = s.registry.insert k now_ms payload) := by
  simp only [step]
  split_ifs
  · exact ⟨s.site, rfl, .inl rfl⟩
  · refine ⟨_, rfl, ?_⟩
    rcases RegisterResource.renderPost_cases py now_ms accepts body s.site with
      ⟨payload, k, hbody, hk, hcode, hr⟩ | ⟨-, hr⟩
    · exact .inr ⟨payload, k, hbody, hk, hcode, hr⟩
    · exact .inl hr

/-- A request to `/unregister` leaves the task alone. It deletes the id that it names, or
nothing. -/
theorem step_unregister_cases (py : Interp) (rejects : Uri → Bool) (s : State) (accepts : Bool)
    (body : CStdlib.Bytes) :
    ∃ site, step py rejects s (.unregister accepts body) = { s with site := site } ∧
      (site.registry = s.registry ∨
        ∃ payload k, loadObject py body = .ok payload ∧
          hashKey (payload.get "node_id") = .ok k ∧
          site.registry = s.registry.delete k) := by
  simp only [step]
  split_ifs
  · exact ⟨s.site, rfl, .inl rfl⟩
  · refine ⟨_, rfl, ?_⟩
    rcases UnregisterResource.renderPost_cases py accepts body s.site with
      ⟨payload, k, hbody, hk, -, hr⟩ | ⟨-, hr⟩
    · exact .inr ⟨payload, k, hbody, hk, hr⟩
    · exact .inl hr

/-- The event is a request to `/register` that carries the payload and is answered 2.01. -/
def Registers (py : Interp) (s : State) (e : Event) (payload : Obj) : Prop :=
  ∃ now_ms accepts body, e = .register now_ms accepts body ∧ s.task.busy = false ∧
    loadObject py body = .ok payload ∧
    (RegisterResource.renderPost py now_ms accepts body s.site).1.code = .created

section

variable {py : Interp} {rejects : Uri → Bool}

/-- A failed probe deletes a key, or leaves the registry as it was. -/
theorem drop_registry_cases (s : State) (node : Node) (rest : List Node) :
    (s.drop node rest).registry = s.registry ∨
      ∃ k, (s.drop node rest).registry = s.registry.delete k := by
  rcases drop_cases s node rest with ⟨k, -, hr, -⟩ | ⟨-, hr, -⟩
  · exact .inr ⟨k, hr⟩
  · exact .inl hr

/-- A step registers a payload, deletes a key, or leaves the registry as it was. -/
theorem step_registry_cases (rejects : Uri → Bool) (s : State) (e : Event) :
    (step py rejects s e).registry = s.registry ∨
      (∃ payload k now_ms, Registers py s e payload ∧ hashKey (storedId payload) = .ok k ∧
        (step py rejects s e).registry = s.registry.insert k now_ms payload) ∨
      ∃ k, (step py rejects s e).registry = s.registry.delete k := by
  cases e with
  | register now_ms accepts body =>
    simp only [step]
    split_ifs with hbusy
    · exact .inl rfl
    · rcases RegisterResource.renderPost_cases py now_ms accepts body s.site with
        ⟨payload, k, hbody, hk, hcode, hr⟩ | ⟨-, hr⟩
      · exact .inr (.inl ⟨payload, k, now_ms,
          ⟨now_ms, accepts, body, rfl, Bool.eq_false_iff.mpr hbusy, hbody, hcode⟩, hk, hr⟩)
      · exact .inl hr
  | unregister accepts body =>
    obtain ⟨site, hstep, hr | ⟨payload, k, -, -, hr⟩⟩ :=
      step_unregister_cases py rejects s accepts body
    · rw [hstep]
      exact .inl hr
    · rw [hstep]
      exact .inr (.inr ⟨k, hr⟩)
  | wake =>
    rcases step_wake_cases py rejects s with ⟨-, hstep⟩ | hstep
    · rw [hstep]
      exact .inl rfl
    · rw [hstep]
      exact .inl rfl
  | run =>
    have hstep := step_run_cases py rejects s
    generalize step py rejects s .run = s' at hstep ⊢
    rcases hstep with htask | ⟨node, rest, e, htask, hprobe⟩ | ⟨node, rest, htask, hprobe⟩ |
      ⟨node, rest, uri, htask, hprobe⟩ | hbusy
    · exact .inl rfl
    · exact .inl rfl
    · exact (drop_registry_cases _ node rest).imp_right .inr
    · exact .inl rfl
    · exact .inl rfl
  | response r =>
    have hstep := step_response_cases py rejects s r
    generalize step py rejects s (.response r) = s' at hstep ⊢
    rcases hstep with ⟨node, uri, rest, htask, halive⟩ | ⟨node, uri, rest, htask, halive⟩ | htask
    · exact .inl rfl
    · exact (drop_registry_cases s node rest).imp_right .inr
    · exact .inl rfl

/-- What holds of every registered payload, and of an entry through its payload alone, holds of
every entry under its key. -/
theorem stored_step {Q : Key → Obj → Prop} {s : State}
    (hs : ∀ k n, s.registry.nodes.get? k = some n → Q k n.info) (e : Event)
    (he : ∀ payload k now_ms, Registers py s e payload → hashKey (storedId payload) = .ok k →
      Q k (storedInfo now_ms payload)) :
    ∀ k n, (step py rejects s e).registry.nodes.get? k = some n → Q k n.info := by
  intro k n hn
  rcases step_registry_cases rejects s e with
    hr | ⟨payload, k', now_ms, hreg, hk', hr⟩ | ⟨k', hr⟩
  · rw [hr] at hn
    exact hs k n hn
  · rw [hr, Registry.get?_insert] at hn
    split_ifs at hn with hk
    · rw [← Option.some.inj hn, hk]
      exact he payload k' now_ms hreg hk'
    · exact hs k n hn
  · rw [hr, Registry.get?_delete] at hn
    split_ifs at hn
    exact hs k n hn

/-- A task that has dropped a node holds what was still to come. -/
theorem drop_held {s : State} {node : Node} {rest : List Node} :
    ∀ n ∈ (s.drop node rest).task.held, n ∈ rest := by
  intro n hn
  rcases drop_cases s node rest with ⟨-, -, -, htask⟩ | ⟨-, -, htask⟩
  · rwa [htask] at hn
  · rw [htask] at hn
    cases hn

/-- What holds of every entry that is stored, and of every entry that the task holds, holds of what
the task holds after a step. -/
theorem held_step {P : Node → Prop} {s : State}
    (hstored : ∀ k n, s.registry.nodes.get? k = some n → P n) (hheld : ∀ n ∈ s.task.held, P n)
    (e : Event) : ∀ n ∈ (step py rejects s e).task.held, P n := by
  cases e with
  | register now_ms accepts body =>
    obtain ⟨site, hstep, -⟩ := step_register_cases py rejects s now_ms accepts body
    rw [hstep]
    exact hheld
  | unregister accepts body =>
    obtain ⟨site, hstep, -⟩ := step_unregister_cases py rejects s accepts body
    rw [hstep]
    exact hheld
  | wake =>
    rcases step_wake_cases py rejects s with ⟨-, hstep⟩ | hstep
    · -- A cycle takes its nodes from the registry.
      rw [hstep]
      intro n hn
      obtain ⟨k, hk⟩ := (s.registry.mem_getAllNodes_iff n).mp hn
      exact hstored k n hk
    · rwa [hstep]
  | run =>
    have hstep := step_run_cases py rejects s
    generalize step py rejects s .run = s' at hstep ⊢
    rcases hstep with htask | ⟨node, rest, e, htask, hprobe⟩ | ⟨node, rest, htask, hprobe⟩ |
      ⟨node, rest, uri, htask, hprobe⟩ | hbusy
    · exact List.forall_mem_nil _
    · exact List.forall_mem_nil _
    · rw [htask] at hheld
      exact fun n hn => hheld n (List.mem_cons_of_mem node (drop_held n hn))
    · rwa [htask] at hheld
    · exact hheld
  | response r =>
    have hstep := step_response_cases py rejects s r
    generalize step py rejects s (.response r) = s' at hstep ⊢
    rcases hstep with ⟨node, uri, rest, htask, halive⟩ | ⟨node, uri, rest, htask, halive⟩ | htask
    · rw [htask] at hheld
      exact fun n hn => hheld n (List.mem_cons_of_mem node hn)
    · rw [htask] at hheld
      exact fun n hn => hheld n (List.mem_cons_of_mem node (drop_held n hn))
    · exact hheld

end

end EnergyStation.Cloud.Liveness
