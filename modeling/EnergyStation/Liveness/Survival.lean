import EnergyStation.Cloud.Liveness
import EnergyStation.Lib.Runs

/-!
# Registrations that stop the heartbeat loop

The loop has no `except` of its own. An exception ends it where `probe_node` raises before its `try`
(the port is no integer, the address is no text, or the URI is refused), and where the id of a node
that has failed is unhashable. A registration with such fields is stored like any other. `Probeable`
names the payloads that cannot end the loop; as long as only these are accepted it probes every node
of every snapshot, and any other entry ends it as soon as no probe is answered
(`loop_survives_iff_probeable`).
-/

namespace EnergyStation.Cloud.Liveness

open Python Numeral Runs

variable {py : Interp} {rejects : Uri → Bool}

/-- A payload that cannot end the loop: its id can be removed, and if it has an address, then it has
a port that is an integer, and a URI. -/
structure Probeable (py : Interp) (rejects : Uri → Bool) (info : Obj) : Prop where
  /-- The id that a failed probe removes is hashable. -/
  id : hashable (removalId info) = true
  /-- The port is an integer, the address is text, and the URI is accepted. -/
  address : truthy (info.get "ip") = true → ∃ port uri,
    toInt py (info.getD "port" (.int 5683)) = .ok port ∧
      makeUri (info.get "ip") port (probePath info) = .ok uri ∧ rejects uri = false

/-- `probe_node` gets to its `try`, or returns before it, where the address allows it. -/
theorem probeRequest_ok_iff (info : Obj) :
    (∃ uri, probeRequest py rejects info = .ok uri) ↔
      (truthy (info.get "ip") = true → ∃ port uri,
        toInt py (info.getD "port" (.int 5683)) = .ok port ∧
          makeUri (info.get "ip") port (probePath info) = .ok uri ∧ rejects uri = false) := by
  unfold probeRequest
  cases hip : truthy (info.get "ip") with
  | false => simp
  | true =>
    simp only [Bool.not_true, Bool.false_eq_true, if_false, map_eq_ok, forall_const]
    rw [← requestUri_ok_iff]
    constructor
    · rintro ⟨_, uri, huri, -⟩
      exact ⟨uri, huri⟩
    · rintro ⟨uri, huri⟩
      exact ⟨some uri, uri, huri, rfl⟩

/-- What is stored can end the loop exactly if what was sent can. -/
theorem probeable_storedInfo_iff (now_ms : ℤ) (info : Obj) :
    Probeable py rejects (storedInfo now_ms info) ↔ Probeable py rejects info := by
  have hid : removalId (storedInfo now_ms info) = removalId info :=
    storedInfo_getD (by decide) now_ms info _
  have hip : (storedInfo now_ms info).get "ip" = info.get "ip" :=
    storedInfo_getD (by decide) now_ms info _
  have hport : (storedInfo now_ms info).getD "port" (.int 5683) = info.getD "port" (.int 5683) :=
    storedInfo_getD (by decide) now_ms info _
  have hpath : probePath (storedInfo now_ms info) = probePath info := by
    unfold probePath
    rw [storedInfo_getD (by decide)]
  constructor
  · rintro ⟨h, ha⟩
    rw [hid] at h
    rw [hip, hport, hpath] at ha
    exact ⟨h, ha⟩
  · rintro ⟨h, ha⟩
    refine ⟨hid ▸ h, ?_⟩
    rw [hip, hport, hpath]
    exact ha

/-- The nodes of the snapshot that the task has not called `probe_node` for. -/
def Task.rest : Task → List Node
  | .running rest => rest
  | .probing _ _ rest => rest
  | _ => []

/-- The exception that has ended the task. -/
def Task.ended : Task → Option Exc
  | .finished e => some e
  | _ => none

/-- No exception has ended the task, and what it has not yet probed of its snapshot is what it still
has to probe; in particular it has probed the whole snapshot when it sleeps. -/
def Uninterrupted (s : State) : Prop :=
  s.task.ended = none ∧ s.snapshot = s.probed ++ s.task.rest

/-- The event is not a request to `/register` that is answered 2.01 for a payload that can end the
loop. -/
def AcceptsProbeable (py : Interp) (rejects : Uri → Bool) (s : State) (e : Event) : Prop :=
  ∀ now_ms accepts body payload, e = .register now_ms accepts body →
    loadObject py body = .ok payload →
    (RegisterResource.renderPost py now_ms accepts body s.site).1.code = .created →
    Probeable py rejects payload

/-- No entry that is stored, or that the task holds, can end the loop. -/
structure Steady (py : Interp) (rejects : Uri → Bool) (s : State) : Prop where
  /-- The entries of the registry. -/
  stored : ∀ k n, s.registry.nodes.get? k = some n → Probeable py rejects n.info
  /-- The entries that the task holds. -/
  held : ∀ n ∈ s.task.held, Probeable py rejects n.info
  /-- The loop has got this far. -/
  uninterrupted : Uninterrupted s

/-- The failure of a probe does not interrupt a loop, where the id of its node can be removed. -/
theorem Uninterrupted.drop {s : State} {node : Node} {rest : List Node}
    (hnode : Probeable py rejects node.info) (hsnap : s.snapshot = s.probed ++ rest) :
    Uninterrupted (s.drop node rest) := by
  unfold Uninterrupted
  rcases drop_cases s node rest with ⟨k, -, -, htask⟩ | ⟨hh, -, -⟩
  · rw [drop_snapshot, drop_probed, htask]
    exact ⟨rfl, hsnap⟩
  · rw [hnode.id] at hh
    cases hh

/-- A step does not interrupt a loop that holds only what cannot end it. -/
theorem Steady.uninterrupted_step {s : State} (hs : Steady py rejects s) (e : Event) :
    Uninterrupted (step py rejects s e) := by
  obtain ⟨-, hheld, hloop⟩ := hs
  have hsnap := hloop.2
  cases e with
  | register now_ms accepts body =>
    obtain ⟨site, hstep, -⟩ := step_register_cases py rejects s now_ms accepts body
    rw [hstep]
    exact hloop
  | unregister accepts body =>
    obtain ⟨site, hstep, -⟩ := step_unregister_cases py rejects s accepts body
    rw [hstep]
    exact hloop
  | wake =>
    rcases step_wake_cases py rejects s with ⟨-, hstep⟩ | hstep
    · rw [hstep]
      exact ⟨rfl, rfl⟩
    · rwa [hstep]
  | run =>
    have hstep := step_run_cases py rejects s
    generalize Liveness.step py rejects s .run = s' at hstep ⊢
    rcases hstep with htask | ⟨node, rest, e, htask, hprobe⟩ | ⟨node, rest, htask, hprobe⟩ |
      ⟨node, rest, uri, htask, hprobe⟩ | hbusy
    · rw [htask] at hsnap
      exact ⟨rfl, hsnap⟩
    · -- The node that is probed next has an address that can be probed.
      rw [htask] at hheld
      obtain ⟨uri, huri⟩ :=
        (probeRequest_ok_iff node.info).mpr (hheld node List.mem_cons_self).address
      rw [hprobe] at huri
      cases huri
    · rw [htask] at hsnap hheld
      refine Uninterrupted.drop (hheld node List.mem_cons_self) ?_
      rw [List.append_assoc]
      exact hsnap
    · rw [htask] at hsnap
      refine ⟨rfl, ?_⟩
      rw [List.append_assoc]
      exact hsnap
    · exact hloop
  | response r =>
    have hstep := step_response_cases py rejects s r
    generalize Liveness.step py rejects s (.response r) = s' at hstep ⊢
    rcases hstep with ⟨node, uri, rest, htask, halive⟩ | ⟨node, uri, rest, htask, halive⟩ | htask
    · rw [htask] at hsnap
      exact ⟨rfl, hsnap⟩
    · rw [htask] at hsnap hheld
      exact Uninterrupted.drop (hheld node List.mem_cons_self) hsnap
    · exact hloop

/-- An event that stores nothing that can end the loop does not end it. -/
theorem Steady.step {s : State} (hs : Steady py rejects s) {e : Event}
    (he : AcceptsProbeable py rejects s e) : Steady py rejects (step py rejects s e) where
  stored := by
    refine stored_step hs.stored e fun payload k now_ms hreg _ => ?_
    obtain ⟨now_ms', accepts, body, rfl, -, hbody, hcode⟩ := hreg
    exact (probeable_storedInfo_iff now_ms payload).mpr
      (he now_ms' accepts body payload rfl hbody hcode)
  held := held_step hs.stored hs.held e
  uninterrupted := hs.uninterrupted_step e

/-- A cycle in which no request comes in, with these responses to its probes, where a node that is
not sent a request has one that is not used. -/
def cycle (responses : List (Option Code)) : List Event :=
  .wake :: responses.flatMap (fun r => [.run, .response r]) ++ [.run]

/-- The body of the loop, for a node that cannot end it. -/
theorem body_of_probeable {s : State} {node : Node} {rest : List Node}
    (htask : s.task = .running (node :: rest)) (hnode : Probeable py rejects node.info)
    (r : Option Code) :
    (run (step py rejects) s [.run, .response r]).task = .running rest ∧
      (run (step py rejects) s [.run, .response r]).probed = s.probed ++ [node] := by
  have hdrop : ∀ s' : State, (s'.drop node rest).task = .running rest := by
    intro s'
    rcases drop_cases s' node rest with ⟨-, -, -, h⟩ | ⟨hh, -, -⟩
    · exact h
    · rw [hnode.id] at hh
      cases hh
  obtain ⟨uri, huri⟩ := (probeRequest_ok_iff node.info).mpr hnode.address
  cases uri with
  | none => simp [step, htask, State.probe, huri, hdrop]
  | some uri =>
    cases hr : probeAlive r with
    | true => simp [step, htask, State.probe, huri, hr]
    | false => simp [step, htask, State.probe, huri, hr, hdrop]

/-- The body of the loop, for a node that can end it, when its probe is not answered. -/
theorem body_of_not_probeable {s : State} {node : Node} {rest : List Node}
    (htask : s.task = .running (node :: rest)) (hnode : ¬ Probeable py rejects node.info) :
    ∃ e, (run (step py rejects) s [.run, .response none]).task = .finished e := by
  cases hreq : probeRequest py rejects node.info with
  | error e =>
    refine ⟨e, ?_⟩
    simp [step, htask, State.probe, hreq]
  | ok uri =>
    have hid : hashable (removalId node.info) = false := by
      have haddr := (probeRequest_ok_iff node.info).mp ⟨uri, hreq⟩
      exact Bool.eq_false_iff.mpr fun hid => hnode ⟨hid, haddr⟩
    have hdrop : ∀ s' : State, (s'.drop node rest).task = .finished .typeError := by
      intro s'
      rcases drop_cases s' node rest with ⟨k, hk, -, -⟩ | ⟨-, -, h⟩
      · rw [hashKey_of_not_hashable hid] at hk
        cases hk
      · exact h
    refine ⟨.typeError, ?_⟩
    cases uri with
    | none => simp [step, htask, State.probe, hreq, hdrop]
    | some uri => simp [step, htask, State.probe, hreq, hdrop, probeAlive]

/-- The loop, with as many responses as there are nodes to come, none of which can end it. -/
theorem loop_of_probeable {rest : List Node} (hrest : ∀ n ∈ rest, Probeable py rejects n.info)
    {s : State} (htask : s.task = .running rest) {responses : List (Option Code)}
    (hlen : responses.length = rest.length) :
    (run (step py rejects) s (responses.flatMap fun r => [.run, .response r])).task =
        .running [] ∧
      (run (step py rejects) s (responses.flatMap fun r => [.run, .response r])).probed =
        s.probed ++ rest := by
  induction rest generalizing s responses with
  | nil =>
    rw [List.length_eq_zero_iff.mp hlen]
    exact ⟨htask, (List.append_nil s.probed).symm⟩
  | cons node rest ih =>
    cases responses with
    | nil => cases hlen
    | cons r responses =>
      obtain ⟨htask', hprobed⟩ := body_of_probeable htask (hrest node List.mem_cons_self) r
      obtain ⟨h₁, h₂⟩ := ih (fun n hn => hrest n (List.mem_cons_of_mem node hn)) htask'
        (Nat.succ.inj hlen)
      rw [List.flatMap_cons, run_append]
      refine ⟨h₁, ?_⟩
      rw [h₂, hprobed, List.append_assoc]
      rfl

/-- No event of the loop revives a task that has ended. -/
theorem ended_run {s : State} {e : Exc} (htask : s.task = .finished e)
    (responses : List (Option Code)) :
    (run (step py rejects) s
      (responses.flatMap (fun r => [.run, .response r]) ++ [.run])).task = .finished e := by
  induction responses with
  | nil => simp [step, htask]
  | cons r responses ih =>
    rw [List.flatMap_cons, List.append_assoc, run_append]
    have hself : run (step py rejects) s [.run, .response r] = s := by simp [step, htask]
    rw [hself, ih]

/-- The loop, with a node to come that can end it, when no probe is answered. -/
theorem loop_of_not_probeable {rest : List Node} {node : Node} (hmem : node ∈ rest)
    (hnode : ¬ Probeable py rejects node.info) {s : State} (htask : s.task = .running rest) :
    ∃ e, (run (step py rejects) s
      ((List.replicate rest.length none).flatMap (fun r => [.run, .response r]) ++
        [.run])).task = .finished e := by
  induction rest generalizing s with
  | nil => cases hmem
  | cons head rest ih =>
    rw [List.length_cons, List.replicate_succ, List.flatMap_cons, List.append_assoc, run_append]
    by_cases hhead : Probeable py rejects head.info
    · have hmem' : node ∈ rest := by
        rcases List.mem_cons.mp hmem with rfl | h
        · exact absurd hhead hnode
        · exact h
      exact ih hmem' (body_of_probeable htask hhead none).1
    · obtain ⟨e, he⟩ := body_of_not_probeable htask hhead
      exact ⟨e, ended_run he _⟩

/-- A cycle that no request interrupts probes its whole snapshot and goes back to sleep, whatever
the responses, exactly if no entry of the registry can end it. -/
theorem cycle_completes_iff {s : State} (htask : s.task = .sleeping) :
    (∀ responses : List (Option Code), responses.length = s.registry.getAllNodes.length →
      (run (step py rejects) s (cycle responses)).task = .sleeping ∧
        (run (step py rejects) s (cycle responses)).probed = s.registry.getAllNodes) ↔
      ∀ n ∈ s.registry.getAllNodes, Probeable py rejects n.info := by
  obtain ⟨s', hs', hwake⟩ : ∃ s' : State, s'.task = .running s.registry.getAllNodes ∧
      s'.probed = [] ∧ step py rejects s .wake = s' :=
    ⟨{ s with task := .running s.registry.getAllNodes, snapshot := s.registry.getAllNodes,
              probed := [] }, rfl, rfl, by simp only [step, htask]⟩
  have hcycle : ∀ responses, run (step py rejects) s (cycle responses) =
      run (step py rejects) s' (responses.flatMap (fun r => [.run, .response r]) ++ [.run]) := by
    intro responses
    rw [cycle, List.cons_append, run_cons, hwake.2]
  constructor
  · intro h n hn
    by_contra hbad
    obtain ⟨e, he⟩ := loop_of_not_probeable hn hbad hs'
    have hsleep := (h (List.replicate s.registry.getAllNodes.length none) List.length_replicate).1
    rw [hcycle, he] at hsleep
    cases hsleep
  · intro hall responses hlen
    obtain ⟨h₁, h₂⟩ := loop_of_probeable hall hs' hlen
    rw [hcycle, run_append]
    generalize run (step py rejects) s' _ = t at h₁ h₂
    rw [hwake.1, List.nil_append] at h₂
    simp [step, h₁, h₂]

/-- How many times the task still runs on before it sleeps. -/
def Task.remaining : Task → ℕ
  | .running rest => 2 * rest.length + 1
  | .probing _ _ rest => 2 * rest.length + 2
  | _ => 0

/-- An event of the task brings it closer to its sleep, and a request does not move it. -/
def Advances (py : Interp) (rejects : Uri → Bool) (s : State) (e : Event) : Prop :=
  match e with
  | .register .. | .unregister .. => (step py rejects s e).task = s.task
  | .wake => True
  | .run => s.task.busy = true → (step py rejects s e).task.remaining < s.task.remaining
  | .response _ =>
    (∃ node uri rest, s.task = .probing node uri rest) →
      (step py rejects s e).task.remaining < s.task.remaining

theorem drop_remaining (s : State) (node : Node) (rest : List Node) :
    (s.drop node rest).task.remaining ≤ 2 * rest.length + 1 := by
  rcases drop_cases s node rest with ⟨-, -, -, h⟩ | ⟨-, -, h⟩
  · exact h ▸ le_refl (2 * rest.length + 1)
  · exact h ▸ Nat.zero_le (2 * rest.length + 1)

/-- Every cycle is finite, whatever comes in between. -/
theorem advances (s : State) (e : Event) : Advances py rejects s e := by
  cases e with
  | register now_ms accepts body =>
    simp only [Advances, step]
    split_ifs <;> rfl
  | unregister accepts body =>
    simp only [Advances, step]
    split_ifs <;> rfl
  | wake => trivial
  | run =>
    -- Each node takes two steps, one up to its probe and one for the answer.
    intro hbusy
    have hstep := step_run_cases py rejects s
    generalize step py rejects s .run = s' at hstep ⊢
    rcases hstep with htask | ⟨node, rest, e, htask, hprobe⟩ | ⟨node, rest, htask, hprobe⟩ |
      ⟨node, rest, uri, htask, hprobe⟩ | hidle
    · rw [htask]
      exact Nat.zero_lt_one
    · rw [htask]
      exact Nat.succ_pos (2 * (node :: rest).length)
    · rw [htask]
      refine lt_of_le_of_lt (drop_remaining _ node rest) ?_
      simp only [Task.remaining, List.length_cons]
      omega
    · rw [htask]
      simp only [Task.remaining, List.length_cons]
      omega
    · rw [hidle] at hbusy
      cases hbusy
  | response r =>
    rintro ⟨node, uri, rest, hprobing⟩
    have hstep := step_response_cases py rejects s r
    generalize step py rejects s (.response r) = s' at hstep ⊢
    rcases hstep with ⟨node, uri, rest, htask, halive⟩ | ⟨node, uri, rest, htask, halive⟩ | htask
    · rw [htask]
      exact Nat.lt_succ_self (2 * rest.length + 1)
    · rw [htask]
      exact lt_of_le_of_lt (drop_remaining s node rest) (Nat.lt_succ_self _)
    · exact absurd hprobing (htask node uri rest)

/-- As long as no registration is accepted that can end the loop, no exception ends it and every
cycle probes its whole snapshot, in finitely many steps of the task. In a state where the loop
sleeps, its next cycle does so for all responses exactly if no entry of the registry can end it. -/
theorem loop_survives_iff_probeable (py : Interp) (rejects : Uri → Bool) :
    (∀ es, Along (step py rejects) (AcceptsProbeable py rejects) boot es →
      Uninterrupted (run (step py rejects) boot es)) ∧
      (∀ s e, Advances py rejects s e) ∧
      ∀ s, s.task = .sleeping →
        ((∀ responses : List (Option Code), responses.length = s.registry.getAllNodes.length →
          (run (step py rejects) s (cycle responses)).task = .sleeping ∧
            (run (step py rejects) s (cycle responses)).probed = s.registry.getAllNodes) ↔
          ∀ n ∈ s.registry.getAllNodes, Probeable py rejects n.info) := by
  refine ⟨fun es hes => ?_, advances, fun s htask => cycle_completes_iff htask⟩
  have hboot : Steady py rejects boot :=
    ⟨(fun k n hn => nomatch hn), (fun n hn => nomatch hn), rfl, rfl⟩
  exact (run_invariant (fun s e hs he => hs.step he) hboot hes).uninterrupted

/-- A registration with a port that is no integer is answered 2.01, and ends the loop. -/
theorem bad_port_ends_loop :
    let body := CStdlib.ascii "\x7b\"node_id\":\"a\",\"ip\":\"x\",\"port\":\"abc\"\x7d"
    (RegisterResource.renderPost .cpython 0 true body boot.site).1.code = .created ∧
      (run (step .cpython fun _ => false) boot
        [.register 0 true body, .wake, .run]).task.ended = some .valueError := by
  decide +kernel

end EnergyStation.Cloud.Liveness
