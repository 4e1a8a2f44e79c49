import EnergyStation.Liveness.LostUpdate

/-!
# What becomes of the nodes of a cycle

A node that a heartbeat cycle has taken from the registry stays with the task until it answers, or
until its probe fails, which deletes its id or ends the task (`held_step_cases`). So an entry goes
only where it is unregistered or where a node that the task holds has failed to answer
(`deleted_cases`).
-/

namespace EnergyStation.Cloud.Liveness

open Python

variable {py : Interp} {rejects : Uri → Bool}

/-- The task has ended. -/
def Task.Ended (task : Task) : Prop := ∃ e, task = .finished e

/-- The node that the task awaits answers. -/
def Answered (s : State) (e : Event) (node : Node) : Prop :=
  ∃ r uri rest, e = .response r ∧ s.task = .probing node uri rest ∧ probeAlive r = true

/-- A failed probe ends the task, or deletes the id of the node and leaves the nodes still to
come. -/
theorem held_drop (s : State) {node m : Node} {rest : List Node} (hm : m ∈ node :: rest) :
    m ∈ (s.drop node rest).task.held ∨ (s.drop node rest).task.Ended ∨
      ∃ k, hashKey (removalId m.info) = .ok k ∧
        (s.drop node rest).registry = s.registry.delete k := by
  rcases drop_cases s node rest with ⟨k, hk, hr, htask⟩ | ⟨-, -, htask⟩
  · rcases List.mem_cons.mp hm with rfl | hm
    · exact .inr (.inr ⟨k, hk, hr⟩)
    · rw [htask]
      exact .inl hm
  · exact .inr (.inl ⟨_, htask⟩)

/-- A node that the task holds is held after a step, unless the task ends, the node answers, or its
id is deleted. -/
theorem held_step_cases {s : State} {m : Node} (hm : m ∈ s.task.held) (e : Event) :
    m ∈ (step py rejects s e).task.held ∨ (step py rejects s e).task.Ended ∨ Answered s e m ∨
      ∃ k, hashKey (removalId m.info) = .ok k ∧
        (step py rejects s e).registry = s.registry.delete k := by
  cases e with
  | register now_ms accepts body =>
    obtain ⟨site, hstep, -⟩ := step_register_cases py rejects s now_ms accepts body
    rw [hstep]
    exact .inl hm
  | unregister accepts body =>
    obtain ⟨site, hstep, -⟩ := step_unregister_cases py rejects s accepts body
    rw [hstep]
    exact .inl hm
  | wake =>
    -- A task that wakes has held nothing.
    rcases step_wake_cases py rejects s with ⟨htask, -⟩ | hstep
    · -- The pass is over, and nothing was held.
      rw [htask] at hm
      cases hm
    · rw [hstep]
      exact .inl hm
  | run =>
    have hstep := step_run_cases py rejects s
    generalize step py rejects s .run = s' at hstep ⊢
    rcases hstep with htask | ⟨node, rest, e, htask, hprobe⟩ | ⟨node, rest, htask, hprobe⟩ |
      ⟨node, rest, uri, htask, hprobe⟩ | hbusy
    · rw [htask] at hm
      cases hm
    · exact .inr (.inl ⟨e, rfl⟩)
    · rw [htask] at hm
      -- The node has no address to be probed at.
      rcases held_drop { s with probed := s.probed ++ [node] } hm with hheld | hended | hdeleted
      · exact .inl hheld
      · exact .inr (.inl hended)
      · exact .inr (.inr (.inr hdeleted))
    · rw [htask] at hm
      exact .inl hm
    · exact .inl hm
  | response r =>
    have hstep := step_response_cases py rejects s r
    generalize step py rejects s (.response r) = s' at hstep ⊢
    rcases hstep with ⟨node, uri, rest, htask, halive⟩ | ⟨node, uri, rest, htask, halive⟩ | htask
    · rw [htask] at hm
      rcases List.mem_cons.mp hm with rfl | hm
      -- The awaited node is alive.
      · exact .inr (.inr (.inl ⟨r, uri, rest, rfl, htask, halive⟩))
      · exact .inl hm
    · rw [htask] at hm
      rcases held_drop s hm with hheld | hended | hdeleted
      · exact .inl hheld
      · exact .inr (.inl hended)
      · exact .inr (.inr (.inr hdeleted))
    · exact .inl hm

/-- The node whose probe fails is one that the task holds. -/
theorem held_of_failedProbe {s : State} {e : Event} {m : Node}
    (h : failedProbe py rejects s e = some m) : m ∈ s.task.held := by
  cases e with
  | register now_ms accepts body => cases h
  | unregister accepts body => cases h
  | wake => cases h
  | run =>
    rcases htask : s.task with _ | (_ | ⟨node, rest⟩) | ⟨node, uri, rest⟩ | e
    · simp [failedProbe, htask] at h
    · simp [failedProbe, htask] at h
    · -- A probe fails at once only where there is no address.
      rcases hprobe : probeRequest py rejects node.info with e | _ | uri
      · simp [failedProbe, htask, hprobe] at h
      · simp only [failedProbe, htask, hprobe, Option.some.injEq] at h
        rw [h]
        exact List.mem_cons_self
      · simp [failedProbe, htask, hprobe] at h
    · simp [failedProbe, htask] at h
    · simp [failedProbe, htask] at h
  | response r =>
    rcases htask : s.task with _ | rest | ⟨node, uri, rest⟩ | e
    · simp [failedProbe, htask] at h
    · simp [failedProbe, htask] at h
    · rcases halive : probeAlive r with _ | _
      · simp only [failedProbe, htask, halive, Bool.false_eq_true, if_false, Option.some.injEq] at h
        rw [h]
        exact List.mem_cons_self
      · simp [failedProbe, htask, halive] at h
    · simp [failedProbe, htask] at h

/-- A task that has ended does nothing more. -/
theorem Task.Ended.step {s : State} (h : s.task.Ended) (e : Event) :
    (step py rejects s e).task.Ended := by
  obtain ⟨exc, htask⟩ := h
  cases e with
  | register now_ms accepts body =>
    obtain ⟨site, hstep, -⟩ := step_register_cases py rejects s now_ms accepts body
    rw [hstep]
    exact ⟨exc, htask⟩
  | unregister accepts body =>
    obtain ⟨site, hstep, -⟩ := step_unregister_cases py rejects s accepts body
    rw [hstep]
    exact ⟨exc, htask⟩
  | wake =>
    refine ⟨exc, ?_⟩
    simp only [Liveness.step, htask]
  | run =>
    refine ⟨exc, ?_⟩
    simp only [Liveness.step, htask]
  | response r =>
    refine ⟨exc, ?_⟩
    simp only [Liveness.step, htask]

/-- An entry that is deleted in a step is unregistered, or its probe has failed. -/
theorem deleted_cases {s : State} {e : Event} {k : Key} {n : Node}
    (hn : s.registry.nodes.get? k = some n)
    (hnone : (step py rejects s e).registry.nodes.get? k = none) : Unregisters py e k ∨
      ∃ m, failedProbe py rejects s e = some m ∧ hashKey (removalId m.info) = .ok k := by
  rcases hfail : failedProbe py rejects s e with _ | m
  · left
    -- Without a failed probe only an unregistration deletes.
    rcases step_registry_of_no_failure hfail with
      hr | ⟨now_ms, accepts, body, payload, k', -, -, -, hr⟩ | ⟨k', hunregisters, hr⟩
    · rw [hr, hn] at hnone
      cases hnone
    · rw [hr, Registry.get?_insert] at hnone
      split_ifs at hnone
      rw [hn] at hnone
      cases hnone
    · rw [hr, Registry.get?_delete] at hnone
      split_ifs at hnone with hk
      · rwa [hk]
      · rw [hn] at hnone
        cases hnone
  · right
    -- A failed probe deletes the identifier of its own node.
    obtain ⟨rest, s₀, hsite, hstep⟩ := step_of_failedProbe hfail
    have hregistry : s₀.registry = s.registry := congrArg Site.registry hsite
    refine ⟨m, rfl, ?_⟩
    rcases drop_cases s₀ m rest with ⟨k', hk', hr, -⟩ | ⟨-, hr, -⟩
    · rw [hstep, hr, hregistry, Registry.get?_delete] at hnone
      split_ifs at hnone with hk
      · rwa [hk]
      · rw [hn] at hnone
        cases hnone
    · rw [hstep, hr, hregistry, hn] at hnone
      cases hnone

end EnergyStation.Cloud.Liveness
