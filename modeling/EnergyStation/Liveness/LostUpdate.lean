import EnergyStation.Cloud.Liveness
import EnergyStation.Lib.Runs

/-!
# Registrations lost to a heartbeat in flight

A failed probe removes whatever the registry holds under the probed node's `node_id`. That is the
probed entry as long as no registration has replaced it since the snapshot, and as long as the id
the loop removes is the id the entry is stored under. Where the registry holds another entry there,
that entry disappears although no probe was addressed to it (`lost_only_by_own_probe_iff`).
-/

namespace EnergyStation.Cloud.Liveness

open Python Runs

variable {py : Interp} {rejects : Uri → Bool}

/-- The event is a request to `/unregister` that names the key. -/
def Unregisters (py : Interp) (e : Event) (k : Key) : Prop :=
  ∃ accepts body payload, e = .unregister accepts body ∧ loadObject py body = .ok payload ∧
    hashKey (payload.get "node_id") = .ok k

/-- An entry that disappears in a step is unregistered in it, or the probe that fails in it was
addressed to that very entry. -/
def LostByOwnProbe (py : Interp) (rejects : Uri → Bool) (s : State) (e : Event) : Prop :=
  ∀ k n, s.registry.nodes.get? k = some n →
    (step py rejects s e).registry.nodes.get? k = none →
    Unregisters py e k ∨ ∃ m, failedProbe py rejects s e = some m ∧ m.oid = n.oid

/-- Where a probe fails, the registry holds the probed entry, or nothing, under the id that the loop
removes. -/
def ProbedIsStored (py : Interp) (rejects : Uri → Bool) (s : State) (e : Event) : Prop :=
  ∀ m k n, failedProbe py rejects s e = some m → hashKey (removalId m.info) = .ok k →
    s.registry.nodes.get? k = some n → n.oid = m.oid

/-- A step in which a probe fails ends as the failed probe does. -/
theorem step_of_failedProbe {s : State} {e : Event} {m : Node}
    (h : failedProbe py rejects s e = some m) :
    ∃ rest, ∃ s₀ : State, s₀.site = s.site ∧ step py rejects s e = s₀.drop m rest := by
  cases e with
  | register now_ms accepts body => cases h
  | unregister accepts body => cases h
  | wake => cases h
  | run =>
    have hstep := step_run_cases py rejects s
    generalize step py rejects s .run = s' at hstep ⊢
    rcases hstep with htask | ⟨node, rest, e, htask, hprobe⟩ | ⟨node, rest, htask, hprobe⟩ |
      ⟨node, rest, uri, htask, hprobe⟩ | hbusy
    · simp [failedProbe, htask] at h
    · simp [failedProbe, htask, hprobe] at h
    · -- The probe of a node without an address fails without a request.
      simp only [failedProbe, htask, hprobe, Option.some.injEq] at h
      exact ⟨rest, { s with probed := s.probed ++ [node] }, rfl, by rw [h]⟩
    · simp [failedProbe, htask, hprobe] at h
    · rw [failedProbe_run_of_not_busy hbusy] at h
      cases h
  | response r =>
    have hstep := step_response_cases py rejects s r
    generalize step py rejects s (.response r) = s' at hstep ⊢
    rcases hstep with ⟨node, uri, rest, htask, halive⟩ | ⟨node, uri, rest, htask, halive⟩ | htask
    · simp [failedProbe, htask, halive] at h
    · simp only [failedProbe, htask, halive, Bool.false_eq_true, if_false, Option.some.injEq] at h
      exact ⟨rest, s, rfl, by rw [h]⟩
    · rw [failedProbe_response_of_not_probing htask] at h
      cases h

/-- A step in which no probe fails leaves the registry as it was, unless it handles a request. -/
theorem step_registry_of_no_failure {s : State} {e : Event}
    (h : failedProbe py rejects s e = none) :
    (step py rejects s e).registry = s.registry ∨
      (∃ now_ms accepts body payload k, e = .register now_ms accepts body ∧
        loadObject py body = .ok payload ∧ hashKey (storedId payload) = .ok k ∧
        (step py rejects s e).registry = s.registry.insert k now_ms payload) ∨
      ∃ k, Unregisters py e k ∧ (step py rejects s e).registry = s.registry.delete k := by
  cases e with
  | register now_ms accepts body =>
    obtain ⟨site, hstep, hr | ⟨payload, k, hbody, hk, -, hr⟩⟩ :=
      step_register_cases py rejects s now_ms accepts body
    · rw [hstep]
      exact .inl hr
    · rw [hstep]
      exact .inr (.inl ⟨now_ms, accepts, body, payload, k, rfl, hbody, hk, hr⟩)
  | unregister accepts body =>
    obtain ⟨site, hstep, hr | ⟨payload, k, hbody, hk, hr⟩⟩ :=
      step_unregister_cases py rejects s accepts body
    · rw [hstep]
      exact .inl hr
    · rw [hstep]
      exact .inr (.inr ⟨k, ⟨accepts, body, payload, rfl, hbody, hk⟩, hr⟩)
  | wake =>
    left
    rcases step_wake_cases py rejects s with ⟨-, hstep⟩ | hstep
    · rw [hstep]
      rfl
    · rw [hstep]
  | run =>
    left
    have hstep := step_run_cases py rejects s
    generalize step py rejects s .run = s' at hstep ⊢
    rcases hstep with htask | ⟨node, rest, e, htask, hprobe⟩ | ⟨node, rest, htask, hprobe⟩ |
      ⟨node, rest, uri, htask, hprobe⟩ | hbusy
    · rfl
    · rfl
    · simp [failedProbe, htask, hprobe] at h
    · rfl
    · rfl
  | response r =>
    left
    have hstep := step_response_cases py rejects s r
    generalize step py rejects s (.response r) = s' at hstep ⊢
    rcases hstep with ⟨node, uri, rest, htask, halive⟩ | ⟨node, uri, rest, htask, halive⟩ | htask
    · rfl
    · simp [failedProbe, htask, halive] at h
    · rfl

/-- In a step, every entry that disappears is unregistered or is the one whose probe failed, exactly
if the failed probe, where there is one, was addressed to what the registry holds. -/
theorem lostByOwnProbe_iff (s : State) (e : Event) :
    LostByOwnProbe py rejects s e ↔ ProbedIsStored py rejects s e := by
  constructor
  · intro hlost m k n hm hk hn
    obtain ⟨rest, s₀, hs₀, hstep⟩ := step_of_failedProbe hm
    have hreg₀ : s₀.registry = s.registry := congrArg Site.registry hs₀
    have hgone : (step py rejects s e).registry.nodes.get? k = none := by
      rcases drop_cases s₀ m rest with ⟨k', hk', hreg, -⟩ | ⟨hh, -, -⟩
      · have hkk : k' = k := Except.ok.inj (hk'.symm.trans hk)
        rw [hstep, hreg, Registry.get?_delete, if_pos hkk.symm]
      · rw [hashKey_of_not_hashable hh] at hk
        cases hk
    rcases hlost k n hn hgone with ⟨accepts, body, payload, rfl, -, -⟩ | ⟨m', hm', hoid⟩
    · -- A request to `/unregister` makes no probe fail.
      cases hm
    · rw [← hoid, Option.some.inj (hm.symm.trans hm')]
  · intro hstored k n hn hgone
    cases hm : failedProbe py rejects s e with
    | none =>
      rcases step_registry_of_no_failure hm with
        hreg | ⟨now_ms, accepts, body, payload, k', -, -, -, hreg⟩ | ⟨k', hk', hreg⟩
      · rw [hreg, hn] at hgone
        cases hgone
      · rw [hreg, Registry.get?_insert, hn] at hgone
        split_ifs at hgone
      · rw [hreg, Registry.get?_delete, hn] at hgone
        split_ifs at hgone with hkk
        exact .inl (hkk ▸ hk')
    | some m =>
      obtain ⟨rest, s₀, hs₀, hstep⟩ := step_of_failedProbe hm
      have hreg₀ : s₀.registry = s.registry := congrArg Site.registry hs₀
      rcases drop_cases s₀ m rest with ⟨k', hk', hreg, -⟩ | ⟨-, hreg, -⟩
      · rw [hstep, hreg, Registry.get?_delete, hreg₀, hn] at hgone
        split_ifs at hgone with hkk
        exact .inr ⟨m, rfl, (hstored m k n hm (hkk ▸ hk') hn).symm⟩
      · rw [hstep, hreg, hreg₀, hn] at hgone
        cases hgone

/-- What the task holds was stored before whatever is registered next. -/
def HeldStored (s : State) : Prop := ∀ n ∈ s.task.held, n.oid < s.registry.next_oid

/-- Identities are given out in order. -/
theorem next_oid_le_step (s : State) (e : Event) :
    s.registry.next_oid ≤ (step py rejects s e).registry.next_oid := by
  rcases step_registry_cases rejects s e with hr | ⟨payload, k, now_ms, -, -, hr⟩ | ⟨k, hr⟩
  · exact le_of_eq (congrArg Registry.next_oid hr).symm
  · rw [hr]
    exact Nat.le_succ s.registry.next_oid
  · rw [hr]
    exact le_refl s.registry.next_oid

/-- Every step keeps the order. -/
theorem HeldStored.step {s : State} (hs : HeldStored s) (e : Event) :
    HeldStored (step py rejects s e) := by
  intro n hn
  have hlt : n.oid < s.registry.next_oid := held_step s.registry.oid_lt hs e n hn
  exact lt_of_lt_of_le hlt (next_oid_le_step s e)

/-- In every run from boot, entries disappear only through an unregistration or through the failure
of a probe addressed to them, exactly if no probe fails at a moment when the registry holds another
entry under the id that the loop then removes. What is registered while the task holds an entry is
always another entry. -/
theorem lost_only_by_own_probe_iff (py : Interp) (rejects : Uri → Bool) (es : List Event) :
    (Along (step py rejects) (LostByOwnProbe py rejects) boot es ↔
      Along (step py rejects) (ProbedIsStored py rejects) boot es) ∧
      ∀ s ∈ visited (step py rejects) boot es, HeldStored s := by
  constructor
  · exact along_congr lostByOwnProbe_iff boot es
  · intro s hs
    obtain ⟨es', -, rfl⟩ := mem_visited_iff.mp hs
    exact run_invariant' (fun _ e h => h.step e) (fun _ hn => nomatch hn) es'

/-- A node registers again while the probe of its former entry is on its way; the probe fails, and
the new entry is removed. -/
theorem reregistration_lost :
    ¬ ∀ es, Along (step .cpython fun _ => false) (LostByOwnProbe .cpython fun _ => false)
      boot es := by
  intro h
  let body : CStdlib.Bytes := CStdlib.ascii "\x7b\"node_id\":\"a\",\"ip\":\"x\"\x7d"
  let es : List Event := [.register 0 true body, .wake, .run, .register 1 true body]
  let s : State := run (step .cpython fun _ => false) boot es
  have hlast := (along_append _ boot es [.response none]).mp (h (es ++ [.response none]))
  have hstored : (s.registry.nodes.get? (.str [97])).map Node.oid = some 1 := by decide +kernel
  have hgone : ((step .cpython (fun _ => false) s (.response none)).registry.nodes.get?
      (.str [97])).isNone := by decide +kernel
  have hprobe : (failedProbe .cpython (fun _ => false) s (.response none)).map Node.oid =
      some 0 := by decide +kernel
  obtain ⟨n, hn, hn1⟩ := Option.map_eq_some_iff.mp hstored
  obtain ⟨m, hm, hm0⟩ := Option.map_eq_some_iff.mp hprobe
  rcases hlast.2.1 _ n hn (Option.isNone_iff_eq_none.mp hgone) with
    ⟨_, _, _, he, _⟩ | ⟨m', hm', hoid⟩
  · cases he
  · have hmm : m = m' := Option.some.inj (hm.symm.trans hm')
    rw [← hmm, hm0, hn1] at hoid
    exact absurd hoid (by decide)

end EnergyStation.Cloud.Liveness
