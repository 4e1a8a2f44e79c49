import EnergyStation.Liveness.Probes
import EnergyStation.System.Requests

/-!
# The heartbeat loop as a failure detector

At the end of a cycle of `_monitor_sensor_liveness` the registry holds those nodes of the fleet only
that have answered a probe of the cycle, or whose POST has been handled while it ran. So a node that
has stopped is out of the registry at the end of the next cycle, and since a node registers once for
each boot it stays out (`failures_are_detected`). An entry goes only by a request to `/unregister`
or by a failed probe of its node.
-/

namespace EnergyStation.System.Members

open Cloud Firmware Numeral Python Runs

variable {ι : Type*} {F : Fleet ι} {p : Platform} {py : Interp} {rejects : Uri → Bool}

/-- A failed probe of a node removes the key under which the node is stored. -/
theorem hashKey_removalId {i : ι} {info : Obj} (h : F.StoredOf i info) :
    hashKey (Liveness.removalId info) = .ok (F.key i) := by
  have hid : Liveness.removalId info = .str (F.device i).nodeId :=
    Requests.getD_of_storedOf h (by decide) (Telemetry.deviceFields_nodeId (F.device i)) _
  rw [hid]
  rfl

/-- The node answers a probe. -/
def Answers (F : Fleet ι) (i : ι) (s : State ι) (e : Event ι) : Prop :=
  ∃ le m, e = .cloud le ∧ Liveness.Answered s.cloud le m ∧ F.StoredOf i m.info

/-- The heartbeat loop has still to hear of the node, where the node is registered. -/
def Awaited (F : Fleet ι) (i : ι) (s : State ι) : Prop :=
  s.cloud.task.Ended ∨ ∀ n, s.cloud.registry.nodes.get? (F.key i) = some n →
    ∃ m ∈ s.cloud.task.held, F.StoredOf i m.info

/-- A cycle that has ended awaits no one. -/
theorem Awaited.absent {i : ι} {s : State ι} (h : Awaited F i s)
    (hsleep : s.cloud.task = .sleeping) : s.cloud.registry.nodes.get? (F.key i) = none := by
  rcases h with ⟨e, hended⟩ | hheld
  · rw [hsleep] at hended
    cases hended
  · rcases hn : s.cloud.registry.nodes.get? (F.key i) with _ | n
    · rfl
    · obtain ⟨m, hm, -⟩ := hheld n hn
      rw [hsleep] at hm
      cases hm

/-- A node whose failed probe takes its entry away is the probed one. -/
theorem storedOf_of_failedProbe {i : ι} {s : State ι} (hs : Sound F s) {le : Liveness.Event}
    {m : Node} (hfail : Liveness.failedProbe py rejects s.cloud le = some m)
    (hk : hashKey (Liveness.removalId m.info) = .ok (F.key i)) : F.StoredOf i m.info := by
  obtain ⟨j, hstored⟩ := hs.held m (Liveness.held_of_failedProbe hfail)
  rw [hashKey_removalId hstored] at hk
  rwa [F.key_injective (Except.ok.inj hk)] at hstored

section

variable [DecidableEq ι]

/-- What a step does to the heartbeat loop: nothing, or one of its own events. -/
theorem step_cloud_eq (s : State ι) (e : Event ι) :
    (step F p py rejects s e).cloud = s.cloud ∨
      ∃ le, (step F p py rejects s e).cloud = Liveness.step py rejects s.cloud le ∧
        (∀ m, Liveness.Answered s.cloud le m → e = .cloud le) := by
  cases e with
  | reboot j clock => exact .inl rfl
  | process j e uptime_ms => exact .inl rfl
  | lose k => exact .inl rfl
  | deliver k now_ms accepts =>
    rcases step_deliver_cases s k now_ms accepts with ⟨hstep, -⟩ | ⟨post, -, -, hstep⟩
    · rw [hstep]
      exact .inl rfl
    · rw [hstep]
      -- A delivered POST is no answer to a probe.
      refine .inr ⟨.register now_ms accepts post.payload, rfl, fun m h => ?_⟩
      obtain ⟨r, uri, rest, heq, -⟩ := h
      cases heq
  | cloud e =>
    rcases step_cloud_cases s e with hstep | ⟨-, hstep⟩
    · rw [hstep]
      exact .inl rfl
    · rw [hstep]
      exact .inr ⟨e, rfl, fun _ _ => rfl⟩

/-- An entry goes only at an event of the cloud. -/
theorem step_removes {s : State ι} {e : Event ι} {k : Key} {n : Node}
    (hn : s.cloud.registry.nodes.get? k = some n)
    (hnone : (step F p py rejects s e).cloud.registry.nodes.get? k = none) :
    ∃ le, e = .cloud le ∧ (Liveness.step py rejects s.cloud le).registry.nodes.get? k = none := by
  have hkept : ∀ {c : Liveness.State}, c.registry = s.cloud.registry →
      c.registry.nodes.get? k ≠ none := by
    intro c hc
    rw [hc, hn]
    exact Option.some_ne_none n
  cases e with
  | reboot j clock => exact absurd hnone (hkept rfl)
  | process j e uptime_ms => exact absurd hnone (hkept rfl)
  | lose k => exact absurd hnone (hkept rfl)
  | deliver k' now_ms accepts =>
    rcases step_deliver_cases s k' now_ms accepts with ⟨hstep, -⟩ | ⟨post, hpost, -, hstep⟩
    · rw [hstep] at hnone
      exact absurd hnone (hkept rfl)
    · rw [hstep] at hnone
      obtain ⟨site, hsite, hr | ⟨payload, k'', -, -, -, hr⟩⟩ :=
        Liveness.step_register_cases py rejects s.cloud now_ms accepts post.payload
      · rw [hsite] at hnone
        exact absurd hnone (hkept hr)
      · -- A registration leaves no key without an entry.
        rw [hsite] at hnone
        simp only [Liveness.State.registry, hr, Registry.get?_insert] at hnone
        split_ifs at hnone
        exact absurd hnone (hkept rfl)
  | cloud le =>
    rcases @step_cloud_cases ι F p py rejects _ s le with hstep | ⟨-, hstep⟩
    · rw [hstep] at hnone
      exact absurd hnone (hkept rfl)
    · rw [hstep] at hnone
      exact ⟨le, rfl, hnone⟩

/-- A registered node that the loop has still to hear of stays one in every step in which it neither
answers nor registers. -/
theorem Awaited.step (hdepth : 0 < py.recursionLimit) {i : ι} {s : State ι} (hs : Sound F s)
    (h : Awaited F i s) {e : Event ι} (hanswers : ¬ Answers F i s e)
    (hhandles : handles i s e = false) : Awaited F i (step F p py rejects s e) := by
  have hentry : ∀ n, (Members.step F p py rejects s e).cloud.registry.nodes.get? (F.key i) =
      some n →
      s.cloud.registry.nodes.get? (F.key i) = some n := by
    intro n hn
    rcases entry_step hdepth hs hn with hn | hn
    · exact hn
    · rw [hhandles] at hn
      cases hn
  unfold Awaited
  rcases @step_cloud_eq ι F p py rejects _ s e with hcloud | ⟨le, hcloud, hle⟩
  · rw [hcloud]
    exact h
  · rw [hcloud] at hentry ⊢
    -- The loop has ended, or every entry of the node is held by the pass.
    rcases h with hended | hheld
    · exact .inl (hended.step le)
    · by_cases hended : (Liveness.step py rejects s.cloud le).task.Ended
      · exact .inl hended
      · refine .inr fun n hn => ?_
        obtain ⟨m, hm, hstored⟩ := hheld n (hentry n hn)
        rcases Liveness.held_step_cases hm le with hheld' | hended' | hanswered | ⟨k, hk, hr⟩
        · exact ⟨m, hheld', hstored⟩
        · exact absurd hended' hended
        · exact absurd ⟨le, m, hle m hanswered, hanswered, hstored⟩ hanswers
        · -- The probe of the node has failed, and its entry is gone.
          obtain rfl : F.key i = k := Except.ok.inj ((hashKey_removalId hstored).symm.trans hk)
          rw [hr, Registry.get?_delete, if_pos rfl] at hn
          cases hn

/-- A cycle begins with every registered node still to be heard of. -/
theorem awaited_wake (i : ι) {s : State ι} (hs : Sound F s) (hsleep : s.cloud.task = .sleeping) :
    Awaited F i (step F p py rejects s (.cloud .wake)) := by
  refine .inr fun n hn => ?_
  have hwake : (step F p py rejects s (.cloud .wake)).cloud =
      ⟨s.cloud.site, .running s.cloud.registry.getAllNodes, s.cloud.registry.getAllNodes, []⟩ := by
    simp only [step, isRegister, Bool.false_eq_true, if_false, Liveness.step, hsleep]
  rw [hwake] at hn ⊢
  obtain ⟨j, hkey, hstored⟩ := hs.stored _ n hn
  rw [F.key_injective hkey]
  exact ⟨n, (s.cloud.registry.mem_getAllNodes_iff n).mpr ⟨_, hn⟩, hstored⟩

/-- A node that neither answers nor registers from the beginning of a cycle on has no entry at its
end. -/
theorem absent_of_unheard (hdepth : 0 < py.recursionLimit) {i : ι} {s : State ι} (hs : Sound F s)
    (hsleep : s.cloud.task = .sleeping) {mid : List (Event ι)}
    (hquiet : Along (step F p py rejects) (fun s e => ¬ Answers F i s e ∧ handles i s e = false)
      (step F p py rejects s (.cloud .wake)) mid)
    (hend : (run (step F p py rejects) s (.cloud .wake :: mid)).cloud.task = .sleeping) :
    (run (step F p py rejects) s (.cloud .wake :: mid)).cloud.registry.nodes.get? (F.key i) =
    none := by
  rw [run_cons] at hend ⊢
  have hboth : Sound F (run (step F p py rejects) (step F p py rejects s (.cloud .wake)) mid) ∧
      Awaited F i (run (step F p py rejects) (step F p py rejects s (.cloud .wake)) mid) :=
    run_invariant (I := fun s => Sound F s ∧ Awaited F i s)
      (C := fun s e => ¬ Answers F i s e ∧ handles i s e = false)
      (fun s e h hC => ⟨h.1.step hdepth e, h.2.step hdepth h.1 hC.1 hC.2⟩)
      ⟨hs.step hdepth _, awaited_wake i hs hsleep⟩ hquiet
  exact hboth.2.absent hend

/-- A node that has sent its POST sends no more until it restarts. -/
theorem Spent.run {i : ι} {s : State ι} (h : Spent i s) {es : List (Event ι)}
    (hes : ∀ clock, .reboot i clock ∉ es) : Spent i (run (Members.step F p py rejects) s es) :=
  run_invariant (I := fun s => Spent i s) (C := fun _ e => ∀ s, reboots i s e = false)
    (fun s _ hs he => hs.step (he s)) h (along_of_forall_mem (not_reboots hes))

/-- What the registry tells of a node. -/
structure Detector (F : Fleet ι) (p : Platform) (py : Interp) (rejects : Uri → Bool) (i : ι) :
    Prop where
  /-- A node that is registered at the end of a cycle has answered a probe since the beginning of
  the cycle, or a POST of it has been handled. -/
  heard : ∀ pre mid n, (run (step F p py rejects) (boot p) pre).cloud.task = .sleeping →
    (run (step F p py rejects) (boot p) (pre ++ .cloud .wake :: mid)).cloud.task = .sleeping →
    (run (step F p py rejects) (boot p) (pre ++ .cloud .wake :: mid)).cloud.registry.nodes.get?
      (F.key i) =
      some n →
    ∃ mid' e, mid' ++ [e] <+: mid ∧
      (Answers F i (run (step F p py rejects) (boot p) (pre ++ .cloud .wake :: mid')) e ∨
        handles i (run (step F p py rejects) (boot p) (pre ++ .cloud .wake :: mid')) e = true)
  /-- A node that has sent its POST, which is no longer on its way, and then stops answering is out
  of the registry from the end of the next cycle on, until it restarts. -/
  gone : ∀ pre mid post, (run (step F p py rejects) (boot p) pre).cloud.task = .sleeping →
    ((run (step F p py rejects) (boot p) pre).process i).Sent →
    (∀ q ∈ (run (step F p py rejects) (boot p) pre).flight, q.node ≠ i) →
    (∀ clock, .reboot i clock ∉ mid ++ post) →
    (∀ mid' e, mid' ++ [e] <+: mid →
      ¬ Answers F i (run (step F p py rejects) (boot p) (pre ++ .cloud .wake :: mid')) e) →
    (run (step F p py rejects) (boot p) (pre ++ .cloud .wake :: mid)).cloud.task = .sleeping →
    (run (step F p py rejects) (boot p) (pre ++ .cloud .wake :: mid ++
      post)).cloud.registry.nodes.get?
      (F.key i) = none
  /-- An entry of it goes when it is unregistered, or when a probe of it fails. -/
  kept : ∀ pre e n,
    (run (step F p py rejects) (boot p) pre).cloud.registry.nodes.get? (F.key i) = some n →
    (run (step F p py rejects) (boot p) (pre ++ [e])).cloud.registry.nodes.get? (F.key i) = none →
    ∃ le, e = .cloud le ∧ (Liveness.Unregisters py le (F.key i) ∨
      ∃ m, Liveness.failedProbe py rejects (run (step F p py rejects) (boot p) pre).cloud le =
        some m ∧
        F.StoredOf i m.info)

/-- Whatever the order in which the nodes of a fleet start, register, restart, answer and fall
silent, in which their POSTs are handled or lost, and in which the cloud probes, removes and
unregisters: every node that is registered at the end of a heartbeat cycle has answered in the cycle
or has registered since it began, a node that has stopped is out of the registry from the end of the
next cycle on until it restarts, and no entry goes but by a request to `/unregister` or a failed
probe of its own node. -/
theorem failures_are_detected (hdepth : 0 < py.recursionLimit) (F : Fleet ι) (p : Platform)
    (rejects : Uri → Bool) (i : ι) : Detector F p py rejects i where
  heard pre mid n hsleep hend hn := by
    by_contra hnone
    rw [run_append] at hend hn
    have hquiet : Along (step F p py rejects) (fun s e => ¬ Answers F i s e ∧ handles i s e = false)
        (step F p py rejects (run (step F p py rejects) (boot p) pre) (.cloud .wake)) mid := by
      refine along_iff_at_every_step.mpr fun mid' e hprefix => ?_
      rw [← run_cons, ← run_append]
      refine ⟨fun hanswers => hnone ⟨mid', e, hprefix, .inl hanswers⟩, ?_⟩
      exact Bool.eq_false_iff.mpr fun hhandles => hnone ⟨mid', e, hprefix, .inr hhandles⟩
    rw [absent_of_unheard hdepth (sound_run hdepth pre) hsleep hquiet hend] at hn
    cases hn
  gone pre mid post hsleep hsent hflight hreboot hanswers hend := by
    have hspent : ∀ mid', mid' <+: mid →
        Spent i (run (step F p py rejects) (boot p) (pre ++ .cloud .wake :: mid')) := by
      rintro mid' ⟨rest, rfl⟩
      rw [run_append]
      refine Spent.run ⟨hsent, hflight⟩ fun clock hmem => ?_
      rcases List.mem_cons.mp hmem with heq | hmem
      · cases heq
      · exact hreboot clock (by simp [hmem])
    have hquiet : Along (step F p py rejects) (fun s e => ¬ Answers F i s e ∧ handles i s e = false)
        (step F p py rejects (run (step F p py rejects) (boot p) pre) (.cloud .wake)) mid := by
      refine along_iff_at_every_step.mpr fun mid' e hprefix => ?_
      rw [← run_cons, ← run_append]
      -- Nothing of the node is on its way that could be handled.
      exact ⟨hanswers mid' e hprefix,
        not_handles (hspent mid' ((List.prefix_append mid' [e]).trans hprefix)).flight e⟩
    have hout : Out F i (run (step F p py rejects) (boot p) (pre ++ .cloud .wake :: mid)) := by
      refine ⟨hspent mid List.prefix_rfl, ?_⟩
      rw [run_append] at hend ⊢
      exact absent_of_unheard hdepth (sound_run hdepth pre) hsleep hquiet hend
    rw [run_append]
    exact (hout.run hdepth (sound_run hdepth _) fun clock hmem =>
      hreboot clock (List.mem_append_right mid hmem)).absent
  kept pre e n hn hnone := by
    rw [run_concat] at hnone
    have hs : Sound F (run (step F p py rejects) (boot p) pre) := sound_run hdepth pre
    generalize run (step F p py rejects) (boot p) pre = s at hs hn hnone ⊢
    obtain ⟨le, rfl, hcloud⟩ := step_removes hn hnone
    rcases Liveness.deleted_cases hn hcloud with hunregisters | ⟨m, hfail, hk⟩
    · exact ⟨le, rfl, .inl hunregisters⟩
    · exact ⟨le, rfl, .inr ⟨m, hfail, storedOf_of_failedProbe hs hfail hk⟩⟩

/-- Both nodes of the fleet are watched. -/
theorem failures_are_detected_pair :
    Detector pair ⟨128, by decide⟩ .cpython (fun _ => false) true ∧
      Detector pair ⟨128, by decide⟩ .cpython (fun _ => false) false :=
  ⟨failures_are_detected (by decide) pair ⟨128, by decide⟩ (fun _ => false) true,
    failures_are_detected (by decide) pair ⟨128, by decide⟩ (fun _ => false) false⟩

end

end EnergyStation.System.Members
