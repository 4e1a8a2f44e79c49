import EnergyStation.Liveness.LostUpdate

/-!
# The identifiers of an entry

`add_node`, `/unregister` and the heartbeat loop each derive an identifier from a payload: `node_id
or ip`, with `unknown` where there is neither; `node_id`; and `node_id`, with `unknown` where it is
missing. The three are the same for the payloads that `Removable` names, and an entry stored from
any other payload is not found by at least one of the two removals (`stored_under_removal_ids_iff`).
-/

namespace EnergyStation.Cloud.Liveness

open Python Numeral Runs

variable {py : Interp} {rejects : Uri → Bool}

/-- The `node_id` is there, and it is not empty, or it is the same key as the `ip`, which takes its
place where it is empty. -/
def Removable (payload : Obj) : Prop :=
  ∃ node_id, payload.get? "node_id" = some node_id ∧
    (truthy node_id = true ∨
      hashKey node_id = hashKey (payload.getD "ip" (.str (text "unknown"))))

/-- The dictionary is what `add_node` stores of the payload. -/
def StoredFrom (payload : Obj) (n : Node) : Prop := ∃ now_ms, n.info = storedInfo now_ms payload

/-- Every payload that the step registers is removable. -/
def RegistersRemovable (py : Interp) (s : State) (e : Event) : Prop :=
  ∀ payload, Registers py s e payload → Removable payload

/-- Each entry is stored under the identifier that both removals compute for it. -/
def StoredUnderRemovalIds (r : Registry) : Prop :=
  ∀ k n, r.nodes.get? k = some n →
    hashKey (n.info.get "node_id") = .ok k ∧ hashKey (removalId n.info) = .ok k

/-- No entry stored from the payload is left, and every entry under another identifier is as it
was. -/
def ClearsOnly (payload : Obj) (r r' : Registry) : Prop :=
  (∀ k n, r'.nodes.get? k = some n → ¬ StoredFrom payload n) ∧
    ∀ k, hashKey (storedId payload) ≠ .ok k → r'.nodes.get? k = r.nodes.get? k

/-- A request to `/unregister` that carries the payload and is answered 2.02 clears its entry, and
so does the failure of a probe of an entry stored from it. -/
def Removes (py : Interp) (rejects : Uri → Bool) (payload : Obj) (s : State) : Prop :=
  (∀ accepts body, loadObject py body = .ok payload →
    (UnregisterResource.renderPost py accepts body s.site).1.code = .deleted →
    ClearsOnly payload s.registry
      (UnregisterResource.renderPost py accepts body s.site).2.registry) ∧
  ∀ e node, failedProbe py rejects s e = some node → StoredFrom payload node →
    ClearsOnly payload s.registry (step py rejects s e).registry

/-- What is stored has the identifiers of what was sent. -/
theorem ids_storedInfo (now_ms : ℤ) (payload : Obj) :
    storedId (storedInfo now_ms payload) = storedId payload ∧
      (storedInfo now_ms payload).get "node_id" = payload.get "node_id" ∧
      removalId (storedInfo now_ms payload) = removalId payload := by
  have hid : (storedInfo now_ms payload).get "node_id" = payload.get "node_id" :=
    storedInfo_getD (by decide) now_ms payload _
  have hip : (storedInfo now_ms payload).getD "ip" (.str (text "unknown")) =
      payload.getD "ip" (.str (text "unknown")) := storedInfo_getD (by decide) now_ms payload _
  refine ⟨?_, hid, storedInfo_getD (by decide) now_ms payload _⟩
  unfold storedId
  rw [hid, hip]

/-- The payloads that are removable are those of which all three identifiers are the same key. -/
theorem removable_iff {payload : Obj} {k : Key} (hk : hashKey (storedId payload) = .ok k) :
    Removable payload ↔
      hashKey (payload.get "node_id") = .ok k ∧ hashKey (removalId payload) = .ok k := by
  rcases hget : payload.get? "node_id" with _ | node_id
  · -- Without a `node_id` one removal looks for `None`, and the other for `unknown`.
    have hnone : payload.get "node_id" = .none := by simp [Obj.get, Obj.getD, hget]
    have hunknown : removalId payload = .str (text "unknown") := by
      simp [removalId, Obj.getD, hget]
    rw [hnone, hunknown]
    refine ⟨fun ⟨_, h, _⟩ => ?_, fun ⟨h, h'⟩ => ?_⟩
    · rw [hget] at h
      cases h
    · rw [← Except.ok.inj h] at h'
      cases h'
  · have hid : payload.get "node_id" = node_id := by simp [Obj.get, Obj.getD, hget]
    have hremoval : removalId payload = node_id := by simp [removalId, Obj.getD, hget]
    have hiff : Removable payload ↔ (truthy node_id = true ∨
        hashKey node_id = hashKey (payload.getD "ip" (.str (text "unknown")))) :=
      ⟨fun ⟨v, hv, h⟩ => by rwa [Option.some.inj (hget.symm.trans hv)], fun h => ⟨node_id, hget, h⟩⟩
    rw [hiff, hid, hremoval, and_self]
    unfold storedId at hk
    rw [hid] at hk
    rcases htruthy : truthy node_id with _ | _
    · rw [htruthy, if_neg Bool.false_ne_true] at hk
      simp [hk]
    · rw [htruthy, if_pos rfl] at hk
      simp [hk]

/-- Each entry is stored under the identifier that `add_node` computes for it. -/
def StoredUnderId (r : Registry) : Prop :=
  ∀ k n, r.nodes.get? k = some n → hashKey (storedId n.info) = .ok k

/-- A registration that is answered 2.01 stores its payload. -/
theorem step_of_registers (rejects : Uri → Bool) {s : State} {e : Event} {payload : Obj}
    (h : Registers py s e payload) :
    ∃ k now_ms, hashKey (storedId payload) = .ok k ∧
      (step py rejects s e).registry = s.registry.insert k now_ms payload := by
  obtain ⟨now_ms, accepts, body, rfl, hbusy, hbody, hcode⟩ := h
  rcases RegisterResource.renderPost_cases py now_ms accepts body s.site with
    ⟨payload', k, hbody', hk, -, hr⟩ | ⟨hbad, -⟩
  · rw [Except.ok.inj (hbody'.symm.trans hbody)] at hk hr
    refine ⟨k, now_ms, hk, ?_⟩
    simp only [step, hbusy, Bool.false_eq_true, if_false]
    exact hr
  · rw [hbad] at hcode
    exact absurd hcode (by decide)

/-- Every step keeps the entries under the identifier of `add_node`. -/
theorem StoredUnderId.step {s : State} (hs : StoredUnderId s.registry) (e : Event) :
    StoredUnderId (step py rejects s e).registry :=
  stored_step (Q := fun k info => hashKey (storedId info) = .ok k) hs e
    fun payload k now_ms _ hk => by rwa [(ids_storedInfo now_ms payload).1]

/-- A step that registers removable payloads only keeps the entries under the identifiers of the
removals. -/
theorem StoredUnderRemovalIds.step {s : State} (hs : StoredUnderRemovalIds s.registry) (e : Event)
    (he : RegistersRemovable py s e) : StoredUnderRemovalIds (step py rejects s e).registry :=
  stored_step
    (Q := fun k info => hashKey (info.get "node_id") = .ok k ∧ hashKey (removalId info) = .ok k)
    hs e fun payload k now_ms hreg hk => by
      obtain ⟨-, hid, hremoval⟩ := ids_storedInfo now_ms payload
      rw [hid, hremoval]
      exact (removable_iff hk).mp (he payload hreg)

/-- A payload whose entry is stored under the identifiers of the removals is removable. -/
theorem registersRemovable_of_stored {s : State} {e : Event}
    (h : StoredUnderRemovalIds (step py rejects s e).registry) : RegistersRemovable py s e := by
  intro payload hreg
  obtain ⟨k, now_ms, hk, hr⟩ := step_of_registers rejects hreg
  have hstored : (step py rejects s e).registry.nodes.get? k =
      some (s.registry.fresh now_ms payload) := by rw [hr, Registry.get?_insert, if_pos rfl]
  obtain ⟨-, hid, hremoval⟩ := ids_storedInfo now_ms payload
  have hids := h k _ hstored
  rw [Registry.fresh, hid, hremoval] at hids
  exact (removable_iff hk).mpr hids

/-- Deleting the key of a payload clears its entry and no other. -/
theorem clearsOnly_delete {payload : Obj} {r : Registry} (hr : StoredUnderId r) {k : Key}
    (hk : hashKey (storedId payload) = .ok k) : ClearsOnly payload r (r.delete k) := by
  refine ⟨fun k' n hn => ?_, fun k' hk' => ?_⟩
  · rintro ⟨now_ms, hinfo⟩
    rw [Registry.get?_delete] at hn
    split_ifs at hn with hne
    -- An entry stored from the payload is under the payload's key.
    have hkey := hr k' n hn
    rw [hinfo, (ids_storedInfo now_ms payload).1, hk] at hkey
    exact hne (Except.ok.inj hkey).symm
  · rw [Registry.get?_delete, if_neg]
    rintro rfl
    exact hk' hk

/-- A registered payload that is removable can be removed in every state whose entries are under
their identifiers. -/
theorem removes_of_removable {payload : Obj} {k : Key} (hk : hashKey (storedId payload) = .ok k)
    (hremovable : Removable payload) {s : State} (hs : StoredUnderId s.registry) :
    Removes py rejects payload s := by
  obtain ⟨hid, hremoval⟩ := (removable_iff hk).mp hremovable
  refine ⟨fun accepts body hbody hcode => ?_, fun e node hprobe hnode => ?_⟩
  · rcases UnregisterResource.renderPost_cases py accepts body s.site with
      ⟨payload', k', hbody', hk', -, hr⟩ | ⟨hbad, -⟩
    · rw [Except.ok.inj (hbody'.symm.trans hbody), hid] at hk'
      rw [hr, ← Except.ok.inj hk']
      exact clearsOnly_delete hs hk
    · rw [hbad] at hcode
      exact absurd hcode (by decide)
  · obtain ⟨now_ms, hinfo⟩ := hnode
    obtain ⟨rest, s₀, hs₀, hstep⟩ := step_of_failedProbe hprobe
    have hreg₀ : s₀.registry = s.registry := congrArg Site.registry hs₀
    have hnode : hashKey (removalId node.info) = .ok k := by
      rw [hinfo, (ids_storedInfo now_ms payload).2.2, hremoval]
    rcases drop_cases s₀ node rest with ⟨k', hk', hr, -⟩ | ⟨hhash, -, -⟩
    · rw [hstep, hr, hreg₀, ← Except.ok.inj (hnode.symm.trans hk')]
      exact clearsOnly_delete hs hk
    · rw [hashKey_of_not_hashable hhash] at hnode
      cases hnode

/-- The entries of every reachable registry are under the identifier of `add_node`. -/
theorem storedUnderId_run (es : List Event) :
    StoredUnderId (run (step py rejects) boot es).registry :=
  have hboot : StoredUnderId boot.registry := fun _ _ hn => nomatch hn
  have hstep : ∀ s e, StoredUnderId s.registry → StoredUnderId (step py rejects s e).registry :=
    fun _ e hs => hs.step e
  run_invariant' hstep hboot es

/-- In a run from boot, the registries are such that each entry is stored under the identifier that
both removals compute for it, exactly if every payload that is registered is removable. A removable
payload can, in every state after its registration, be removed in either way, and nothing else is
removed with it. -/
theorem stored_under_removal_ids_iff (py : Interp) (rejects : Uri → Bool) :
    (∀ es, (∀ s ∈ visited (step py rejects) boot es, StoredUnderRemovalIds s.registry) ↔
      Along (step py rejects) (RegistersRemovable py) boot es) ∧
    ∀ pre e post payload, Registers py (run (step py rejects) boot pre) e payload →
      Removable payload →
      Removes py rejects payload (run (step py rejects) boot (pre ++ e :: post)) := by
  refine ⟨fun es => ⟨fun h => ?_, fun h => ?_⟩, fun pre e post payload hreg hremovable => ?_⟩
  · have hstep : ∀ s e, StoredUnderRemovalIds (step py rejects s e).registry →
        RegistersRemovable py s e := fun _ _ hs => registersRemovable_of_stored hs
    exact along_of_visited hstep h
  · have hboot : StoredUnderRemovalIds boot.registry := fun _ _ hn => nomatch hn
    have hstep : ∀ s e, StoredUnderRemovalIds s.registry → RegistersRemovable py s e →
        StoredUnderRemovalIds (step py rejects s e).registry := fun _ e hs he => hs.step e he
    exact visited_invariant hstep hboot h
  · obtain ⟨k, now_ms, hk, -⟩ := step_of_registers rejects hreg
    exact removes_of_removable hk hremovable (storedUnderId_run _)

/-- What an unregistration leaves was there before. -/
theorem get?_of_unregister {accepts : Bool} {body : CStdlib.Bytes} {site : Site} {k : Key}
    {n : Node}
    (h : (UnregisterResource.renderPost py accepts body site).2.registry.nodes.get? k = some n) :
    site.registry.nodes.get? k = some n := by
  rcases UnregisterResource.renderPost_cases py accepts body site with
    ⟨-, k', -, -, -, hr⟩ | ⟨-, hr⟩
  · rw [hr, Registry.get?_delete] at h
    split_ifs at h
    exact h
  · rwa [hr] at h

/-- After the first registration every entry is stored from its payload. -/
theorem storedFrom_of_registers {e : Event} {payload : Obj} (h : Registers py boot e payload)
    {k : Key} {n : Node} (hn : (step py rejects boot e).registry.nodes.get? k = some n) :
    StoredFrom payload n := by
  obtain ⟨k', now_ms, -, hr⟩ := step_of_registers rejects h
  rw [hr, Registry.get?_insert] at hn
  split_ifs at hn
  · exact ⟨now_ms, by rw [← Option.some.inj hn]; rfl⟩
  · cases hn

/-- A registration with an address and no `node_id`. -/
private def unnamed : CStdlib.Bytes := CStdlib.ascii "\x7b\"ip\":\"x\"\x7d"

/-- The registry after that registration. -/
private def unnamedState : State := step .cpython (fun _ => false) boot (.register 0 true unnamed)

/-- A node that registers without a `node_id` is stored under its `ip`, and a request to
`/unregister` with the same payload is answered 2.02 and leaves it registered. -/
theorem unregistered_node_stays :
    ¬ ∀ pre e post payload, Registers .cpython (run (step .cpython fun _ => false) boot pre) e
        payload →
      Removes .cpython (fun _ => false) payload
        (run (step .cpython fun _ => false) boot (pre ++ e :: post)) := by
  intro h
  have hcode : (RegisterResource.renderPost .cpython 0 true unnamed boot.site).1.code =
      .created := by
    decide +kernel
  have hdeleted : (UnregisterResource.renderPost .cpython true unnamed unnamedState.site).1.code =
      .deleted := by decide +kernel
  have hkept : (UnregisterResource.renderPost .cpython true unnamed
      unnamedState.site).2.registry.nodes.entries.isEmpty = false := by decide +kernel
  obtain ⟨payload, hbody⟩ : ∃ payload, loadObject .cpython unnamed = .ok payload := by
    rcases RegisterResource.renderPost_cases .cpython 0 true unnamed boot.site with
      ⟨payload, -, hbody, -⟩ | ⟨hbad, -⟩
    · exact ⟨payload, hbody⟩
    · rw [hbad] at hcode
      exact absurd hcode (by decide)
  have hreg : Registers .cpython boot (.register 0 true unnamed) payload :=
    ⟨0, true, unnamed, rfl, rfl, hbody, hcode⟩
  have hremoves : Removes .cpython (fun _ => false) payload unnamedState :=
    h [] (.register 0 true unnamed) [] payload hreg
  -- What is left is what was stored, since a removal stores nothing.
  obtain ⟨⟨k, n⟩, hmem⟩ := List.exists_mem_of_ne_nil _ (List.isEmpty_eq_false_iff.mp hkept)
  have hn := (Dict.get?_eq_some_iff _ k n).mpr hmem
  have hsame : unnamedState.registry = unnamedState.site.registry := rfl
  have hleft := get?_of_unregister hn
  rw [← hsame] at hleft
  exact (hremoves.1 true unnamed hbody hdeleted).1 k n hn (storedFrom_of_registers hreg hleft)

end EnergyStation.Cloud.Liveness
