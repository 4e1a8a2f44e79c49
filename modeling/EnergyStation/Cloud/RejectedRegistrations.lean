import EnergyStation.Cloud.CoapResources

/-!
# Rejected registrations

A handler that answers 4.00 has left everything as it was, and one that answers with a success has
written one point and touched one key of the registry: that is what the two handlers are for. Both
write the point first and change the registry last, and the last step raises for an id that cannot
be a key. So they do it exactly if no accepted point is that of an unhashable id
(`leavesNoTrace_iff`).
-/

namespace EnergyStation.Cloud.RejectedRegistrations

open CStdlib Python

/-- What a handler is for, where `id` is the id that it takes from its payload: `after` is its
answer and the site that it leaves, from the site `s`. -/
structure LeavesNoTrace (py : Interp) (body : Bytes) (id : Obj → Val) (success : Code) (s : Site)
    (after : Response × Site) : Prop where
  /-- With 4.00, the registry, the points and the back-registrations are as before. -/
  refused : after.1.code = .badRequest → after.2 = s
  /-- With a success there is one more point, and only the key of the node has changed. -/
  accepted : after.1.code = success →
    (∃ point, after.2.written = s.written ++ [point]) ∧
      ∃ payload k, loadObject py body = .ok payload ∧ hashKey (id payload) = .ok k ∧
        ∀ k', k' ≠ k → after.2.registry.nodes.get? k' = s.registry.nodes.get? k'

/-- A point that is accepted is not that of an unhashable id. -/
def HashableId (py : Interp) (accepts : Bool) (id : Obj → Val) (body : Bytes) : Prop :=
  ∀ payload, loadObject py body = .ok payload → accepts = true → hashable (id payload) = true

/-- The response of a handler, by whether its steps have raised. -/
def answered (success failure : Response) (r : Except Exc Unit × Site) : Response × Site :=
  match r with
  | (.ok _, s) => (success, s)
  | (.error _, s) => (failure, s)

/-- A handler whose last step stores or deletes under a hashable id, and raises for any other,
leaves no trace exactly if no accepted point is that of an unhashable id. -/
theorem handle_leavesNoTrace_iff {py : Interp} {body : Bytes} {accepts : Bool} {point : Obj → Point}
    {change : Obj → Registry → Except Exc Registry} {id : Obj → Val}
    {put : Obj → Key → Registry → Registry} (success failure : Response)
    (hchange : ∀ payload r, change payload r = (hashKey (id payload)).map fun k => put payload k r)
    (hframe : ∀ payload k r k', k' ≠ k → (put payload k r).nodes.get? k' = r.nodes.get? k')
    (hsuccess : success.code ≠ .badRequest) (hfailure : failure.code = .badRequest) (s : Site) :
    LeavesNoTrace py body id success.code s
      (answered success failure (handle py body accepts point change s)) ↔
        HashableId py accepts id body := by
  -- A handler that has not done anything is in order.
  have hidle : LeavesNoTrace py body id success.code s (failure, s) :=
    ⟨fun _ => rfl, fun h => absurd (h.symm.trans hfailure) hsuccess⟩
  unfold handle writePoint HashableId
  rcases hload : loadObject py body with e | payload
  · exact iff_of_true hidle (by simp)
  · rcases accepts with _ | _
    · exact iff_of_true hidle (by simp)
    · by_cases hid : hashable (id payload) = true
      · obtain ⟨k, hk⟩ := (hashable_iff _).mp hid
        have hput : change payload s.registry = .ok (put payload k s.registry) := by
          rw [hchange, hk]
          rfl
        simp only [if_true, hput]
        refine iff_of_true ⟨fun h => absurd h hsuccess, fun _ =>
          ⟨⟨_, rfl⟩, payload, k, hload, hk, ?_⟩⟩ ?_
        · exact fun k' hk' => hframe payload k s.registry k' hk'
        · rintro payload' hload' -
          rw [← Except.ok.inj hload']
          exact hid
      · have hraise : change payload s.registry = .error .typeError := by
          rw [hchange, hashKey_of_not_hashable (Bool.eq_false_iff.mpr hid)]
          rfl
        simp only [if_true, hraise]
        -- The point stays, so the site is not as before.
        refine iff_of_false (fun h => ?_) fun h => hid (h payload rfl trivial)
        have hwritten := congrArg (fun t : Site => t.written.length) (h.refused hfailure)
        simp [answered] at hwritten

variable (py : Interp) (accepts : Bool) (body : Bytes) (s : Site)

/-- `POST /register`. -/
theorem register_leavesNoTrace_iff (now_ms : ℤ) :
    LeavesNoTrace py body storedId .created s
        (RegisterResource.renderPost py now_ms accepts body s) ↔
      HashableId py accepts storedId body := by
  have hanswered : RegisterResource.renderPost py now_ms accepts body s =
      answered ⟨.created, ascii "Registered"⟩ ⟨.badRequest, ascii "Invalid Registration Data"⟩
        (handle py body accepts registerPoint (Registry.addNode now_ms) s) := by
    unfold RegisterResource.renderPost answered
    rcases handle py body accepts registerPoint (Registry.addNode now_ms) s with ⟨_ | _, s'⟩
    · rfl
    · rfl
  have hframe : ∀ (payload : Obj) (k : Key) (r : Registry) (k' : Key), k' ≠ k →
      (r.insert k now_ms payload).nodes.get? k' = r.nodes.get? k' := by
    intro payload k r k' hk'
    rw [Registry.get?_insert, if_neg hk']
  have hcode : Code.created ≠ .badRequest := by decide
  rw [hanswered]
  exact handle_leavesNoTrace_iff ⟨.created, _⟩ ⟨.badRequest, _⟩ (fun _ _ => rfl) hframe hcode rfl s

/-- `POST /unregister`. -/
theorem unregister_leavesNoTrace_iff :
    LeavesNoTrace py body (fun payload => payload.get "node_id") .deleted s
        (UnregisterResource.renderPost py accepts body s) ↔
      HashableId py accepts (fun payload => payload.get "node_id") body := by
  have hanswered : UnregisterResource.renderPost py accepts body s =
      answered ⟨.deleted, ascii "UNREGISTERED"⟩ ⟨.badRequest, ascii "Invalid"⟩
        (handle py body accepts unregisterPoint
          (fun payload => Registry.removeNode (payload.get "node_id")) s) := by
    unfold UnregisterResource.renderPost answered
    rcases handle py body accepts unregisterPoint
      (fun payload => Registry.removeNode (payload.get "node_id")) s with ⟨_ | _, s'⟩
    · rfl
    · rfl
  have hframe : ∀ (_ : Obj) (k : Key) (r : Registry) (k' : Key), k' ≠ k →
      (r.delete k).nodes.get? k' = r.nodes.get? k' := by
    intro _ k r k' hk'
    rw [Registry.get?_delete, if_neg hk']
  have hcode : Code.deleted ≠ .badRequest := by decide
  rw [hanswered]
  exact handle_leavesNoTrace_iff ⟨.deleted, _⟩ ⟨.badRequest, _⟩ (fun _ _ => rfl) hframe hcode rfl s

/-- For every request and every site, each of the two handlers leaves no trace of what it rejects,
and one point and one key of what it accepts, exactly if an accepted point is not that of an
unhashable id. -/
theorem leavesNoTrace_iff (now_ms : ℤ) :
    (LeavesNoTrace py body storedId .created s
        (RegisterResource.renderPost py now_ms accepts body s) ↔
      HashableId py accepts storedId body) ∧
    (LeavesNoTrace py body (fun payload => payload.get "node_id") .deleted s
        (UnregisterResource.renderPost py accepts body s) ↔
      HashableId py accepts (fun payload => payload.get "node_id") body) :=
  ⟨register_leavesNoTrace_iff py accepts body s now_ms,
    unregister_leavesNoTrace_iff py accepts body s⟩

/-- A registration with a list for its `node_id` is answered 4.00, and its point is written. -/
theorem unhashable_id_leaves_point :
    ¬ ∀ (body : Bytes) (s : Site), LeavesNoTrace .cpython body storedId .created s
      (RegisterResource.renderPost .cpython 0 true body s) := by
  intro h
  have hrefused := (h (ascii "\x7b\"node_id\":[1]\x7d") ⟨Registry.boot, []⟩).refused
    (by decide +kernel)
  have hwritten := congrArg (fun t : Site => t.written.length) hrefused
  exact absurd hwritten (by decide +kernel)

end EnergyStation.Cloud.RejectedRegistrations
