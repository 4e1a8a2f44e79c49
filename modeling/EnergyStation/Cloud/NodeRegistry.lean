import EnergyStation.Python.Json

/-!
# The registry of sensor nodes

`node_registry.py` keeps the registered nodes in a module-level dictionary. Its callers hold on to
the stored dictionaries across suspension points, so each stored dictionary carries its identity,
which tells a registration from a later one of the same node.
-/

namespace EnergyStation.Cloud

open Python Numeral

/-- A dictionary that `_nodes` holds. -/
structure Node where
  /-- The identity of the dictionary, a new one for each registration. -/
  oid : ℕ
  /-- Its items. -/
  info : Obj

/-- `_nodes`, and the back-registrations scheduled so far. -/
structure Registry where
  /-- `_nodes` -/
  nodes : Dict Key Node
  /-- The identity that the next stored dictionary gets. -/
  next_oid : ℕ
  /-- The nodes that `_schedule_new_node_callback` was called with, in order. -/
  scheduled : List Node
  /-- Identities are not used again. -/
  oid_lt : ∀ k n, nodes.get? k = some n → n.oid < next_oid

/-- `node_info.get("node_id") or node_info.get("ip", "unknown")`, the key of `add_node`. -/
def storedId (node_info : Obj) : Val :=
  if truthy (node_info.get "node_id") then node_info.get "node_id"
  else node_info.getD "ip" (.str (text "unknown"))

/-- What `add_node` stores. -/
def storedInfo (now_ms : ℤ) (node_info : Obj) : Obj :=
  Assoc.set node_info (text "last_seen_ms") (.int now_ms)

/-- Storing adds a field, and leaves the others as they were sent. -/
theorem storedInfo_getD {name : String} (h : text name ≠ text "last_seen_ms") (now_ms : ℤ)
    (node_info : Obj) (default : Val) :
    (storedInfo now_ms node_info).getD name default = node_info.getD name default :=
  congrArg (fun v => v.getD default) (Assoc.get?_set_ne node_info h _)

namespace Registry

/-- The registry of a cloud that has just started. -/
def boot : Registry := ⟨Dict.empty, 0, [], fun _ _ h => nomatch h⟩

/-- The next stored dictionary. -/
def fresh (r : Registry) (now_ms : ℤ) (node_info : Obj) : Node :=
  ⟨r.next_oid, storedInfo now_ms node_info⟩

/-- `_nodes[key] = node`, followed by the scheduling of the back-registration. -/
def insert (r : Registry) (k : Key) (now_ms : ℤ) (node_info : Obj) : Registry where
  nodes := r.nodes.set k (r.fresh now_ms node_info)
  -- The dictionary that was stored under the key, if any, is dropped.
  next_oid := r.next_oid + 1
  scheduled := r.scheduled ++ [r.fresh now_ms node_info]
  oid_lt k' n h := by
    rw [Dict.get?_set] at h
    split_ifs at h with hk
    · rw [← Option.some.inj h]
      exact Nat.lt_succ_self r.next_oid
    · exact Nat.lt_succ_of_lt (r.oid_lt k' n h)

/-- `del _nodes[key]` for a key that may be absent. -/
def delete (r : Registry) (k : Key) : Registry where
  nodes := r.nodes.erase k
  next_oid := r.next_oid
  scheduled := r.scheduled
  oid_lt k' n h := by
    rw [Dict.get?_erase] at h
    split_ifs at h
    exact r.oid_lt k' n h

/-- `add_node`. -/
def addNode (now_ms : ℤ) (node_info : Obj) (r : Registry) : Except Exc Registry :=
  (hashKey (storedId node_info)).map fun k => r.insert k now_ms node_info

/-- `remove_node`. -/
def removeNode (node_id : Val) (r : Registry) : Except Exc Registry :=
  (hashKey node_id).map fun k => r.delete k

/-- `node["last_seen_ms"] = received_ms` for the dictionary that is stored under the key. -/
def seen (r : Registry) (k : Key) (received_ms : ℤ) : Registry where
  nodes :=
    match r.nodes.get? k with
    | none => r.nodes
    | some n => r.nodes.set k { n with info := storedInfo received_ms n.info }
  next_oid := r.next_oid
  scheduled := r.scheduled
  oid_lt k' n h := by
    rcases hn : r.nodes.get? k with _ | m
    · rw [hn] at h
      exact r.oid_lt k' n h
    · rw [hn] at h
      simp only [Dict.get?_set] at h
      split_ifs at h
      · -- The dictionary keeps its identity.
        rw [← Option.some.inj h]
        exact r.oid_lt k m hn
      · exact r.oid_lt k' n h

/-- `update_heartbeat`, where `now_ms` is the time that `add_node` reads. No function calls it. -/
def updateHeartbeat (now_ms : ℤ) (payload : Obj) (received_ms : ℤ) (r : Registry) :
    Except Exc Registry :=
  if !truthy (payload.get "node_id") then .ok r
  else
    (hashKey (payload.get "node_id")).bind fun k =>
      (if (r.nodes.get? k).isNone then addNode now_ms payload r else .ok r).map fun r =>
        r.seen k received_ms

/-- `get_node_by_id`. -/
def getNodeById (node_id : Val) (r : Registry) : Except Exc (Option Node) :=
  (hashKey node_id).map fun k => r.nodes.get? k

/-- `get_all_nodes`. -/
def getAllNodes (r : Registry) : List Node := r.nodes.values

/-- A registration takes its key, and leaves every other key as it was. -/
theorem get?_insert (r : Registry) (k k' : Key) (now_ms : ℤ) (node_info : Obj) :
    (r.insert k now_ms node_info).nodes.get? k' =
      if k' = k then some (r.fresh now_ms node_info) else r.nodes.get? k' :=
  Dict.get?_set r.nodes k k' _

/-- A removal frees its key, and leaves every other key as it was. -/
theorem get?_delete (r : Registry) (k k' : Key) :
    (r.delete k).nodes.get? k' = if k' = k then none else r.nodes.get? k' :=
  Dict.get?_erase r.nodes k k'

/-- `add_node` stores the node where its id is hashable, and raises elsewhere. -/
theorem addNode_eq_ok {now_ms : ℤ} {node_info : Obj} {r r' : Registry} :
    addNode now_ms node_info r = .ok r' ↔
      ∃ k, hashKey (storedId node_info) = .ok k ∧ r.insert k now_ms node_info = r' := map_eq_ok

/-- `remove_node` deletes the key where the id is hashable, and raises elsewhere. -/
theorem removeNode_eq_ok {node_id : Val} {r r' : Registry} :
    removeNode node_id r = .ok r' ↔ ∃ k, hashKey node_id = .ok k ∧ r.delete k = r' := map_eq_ok

/-- The entry that has been seen keeps its other fields. -/
theorem get?_seen {r : Registry} {k : Key} {n : Node} (h : r.nodes.get? k = some n)
    (received_ms : ℤ) :
    (r.seen k received_ms).nodes.get? k =
      some { n with info := storedInfo received_ms n.info } := by
  simp only [seen, h, Dict.get?_set_self]

/-- `update_heartbeat` registers the node if it is not registered, and notes when it was seen. -/
theorem updateHeartbeat_registers {now_ms received_ms : ℤ} {payload : Obj} {k : Key}
    (hid : truthy (payload.get "node_id") = true) (hk : hashKey (payload.get "node_id") = .ok k)
    (r : Registry) :
    ∃ r' n, updateHeartbeat now_ms payload received_ms r = .ok r' ∧ r'.nodes.get? k = some n ∧
      n.info.get "last_seen_ms" = .int received_ms := by
  have hseen : ∀ info : Obj, (storedInfo received_ms info).get "last_seen_ms" = .int received_ms :=
    fun info => congrArg (fun v => v.getD .none) (Assoc.get?_set_self info _ _)
  -- A node that is added is stored under its `node_id`.
  have hstored : storedId payload = payload.get "node_id" := if_pos hid
  rcases hn : r.nodes.get? k with _ | n
  · have hadd : addNode now_ms payload r = .ok (r.insert k now_ms payload) :=
      addNode_eq_ok.mpr ⟨k, hstored ▸ hk, rfl⟩
    have hget := get?_insert r k k now_ms payload
    rw [if_pos rfl] at hget
    refine ⟨(r.insert k now_ms payload).seen k received_ms, _, ?_, get?_seen hget received_ms,
      hseen _⟩
    simp [updateHeartbeat, hid, hk, hn, hadd, Except.bind, Except.map]
  · refine ⟨r.seen k received_ms, _, ?_, get?_seen hn received_ms, hseen _⟩
    simp [updateHeartbeat, hid, hk, hn, Except.bind, Except.map]

/-- The nodes listed are the nodes stored. -/
theorem mem_getAllNodes_iff (r : Registry) (n : Node) :
    n ∈ r.getAllNodes ↔ ∃ k, r.nodes.get? k = some n := Dict.mem_values_iff r.nodes n

end Registry

end EnergyStation.Cloud
