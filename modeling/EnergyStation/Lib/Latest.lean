import EnergyStation.Lib.Dict
import Mathlib.Data.List.Induction
import Mathlib.Data.List.Perm.Basic
import Mathlib.Order.Defs.PartialOrder

/-!
# The latest event of each key

A table that each event writes under its key holds, after any sequence of events, the value of the
latest event of each key and nothing else. The order of its entries is the order in which the keys
came first, so as a list it is the latest events up to order (`entries_table_perm`).
-/

namespace EnergyStation.Latest

variable {ε κ α : Type*} [DecidableEq κ]

/-- The events that no later event of their key follows. -/
def latest (key : ε → κ) : List ε → List ε
  | [] => []
  | e :: es => if es.any fun e' => key e' = key e then latest key es else e :: latest key es

/-- The table after the events. -/
def table (key : ε → κ) (val : ε → α) (es : List ε) : Dict κ α :=
  es.foldl (fun d e => d.set (key e) (val e)) Dict.empty

variable {key : ε → κ} {val : ε → α}

/-- An event more takes the place of the events of its key. -/
theorem latest_concat (es : List ε) (e : ε) :
    latest key (es ++ [e]) = (latest key es).filter (fun e' => key e' ≠ key e) ++ [e] := by
  induction es with
  | nil => rfl
  | cons e' es ih =>
    simp only [List.cons_append, latest, List.any_append, ih]
    by_cases hlater : es.any (fun e'' => key e'' = key e') = true
    · simp [hlater]
    · by_cases hsame : key e = key e'
      · simp [hlater, hsame]
      · have hsame' : ¬ key e' = key e := fun h => hsame h.symm
        simp [hlater, hsame, hsame']

/-- The latest events are events. -/
theorem mem_of_mem_latest {es : List ε} {e : ε} (h : e ∈ latest key es) : e ∈ es := by
  induction es with
  | nil => exact h
  | cons e' es ih =>
    rw [latest] at h
    split_ifs at h
    · exact List.mem_cons_of_mem e' (ih h)
    · rcases List.mem_cons.mp h with rfl | h
      · exact List.mem_cons_self
      · exact List.mem_cons_of_mem e' (ih h)

/-- Where the events are in the order of their times, the latest event of a key is not before any
event of the key. -/
theorem exists_mem_latest {τ : Type*} [Preorder τ] {time : ε → τ} {es : List ε}
    (h : es.Pairwise fun e e' => time e ≤ time e') {e : ε} (he : e ∈ es) :
    ∃ e' ∈ latest key es, key e' = key e ∧ time e ≤ time e' := by
  induction es generalizing e with
  | nil => cases he
  | cons e' es ih =>
    obtain ⟨hle, hrest⟩ := List.pairwise_cons.mp h
    rw [latest]
    rcases List.mem_cons.mp he with rfl | he
    · -- A later event of the key takes its place, and is not earlier.
      split_ifs with hlater
      · obtain ⟨e'', he'', hkey⟩ := List.any_eq_true.mp hlater
        obtain ⟨last, hlast, hlastKey, hlastTime⟩ := ih hrest he''
        exact ⟨last, hlast, hlastKey.trans (of_decide_eq_true hkey),
          le_trans (hle e'' he'') hlastTime⟩
      · exact ⟨e, List.mem_cons_self, rfl, le_refl _⟩
    · obtain ⟨last, hlast, hlastKey, hlastTime⟩ := ih hrest he
      refine ⟨last, ?_, hlastKey, hlastTime⟩
      split_ifs
      · exact hlast
      · exact List.mem_cons_of_mem e' hlast

/-- There is one latest event of each key. -/
theorem nodup_map_latest (key : ε → κ) (es : List ε) : ((latest key es).map key).Nodup := by
  induction es with
  | nil => exact List.nodup_nil
  | cons e es ih =>
    rw [latest]
    split_ifs with hlater
    · exact ih
    · rw [List.map_cons, List.nodup_cons]
      refine ⟨fun hmem => hlater ?_, ih⟩
      obtain ⟨e', he', hkey⟩ := List.mem_map.mp hmem
      exact List.any_eq_true.mpr ⟨e', mem_of_mem_latest he', decide_eq_true hkey⟩

/-- An event more writes its value under its key. -/
theorem table_concat (es : List ε) (e : ε) :
    table key val (es ++ [e]) = (table key val es).set (key e) (val e) := by
  simp [table]

/-- The table holds the value of the latest event of each key. -/
theorem get?_table_iff (es : List ε) (k : κ) (v : α) :
    (table key val es).get? k = some v ↔ ∃ e ∈ latest key es, key e = k ∧ val e = v := by
  induction es using List.reverseRecOn with
  | nil => simp [table, latest]
  | append_singleton es e ih =>
    rw [table_concat, latest_concat, Dict.get?_set]
    by_cases hk : k = key e
    · rw [if_pos hk, Option.some.injEq]
      constructor
      · intro hv
        exact ⟨e, by simp, hk.symm, hv⟩
      · rintro ⟨e', he', hkey, hv⟩
        -- The other events of the key are gone.
        rcases List.mem_append.mp he' with he' | he'
        · have hne := (List.mem_filter.mp he').2
          simp [hkey, hk] at hne
        · rw [← hv, List.mem_singleton.mp he']
    · rw [if_neg hk, ih]
      constructor
      · rintro ⟨e', he', hkey, hv⟩
        have hne : key e' ≠ key e := fun h => hk (hkey.symm.trans h)
        exact ⟨e', List.mem_append_left _ (List.mem_filter.mpr ⟨he', decide_eq_true hne⟩), hkey, hv⟩
      · rintro ⟨e', he', hkey, hv⟩
        rcases List.mem_append.mp he' with he' | he'
        · exact ⟨e', List.mem_of_mem_filter he', hkey, hv⟩
        · rw [List.mem_singleton.mp he'] at hkey
          exact absurd hkey.symm hk

/-- The entries of the table are the latest events, up to order. -/
theorem entries_table_perm (key : ε → κ) (val : ε → α) (es : List ε) :
    (table key val es).entries.Perm ((latest key es).map fun e => (key e, val e)) := by
  have hentries : (table key val es).entries.Nodup :=
    List.Nodup.of_map Prod.fst (table key val es).nodup
  have hlatest : ((latest key es).map fun e => (key e, val e)).Nodup := by
    apply List.Nodup.of_map Prod.fst
    rw [List.map_map]
    exact nodup_map_latest key es
  rw [List.perm_ext_iff_of_nodup hentries hlatest]
  rintro ⟨k, v⟩
  rw [← Dict.get?_eq_some_iff, get?_table_iff, List.mem_map]
  simp only [Prod.mk.injEq]

end EnergyStation.Latest
