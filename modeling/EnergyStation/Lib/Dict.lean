import Mathlib.Data.List.Nodup

/-!
# Insertion-ordered dictionaries

A dictionary that remembers the order in which its keys were first set, as Python's does: setting a
key that is present replaces the value in place, a new key goes to the end, and deleting a key and
setting it again moves it to the end. `Assoc` has the operations on a plain association list, for
the values of a recursive type, and `Dict` packs a list with the proof that its keys are distinct.
-/

namespace EnergyStation

namespace Assoc

variable {κ α : Type*} [DecidableEq κ]

/-- The value at a key. -/
def get? : List (κ × α) → κ → Option α
  | [], _ => none
  | (k', v) :: l, k => if k' = k then some v else get? l k

/-- The list with the key set to the value: in place where the key is present, else at the end. -/
def set : List (κ × α) → κ → α → List (κ × α)
  | [], k, v => [(k, v)]
  | (k', v') :: l, k, v => if k' = k then (k', v) :: l else (k', v') :: set l k v

/-- The list without the key. -/
def erase (l : List (κ × α)) (k : κ) : List (κ × α) := l.filter fun e => e.1 ≠ k

@[simp] theorem get?_nil (k : κ) : get? ([] : List (κ × α)) k = none := rfl

theorem get?_cons (k' : κ) (v : α) (l : List (κ × α)) (k : κ) :
    get? ((k', v) :: l) k = if k' = k then some v else get? l k := rfl

@[simp] theorem get?_set_self (l : List (κ × α)) (k : κ) (v : α) : get? (set l k v) k = some v := by
  induction l with
  | nil => simp [set, get?_cons]
  | cons e l ih =>
    obtain ⟨k', v'⟩ := e
    unfold set
    split_ifs with h
    · rw [get?_cons, if_pos h]
    · rw [get?_cons, if_neg h, ih]

theorem get?_set_ne (l : List (κ × α)) {k k' : κ} (h : k' ≠ k) (v : α) :
    get? (set l k v) k' = get? l k' := by
  induction l with
  | nil => simp [set, get?_cons, h.symm]
  | cons e l ih =>
    obtain ⟨k'', v'⟩ := e
    unfold set
    split_ifs with h'
    · rw [get?_cons, get?_cons, h', if_neg h.symm, if_neg h.symm]
    · rw [get?_cons, get?_cons, ih]

@[simp] theorem get?_erase_self (l : List (κ × α)) (k : κ) : get? (erase l k) k = none := by
  induction l with
  | nil => rfl
  | cons e l ih =>
    unfold erase at ih ⊢
    by_cases h : e.1 = k
    · rw [List.filter_cons_of_neg (by simp [h]), ih]
    · rw [List.filter_cons_of_pos (by simp [h]), get?_cons, if_neg h, ih]

theorem get?_erase_ne (l : List (κ × α)) {k k' : κ} (h : k' ≠ k) :
    get? (erase l k) k' = get? l k' := by
  induction l with
  | nil => rfl
  | cons e l ih =>
    unfold erase at ih ⊢
    by_cases he : e.1 = k
    · rw [List.filter_cons_of_neg (by simp [he]), ih, get?_cons, if_neg (he ▸ h.symm)]
    · rw [List.filter_cons_of_pos (by simp [he]), get?_cons, get?_cons, ih]

/-- What a condition on the keys keeps. -/
theorem get?_filter (l : List (κ × α)) (p : κ → Bool) (k : κ) :
    get? (l.filter fun e => p e.1) k = if p k then get? l k else none := by
  induction l with
  | nil => simp
  | cons e l ih =>
    obtain ⟨k', v⟩ := e
    rw [List.filter_cons, get?_cons]
    by_cases hk : k' = k
    · subst hk
      by_cases hp : p k' = true
      · simp [hp, get?_cons]
      · simp [hp, ih]
    · rw [if_neg hk, ← ih]
      split_ifs
      · rw [get?_cons, if_neg hk]
      · rfl

/-- A key has a value exactly when it is among the keys. -/
theorem get?_eq_none_iff (l : List (κ × α)) (k : κ) : get? l k = none ↔ k ∉ l.map Prod.fst := by
  induction l with
  | nil => simp
  | cons e l ih =>
    rw [get?_cons, List.map_cons, List.mem_cons, not_or, ← ih]
    by_cases h : e.1 = k
    · simp [h]
    · simp [h, Ne.symm h]

/-- A value found is one of the entries. -/
theorem mem_of_get?_eq_some {l : List (κ × α)} {k : κ} {v : α} (h : get? l k = some v) :
    (k, v) ∈ l := by
  induction l with
  | nil => simp at h
  | cons e l ih =>
    rw [get?_cons] at h
    split_ifs at h with hk
    · rw [← hk, ← Option.some.inj h]
      exact List.mem_cons_self
    · exact List.mem_cons_of_mem _ (ih h)

/-- An entry is found under its key when no key stands twice. -/
theorem get?_eq_some_of_mem {l : List (κ × α)} (hl : (l.map Prod.fst).Nodup) {k : κ} {v : α}
    (h : (k, v) ∈ l) : get? l k = some v := by
  induction l with
  | nil => simp at h
  | cons e l ih =>
    obtain ⟨k', v'⟩ := e
    rw [List.map_cons, List.nodup_cons] at hl
    rcases List.mem_cons.mp h with heq | h
    · rw [Prod.mk.injEq] at heq
      rw [get?_cons, if_pos heq.1.symm, heq.2]
    · have hmem : k ∈ l.map Prod.fst := List.mem_map.mpr ⟨(k, v), h, rfl⟩
      have hne : ¬ k' = k := fun hk => hl.1 (hk ▸ hmem)
      rw [get?_cons, if_neg hne, ih hl.2 h]

/-- Setting a key keeps the keys in place, with a new key at the end. -/
theorem map_fst_set (l : List (κ × α)) (k : κ) (v : α) :
    (set l k v).map Prod.fst = if k ∈ l.map Prod.fst then l.map Prod.fst
      else l.map Prod.fst ++ [k] := by
  induction l with
  | nil => simp [set]
  | cons e l ih =>
    obtain ⟨k', v'⟩ := e
    unfold set
    split_ifs with h hmem hmem
    · rfl
    · exact absurd (h ▸ List.mem_cons_self) hmem
    · have hmem' : k ∈ l.map Prod.fst := (List.mem_cons.mp hmem).resolve_left (Ne.symm h)
      rw [List.map_cons, ih, if_pos hmem', List.map_cons]
    · have hmem' : k ∉ l.map Prod.fst := fun hm => hmem (List.mem_cons_of_mem _ hm)
      rw [List.map_cons, ih, if_neg hmem', List.map_cons, List.cons_append]

theorem nodup_set {l : List (κ × α)} (hl : (l.map Prod.fst).Nodup) (k : κ) (v : α) :
    ((set l k v).map Prod.fst).Nodup := by
  rw [map_fst_set]
  split_ifs with h
  · exact hl
  · exact List.nodup_append.mpr ⟨hl, List.nodup_singleton k, by
      intro a ha b hb
      rw [List.mem_singleton.mp hb]
      exact fun hab => h (hab ▸ ha)⟩

theorem nodup_erase {l : List (κ × α)} (hl : (l.map Prod.fst).Nodup) (k : κ) :
    ((erase l k).map Prod.fst).Nodup :=
  hl.sublist (List.Sublist.map _ List.filter_sublist)

/-- A new key goes to the end. -/
theorem set_of_not_mem {l : List (κ × α)} {k : κ} (h : k ∉ l.map Prod.fst) (v : α) :
    set l k v = l ++ [(k, v)] := by
  induction l with
  | nil => rfl
  | cons e l ih =>
    rw [List.map_cons, List.mem_cons, not_or] at h
    rw [set, if_neg (Ne.symm h.1), ih h.2, List.cons_append]

/-- Entries with distinct new keys, set one after another, are all at the end. -/
theorem foldl_set_of_nodup {l l' : List (κ × α)} (h : ((l ++ l').map Prod.fst).Nodup) :
    l'.foldl (fun o e => set o e.1 e.2) l = l ++ l' := by
  induction l' generalizing l with
  | nil => rw [List.foldl_nil, List.append_nil]
  | cons e l' ih =>
    have hnew : e.1 ∉ l.map Prod.fst := by
      rw [List.map_append, List.map_cons, List.nodup_append] at h
      exact fun hmem => h.2.2 _ hmem _ List.mem_cons_self rfl
    have hrest : ((l ++ [e] ++ l').map Prod.fst).Nodup := by rwa [List.append_assoc]
    rw [List.foldl_cons, set_of_not_mem hnew, ih hrest, List.append_assoc, List.singleton_append]

end Assoc

/-- A dictionary: its entries in order, no key twice. -/
structure Dict (κ α : Type*) where
  /-- The entries, in the order in which the keys were first set. -/
  entries : List (κ × α)
  /-- No key stands twice. -/
  nodup : (entries.map Prod.fst).Nodup

namespace Dict

variable {κ α : Type*}

@[ext] theorem ext {d d' : Dict κ α} (h : d.entries = d'.entries) : d = d' := by
  cases d
  cases d'
  simpa using h

/-- The dictionary with no entry. -/
def empty : Dict κ α := ⟨[], List.nodup_nil⟩

/-- The values, in order. -/
def values (d : Dict κ α) : List α := d.entries.map Prod.snd

variable [DecidableEq κ]

/-- The value at a key. -/
def get? (d : Dict κ α) (k : κ) : Option α := Assoc.get? d.entries k

/-- Set a key, in place where it is present. -/
def set (d : Dict κ α) (k : κ) (v : α) : Dict κ α :=
  ⟨Assoc.set d.entries k v, Assoc.nodup_set d.nodup k v⟩

/-- Delete a key. -/
def erase (d : Dict κ α) (k : κ) : Dict κ α :=
  ⟨Assoc.erase d.entries k, Assoc.nodup_erase d.nodup k⟩

@[simp] theorem get?_empty (k : κ) : (empty : Dict κ α).get? k = none := rfl

@[simp] theorem get?_set_self (d : Dict κ α) (k : κ) (v : α) : (d.set k v).get? k = some v :=
  Assoc.get?_set_self d.entries k v

theorem get?_set_ne (d : Dict κ α) {k k' : κ} (h : k' ≠ k) (v : α) :
    (d.set k v).get? k' = d.get? k' := Assoc.get?_set_ne d.entries h v

theorem get?_set (d : Dict κ α) (k k' : κ) (v : α) :
    (d.set k v).get? k' = if k' = k then some v else d.get? k' := by
  split_ifs with h
  · rw [h, get?_set_self]
  · exact get?_set_ne d h v

@[simp] theorem get?_erase_self (d : Dict κ α) (k : κ) : (d.erase k).get? k = none :=
  Assoc.get?_erase_self d.entries k

theorem get?_erase_ne (d : Dict κ α) {k k' : κ} (h : k' ≠ k) :
    (d.erase k).get? k' = d.get? k' := Assoc.get?_erase_ne d.entries h

theorem get?_erase (d : Dict κ α) (k k' : κ) :
    (d.erase k).get? k' = if k' = k then none else d.get? k' := by
  split_ifs with h
  · rw [h, get?_erase_self]
  · exact get?_erase_ne d h

/-- Keep the entries whose keys meet a condition. -/
def filterKeys (d : Dict κ α) (p : κ → Bool) : Dict κ α :=
  ⟨d.entries.filter fun e => p e.1, d.nodup.sublist (List.Sublist.map _ List.filter_sublist)⟩

theorem get?_filterKeys (d : Dict κ α) (p : κ → Bool) (k : κ) :
    (d.filterKeys p).get? k = if p k then d.get? k else none :=
  Assoc.get?_filter d.entries p k

/-- An entry is found under its key. -/
theorem get?_eq_some_iff (d : Dict κ α) (k : κ) (v : α) :
    d.get? k = some v ↔ (k, v) ∈ d.entries :=
  ⟨Assoc.mem_of_get?_eq_some, Assoc.get?_eq_some_of_mem d.nodup⟩

/-- An entry that the entries are split at is found under its key. -/
theorem get?_of_entries_eq {d : Dict κ α} {l l' : List (κ × α)} {k : κ} {v : α}
    (h : d.entries = l ++ (k, v) :: l') : d.get? k = some v := by
  rw [get?_eq_some_iff, h]
  exact List.mem_append_right l List.mem_cons_self

/-- The values are what the keys have. -/
theorem mem_values_iff (d : Dict κ α) (v : α) : v ∈ d.values ↔ ∃ k, d.get? k = some v := by
  unfold values
  simp only [List.mem_map, get?_eq_some_iff]
  constructor
  · rintro ⟨e, he, rfl⟩
    exact ⟨e.1, he⟩
  · rintro ⟨k, hk⟩
    exact ⟨(k, v), hk, rfl⟩

end Dict

end EnergyStation
