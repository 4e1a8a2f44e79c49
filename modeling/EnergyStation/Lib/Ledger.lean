import Mathlib.Logic.Function.Basic
import Mathlib.Tactic.Common
import Mathlib.Tactic.SplitIfs

/-!
# Commanding many cells over a lossy network

A sender keeps a record of what it last commanded each of many remote cells to hold, and skips a
command that its record says has been carried out. A command is first applied by its receiver, and
then acknowledged or lost; the sender has one command in flight at a time. A cell can also restart
with a value of its own, after which nothing that is recorded about it counts, until someone vouches
for it again.

`Agrees` says that every record that counts is true, where a command that has been applied counts as
recorded. Each operation keeps it (`Agrees.step`), save for two kinds: the loss of an
acknowledgement while another value is recorded, and a restarted cell that is vouched for while its
record is false.
-/

namespace EnergyStation

/-- A sender's records of remote cells, and the cells. -/
structure Ledger (κ α : Type*) where
  /-- What the sender has written down for each cell. -/
  recorded : κ → Option α
  /-- The command that its receiver has applied and the sender has not yet heard of. -/
  applied : Option (κ × α)
  /-- The cells. -/
  cell : κ → α
  /-- The cell has not restarted since it was last vouched for. -/
  trusted : κ → Bool

namespace Ledger

variable {κ α : Type*}

/-- What can happen to the records and the cells. -/
inductive Op (κ α : Type*) where
  /-- A cell receives a command and applies it. -/
  | apply (k : κ) (a : α)
  /-- The command that has been applied is acknowledged. -/
  | acknowledge
  /-- The sender gives up on its command. -/
  | lose
  /-- The sender drops the records of some cells. -/
  | forget (keep : κ → Bool)
  /-- A cell restarts with a value of its own. -/
  | restart (k : κ) (a : α)
  /-- A cell is vouched for. -/
  | vouch (k : κ)

/-- What the sender will have recorded of a cell, once it has heard of the command in flight. -/
def expected [DecidableEq κ] (l : Ledger κ α) (k : κ) : Option α :=
  match l.applied with
  | some (k', a) => if k = k' then some a else l.recorded k
  | none => l.recorded k

/-- One operation. -/
def step [DecidableEq κ] (l : Ledger κ α) : Op κ α → Ledger κ α
  | .apply k a => { l with applied := some (k, a), cell := Function.update l.cell k a }
  | .acknowledge => { l with recorded := l.expected, applied := none }
  | .lose => { l with applied := none }
  | .forget keep => { l with recorded := fun k => if keep k then l.recorded k else none }
  | .restart k a =>
    { l with
      cell := Function.update l.cell k a
      trusted := Function.update l.trusted k false }
  | .vouch k => { l with trusted := Function.update l.trusted k true }

variable [DecidableEq κ]

/-- Every record that counts is true. -/
def Agrees (l : Ledger κ α) : Prop :=
  ∀ k a, l.trusted k = true → l.expected k = some a → l.cell k = a

/-- The operation orphans no record: no acknowledgement is lost while another value is recorded, and
no cell is vouched for while its record is false. Commands are applied one at a time. -/
def Safe (l : Ledger κ α) : Op κ α → Prop
  | .apply _ _ => l.applied = none
  | .lose => ∀ k a, l.applied = some (k, a) → ∀ b, l.recorded k = some b → b = a
  | .vouch k => l.trusted k = false → ∀ a, l.expected k = some a → l.cell k = a
  | _ => True

theorem expected_of_applied {l : Ledger κ α} {k : κ} {a : α} (h : l.applied = some (k, a))
    (k' : κ) : l.expected k' = if k' = k then some a else l.recorded k' := by
  simp only [expected, h]

theorem expected_of_none {l : Ledger κ α} (h : l.applied = none) : l.expected = l.recorded := by
  funext k
  simp only [expected, h]

/-- An acknowledgement that finds no command in flight changes nothing. -/
theorem step_acknowledge_of_none {l : Ledger κ α} (h : l.applied = none) :
    l.step .acknowledge = l := by
  unfold step
  rw [expected_of_none h, ← h]

/-- With no command in flight there is none to lose. -/
theorem step_lose_of_none {l : Ledger κ α} (h : l.applied = none) : l.step .lose = l := by
  unfold step
  rw [← h]

namespace Agrees

variable {l : Ledger κ α}

/-- A command that is applied is recorded as expected. -/
theorem apply (h : l.Agrees) (hnone : l.applied = none) (k : κ) (a : α) :
    (l.step (.apply k a)).Agrees := by
  intro k' b htrusted hexp
  rw [expected_of_applied (l := l.step (.apply k a)) rfl] at hexp
  show Function.update l.cell k a k' = b
  by_cases hk : k' = k
  · rw [if_pos hk] at hexp
    rw [hk, Function.update_self]
    exact Option.some.inj hexp
  · rw [if_neg hk] at hexp
    rw [Function.update_of_ne hk]
    exact h k' b htrusted (by rw [expected_of_none hnone]; exact hexp)

/-- A loss does no harm where the cell that has applied the command has no other value recorded. -/
theorem lose (h : l.Agrees)
    (hrecorded : ∀ k a, l.applied = some (k, a) → ∀ b, l.recorded k = some b → b = a) :
    (l.step .lose).Agrees := by
  intro k b htrusted hexp
  have hrec : l.recorded k = some b := hexp
  cases happ : l.applied with
  | none => exact h k b htrusted (by rw [expected_of_none happ]; exact hrec)
  | some c =>
    obtain ⟨k', a⟩ := c
    have hexp' := expected_of_applied happ k
    by_cases hk : k = k'
    · -- The record of the commanded cell is what has been applied.
      rw [if_pos hk] at hexp'
      have hba : b = a := hrecorded k' a happ b (hk ▸ hrec)
      rw [hba]
      exact h k a htrusted hexp'
    · rw [if_neg hk, hrec] at hexp'
      exact h k b htrusted hexp'

/-- Fewer records are as true. -/
theorem forget (h : l.Agrees) (keep : κ → Bool) : (l.step (.forget keep)).Agrees := by
  intro k b htrusted hexp
  have hrec : ∀ k', (l.step (.forget keep)).recorded k' = some b → l.recorded k' = some b := by
    intro k' hk'
    have hkeep : (if keep k' then l.recorded k' else none) = some b := hk'
    split_ifs at hkeep
    exact hkeep
  refine h k b htrusted ?_
  -- A command in flight is expected as before, whatever is recorded.
  cases happ : l.applied with
  | none =>
    rw [expected_of_none (l := l.step (.forget keep)) happ] at hexp
    rw [expected_of_none happ]
    exact hrec k hexp
  | some c =>
    rw [expected_of_applied (l := l.step (.forget keep)) happ] at hexp
    rw [expected_of_applied happ]
    split_ifs at hexp ⊢
    · exact hexp
    · exact hrec k hexp

/-- A cell that restarts is not trusted any more. -/
theorem restart (h : l.Agrees) (k : κ) (a : α) : (l.step (.restart k a)).Agrees := by
  intro k' b htrusted hexp
  have hk : k' ≠ k := by
    rintro rfl
    have hfalse : Function.update l.trusted k' false k' = true := htrusted
    rw [Function.update_self] at hfalse
    exact Bool.false_ne_true hfalse
  have htrusted' : l.trusted k' = true := by
    rw [← htrusted]
    exact (Function.update_of_ne hk false l.trusted).symm
  show Function.update l.cell k a k' = b
  rw [Function.update_of_ne hk]
  exact h k' b htrusted' hexp

/-- A cell that has what is expected of it can be vouched for. -/
theorem vouch (h : l.Agrees) {k : κ}
    (hcell : l.trusted k = false → ∀ a, l.expected k = some a → l.cell k = a) :
    (l.step (.vouch k)).Agrees := by
  intro k' b htrusted hexp
  cases hk' : l.trusted k' with
  | true => exact h k' b hk' hexp
  | false =>
    -- Only the cell that is vouched for has become trusted.
    have hk : k' = k := by
      by_contra hne
      have hsame : Function.update l.trusted k true k' = l.trusted k' :=
        Function.update_of_ne hne true l.trusted
      have htrue : Function.update l.trusted k true k' = true := htrusted
      rw [hsame, hk'] at htrue
      exact Bool.false_ne_true htrue
    rw [hk] at hk' hexp ⊢
    exact hcell hk' b hexp

/-- A safe operation keeps the records true. -/
theorem step (h : l.Agrees) {o : Op κ α} (ho : l.Safe o) : (l.step o).Agrees := by
  cases o with
  | apply k a => exact h.apply ho k a
  | acknowledge => exact h
  | lose => exact h.lose ho
  | forget keep => exact h.forget keep
  | restart k a => exact h.restart k a
  | vouch k => exact h.vouch ho

end Agrees

end Ledger

end EnergyStation
