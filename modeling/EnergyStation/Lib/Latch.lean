import Mathlib.Order.Lattice

/-!
# A hysteresis latch and its history

A latch is set by a value at or above an upper threshold, released by a value at or below a lower
one, and otherwise keeps what it was. `Latched` is the same notion read off the history of the
values alone: some value reached the upper threshold, and none since came down to the lower one.
`update_iff_latched` says that updating the latch on every new value keeps the two equal.
-/

namespace EnergyStation.Latch

variable {α : Type*} [LinearOrder α]

/-- One update of the latch: set at `hi` and above, released at `lo` and below, kept between. -/
def update (lo hi : α) (locked : Bool) (x : α) : Bool :=
  if hi ≤ x ∧ locked = false then true
  else if x ≤ lo ∧ locked = true then false
  else locked

/-- Some value of the history, oldest first, reached `hi`, and no value since was at `lo` or
below. -/
def Latched (lo hi : α) (hist : List α) : Prop :=
  ∃ pre x post, hist = pre ++ x :: post ∧ hi ≤ x ∧ ∀ y ∈ post, lo < y

theorem update_eq_true {lo hi : α} (h : lo < hi) (locked : Bool) (x : α) :
    update lo hi locked x = true ↔ hi ≤ x ∨ (locked = true ∧ lo < x) := by
  cases locked with
  | false => simp [update]
  | true =>
    have hx : ¬ x ≤ lo ↔ lo < x := not_le
    simp only [update, Bool.true_eq_false, and_false, if_false, and_true, true_and]
    split_ifs with hlo
    · simp only [false_iff, not_or, not_le, not_lt]
      exact ⟨lt_of_le_of_lt hlo h, hlo⟩
    · simp only [true_iff]
      exact Or.inr (hx.mp hlo)

theorem not_latched_nil (lo hi : α) : ¬ Latched lo hi [] := by
  rintro ⟨pre, x, post, h, -⟩
  simp at h

/-- A history with one more value is latched when that value sets the latch, or when the latch was
set and the value does not release it. -/
theorem latched_concat {lo hi : α} (hist : List α) (x : α) :
    Latched lo hi (hist ++ [x]) ↔ hi ≤ x ∨ (Latched lo hi hist ∧ lo < x) := by
  constructor
  · rintro ⟨pre, y, post, heq, hy, hpost⟩
    rcases List.eq_nil_or_concat post with rfl | ⟨post, z, rfl⟩
    · -- The value that set the latch is the new one.
      have h := List.append_inj' heq rfl
      simp only [List.cons.injEq, and_true] at h
      exact Or.inl (h.2 ▸ hy)
    · -- It is an older one, and the new value is the last of those since.
      rw [List.concat_eq_append] at heq hpost
      rw [← List.cons_append, ← List.append_assoc] at heq
      have h := List.append_inj' heq rfl
      simp only [List.cons.injEq, and_true] at h
      refine Or.inr ⟨⟨pre, y, post, h.1, hy, fun w hw => hpost w (by simp [hw])⟩, ?_⟩
      rw [h.2]
      exact hpost z (by simp)
  · rintro (hx | ⟨⟨pre, y, post, rfl, hy, hpost⟩, hx⟩)
    · exact ⟨hist, x, [], rfl, hx, by simp⟩
    · refine ⟨pre, y, post ++ [x], by simp, hy, fun w hw => ?_⟩
      rcases List.mem_append.mp hw with hw | hw
      · exact hpost w hw
      · rw [List.mem_singleton.mp hw]
        exact hx

/-- A latch that agrees with the history agrees with it after one more value. -/
theorem update_iff_latched {lo hi : α} (h : lo < hi) {locked : Bool} {hist : List α}
    (hl : locked = true ↔ Latched lo hi hist) (x : α) :
    update lo hi locked x = true ↔ Latched lo hi (hist ++ [x]) := by
  rw [update_eq_true h, latched_concat, hl]

/-- A latch that agrees with the history and with the history's last value also agrees when that
value is seen again without an update. -/
theorem iff_latched_repeat {lo hi : α} {locked : Bool} {hist : List α} {x : α}
    (hl : locked = true ↔ Latched lo hi hist) (hset : hi ≤ x → locked = true)
    (hrel : x ≤ lo → locked = false) : locked = true ↔ Latched lo hi (hist ++ [x]) := by
  rw [latched_concat, ← hl]
  constructor
  · intro h
    refine Or.inr ⟨h, not_le.mp fun hx => ?_⟩
    simp [hrel hx] at h
  · rintro (hx | ⟨h, -⟩)
    · exact hset hx
    · exact h

end EnergyStation.Latch
