import EnergyStation.Lib.Runs
import Mathlib.Algebra.Order.Group.Defs
import Mathlib.Algebra.Order.Monoid.NatCast
import Mathlib.Tactic.Abel

/-!
# Slow measures

A measure of the state that no step raises by more than `δ`, and no step lowers by more than `δ'`,
needs time to get from one value to another. The first two rules count the steps. Where a kind of
step uses the measure up and another kind renews it, `count_add_le` bounds the number of the first
by the number of the second.
-/

namespace EnergyStation.Runs

variable {σ ε α : Type*} [AddCommGroup α] [PartialOrder α] [IsOrderedAddMonoid α]
variable {step : σ → ε → σ} {I : σ → Prop} {f : σ → α} {δ : α}

/-- What a step raises by at most `δ`, a run raises by at most that for each of its steps. -/
theorem run_le_add_nsmul (hI : ∀ s e, I s → I (step s e))
    (hstep : ∀ s e, I s → f (step s e) ≤ f s + δ) {s : σ} (hs : I s) (es : List ε) :
    f (run step s es) ≤ f s + es.length • δ := by
  induction es generalizing s with
  | nil => simp
  | cons e es ih =>
    calc f (run step s (e :: es)) ≤ f (step s e) + es.length • δ := ih (hI s e hs)
      _ ≤ f s + δ + es.length • δ := by gcongr; exact hstep s e hs
      _ = f s + (e :: es).length • δ := by
          rw [List.length_cons, succ_nsmul]
          abel

/-- What a step lowers by at most `δ`, a run lowers by at most that for each of its steps. -/
theorem le_run_add_nsmul (hI : ∀ s e, I s → I (step s e))
    (hstep : ∀ s e, I s → f s ≤ f (step s e) + δ) {s : σ} (hs : I s) (es : List ε) :
    f s ≤ f (run step s es) + es.length • δ := by
  induction es generalizing s with
  | nil => simp
  | cons e es ih =>
    calc f s ≤ f (step s e) + δ := hstep s e hs
      _ ≤ f (run step (step s e) es) + es.length • δ + δ := by gcongr; exact ih (hI s e hs)
      _ = f (run step s (e :: es)) + (e :: es).length • δ := by
          rw [run_cons, List.length_cons, succ_nsmul]
          abel

/-- Steps that use up one unit of what only other steps add are no more than those steps and the
first stock. -/
theorem count_add_le {p q : σ → ε → Bool} {stock : σ → ℕ} (hI : ∀ s e, I s → I (step s e))
    (hstep : ∀ s e, I s →
      (if p s e then 1 else 0) + stock (step s e) ≤ stock s + (if q s e then 1 else 0))
    {s : σ} (hs : I s) (es : List ε) :
    count step p s es + stock (run step s es) ≤ stock s + count step q s es := by
  induction es generalizing s with
  | nil => simp [count]
  | cons e es ih =>
    have hhead := hstep s e hs
    have htail := ih (hI s e hs)
    rw [count, count, run_cons]
    omega

end EnergyStation.Runs
