import Mathlib.Algebra.Order.Group.Defs
import Mathlib.Algebra.Order.Group.MinMax
import Mathlib.Algebra.Order.Field.Basic
import Mathlib.Algebra.BigOperators.Group.List.Basic
import Mathlib.Algebra.Order.Ring.Rat
import Mathlib.Algebra.Field.Rat
import Mathlib.Data.List.DropRight
import Mathlib.Data.List.Induction
import Mathlib.Tactic.Ring

/-!
# Running minimum and bounded window

A stream of measurements is often reduced in two steps: each value less the smallest one seen so far
(`excess`), and then the mean of the last few results (`List.rtake`, `mean`). Both are kept
incrementally by a program, as a minimum that is lowered (`lower`) and a bounded queue (`push`). The
lemmas say that the incremental form is the batch form (`excessFrom_concat`, `push_rtake`), and that
the excess of a stream does not see a constant added to all of it (`excess_map_add`).
-/

namespace EnergyStation.Window

section Queue

variable {α : Type*}

/-- A queue of at most `n` elements takes one more, and drops its oldest where it is full. -/
def push (n : ℕ) (w : List α) (x : α) : List α := (w ++ [x]).rtake n

theorem length_rtake (n : ℕ) (l : List α) : (l.rtake n).length = min n l.length := by
  rw [List.rtake_eq_reverse_take_reverse, List.length_reverse, List.length_take,
    List.length_reverse]

/-- The last elements of a list are elements of it. -/
theorem mem_of_mem_rtake {n : ℕ} {l : List α} {x : α} (h : x ∈ l.rtake n) : x ∈ l :=
  List.mem_of_mem_drop h

theorem rtake_map {β : Type*} (f : α → β) (n : ℕ) (l : List α) :
    (l.map f).rtake n = (l.rtake n).map f := by
  simp only [List.rtake_eq_reverse_take_reverse, List.map_reverse, List.map_take]

/-- The last `n` elements of a list are those of its end, where that is long enough. -/
theorem rtake_append_of_le {n : ℕ} {post : List α} (h : n ≤ post.length) (pre : List α) :
    (pre ++ post).rtake n = post.rtake n := by
  simp only [List.rtake_eq_reverse_take_reverse, List.reverse_append]
  rw [List.take_append_of_le_length (by rwa [List.length_reverse])]

/-- A list that ends with `n` elements has them as its last `n`. -/
theorem rtake_append {n : ℕ} {pre post : List α} (h : post.length = n) :
    (pre ++ post).rtake n = post := by
  rw [List.rtake_eq_reverse_take_reverse, List.reverse_append,
    List.take_left' (by rw [List.length_reverse, h]), List.reverse_reverse]

/-- Where a condition holds of the last `n` elements, keeping only what meets it keeps them the
last. -/
theorem rtake_filter {n : ℕ} {p : α → Bool} {l : List α} (h : ∀ x ∈ l.rtake n, p x = true) :
    (l.filter p).rtake n = l.rtake n := by
  have hsplit : l.take (l.length - n) ++ l.rtake n = l := List.take_append_drop _ l
  have hlast : (l.rtake n).filter p = l.rtake n := List.filter_eq_self.mpr h
  rcases le_or_gt n l.length with hn | hn
  · have hlength : (l.rtake n).length = n := by
      rw [length_rtake]
      omega
    calc (l.filter p).rtake n
        = ((l.take (l.length - n)).filter p ++ l.rtake n).rtake n := by
          conv_lhs => rw [← hsplit, List.filter_append, hlast]
      _ = l.rtake n := rtake_append hlength
  · -- The last elements are all of them.
    have hall : l.rtake n = l := by
      rw [List.rtake, show l.length - n = 0 by omega, List.drop_zero]
    rw [hall] at hlast
    rw [hlast]

/-- Pushing on the last `n` elements of a stream keeps them the last `n` elements. -/
theorem push_rtake (n : ℕ) (l : List α) (x : α) : push n (l.rtake n) x = (l ++ [x]).rtake n := by
  unfold push
  cases n with
  | zero => simp
  | succ n =>
    rw [List.rtake_concat_succ, List.rtake_concat_succ]
    simp only [List.rtake_eq_reverse_take_reverse, List.reverse_reverse, List.take_take]
    rw [Nat.min_eq_left (Nat.le_succ n)]

end Queue

section Excess

variable {α : Type*} [LinearOrder α]

/-- The smaller of a value and the minimum so far, if there is one. -/
def lower (m : Option α) (x : α) : α := m.elim x fun m => min m x

/-- The minimum after more values. -/
def runMin (m : Option α) (l : List α) : Option α := l.foldl (fun m x => some (lower m x)) m

@[simp] theorem runMin_nil (m : Option α) : runMin m [] = m := rfl

theorem runMin_concat (m : Option α) (l : List α) (x : α) :
    runMin m (l ++ [x]) = some (lower (runMin m l) x) := by
  simp [runMin, List.foldl_append]

theorem lower_le (m : Option α) (x : α) : lower m x ≤ x := by
  cases m with
  | none => exact le_refl x
  | some m => exact min_le_right m x

/-- The minimum of a stream is one of its values, and no value is below it. -/
theorem runMin_eq_some_iff (l : List α) (v : α) :
    runMin none l = some v ↔ v ∈ l ∧ ∀ y ∈ l, v ≤ y := by
  induction l using List.reverseRecOn generalizing v with
  | nil => simp
  | append_singleton l x ih =>
    rw [runMin_concat, Option.some_inj]
    simp only [List.mem_append, List.mem_singleton]
    cases hm : runMin none l with
    | none =>
      have hl : l = [] := by
        rcases List.eq_nil_or_concat l with rfl | ⟨l', y, rfl⟩
        · rfl
        · simp [List.concat_eq_append, runMin_concat] at hm
      subst hl
      simp only [lower, Option.elim_none, List.not_mem_nil, false_or, forall_eq]
      exact ⟨fun h => ⟨h.symm, h.symm.le⟩, fun h => h.1.symm⟩
    | some m =>
      obtain ⟨hmem, hle⟩ := (ih m).mp hm
      simp only [lower, Option.elim_some]
      constructor
      · rintro rfl
        refine ⟨?_, ?_⟩
        · rcases min_choice m x with h | h <;> rw [h]
          · exact Or.inl hmem
          · exact Or.inr rfl
        · rintro y (hy | rfl)
          · exact le_trans (min_le_left m x) (hle y hy)
          · exact min_le_right m y
      · rintro ⟨hv, hall⟩
        apply le_antisymm
        · rcases hv with hv | rfl
          · exact le_trans (min_le_left m x) (hle v hv)
          · exact min_le_right m v
        · exact le_min (hall m (Or.inl hmem)) (hall x (Or.inr rfl))

/-- The running minimum of a stream is its minimum. -/
theorem runMin_none (l : List α) : runMin none l = l.min? :=
  Option.ext fun v => (runMin_eq_some_iff l v).trans List.min?_eq_some_iff.symm

/-- The minimum after one more value is one of the values, and no value is below it. -/
theorem lower_runMin_spec (l : List α) (x : α) :
    lower (runMin none l) x ∈ l ++ [x] ∧ ∀ y ∈ l ++ [x], lower (runMin none l) x ≤ y :=
  (runMin_eq_some_iff (l ++ [x]) _).mp (runMin_concat none l x)

variable [AddCommGroup α]

/-- Each value less the minimum so far, from a first minimum `m`. -/
def excessFrom (m : Option α) : List α → List α
  | [] => []
  | x :: l => (x - lower m x) :: excessFrom (some (lower m x)) l

/-- Each value less the smallest one up to it. -/
def excess (l : List α) : List α := excessFrom none l

/-- The excess of a later part of a stream is taken from the minimum of the earlier part. -/
theorem excessFrom_append (m : Option α) (l l' : List α) :
    excessFrom m (l ++ l') = excessFrom m l ++ excessFrom (runMin m l) l' := by
  induction l generalizing m with
  | nil => rfl
  | cons y l ih =>
    simp only [List.cons_append, excessFrom]
    rw [ih (some (lower m y))]
    rfl

/-- The excess of one more value is taken from the minimum of all of them. -/
theorem excessFrom_concat (m : Option α) (l : List α) (x : α) :
    excessFrom m (l ++ [x]) = excessFrom m l ++ [x - lower (runMin m l) x] :=
  excessFrom_append m l [x]

/-- The excess of increasing values is taken from the minimum at the first of them. -/
theorem excessFrom_of_pairwise {m : Option α} {x : α} {l : List α}
    (h : (x :: l).Pairwise (· ≤ ·)) :
    excessFrom m (x :: l) = (x :: l).map (· - lower m x) := by
  have hfrom : ∀ (l : List α) (c : α), (∀ y ∈ l, c ≤ y) →
      excessFrom (some c) l = l.map (· - c) := by
    intro l
    induction l with
    | nil => intro c _; rfl
    | cons y l ih =>
      intro c hc
      have hlow : lower (some c) y = c := min_eq_left (hc y List.mem_cons_self)
      rw [excessFrom, hlow, ih c fun z hz => hc z (List.mem_cons_of_mem y hz), List.map_cons]
  rw [excessFrom, List.map_cons]
  rw [hfrom l (lower m x)]
  intro y hy
  exact (lower_le m x).trans ((List.pairwise_cons.mp h).1 y hy)

theorem length_excessFrom (m : Option α) (l : List α) : (excessFrom m l).length = l.length := by
  induction l generalizing m with
  | nil => rfl
  | cons x l ih => simp [excessFrom, ih]

variable [IsOrderedAddMonoid α]

/-- No value is below the minimum up to it. -/
theorem excess_nonneg {l : List α} : ∀ d ∈ excess l, 0 ≤ d := by
  induction l using List.reverseRecOn with
  | nil => simp [excess, excessFrom]
  | append_singleton l x ih =>
    intro d hd
    rw [excess, excessFrom_concat] at hd
    rcases List.mem_append.mp hd with hd | hd
    · exact ih d hd
    · rw [List.mem_singleton.mp hd]
      exact sub_nonneg.mpr (lower_le _ _)

/-- Where the values are within two bounds, no excess is larger than the distance of the bounds. -/
theorem excess_le {l : List α} {a b : α} (h : ∀ x ∈ l, a ≤ x ∧ x ≤ b) :
    ∀ d ∈ excess l, d ≤ b - a := by
  have hfrom : ∀ (l : List α) (m : Option α), (∀ m' ∈ m, a ≤ m') →
      (∀ x ∈ l, a ≤ x ∧ x ≤ b) → ∀ d ∈ excessFrom m l, d ≤ b - a := by
    intro l
    induction l with
    | nil => simp [excessFrom]
    | cons x l ih =>
      intro m hm hl d hd
      obtain ⟨hax, hxb⟩ := hl x List.mem_cons_self
      have hlow : a ≤ lower m x := by
        cases m with
        | none => exact hax
        | some m' => exact le_min (hm m' rfl) hax
      rcases List.mem_cons.mp hd with rfl | hd
      · exact sub_le_sub hxb hlow
      · refine ih (some (lower m x)) ?_ (fun y hy => hl y (List.mem_cons_of_mem x hy)) d hd
        intro m' hm'
        rw [← Option.some.inj hm']
        exact hlow
  exact hfrom l none (fun m' hm' => nomatch hm') h

theorem lower_map_add (m : Option α) (x c : α) :
    lower (m.map (· + c)) (x + c) = lower m x + c := by
  cases m with
  | none => rfl
  | some m => exact min_add_add_right m x c

/-- A constant added to every value does not change the excess. -/
theorem excess_map_add (l : List α) (c : α) : excess (l.map (· + c)) = excess l := by
  have h : ∀ (l : List α) (m : Option α),
      excessFrom (m.map (· + c)) (l.map (· + c)) = excessFrom m l := by
    intro l
    induction l with
    | nil => intro m; rfl
    | cons x l ih =>
      intro m
      simp only [List.map_cons, excessFrom, lower_map_add]
      have hc : (some (lower m x + c) : Option α) = (some (lower m x)).map (· + c) := rfl
      rw [add_sub_add_right_eq_sub, hc, ih]
  exact h l none

end Excess

/-- The mean of a list of rationals, which is zero for the empty list. -/
def mean (l : List ℚ) : ℚ := l.sum / l.length

end EnergyStation.Window
