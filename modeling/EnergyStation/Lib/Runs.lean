import Mathlib.Data.List.Basic
import Mathlib.Data.List.Induction
import Mathlib.Logic.Function.Iterate

/-!
# Runs of a transition function

A program that answers one event after another is a function `step : σ → ε → σ`. `run` folds it
over a list of events, `visited` lists the states it passes through, and `Along` says that every
step of a run meets a condition that is read at the state before the step. The two rules that the
developments below use are `run_invariant`, which carries an invariant along a run whose steps meet
a condition, and `along_of_invariant`, which turns what one step gives under the invariant into what
every step of a run gives. `exists_leave` and `exists_enter` find the step in which a run changed
something.
-/

namespace EnergyStation.Runs

variable {σ τ ε δ : Type*}

/-- The state after the events `es`, handled in order from `s`. -/
def run (step : σ → ε → σ) (s : σ) (es : List ε) : σ := es.foldl step s

/-- The states a run passes through, its first and its last included. -/
def visited (step : σ → ε → σ) : σ → List ε → List σ
  | s, [] => [s]
  | s, e :: es => s :: visited step (step s e) es

/-- Every step of the run from `s` meets `C`, read at the state before the step. -/
def Along (step : σ → ε → σ) (C : σ → ε → Prop) : σ → List ε → Prop
  | _, [] => True
  | s, e :: es => C s e ∧ Along step C (step s e) es

variable {step : σ → ε → σ}

@[simp] theorem run_nil (s : σ) : run step s [] = s := rfl

@[simp] theorem run_cons (s : σ) (e : ε) (es : List ε) :
    run step s (e :: es) = run step (step s e) es := rfl

/-- A run in two parts. -/
theorem run_append (s : σ) (es fs : List ε) :
    run step s (es ++ fs) = run step (run step s es) fs := List.foldl_append

/-- A run that is one event longer. -/
theorem run_concat (s : σ) (es : List ε) (e : ε) :
    run step s (es ++ [e]) = step (run step s es) e := by
  rw [run_append, run_cons, run_nil]

/-- The last state visited is the state reached. -/
theorem visited_concat (s : σ) (es : List ε) (e : ε) :
    visited step s (es ++ [e]) = visited step s es ++ [run step s (es ++ [e])] := by
  induction es generalizing s with
  | nil => rfl
  | cons e' es ih =>
    simp only [List.cons_append, visited, run_cons]
    rw [ih (step s e')]

/-- A run passes through the states that its beginnings end in. -/
theorem mem_visited_iff {s t : σ} {es : List ε} :
    t ∈ visited step s es ↔ ∃ es', es' <+: es ∧ t = run step s es' := by
  induction es generalizing s with
  | nil =>
    simp only [visited, List.mem_singleton, List.prefix_nil, exists_eq_left]
    rfl
  | cons e es ih =>
    simp only [visited, List.mem_cons, ih]
    constructor
    · rintro (rfl | ⟨es', hes', rfl⟩)
      · exact ⟨[], List.nil_prefix, rfl⟩
      · exact ⟨e :: es', List.cons_prefix_cons.mpr ⟨rfl, hes'⟩, rfl⟩
    · rintro ⟨es', hes', rfl⟩
      cases es' with
      | nil => exact .inl rfl
      | cons e' es' =>
        obtain ⟨rfl, htail⟩ := List.cons_prefix_cons.mp hes'
        exact .inr ⟨es', htail, rfl⟩

@[simp] theorem along_nil (C : σ → ε → Prop) (s : σ) : Along step C s [] := trivial

@[simp] theorem along_cons (C : σ → ε → Prop) (s : σ) (e : ε) (es : List ε) :
    Along step C s (e :: es) ↔ C s e ∧ Along step C (step s e) es := Iff.rfl

/-- A condition along a run in two parts. -/
theorem along_append (C : σ → ε → Prop) (s : σ) (es fs : List ε) :
    Along step C s (es ++ fs) ↔ Along step C s es ∧ Along step C (run step s es) fs := by
  induction es generalizing s with
  | nil => simp
  | cons e es ih => simp [ih, and_assoc]

/-- Two conditions that agree at every step agree along every run. -/
theorem along_congr {C D : σ → ε → Prop} (h : ∀ s e, C s e ↔ D s e) (s : σ) (es : List ε) :
    Along step C s es ↔ Along step D s es := by
  induction es generalizing s with
  | nil => simp
  | cons e es ih => rw [along_cons, along_cons, h s e, ih]

/-- What holds of every step holds along every run. -/
theorem along_of_forall {P : σ → ε → Prop} (h : ∀ s e, P s e) (s : σ) (es : List ε) :
    Along step P s es := by
  induction es generalizing s with
  | nil => exact along_nil P s
  | cons e es ih => exact ⟨h s e, ih (step s e)⟩

/-- What holds of every event of a run holds along it. -/
theorem along_of_forall_mem {p : ε → Prop} {s : σ} {es : List ε} (h : ∀ e ∈ es, p e) :
    Along step (fun _ e => p e) s es := by
  induction es generalizing s with
  | nil => trivial
  | cons e es ih =>
    exact ⟨h e List.mem_cons_self, ih fun e' he' => h e' (List.mem_cons_of_mem e he')⟩

/-- An invariant that each step keeps, where the step meets `C`, holds after a run whose steps all
meet `C`. -/
theorem run_invariant {I : σ → Prop} {C : σ → ε → Prop}
    (hstep : ∀ s e, I s → C s e → I (step s e)) {s : σ} {es : List ε} (hs : I s)
    (hC : Along step C s es) : I (run step s es) := by
  induction es generalizing s with
  | nil => exact hs
  | cons e es ih => exact ih (hstep s e hs hC.1) hC.2

/-- An invariant that every step keeps holds after every run. -/
theorem run_invariant' {I : σ → Prop} (hstep : ∀ s e, I s → I (step s e)) {s : σ} (hs : I s)
    (es : List ε) : I (run step s es) := by
  induction es generalizing s with
  | nil => exact hs
  | cons e es ih => exact ih (hstep s e hs)

/-- An invariant that each step keeps, where the step meets `C`, holds in every state of a run whose
steps all meet `C`. -/
theorem visited_invariant {I : σ → Prop} {C : σ → ε → Prop}
    (hstep : ∀ s e, I s → C s e → I (step s e)) {s : σ} {es : List ε} (hs : I s)
    (hC : Along step C s es) : ∀ t ∈ visited step s es, I t := by
  intro t ht
  obtain ⟨es', ⟨fs, rfl⟩, rfl⟩ := mem_visited_iff.mp ht
  exact run_invariant hstep hs ((along_append C s es' fs).mp hC).1

/-- A step that leads to a state of the set meets `C`, so a run through such states meets it. -/
theorem along_of_visited {I : σ → Prop} {C : σ → ε → Prop} (hstep : ∀ s e, I (step s e) → C s e)
    {s : σ} {es : List ε} (h : ∀ t ∈ visited step s es, I t) : Along step C s es := by
  induction es generalizing s with
  | nil => exact along_nil C s
  | cons e es ih =>
    have htail : ∀ t ∈ visited step (step s e) es, I t := fun t ht =>
      h t (List.mem_cons_of_mem s ht)
    exact ⟨hstep s e (htail _ (mem_visited_iff.mpr ⟨[], List.nil_prefix, rfl⟩)), ih htail⟩

/-- A condition along a run is one on every step of it. -/
theorem along_iff_at_every_step {C : σ → ε → Prop} {s : σ} {es : List ε} :
    Along step C s es ↔ ∀ pre e, pre ++ [e] <+: es → C (run step s pre) e := by
  induction es generalizing s with
  | nil => simp
  | cons e es ih =>
    rw [along_cons, ih]
    constructor
    · rintro ⟨hhead, htail⟩ pre e' hpre
      cases pre with
      | nil =>
        obtain ⟨rfl, -⟩ := List.cons_prefix_cons.mp hpre
        exact hhead
      | cons e'' pre =>
        obtain ⟨rfl, hrest⟩ := List.cons_prefix_cons.mp hpre
        exact htail pre e' hrest
    · intro h
      refine ⟨h [] e (List.cons_prefix_cons.mpr ⟨rfl, List.nil_prefix⟩), fun pre e' hpre => ?_⟩
      exact h (e :: pre) e' (List.cons_prefix_cons.mpr ⟨rfl, hpre⟩)

/-- A condition along a run together with one that every event meets. -/
theorem along_and {C : σ → ε → Prop} {p : ε → Prop} {s : σ} {es : List ε} (hp : ∀ e ∈ es, p e)
    (hC : Along step C s es) : Along step (fun s e => p e ∧ C s e) s es := by
  induction es generalizing s with
  | nil => trivial
  | cons e es ih =>
    exact ⟨⟨hp e List.mem_cons_self, hC.1⟩,
      ih (fun e' he' => hp e' (List.mem_cons_of_mem e he')) hC.2⟩

/-- What a step gives under an invariant, where the step meets `C`, every step of a run gives whose
steps all meet `C`. -/
theorem along_of_invariant {I : σ → Prop} {C P : σ → ε → Prop}
    (hstep : ∀ s e, I s → C s e → I (step s e) ∧ P s e) {s : σ} {es : List ε} (hs : I s)
    (hC : Along step C s es) : Along step P s es := by
  induction es generalizing s with
  | nil => exact along_nil P s
  | cons e es ih =>
    obtain ⟨hI, hP⟩ := hstep s e hs hC.1
    exact ⟨hP, ih hI hC.2⟩

/-- Under an invariant, a condition that is at every step what the step needs is along every run
what the run needs, since it also keeps the invariant. -/
theorem along_iff_of_invariant {I : σ → Prop} {C P : σ → ε → Prop}
    (hiff : ∀ s e, I s → (C s e ↔ P s e)) (hstep : ∀ s e, I s → C s e → I (step s e)) {s : σ}
    (hs : I s) (es : List ε) : Along step C s es ↔ Along step P s es := by
  induction es generalizing s with
  | nil => simp
  | cons e es ih =>
    rw [along_cons, along_cons, ← hiff s e hs]
    exact and_congr_right fun hC => ih (hstep s e hs hC)

/-- How many steps of the run from `s` are of the kind `p`, read at the state before the step. -/
def count (step : σ → ε → σ) (p : σ → ε → Bool) : σ → List ε → ℕ
  | _, [] => 0
  | s, e :: es => (if p s e then 1 else 0) + count step p (step s e) es

/-- A measure that grows with every counted step bounds their number, in a run that stays in a set
of states. -/
theorem add_count_le {p : σ → ε → Bool} {P : σ → Prop} {f : σ → ℕ}
    (hstep : ∀ s e, P s → P (step s e) → f s + (if p s e then 1 else 0) ≤ f (step s e))
    {s : σ} {es : List ε} (h : ∀ t ∈ visited step s es, P t) :
    f s + count step p s es ≤ f (run step s es) := by
  induction es generalizing s with
  | nil => exact Nat.le_refl (f s)
  | cons e es ih =>
    have htail : ∀ t ∈ visited step (step s e) es, P t := fun t ht =>
      h t (List.mem_cons_of_mem s ht)
    have hhead := hstep s e (h s (mem_visited_iff.mpr ⟨[], List.nil_prefix, rfl⟩))
      (htail _ (mem_visited_iff.mpr ⟨[], List.nil_prefix, rfl⟩))
    have hrest := ih htail
    rw [count, run_cons]
    omega

/-- A run that leaves a set of states does so in one of its steps. -/
theorem exists_leave {P : σ → Prop} {s : σ} {es : List ε} (hs : P s) (h : ¬ P (run step s es)) :
    ∃ pre e post, es = pre ++ e :: post ∧ P (run step s pre) ∧ ¬ P (run step s (pre ++ [e])) := by
  induction es generalizing s with
  | nil => exact absurd hs h
  | cons e es ih =>
    by_cases he : P (step s e)
    · obtain ⟨pre, e', post, rfl, hpre, hleave⟩ := ih he h
      exact ⟨e :: pre, e', post, rfl, hpre, hleave⟩
    · exact ⟨[], e, es, rfl, hs, he⟩

/-- A run that gets into a set of states has done so in one of its steps, and has stayed there since
the last of them. -/
theorem exists_enter {P : σ → Prop} {s : σ} {es : List ε} (hs : ¬ P s) (h : P (run step s es)) :
    ∃ pre e post, es = pre ++ e :: post ∧ ¬ P (run step s pre) ∧
      ∀ t ∈ visited step (run step s (pre ++ [e])) post, P t := by
  induction es using List.reverseRecOn with
  | nil => exact absurd h hs
  | append_singleton es e ih =>
    by_cases hbefore : P (run step s es)
    · obtain ⟨pre, e', post, rfl, hpre, hpost⟩ := ih hbefore
      refine ⟨pre, e', post ++ [e], by simp, hpre, fun t ht => ?_⟩
      rw [visited_concat] at ht
      rcases List.mem_append.mp ht with ht | ht
      · exact hpost t ht
      · rw [List.mem_singleton.mp ht, ← run_append, List.append_assoc]
        simpa using h
    · refine ⟨es, e, [], rfl, hbefore, fun t ht => ?_⟩
      rw [List.mem_singleton.mp ht]
      exact h

/-- A projection of the state that follows a smaller machine on the events the machine sees, and
that no other event moves, is the smaller machine's state after those events. -/
theorem run_project {step' : τ → δ → τ} (f : σ → τ) (g : ε → Option δ)
    (hsome : ∀ s e d, g e = some d → f (step s e) = step' (f s) d)
    (hnone : ∀ s e, g e = none → f (step s e) = f s) (s : σ) (es : List ε) :
    f (run step s es) = run step' (f s) (es.filterMap g) := by
  induction es generalizing s with
  | nil => rfl
  | cons e es ih =>
    rw [run_cons, ih]
    cases hg : g e with
    | none => rw [hnone s e hg, List.filterMap_cons_none hg]
    | some d => rw [hsome s e d hg, List.filterMap_cons_some hg, run_cons]

/-- A program that runs on by itself gets from `s` to a state of a set. -/
def Reaches (next : σ → σ) (P : σ → Prop) (s : σ) : Prop := ∃ n, P (next^[n] s)

/-- The set is reached at once, or after a step. -/
theorem reaches_iff {next : σ → σ} {P : σ → Prop} {s : σ} :
    Reaches next P s ↔ P s ∨ Reaches next P (next s) := by
  constructor
  · rintro ⟨n, hn⟩
    cases n with
    | zero => exact .inl hn
    | succ n => exact .inr ⟨n, hn⟩
  · rintro (h | ⟨n, hn⟩)
    · exact ⟨0, h⟩
    · exact ⟨n + 1, hn⟩

/-- A state that is not in the set moves on. -/
theorem reaches_step {next : σ → σ} {P : σ → Prop} {s : σ} (h : ¬ P s) :
    Reaches next P s ↔ Reaches next P (next s) := by
  rw [reaches_iff, or_iff_right h]

/-- A program that has stopped outside the set does not reach it. -/
theorem not_reaches_of_stopped {next : σ → σ} {P : σ → Prop} {s : σ} (hstop : next s = s)
    (h : ¬ P s) : ¬ Reaches next P s := by
  rintro ⟨n, hn⟩
  rw [Function.iterate_fixed hstop] at hn
  exact h hn

end EnergyStation.Runs
