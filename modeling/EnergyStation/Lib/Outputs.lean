import EnergyStation.Lib.Runs
import Mathlib.Algebra.GroupWithZero.Nat

/-!
# Runs with outputs

A step of a program may put something out, and what it puts out depends on the state. `outputs`
collects what a run puts out, in order. `exists_rounds` is the rule for a program that works in
rounds of several steps each: if every step continues the round under way or completes it as one
step of a coarser machine, then the events of every run fall into one block for each round, in
order, and the rest of a last round that is not complete (`InBlocks`). `le_add_sum_outputs` is the
rule for a measure that the outputs pay for.
-/

namespace EnergyStation.Runs

variable {σ τ ε ρ α : Type*}

/-- What a run puts out, where a step from `s` at `e` puts out `out s e`. -/
def outputs (step : σ → ε → σ) (out : σ → ε → List α) : σ → List ε → List α
  | _, [] => []
  | s, e :: es => out s e ++ outputs step out (step s e) es

variable {step : σ → ε → σ} {out : σ → ε → List α}

@[simp] theorem outputs_nil (s : σ) : outputs step out s [] = [] := rfl

@[simp] theorem outputs_cons (s : σ) (e : ε) (es : List ε) :
    outputs step out s (e :: es) = out s e ++ outputs step out (step s e) es := rfl

/-- The outputs of a run in two parts. -/
theorem outputs_append (s : σ) (es fs : List ε) :
    outputs step out s (es ++ fs) =
      outputs step out s es ++ outputs step out (run step s es) fs := by
  induction es generalizing s with
  | nil => rfl
  | cons e es ih => simp only [List.cons_append, outputs_cons, run_cons, ih, List.append_assoc]

/-- The outputs of a run that is one event longer. -/
theorem outputs_concat (s : σ) (es : List ε) (e : ε) :
    outputs step out s (es ++ [e]) = outputs step out s es ++ out (run step s es) e := by
  rw [outputs_append, outputs_cons, outputs_nil, List.append_nil]

/-- What is put out is put out in one of the steps. -/
theorem mem_outputs_iff {s : σ} {es : List ε} {a : α} :
    a ∈ outputs step out s es ↔ ∃ pre e, pre ++ [e] <+: es ∧ a ∈ out (run step s pre) e := by
  induction es generalizing s with
  | nil => simp
  | cons e es ih =>
    rw [outputs_cons, List.mem_append, ih]
    constructor
    · rintro (ha | ⟨pre, e', hpre, ha⟩)
      · exact ⟨[], e, List.cons_prefix_cons.mpr ⟨rfl, List.nil_prefix⟩, ha⟩
      · exact ⟨e :: pre, e', List.cons_prefix_cons.mpr ⟨rfl, hpre⟩, ha⟩
    · rintro ⟨pre, e', hpre, ha⟩
      cases pre with
      | nil =>
        obtain ⟨rfl, -⟩ := List.cons_prefix_cons.mp hpre
        exact .inl ha
      | cons e'' pre =>
        obtain ⟨rfl, hrest⟩ := List.cons_prefix_cons.mp hpre
        exact .inr ⟨pre, e', hrest, ha⟩

/-- A measure that each step raises by no more than the weight of what it puts out, a run raises by
no more than the weight of all its outputs. -/
theorem le_add_sum_outputs {f : σ → ℕ} {w : α → ℕ} {C : σ → ε → Prop}
    (hstep : ∀ s e, C s e → f (step s e) ≤ f s + ((out s e).map w).sum) {s : σ} {es : List ε}
    (h : Along step C s es) : f (run step s es) ≤ f s + ((outputs step out s es).map w).sum := by
  induction es generalizing s with
  | nil => exact Nat.le_add_right _ _
  | cons e es ih =>
    rw [along_cons] at h
    rw [run_cons, outputs_cons, List.map_append, List.sum_append]
    calc f (run step (step s e) es)
        ≤ f (step s e) + ((outputs step out (step s e) es).map w).sum := ih h.2
      _ ≤ f s + ((out s e).map w).sum + ((outputs step out (step s e) es).map w).sum :=
        Nat.add_le_add_right (hstep s e h.1) _
      _ = f s + (((out s e).map w).sum + ((outputs step out (step s e) es).map w).sum) :=
        Nat.add_assoc _ _ _

/-- A projection of the state that makes the steps `g s e` of a smaller machine in every step is the
smaller machine's state after all of them. -/
theorem run_project_outputs {step' : τ → ρ → τ} (f : σ → τ) {g : σ → ε → List ρ}
    (h : ∀ s e, f (step s e) = run step' (f s) (g s e)) (s : σ) (es : List ε) :
    f (run step s es) = run step' (f s) (outputs step g s es) := by
  induction es generalizing s with
  | nil => rfl
  | cons e es ih => rw [run_cons, ih, h, outputs_cons, run_append]

section Rounds

variable {next : τ → ρ → τ} {trace : τ → ρ → List α} {Q : σ → List ε → ρ → Prop}

/-- The blocks of events, one after another from the state `s`, are one round each of a coarser
machine in the state `t`: a block puts out what its round does, and `Q` relates the two. -/
def InBlocks (step : σ → ε → σ) (out : σ → ε → List α) (next : τ → ρ → τ) (trace : τ → ρ → List α)
    (Q : σ → List ε → ρ → Prop) : σ → τ → List (List ε) → List ρ → Prop
  | _, _, [], [] => True
  | s, t, block :: blocks, r :: rs =>
    outputs step out s block = trace t r ∧ Q s block r ∧
      InBlocks step out next trace Q (run step s block) (next t r) blocks rs
  | _, _, [], _ :: _ => False
  | _, _, _ :: _, [] => False

/-- One more block is one more round. -/
theorem InBlocks.concat {s : σ} {t : τ} {blocks : List (List ε)} {rs : List ρ}
    (h : InBlocks step out next trace Q s t blocks rs) {block : List ε} {r : ρ}
    (hout : outputs step out (run step s blocks.flatten) block = trace (run next t rs) r)
    (hQ : Q (run step s blocks.flatten) block r) :
    InBlocks step out next trace Q s t (blocks ++ [block]) (rs ++ [r]) := by
  induction blocks generalizing s t rs with
  | nil =>
    cases rs with
    | nil => exact ⟨hout, hQ, trivial⟩
    | cons r' rs => exact h.elim
  | cons block' blocks ih =>
    cases rs with
    | nil => exact h.elim
    | cons r' rs =>
      obtain ⟨hfirst, hfirst', hrest⟩ := h
      rw [List.flatten_cons, run_append] at hout hQ
      exact ⟨hfirst, hfirst', ih hrest hout hQ⟩

/-- All blocks together put out what the rounds do. -/
theorem InBlocks.outputs_eq {s : σ} {t : τ} {blocks : List (List ε)} {rs : List ρ}
    (h : InBlocks step out next trace Q s t blocks rs) :
    outputs step out s blocks.flatten = outputs next trace t rs := by
  induction blocks generalizing s t rs with
  | nil =>
    cases rs with
    | nil => rfl
    | cons r rs => exact h.elim
  | cons block blocks ih =>
    cases rs with
    | nil => exact h.elim
    | cons r rs =>
      obtain ⟨hfirst, -, hrest⟩ := h
      rw [List.flatten_cons, outputs_append, hfirst, ih hrest, outputs_cons]

/-- A machine that works in rounds. `I s es t o` relates the state `s` in which a round begins, the
events `es` since then, the state `t` of a coarser machine before the round, and the output `o` of
the round so far. If every event continues the round or completes it as a step `r` of the coarser
machine, then the events of a run fall into one block for each round that is complete, and those of
the round under way. -/
theorem exists_rounds {I : σ → List ε → τ → List α → Prop}
    (hstep : ∀ s es t o e, I s es t o →
      I s (es ++ [e]) t (o ++ out (run step s es) e) ∨
        ∃ r, o ++ out (run step s es) e = trace t r ∧ Q s (es ++ [e]) r ∧
          I (run step s (es ++ [e])) [] (next t r) [])
    {s : σ} {t : τ} (hs : I s [] t []) (es : List ε) :
    ∃ blocks post rs, es = blocks.flatten ++ post ∧
      InBlocks step out next trace Q s t blocks rs ∧
      I (run step s blocks.flatten) post (run next t rs)
        (outputs step out (run step s blocks.flatten) post) := by
  -- The events are read one by one, and the last block is the round under way.
  induction es using List.reverseRecOn with
  | nil => exact ⟨[], [], [], rfl, trivial, hs⟩
  | append_singleton es e ih =>
    obtain ⟨blocks, post, rs, rfl, hblocks, hI⟩ := ih
    have hout := @outputs_concat _ _ _ step out (run step s blocks.flatten) post e
    rcases hstep _ _ _ _ e hI with hopen | ⟨r, hround, hQ, hclosed⟩
    · rw [← hout] at hopen
      exact ⟨blocks, post ++ [e], rs, List.append_assoc _ _ _, hblocks, hopen⟩
    · -- The round is closed, and the next one begins with nothing put out.
      rw [← hout] at hround
      refine ⟨blocks ++ [post ++ [e]], [], rs ++ [r], ?_, hblocks.concat hround hQ, ?_⟩
      · simp
      · rw [List.flatten_append, List.flatten_singleton, run_append, run_concat t, outputs_nil]
        exact hclosed

end Rounds

end EnergyStation.Runs
