import EnergyStation.Cloud.EnergyState
import EnergyStation.Lib.Runs

/-!
# The hysteresis of the diesel dispatch

`_diesel_dispatched` over the cycles of `balance_loop`. A cycle brings a diesel node or none, a
state of charge or none, a surplus, and the outcome of the call of `set_status`, and the flag is the
only thing that a cycle passes on to the next. `Hysteretic` says what one cycle can do. Over a run
it follows that a second start is separated from the first by a recovered battery, and that nothing
happens while the battery stays between the two thresholds (`diesel_hysteresis`).
-/

namespace EnergyStation.Cloud.DieselHysteresis

open Runs

/-- One cycle of `balance_loop`, as `_update_diesel_dispatch` sees it. -/
structure Cycle (ν : Type*) where
  /-- The diesel node of the registry, if there is one. -/
  diesel_node : Option ν
  /-- The state of charge, if it is known. -/
  soc : Option ExtRat
  /-- `renewable_surplus_w` -/
  renewable_surplus_w : ExtRat
  /-- The call of `set_status`, if there is one, returns rather than raises. -/
  returned : Bool

variable {ν : Type*}

/-- `_diesel_dispatched` after a cycle. -/
def step (dispatched : Bool) (c : Cycle ν) : Bool :=
  updateDieselDispatch dispatched c.diesel_node c.soc c.renewable_surplus_w c.returned

/-- The state of charge is unknown, or between the two thresholds. -/
def Cycle.InBand (c : Cycle ν) : Prop :=
  ∀ q, c.soc = some q →
    ExtRat.le (.fin dieselDispatchSoc) q = true ∧ ExtRat.le q (.fin dieselRecoverSoc) = true

/-- The cycle has what a start takes. -/
structure Starts (c : Cycle ν) : Prop where
  /-- There is a diesel node. -/
  node : c.diesel_node.isSome = true
  /-- The battery is low. -/
  low : SocLow c.soc
  /-- The renewable producers do not cover the load. -/
  deficit : c.renewable_surplus_w.lt (.fin 0) = true
  /-- The call of `set_status` returns. -/
  returned : c.returned = true

/-- The cycle has what a stop takes. -/
structure Stops (c : Cycle ν) : Prop where
  /-- There is a diesel node. -/
  node : c.diesel_node.isSome = true
  /-- The battery has recovered. -/
  recovered : SocRecovered c.soc
  /-- The call of `set_status` returns. -/
  returned : c.returned = true

/-- A clear flag is set by a start, and by nothing else. -/
theorem step_false (c : Cycle ν) : step false c = true ↔ Starts c := by
  unfold step
  rw [show true = !false from rfl, updateDieselDispatch_eq_not, Bool.not_false]
  simp only [shouldRun_false]
  constructor
  · rintro ⟨⟨q, hsoc, hlow, hdef⟩, hnode, hret⟩
    exact ⟨hnode, ⟨q, hsoc, hlow⟩, hdef, hret⟩
  · rintro ⟨hnode, ⟨q, hsoc, hlow⟩, hdef, hret⟩
    exact ⟨⟨q, hsoc, hlow, hdef⟩, hnode, hret⟩

/-- A set flag is cleared by a stop, and by nothing else. -/
theorem step_true (c : Cycle ν) : step true c = false ↔ Stops c := by
  unfold step
  rw [show false = !true from rfl, updateDieselDispatch_eq_not, Bool.not_true]
  simp only [shouldRun_true]
  constructor
  · rintro ⟨hrec, hnode, hret⟩
    exact ⟨hnode, hrec, hret⟩
  · rintro ⟨hnode, hrec, hret⟩
    exact ⟨hrec, hnode, hret⟩

/-- What one cycle can do to the flag. -/
structure Hysteretic (dispatched : Bool) (c : Cycle ν) : Prop where
  /-- The flag is set only by a start. -/
  starts : dispatched = false → step dispatched c = true → Starts c
  /-- The flag is cleared only by a stop. -/
  stops : dispatched = true → step dispatched c = false → Stops c
  /-- Every other cycle leaves the flag as it is. -/
  unchanged : ¬ (dispatched = false ∧ Starts c) → ¬ (dispatched = true ∧ Stops c) →
    step dispatched c = dispatched
  /-- So does every cycle whose call raises. -/
  raised : c.returned = false → step dispatched c = dispatched

/-- Every cycle is hysteretic, whatever the flag. -/
theorem hysteretic (dispatched : Bool) (c : Cycle ν) : Hysteretic dispatched c := by
  have hret : c.returned = false → ¬ Starts c ∧ ¬ Stops c := fun h =>
    ⟨fun hs => Bool.false_ne_true (h.symm.trans hs.returned),
      fun hs => Bool.false_ne_true (h.symm.trans hs.returned)⟩
  cases dispatched with
  | false =>
    have hkeep : ¬ Starts c → step false c = false := fun h =>
      Bool.eq_false_iff.mpr fun hstep => h ((step_false c).mp hstep)
    exact ⟨fun _ => (step_false c).mp, fun h => absurd h Bool.false_ne_true,
      fun h _ => hkeep fun hs => h ⟨rfl, hs⟩, fun h => hkeep (hret h).1⟩
  | true =>
    have hkeep : ¬ Stops c → step true c = true := fun h =>
      Bool.of_not_eq_false fun hstep => h ((step_true c).mp hstep)
    exact ⟨fun h => absurd h.symm Bool.false_ne_true, fun _ => (step_true c).mp,
      fun _ h => hkeep fun hs => h ⟨rfl, hs⟩, fun h => hkeep (hret h).2⟩

/-- The cycle switches the flag on. -/
def SwitchesOn (dispatched : Bool) (c : Cycle ν) : Prop :=
  dispatched = false ∧ step dispatched c = true

/-- A battery between the thresholds asks for nothing. -/
theorem Cycle.InBand.step {c : Cycle ν} (h : c.InBand) (dispatched : Bool) :
    step dispatched c = dispatched := by
  apply (hysteretic dispatched c).unchanged
  · rintro ⟨-, hstart⟩
    obtain ⟨q, hsoc, hlow⟩ := hstart.low
    rw [ExtRat.not_lt_of_le (h q hsoc).1] at hlow
    exact Bool.false_ne_true hlow
  · rintro ⟨-, hstop⟩
    obtain ⟨q, hsoc, hrec⟩ := hstop.recovered
    rw [ExtRat.not_lt_of_le (h q hsoc).2] at hrec
    exact Bool.false_ne_true hrec

/-- A flag that a run finds set and leaves clear was cleared by a stop on the way. -/
theorem exists_recovered {cycles : List (Cycle ν)} (h : run step true cycles = false) :
    ∃ c ∈ cycles, SocRecovered c.soc := by
  have hleave : ¬ run step true cycles = true := by rw [h]; exact Bool.false_ne_true
  -- Some cycle of the run clears the flag.
  obtain ⟨pre, c, post, rfl, hpre, hpost⟩ :=
    exists_leave (P := (· = true)) rfl hleave
  rw [run_concat, hpre] at hpost
  have hstop := (step_true c).mp (Bool.eq_false_iff.mpr hpost)
  exact ⟨c, List.mem_append_right pre List.mem_cons_self, hstop.recovered⟩

/-- The diesel hysteresis over a whole run, from either value of the flag. Every cycle changes the
flag only as a start or a stop does; between two cycles that switch it on there is one that reads a
state of charge above the recovery threshold; and a run in which every known state of charge is
between the thresholds never changes it. -/
theorem diesel_hysteresis (dispatched : Bool) (cycles : List (Cycle ν)) :
    Along step Hysteretic dispatched cycles ∧
      (∀ pre c mid c' post, cycles = pre ++ c :: mid ++ c' :: post →
        SwitchesOn (run step dispatched pre) c →
        SwitchesOn (run step dispatched (pre ++ c :: mid)) c' → ∃ r ∈ mid, SocRecovered r.soc) ∧
      ((∀ c ∈ cycles, c.InBand) → ∀ d ∈ visited step dispatched cycles, d = dispatched) := by
  refine ⟨?_, ?_, ?_⟩
  · exact along_of_forall hysteretic dispatched cycles
  · rintro pre c mid c' post - ⟨-, hon⟩ ⟨hclear, -⟩
    -- The flag is set after the first of the two and clear before the second.
    rw [run_append, run_cons, hon] at hclear
    exact exists_recovered hclear
  · intro hband
    apply visited_invariant (I := fun d => d = dispatched) ?_ rfl (along_of_forall_mem hband)
    intro d c hd hc
    rw [hc.step, hd]

end EnergyStation.Cloud.DieselHysteresis
