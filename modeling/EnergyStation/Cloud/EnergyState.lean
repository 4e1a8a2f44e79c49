import EnergyStation.Python.Double
import EnergyStation.Python.Json

/-!
# Readings and diesel dispatch

Two functions of `energy_state.py`. `update_reading` keeps the last power of each producer. The
coroutine `_update_diesel_dispatch` stops at its call of `set_status`, so it is given in two parts:
the command that it sends, if any, and the flag `_diesel_dispatched` after the call has returned or
raised. The two thresholds are the doubles that stand in the source; the power of a reading is given
for any arithmetic of floats.
-/

namespace EnergyStation.Cloud

open Python
open Binary64 (nearest)

/-- An entry of `_latest_readings`. -/
structure Reading where
  /-- The `type` of the message. -/
  type : Val
  /-- The product of its voltage and its current. -/
  power_w : ExtRat
  /-- `time.time()` when the entry was written. -/
  ts : ℚ

/-- `node_type in (RENEWABLE_TYPES | {DIESEL_TYPE})`, which hashes the type. -/
def isProducerType (node_type : Val) : Except Exc Bool :=
  (hashKey node_type).map fun _ =>
    isStr "solar" node_type || isStr "wind" node_type || isStr "diesel" node_type

/-- `float(payload.get("v", 0.0)) * float(payload.get("i", 0.0))`. -/
def powerW (ar : Arith) (payload : Obj) : Except Exc ExtRat :=
  (toFloat (payload.getD "v" (.float (.fin 0)))).bind fun v =>
    (toFloat (payload.getD "i" (.float (.fin 0)))).map fun i =>
      ar.round (floatMul (ar.round v) (ar.round i))

/-- `update_reading`. Only the `TypeError` and the `ValueError` of the two conversions are
caught. -/
def updateReading (ar : Arith) (now : ℚ) (payload : Val) (readings : Dict Key Reading) :
    Except Exc (Dict Key Reading) :=
  (asDict payload).bind fun payload =>
    if !truthy (payload.get "node_id") then .ok readings
    else
      (isProducerType (payload.get "type")).bind fun producer =>
        if !producer then .ok readings
        else
          match powerW ar payload with
          -- `OverflowError` is an `ArithmeticError`, and is not caught.
          | .error .overflowError => .error .overflowError
          | .error _ => .ok readings
          | .ok power_w =>
            (hashKey (payload.get "node_id")).map fun node_id =>
              readings.set node_id ⟨payload.get "type", power_w, now⟩

/-- `DIESEL_DISPATCH_SOC`, the double `0.20`. -/
def dieselDispatchSoc : ℚ := nearest (20 / 100)

/-- `DIESEL_RECOVER_SOC`, the double `0.40`. -/
def dieselRecoverSoc : ℚ := nearest (40 / 100)

/-- The state of charge is known and below `DIESEL_DISPATCH_SOC`. -/
def SocLow (soc : Option ExtRat) : Prop :=
  ∃ q, soc = some q ∧ q.lt (.fin dieselDispatchSoc) = true

/-- The state of charge is known and above `DIESEL_RECOVER_SOC`. -/
def SocRecovered (soc : Option ExtRat) : Prop :=
  ∃ q, soc = some q ∧ ExtRat.lt (.fin dieselRecoverSoc) q = true

/-- `should_run` of `_update_diesel_dispatch`, for a known state of charge. -/
def shouldRun (dispatched : Bool) (soc renewableSurplusW : ExtRat) : Bool :=
  if dispatched = false ∧ soc.lt (.fin dieselDispatchSoc) = true ∧
      renewableSurplusW.lt (.fin 0) = true then true
  -- Between the two thresholds the flag stays as it is.
  else if dispatched = true ∧ ExtRat.lt (.fin dieselRecoverSoc) soc = true then false
  else dispatched

/-- The command that `_update_diesel_dispatch` sends to the diesel node, `true` for `on`. There is
none without a diesel node, without a state of charge, and when the flag has the wanted value. -/
def dieselCommand {ν : Type*} (dispatched : Bool) (dieselNode : Option ν) (soc : Option ExtRat)
    (renewableSurplusW : ExtRat) : Option (ν × Bool) :=
  match dieselNode, soc with
  | some node, some soc =>
    if shouldRun dispatched soc renewableSurplusW ≠ dispatched then
      some (node, shouldRun dispatched soc renewableSurplusW)
    else none
  | _, _ => none

/-- `_diesel_dispatched` after `_update_diesel_dispatch`, whose `set_status` call, if it makes one,
returned or raised. -/
def updateDieselDispatch {ν : Type*} (dispatched : Bool) (dieselNode : Option ν)
    (soc : Option ExtRat) (renewableSurplusW : ExtRat) (returned : Bool) : Bool :=
  match dieselCommand dispatched dieselNode soc renewableSurplusW with
  | some (_, run) => if returned then run else dispatched
  | none => dispatched

/-- `update_reading` leaves the table as it is, or stores the power of a producer's payload under
its `node_id`. -/
theorem updateReading_cases {ar : Arith} {now : ℚ} {payload : Val}
    {readings readings' : Dict Key Reading}
    (h : updateReading ar now payload readings = .ok readings') :
    readings' = readings ∨ ∃ obj k power_w, asDict payload = .ok obj ∧
      truthy (obj.get "node_id") = true ∧ isProducerType (obj.get "type") = .ok true ∧
      powerW ar obj = .ok power_w ∧ hashKey (obj.get "node_id") = .ok k ∧
      readings' = readings.set k ⟨obj.get "type", power_w, now⟩ := by
  obtain ⟨obj, hdict, h⟩ := bind_eq_ok.mp h
  split_ifs at h with hid
  · exact .inl (Except.ok.inj h).symm
  · obtain ⟨producer, htype, h⟩ := bind_eq_ok.mp h
    split_ifs at h with hproducer
    · exact .inl (Except.ok.inj h).symm
    · rcases hpower : powerW ar obj with e | power_w
      · -- A conversion that fails leaves the table alone, or raises.
        rw [hpower] at h
        rcases e with _ | _ | _ | _ | _ | _ | _ | _ | _ <;>
          first | exact .inl (Except.ok.inj h).symm | cases h
      · rw [hpower] at h
        obtain ⟨k, hk, hset⟩ := map_eq_ok.mp h
        refine .inr ⟨obj, k, power_w, hdict, by simpa using hid, ?_, hpower, hk, hset.symm⟩
        rw [htype]
        simpa using hproducer

theorem dieselDispatchSoc_eq : dieselDispatchSoc = 3602879701896397 / 2 ^ 54 := by decide +kernel

theorem dieselRecoverSoc_eq : dieselRecoverSoc = 3602879701896397 / 2 ^ 53 := by decide +kernel

theorem dispatchSoc_lt_recoverSoc : dieselDispatchSoc < dieselRecoverSoc := by
  rw [dieselDispatchSoc_eq, dieselRecoverSoc_eq]
  norm_num

/-- A state of charge above the recovery threshold is not below the dispatch threshold. -/
theorem not_lt_dispatchSoc {soc : ExtRat} (h : ExtRat.lt (.fin dieselRecoverSoc) soc = true) :
    soc.lt (.fin dieselDispatchSoc) = false := by
  cases soc with
  | fin q =>
    simp only [ExtRat.lt_fin, decide_eq_true_eq, decide_eq_false_iff_not, not_lt] at h ⊢
    exact (dispatchSoc_lt_recoverSoc.trans h).le
  | posInf => rfl
  | nan => simp at h
  | negInf => simp at h

/-- A battery below the dispatch threshold has not recovered. -/
theorem SocLow.not_recovered {soc : Option ExtRat} (h : SocLow soc) : ¬ SocRecovered soc := by
  obtain ⟨q, rfl, hlow⟩ := h
  rintro ⟨q', hq', hrecovered⟩
  rw [← Option.some.inj hq'] at hrecovered
  rw [not_lt_dispatchSoc hrecovered] at hlow
  exact Bool.false_ne_true hlow

/-- Above the recovery threshold the wanted value is `false`. -/
theorem shouldRun_of_recovered {dispatched : Bool} {soc surplus : ExtRat}
    (h : ExtRat.lt (.fin dieselRecoverSoc) soc = true) :
    shouldRun dispatched soc surplus = false := by
  unfold shouldRun
  simp only [not_lt_dispatchSoc h, h, Bool.false_eq_true, false_and, and_false, if_false, and_true]
  cases dispatched <;> rfl

/-- A command is sent only against the flag. -/
theorem dieselCommand_eq_some {ν : Type*} {dispatched : Bool} {dieselNode : Option ν}
    {soc : Option ExtRat} {surplus : ExtRat} {node : ν} {run : Bool}
    (h : dieselCommand dispatched dieselNode soc surplus = some (node, run)) :
    dispatched = !run ∧ dieselNode = some node ∧
      ∃ q, soc = some q ∧ shouldRun dispatched q surplus = run := by
  unfold dieselCommand at h
  split at h
  · rename_i node' q
    split_ifs at h with hne
    simp only [Option.some.injEq, Prod.mk.injEq] at h
    obtain ⟨rfl, hrun⟩ := h
    refine ⟨?_, rfl, q, rfl, hrun⟩
    rw [hrun] at hne
    cases dispatched <;> cases run <;> simp_all
  · cases h

/-- A clear flag asks for a start exactly in a deficit below the dispatch threshold. -/
theorem shouldRun_false (soc surplus : ExtRat) :
    shouldRun false soc surplus = true ↔
      soc.lt (.fin dieselDispatchSoc) = true ∧ surplus.lt (.fin 0) = true := by
  unfold shouldRun
  simp

/-- A set flag asks for a stop exactly above the recovery threshold. -/
theorem shouldRun_true (soc surplus : ExtRat) :
    shouldRun true soc surplus = false ↔ ExtRat.lt (.fin dieselRecoverSoc) soc = true := by
  unfold shouldRun
  simp

/-- The flag changes exactly in a cycle with a diesel node and a known state of charge that ask for
the change, and in which the call of `set_status` returns. -/
theorem updateDieselDispatch_eq_not {ν : Type*} (dispatched : Bool) (dieselNode : Option ν)
    (soc : Option ExtRat) (surplus : ExtRat) (returned : Bool) :
    updateDieselDispatch dispatched dieselNode soc surplus returned = !dispatched ↔
      (∃ q, soc = some q ∧ shouldRun dispatched q surplus = !dispatched) ∧
        dieselNode.isSome = true ∧ returned = true := by
  unfold updateDieselDispatch dieselCommand
  cases dieselNode with
  | none => simp
  | some node =>
    cases soc with
    | none => simp
    | some q =>
      by_cases h : shouldRun dispatched q surplus = dispatched
      · simp [h]
      · have hnot : shouldRun dispatched q surplus = !dispatched := Bool.eq_not.mpr h
        simp only [ne_eq, hnot]
        cases returned <;> simp [hnot]

/-- The flag changes exactly in a cycle that sends a command whose call returns. -/
theorem updateDieselDispatch_eq_not_iff_command {ν : Type*} (dispatched : Bool)
    (dieselNode : Option ν) (soc : Option ExtRat) (surplus : ExtRat) (returned : Bool) :
    updateDieselDispatch dispatched dieselNode soc surplus returned = !dispatched ↔
      (dieselCommand dispatched dieselNode soc surplus).isSome = true ∧ returned = true := by
  unfold updateDieselDispatch
  rcases hcommand : dieselCommand dispatched dieselNode soc surplus with _ | ⟨node, run⟩
  · simp
  · obtain ⟨hrun, -⟩ := dieselCommand_eq_some hcommand
    rcases returned with _ | _
    · simp
    · simp [hrun]

/-- A clear flag sends a start to the diesel node exactly in a deficit below the dispatch
threshold. -/
theorem dieselCommand_false {ν : Type*} (node : ν) (soc : Option ExtRat) (surplus : ExtRat) :
    dieselCommand false (some node) soc surplus = some (node, true) ↔
      SocLow soc ∧ surplus.lt (.fin 0) = true := by
  rcases soc with _ | q
  · simp [dieselCommand, SocLow]
  · simp [dieselCommand, SocLow, shouldRun_false]

/-- A set flag sends a stop to the diesel node exactly above the recovery threshold. -/
theorem dieselCommand_true {ν : Type*} (node : ν) (soc : Option ExtRat) (surplus : ExtRat) :
    dieselCommand true (some node) soc surplus = some (node, false) ↔ SocRecovered soc := by
  rcases soc with _ | q
  · simp [dieselCommand, SocRecovered]
  · have hstop := shouldRun_true q surplus
    simp [dieselCommand, SocRecovered, hstop]

/-- The only command that can be sent is the one against the flag. -/
theorem dieselCommand_cases {ν : Type*} (dispatched : Bool) (node : ν) (soc : Option ExtRat)
    (surplus : ExtRat) :
    dieselCommand dispatched (some node) soc surplus = none ∨
      dieselCommand dispatched (some node) soc surplus = some (node, !dispatched) := by
  rcases h : dieselCommand dispatched (some node) soc surplus with _ | ⟨node', run⟩
  · exact Or.inl rfl
  · obtain ⟨hrun, hnode, -⟩ := dieselCommand_eq_some h
    rw [hrun, Bool.not_not, Option.some.inj hnode]
    exact Or.inr rfl

/-- The commands of the cycles with a diesel node are those for a low or a recovered battery exactly
when the state of charge tells whether the battery is low, and whether it has recovered. -/
theorem dieselCommand_eq_iff {ν : Type*} (node : ν) (soc : Option ExtRat) (low recovered : Prop)
    [Decidable low] [Decidable recovered] :
    (∀ dispatched surplus, dieselCommand dispatched (some node) soc surplus =
        if dispatched = false ∧ low ∧ surplus.lt (.fin 0) = true then some (node, true)
        else if dispatched = true ∧ recovered then some (node, false)
        else none) ↔
      (SocLow soc ↔ low) ∧ (SocRecovered soc ↔ recovered) := by
  constructor
  · intro h
    constructor
    · have hdeficit : ExtRat.lt (.fin (-1)) (.fin 0) = true := by decide
      have hstart := dieselCommand_false node soc (.fin (-1))
      rw [h] at hstart
      simpa [hdeficit] using hstart.symm
    · have hstop := dieselCommand_true node soc (.fin 0)
      rw [h] at hstop
      simpa using hstop.symm
  · rintro ⟨hlow, hrecovered⟩ dispatched surplus
    rcases dispatched with _ | _
    · have hstart := dieselCommand_false node soc surplus
      rcases dieselCommand_cases false node soc surplus with h | h
      · rw [h] at hstart ⊢
        simp [← hlow, ← hstart]
      · rw [Bool.not_false] at h
        rw [h] at hstart ⊢
        simp [← hlow, ← hstart]
    · have hstop := dieselCommand_true node soc surplus
      rcases dieselCommand_cases true node soc surplus with h | h
      · rw [h] at hstop ⊢
        simp [← hrecovered, ← hstop]
      · rw [Bool.not_true] at h
        rw [h] at hstop ⊢
        simp [← hrecovered, ← hstop]

end EnergyStation.Cloud
