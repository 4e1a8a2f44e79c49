import EnergyStation.Firmware.Status
import EnergyStation.Cloud.EnergyState
import EnergyStation.Lib.Exchange
import EnergyStation.Lib.Runs

/-!
# The diesel node's stop command over a lossy network

The cloud's flag `_diesel_dispatched` is its only record of the diesel node, and it is written when
the reply to a command arrives. The two form a `Mirror`. As long as no start command is applied with
its reply lost, a flag that is `false` means an idle node (`Sound`), so every cycle above the
recovery threshold ends with the node stopped. After a start whose reply was lost the flag says
`false` while the node runs, and no cycle above the threshold sends a stop command
(`diesel_stops_iff_no_orphan`).
-/

namespace EnergyStation.System.DieselStop

open Firmware Cloud Runs

/-- What happens to the cloud's flag and the diesel node. -/
inductive Event where
  /-- A balance cycle, with its state of charge, its surplus and the fate of its exchange. -/
  | cycle (soc : Option ExtRat) (renewableSurplusW : ExtRat) (exchange : Exchange)
  /-- A clock tick of the node. -/
  | tick
  /-- The node's timer process runs. -/
  | fire
  /-- The node publishes telemetry, with or without a fault. -/
  | publish (fault : Bool)

/-- The cloud's flag, and the diesel node. -/
abbrev State := Mirror Bool Producer

/-- The command that a balance cycle sends to the registered diesel node. -/
def command (s : State) (soc : Option ExtRat) (surplus : ExtRat) : Option Bool :=
  (dieselCommand s.recorded (some ()) soc surplus).map Prod.snd

/-- The node's answer to a command, as its next state. -/
def applyCommand (cfg : ProducerBuild) (run : Bool) (p : Producer) : Producer :=
  (p.resPutHandler cfg (Producer.statusBody run)).2

/-- One event. In a cycle the cloud updates its flag as `_update_diesel_dispatch` does, and the node
handles the command if it arrives. -/
def step (cfg : ProducerBuild) (s : State) : Event → State
  | .cycle soc surplus x =>
    { recorded := updateDieselDispatch s.recorded (some ()) soc surplus x.returned
      cell :=
        match command s soc surplus with
        | some run => if x.applied then applyCommand cfg run s.cell else s.cell
        | none => s.cell }
  | .tick => { s with cell := s.cell.tick }
  | .fire => { s with cell := s.cell.fire }
  | .publish fault => { s with cell := s.cell.anomalyShutdown fault }

/-- The cloud has just started, and so has the node. -/
def boot (cfg : ProducerBuild) : State := ⟨false, Producer.boot cfg⟩

/-- A cycle that reads a state of charge above 0.40, and whose own exchange completes where it sends
one, ends with the node neither on nor starting. -/
def Stops (cfg : ProducerBuild) (s : State) : Event → Prop
  | .cycle soc surplus x =>
    (∃ q, soc = some q ∧ ExtRat.lt (.fin dieselRecoverSoc) q = true) →
    (command s soc surplus ≠ none → x = .completed) →
    (step cfg s (.cycle soc surplus x)).cell.device_on = false ∧
      (step cfg s (.cycle soc surplus x)).cell.device_starting = false
  | _ => True

/-- The cycle is not one whose start command is applied while its reply is lost. -/
def NoOrphan (s : State) : Event → Prop
  | .cycle soc surplus x => command s soc surplus = some true → x ≠ .replyLost
  | _ => True

/-- A flag that is `false` tells the truth about the node. -/
def Sound (recorded : Bool) (p : Producer) : Prop := recorded = false → p.Idle

/-- A cycle that sends a command is one exchange of the mirror. -/
theorem step_cycle_some {cfg : ProducerBuild} {s : State} {soc : Option ExtRat} {surplus : ExtRat}
    {run : Bool} (h : command s soc surplus = some run) (x : Exchange) :
    step cfg s (.cycle soc surplus x) = s.send (applyCommand cfg) run x := by
  obtain ⟨⟨node, run'⟩, hcmd, rfl⟩ := Option.map_eq_some_iff.mp h
  simp only [step, h, updateDieselDispatch, hcmd, Mirror.send]

/-- A cycle that sends no command changes nothing. -/
theorem step_cycle_none {cfg : ProducerBuild} {s : State} {soc : Option ExtRat} {surplus : ExtRat}
    (h : command s soc surplus = none) (x : Exchange) :
    step cfg s (.cycle soc surplus x) = s := by
  have hcmd : dieselCommand s.recorded (some ()) soc surplus = none := Option.map_eq_none_iff.mp h
  simp only [step, h, updateDieselDispatch, hcmd]

/-- Above the recovery threshold the only command is a stop, sent when the flag is set. -/
theorem command_of_recovered {s : State} {q surplus : ExtRat}
    (h : ExtRat.lt (.fin dieselRecoverSoc) q = true) :
    command s (some q) surplus = if s.recorded then some false else none := by
  unfold command dieselCommand
  simp only [shouldRun_of_recovered h]
  cases s.recorded <;> rfl

section

variable {cfg : ProducerBuild} (hcfg : 0 < cfg.sensorStartupDelayS)
include hcfg

/-- An event that orphans no start keeps the flag sound. -/
theorem step_sound {s : State} (hs : Sound s.recorded s.cell) {e : Event} (he : NoOrphan s e) :
    Sound (step cfg s e).recorded (step cfg s e).cell := by
  cases e with
  | tick => exact fun h => (hs h).tick
  | fire => exact fun h => (hs h).fire
  | publish fault => exact fun h => (hs h).anomalyShutdown fault
  | cycle soc surplus x =>
    cases hcmd : command s soc surplus with
    | none => rwa [step_cycle_none hcmd]
    | some run =>
      rw [step_cycle_some hcmd]
      apply Mirror.send_sound hs
      · -- A command that is acknowledged is the node's state, or the flag is set.
        rintro rfl
        exact Producer.resPutHandler_off hcfg s.cell
      · intro hx
        cases run with
        | true => exact absurd hx (he hcmd)
        | false => exact fun _ => Producer.resPutHandler_off hcfg s.cell

/-- With a sound flag, a cycle above the recovery threshold stops the node. -/
theorem stops_of_sound {s : State} (hs : Sound s.recorded s.cell) (e : Event) :
    Stops cfg s e := by
  cases e with
  | tick => trivial
  | fire => trivial
  | publish fault => trivial
  | cycle soc surplus x =>
    rintro ⟨q, rfl, hq⟩ hx
    have hcmd : command s (some q) surplus = if s.recorded then some false else none :=
      command_of_recovered hq
    cases hrec : s.recorded with
    | false =>
      rw [hrec, if_neg Bool.false_ne_true] at hcmd
      rw [step_cycle_none hcmd]
      exact ⟨(hs hrec).off, (hs hrec).notStarting⟩
    | true =>
      rw [hrec, if_pos rfl] at hcmd
      have hx' : x = .completed := hx (by simp [hcmd])
      have hidle := Producer.resPutHandler_off hcfg s.cell
      rw [step_cycle_some hcmd, hx']
      exact ⟨hidle.off, hidle.notStarting⟩

/-- After an orphaned start, a cycle above the recovery threshold does not stop the node. -/
theorem not_stops_of_orphan {s : State} {e : Event} (he : ¬ NoOrphan s e) {q : ExtRat}
    (hq : ExtRat.lt (.fin dieselRecoverSoc) q = true) (surplus : ExtRat) (x : Exchange) :
    ¬ Stops cfg (step cfg s e) (.cycle (some q) surplus x) := by
  cases e with
  | tick => exact absurd trivial he
  | fire => exact absurd trivial he
  | publish fault => exact absurd trivial he
  | cycle soc surplus' x' =>
    simp only [NoOrphan, not_forall, ne_eq, not_not] at he
    obtain ⟨hcmd, rfl⟩ := he
    -- The flag was `false`, and stays so, while the node has applied the start.
    have hrec : s.recorded = false := by
      obtain ⟨⟨node, run⟩, hd, hrun⟩ := Option.map_eq_some_iff.mp hcmd
      have hflag := (dieselCommand_eq_some hd).1
      rw [show run = true from hrun] at hflag
      exact hflag
    generalize hs' : step cfg s (.cycle soc surplus' .replyLost) = s'
    rw [step_cycle_some hcmd] at hs'
    have hrec' : s'.recorded = false := by rw [← hs']; exact hrec
    have hrun : s'.cell.device_on = true ∨ s'.cell.device_starting = true := by
      rw [← hs']
      exact Producer.resPutHandler_on hcfg s.cell
    have hnone : command s' (some q) surplus = none := by
      rw [command_of_recovered hq, hrec', if_neg Bool.false_ne_true]
    intro hstops
    obtain ⟨hoff, hstarting⟩ := hstops ⟨q, rfl, hq⟩ (fun h => absurd hnone h)
    rw [step_cycle_none hnone] at hoff hstarting
    rcases hrun with h | h
    · rw [hoff] at h
      exact Bool.false_ne_true h
    · rw [hstarting] at h
      exact Bool.false_ne_true h

end

/-- In every run from boot in which no start command is applied with its reply lost, every cycle
that reads a state of charge above 0.40, and whose own exchange completes where it sends one, ends
with the diesel node neither on nor starting. The condition is exact: right after a start that is
applied with its reply lost, a cycle above the threshold does not stop the node. -/
theorem diesel_stops_iff_no_orphan (clockSecond : ℕ) :
    (∀ es, Along (step (dieselBuild clockSecond)) NoOrphan (boot (dieselBuild clockSecond)) es →
      Along (step (dieselBuild clockSecond)) (Stops (dieselBuild clockSecond))
        (boot (dieselBuild clockSecond)) es) ∧
      (∀ es e,
        ¬ NoOrphan (run (step (dieselBuild clockSecond)) (boot (dieselBuild clockSecond)) es) e →
        ∀ q surplus x, ExtRat.lt (.fin dieselRecoverSoc) q = true →
          ¬ Stops (dieselBuild clockSecond)
            (step (dieselBuild clockSecond)
              (run (step (dieselBuild clockSecond)) (boot (dieselBuild clockSecond)) es) e)
            (.cycle (some q) surplus x)) := by
  have hcfg : 0 < (dieselBuild clockSecond).sensorStartupDelayS := Nat.succ_pos 39
  constructor
  · intro es hes
    apply along_of_invariant (I := fun s => Sound s.recorded s.cell) ?_ ?_ hes
    · exact fun s e hs he => ⟨step_sound hcfg hs he, stops_of_sound hcfg hs e⟩
    · exact fun _ => Producer.boot_idle rfl
  · intro es e he q surplus x hq
    exact not_stops_of_orphan hcfg he hq surplus x

/-- A start below the dispatch threshold is applied and its reply is lost; the next cycle reads a
charged battery, and the generator keeps starting. -/
theorem orphaned_start_is_not_stopped :
    ¬ ∀ es, Along (step (dieselBuild 128)) (Stops (dieselBuild 128))
      (boot (dieselBuild 128)) es := by
  intro h
  have hrun := h [.cycle (some (.fin (1 / 10))) (.fin (-500)) .replyLost,
    .cycle (some (.fin (1 / 2))) (.fin (-500)) .completed]
  have hstart : command (boot (dieselBuild 128)) (some (.fin (1 / 10))) (.fin (-500)) =
      some true := by
    norm_num [command, dieselCommand, shouldRun, boot, dieselDispatchSoc_eq]
  have horphan : ¬ NoOrphan (boot (dieselBuild 128))
      (.cycle (some (.fin (1 / 10))) (.fin (-500)) .replyLost) := fun hno => hno hstart rfl
  have hq : ExtRat.lt (.fin dieselRecoverSoc) (.fin (1 / 2)) = true := by
    norm_num [dieselRecoverSoc_eq]
  exact not_stops_of_orphan (by decide) horphan hq (.fin (-500)) .completed hrun.2.1

end EnergyStation.System.DieselStop
