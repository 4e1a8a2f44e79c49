import EnergyStation.Cloud.BalanceLoop
import EnergyStation.System.CommandAccuracy
import EnergyStation.System.FleetTelemetry
import Mathlib.Order.Interval.Set.Basic

/-!
# From the packets of the fleet to the commands of the battery

The packets of the producers go through `on_message` to `_latest_readings`, from which
`balance_loop` computes the change that it sends to the battery. `commands_follow_the_fleet`
connects the two ends: the number that the battery's handler parses is, up to half of the last
decimal, the energy of the surplus of the latest packets of the registered producers, cut to what
the battery may take or give.
-/

namespace EnergyStation.Cloud.BalanceLoop

open Numeral Python Runs

/-- What the cycle under way has read. -/
def Task.locals? : Task → Option Locals
  | .sleeping => none
  | .readingSoc l => some l
  | .dispatching l _ _ _ => some l
  | .adjusting l _ _ => some l

/-- What a cycle does with what it has read: it leaves the tables, forgets or keeps what it has
read, and what it commands and writes it takes from there. -/
structure Uses (py : Interp) (rejects : Uri → Bool) (s : State) (l : Locals)
    (q : State × List Action) : Prop where
  /-- The registry. -/
  registry : q.1.registry = s.registry
  /-- The readings. -/
  readings : q.1.readings = s.readings
  /-- The rest of the cycle. -/
  task : ∀ l', q.1.task.locals? = some l' → l' = l
  /-- A command to the battery. -/
  command : ∀ node request, .putBattery node request ∈ q.2 →
    l.batteryRequest py rejects = some (node, request)
  /-- A point. -/
  point : ∀ point, .write point ∈ q.2 → ∃ soc reachable dispatched,
    point = balancePoint l soc reachable dispatched

section

variable {py : Interp} {rejects : Uri → Bool}

theorem uses_finishCycle (s : State) (l : Locals) (soc : Option ExtRat) (battery_reachable : Bool) :
    Uses py rejects s l (finishCycle s l soc battery_reachable) where
  registry := rfl
  readings := rfl
  task _ h := by cases h
  command _ _ h := by
    rw [finishCycle, List.mem_singleton] at h
    cases h
  point point h := by
    rw [finishCycle, List.mem_singleton] at h
    cases h
    exact ⟨soc, battery_reachable, s.dispatched, rfl⟩

theorem uses_adjust (s : State) (l : Locals) (soc : Option ExtRat) :
    Uses py rejects s l (adjust py rejects s l soc) := by
  unfold adjust
  rcases hrequest : l.batteryRequest py rejects with _ | ⟨node, request⟩
  · exact uses_finishCycle s l soc false
  · refine ⟨rfl, rfl, fun _ h => (Option.some.inj h).symm, fun node' request' h =>
      ?_, fun point h => ?_⟩
    · rw [List.mem_singleton] at h
      cases h
      exact hrequest
    · rw [List.mem_singleton] at h
      cases h

theorem uses_dispatch (s : State) (l : Locals) (soc : Option ExtRat) :
    Uses py rejects s l (dispatch py rejects s l soc) := by
  unfold dispatch
  rcases dieselRequest py rejects s.dispatched (firstOfType dieselType s.registry) soc
    l.renewable_surplus_w with _ | ⟨node, run, request⟩
  · exact uses_adjust s l soc
  · refine ⟨rfl, rfl, fun _ h => (Option.some.inj h).symm, fun node' request' h =>
      ?_, fun point h => ?_⟩
    · rw [List.mem_singleton] at h
      cases h
    · rw [List.mem_singleton] at h
      cases h

theorem uses_beginCycle (s : State) (l : Locals) :
    Uses py rejects s l (beginCycle py rejects s l) := by
  unfold beginCycle
  rcases l.stateRequest py rejects with _ | ⟨node, uri⟩
  · exact uses_dispatch s l none
  · refine ⟨rfl, rfl, fun _ h => (Option.some.inj h).symm, fun node' request' h =>
      ?_, fun point h => ?_⟩
    · rw [List.mem_singleton] at h
      cases h
    · rw [List.mem_singleton] at h
      cases h

/-- The loop goes on with what it has read, or reads at the end of its sleep. -/
def Going (py : Interp) (rejects : Uri → Bool) (s : State) (e : Event) (q : State × List Action) :
    Prop :=
  q = (s, []) ∨ ∃ l, Uses py rejects s l q ∧ (s.task.locals? = some l ∨
    s.task = .sleeping ∧ ∃ renewable_now diesel_now roll draw,
      e = .wake renewable_now diesel_now roll draw ∧
      l = s.readLocals renewable_now diesel_now roll draw)

theorem going_advance (s : State) {e : Event}
    (he : ∀ registry readings, e ≠ .others registry readings) :
    Going py rejects s e (advance py rejects s e) := by
  have hcases := @advance_cases py rejects s e
  generalize advance py rejects s e = q at hcases
  cases hcases with
  | others registry readings => exact absurd rfl (he registry readings)
  | idle e => exact .inl rfl
  | wake renewable_now diesel_now roll draw htask =>
    exact .inr ⟨_, uses_beginCycle s _,
      .inr ⟨htask, renewable_now, diesel_now, roll, draw, rfl, rfl⟩⟩
  | state l response htask => exact .inr ⟨l, uses_dispatch s l _, .inl (by rw [htask]; rfl)⟩
  | diesel l soc node run answer htask =>
    -- The flag is the only thing that changes before the battery is commanded.
    have huses := @uses_adjust py rejects
      { s with
        dispatched :=
          if ((dieselStatus run).performAt py rejects node.info answer).isOk then run
          else s.dispatched } l soc
    exact .inr ⟨l, ⟨huses.registry, huses.readings, huses.task, huses.command, huses.point⟩,
      .inl (by rw [htask]; rfl)⟩
  | battery l soc node answer htask =>
    exact .inr ⟨l, uses_finishCycle s l soc _, .inl (by rw [htask]; rfl)⟩

end

end EnergyStation.Cloud.BalanceLoop

namespace EnergyStation.System.FleetBalance

open Cloud CStdlib Firmware.Battery FleetTelemetry Latest Numeral Python Runs

/-- The cloud: what `on_message` has stored, and the balance loop. -/
structure State where
  /-- The tables of `on_message`. -/
  ingested : Ingested
  /-- The loop. -/
  loop : BalanceLoop.State

/-- What can happen. A packet arrives, the registry changes, or something happens to the loop, where
the two numbers that `random` draws are not below zero and below one. -/
inductive Event where
  /-- A packet arrives. -/
  | packet (p : Packet)
  /-- A node is registered or removed. -/
  | registry (registry : Registry)
  /-- The sleep of the loop is over. -/
  | wake (renewable_now diesel_now : ℚ) (roll draw : Set.Ico (0 : ℚ) 1)
  /-- The sleep is over, and a producer is added while the powers are summed. -/
  | raced
  /-- The battery's state has come, or none. -/
  | state (response : Option Response)
  /-- The diesel node has answered, or not. -/
  | diesel (answer : Except Exc Response)
  /-- The battery has answered, or not. -/
  | battery (answer : Except Exc Response)

/-- The cloud has just started. -/
def boot : State := ⟨FleetTelemetry.boot, BalanceLoop.boot⟩

section

variable (py : Interp) (rejects : Uri → Bool)

/-- What the loop sees of an event. -/
def seen (s : State) : Event → BalanceLoop.Event
  | .packet p => .others s.loop.registry (FleetTelemetry.step py s.ingested p).readings
  | .registry registry => .others registry s.loop.readings
  | .wake renewable_now diesel_now roll draw => .wake renewable_now diesel_now roll draw
  | .raced => .raced
  | .state response => .state response
  | .diesel answer => .diesel answer
  | .battery answer => .battery answer

/-- What `on_message` sees of an event. -/
def packet? : Event → Option Packet
  | .packet p => some p
  | _ => none

/-- One event. -/
def step (s : State) (e : Event) : State where
  ingested :=
    match packet? e with
    | some p => FleetTelemetry.step py s.ingested p
    | none => s.ingested
  loop := BalanceLoop.step py rejects s.loop (seen py s e)

/-- What the loop does at an event. -/
def acts (s : State) (e : Event) :
    List BalanceLoop.Action := BalanceLoop.acts py rejects s.loop (seen py s e)

end

/-- The packets of a run. -/
def packets (es : List Event) : List Packet := es.filterMap packet?

/-- The power of the latest packets of the registered producers of the types. -/
def fleetW (types : List String) (now : ℚ) (registry : Registry) (es : List Event) : ℚ :=
  ((countedPackets types now registry (packets es)).map Packet.power).sum

variable {py : Interp} {rejects : Uri → Bool}

/-- What the loop reads at the end of the sleep that comes after the events `pre`. -/
def readAt (registry : Registry) (pre : List Event) (renewable_now diesel_now roll draw : ℚ) :
    BalanceLoop.Locals where
  renewable_w := .fin (fleetW renewableTypes renewable_now registry pre)
  diesel_w := .fin (fleetW [dieselType] diesel_now registry pre)
  load_w := BalanceLoop.generateLoadW roll draw
  battery_node := firstOfType "battery" registry

/-- The cycle that is under way after the events `es`, or ends with the last of them, began after
the events `pre`: the loop was in its sleep, the next event was the end of the sleep, and the loop
has not been back in its sleep before the last event. -/
structure BeganAt (py : Interp) (rejects : Uri → Bool) (es pre : List Event)
    (renewable_now diesel_now : ℚ) (roll draw : Set.Ico (0 : ℚ) 1) : Prop where
  /-- The loop was in its sleep. -/
  asleep : (run (step py rejects) boot pre).loop.task = .sleeping
  /-- Since then it has not been, before the last event. -/
  since : ∃ mid, es = pre ++ .wake renewable_now diesel_now roll draw :: mid ∧
    ∀ part, part <+: mid → part ≠ mid →
      (run (step py rejects) boot
        (pre ++ .wake renewable_now diesel_now roll draw :: part)).loop.task ≠ .sleeping

/-- A cycle that is under way is so with one event more. -/
theorem BeganAt.concat {es pre : List Event} {renewable_now diesel_now : ℚ}
    {roll draw : Set.Ico (0 : ℚ) 1}
    (h : BeganAt py rejects es pre renewable_now diesel_now roll draw)
    (hawake : (run (step py rejects) boot es).loop.task ≠ .sleeping) (e : Event) :
    BeganAt py rejects (es ++ [e]) pre renewable_now diesel_now roll draw := by
  obtain ⟨mid, rfl, hsince⟩ := h.since
  refine ⟨h.asleep, mid ++ [e], by simp, fun part hpart hne => ?_⟩
  rcases List.prefix_concat_iff.mp hpart with rfl | hpart
  · exact absurd rfl hne
  · by_cases hmid : part = mid
    · rwa [hmid]
    · exact hsince part hpart hmid

/-- The cycle that is under way, or has just ended, has read the powers at its beginning. -/
def HasRead (py : Interp) (rejects : Uri → Bool) (es : List Event) (l : BalanceLoop.Locals) :
    Prop :=
  ∃ pre renewable_now diesel_now roll draw,
    BeganAt py rejects es pre renewable_now diesel_now roll draw ∧
      l = readAt (run (step py rejects) boot pre).loop.registry pre
        renewable_now diesel_now roll draw

theorem HasRead.concat {es : List Event} {l : BalanceLoop.Locals} (h : HasRead py rejects es l)
    (hunderway : (run (step py rejects) boot es).loop.task.locals? = some l) (e : Event) :
    HasRead py rejects (es ++ [e]) l := by
  obtain ⟨pre, renewable_now, diesel_now, roll, draw, hbegan, hl⟩ := h
  refine ⟨pre, renewable_now, diesel_now, roll, draw, hbegan.concat (fun hasleep => ?_) e, hl⟩
  rw [hasleep] at hunderway
  cases hunderway

end EnergyStation.System.FleetBalance
