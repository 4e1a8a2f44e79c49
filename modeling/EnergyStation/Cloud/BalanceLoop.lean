import EnergyStation.Cloud.BadReadings
import EnergyStation.Cloud.ControlResources
import EnergyStation.Cloud.DieselHysteresis
import EnergyStation.Cloud.InfluxdbConnect
import EnergyStation.Lib.Outputs

/-!
# The balance loop as a task

`balance_loop` is suspended in its sleep and in up to three awaits, in which the other tasks and the
MQTT thread go on. `advance` runs it from one suspension to the next: a cycle reads the powers and
picks a battery when its sleep is over, picks a diesel node when the battery's state has come, and
writes its point when the last answer has come. `balance_loop_rounds` says that every run, whatever
happens in between, is a sequence of whole cycles, and `interleaved_hysteresis` what that means for
`_diesel_dispatched`.
-/

namespace EnergyStation.Cloud.BalanceLoop

open BadReadings Numeral Python Runs

/-- `LOAD_PEAK_PROBABILITY` -/
def loadPeakProbability : ℚ := 5 / 100

/-- `LOAD_MIN_W` -/
def loadMinW : ℚ := 300

/-- `LOAD_TYPICAL_W` -/
def loadTypicalW : ℚ := 2000

/-- `LOAD_MAX_W` -/
def loadMaxW : ℚ := 2000

/-- `LOAD_PEAK_W` -/
def loadPeakW : ℚ := 3000

/-- `random.uniform(a, b)`, for the number that it draws from `[0, 1)`. -/
def uniform (a b draw : ℚ) : ℚ := a + (b - a) * draw

/-- `_generate_load_w`, for the two numbers that it draws. -/
def generateLoadW (roll draw : ℚ) : ℚ :=
  if roll < loadPeakProbability then uniform loadMaxW loadPeakW draw
  else uniform loadMinW loadTypicalW draw

/-- What a cycle has read when its sleep is over. -/
structure Locals where
  /-- `renewable_w` -/
  renewable_w : ExtRat
  /-- `diesel_w` -/
  diesel_w : ExtRat
  /-- `load_w` -/
  load_w : ℚ
  /-- `battery_node` -/
  battery_node : Option Node

namespace Locals

/-- `renewable_surplus_w` -/
def renewable_surplus_w (l : Locals) : ExtRat := renewableSurplusW .exact l.renewable_w l.load_w

/-- `total_surplus_w` -/
def total_surplus_w (l : Locals) : ExtRat := totalSurplusW .exact l.renewable_w l.diesel_w l.load_w

/-- `delta_kwh` -/
def delta_kwh (l : Locals) : ExtRat :=
  match l.battery_node with
  | none => .fin 0
  | some _ => deltaKwh l.total_surplus_w

end Locals

/-- The request of an operation at the address of a stored node. -/
def requestAt (py : Interp) (rejects : Uri → Bool) (node : Obj) (command : Command) :
    Except Exc PutRequest :=
  (nodeAddress py node).bind fun address => command.request rejects address.1 address.2

/-- The request of `get_battery_state(battery_node["ip"], int(battery_node.get("port", 5683)))`. -/
def batteryStateUri (py : Interp) (rejects : Uri → Bool) (node : Obj) : Except Exc Uri :=
  (nodeAddress py node).bind fun address =>
    (makeUri address.1 address.2 "actuators/battery").bind fun uri =>
      if rejects uri then .error .external else .ok uri

/-- What a cycle does that is seen outside. -/
inductive Action where
  /-- It asks the battery for its state. -/
  | getBattery (node : Node) (uri : Uri)
  /-- It commands a diesel node, `true` for `on`. -/
  | putDiesel (node : Node) (run : Bool) (request : PutRequest)
  /-- It commands the battery. -/
  | putBattery (node : Node) (request : PutRequest)
  /-- It hands its point to `write_api.write`, whose exceptions are caught. -/
  | write (point : Point)

/-- The point of a cycle. -/
def balancePoint (l : Locals) (soc : Option ExtRat) (battery_reachable dispatched : Bool) :
    Point where
  measurement := "energy_balance"
  tags := []
  fields := [("renewable_w", .float l.renewable_w), ("diesel_w", .float l.diesel_w),
    ("load_w", .float (.fin l.load_w)), ("surplus_w", .float l.total_surplus_w),
    ("delta_kwh", .float l.delta_kwh),
    ("battery_reachable", .int (if battery_reachable then 1 else 0)),
    ("battery_soc", .float (soc.getD (.fin (-1)))),
    ("diesel_dispatched", .int (if dispatched then 1 else 0))]

/-- Where the task is suspended. -/
inductive Task where
  /-- In its sleep. -/
  | sleeping
  /-- In `get_battery_state`. -/
  | readingSoc (l : Locals)
  /-- In `set_status`. -/
  | dispatching (l : Locals) (soc : Option ExtRat) (node : Node) (run : Bool)
  /-- In `adjust_battery`. -/
  | adjusting (l : Locals) (soc : Option ExtRat) (node : Node)

/-- What the task reads and changes. -/
structure State where
  /-- The registry. -/
  registry : Registry
  /-- `_latest_readings` -/
  readings : Dict Key Reading
  /-- `_diesel_dispatched` -/
  dispatched : Bool
  /-- Where the task is suspended. -/
  task : Task

/-- The cloud has just started. -/
def boot : State := ⟨Registry.boot, Dict.empty, false, .sleeping⟩

/-- What a cycle reads when its sleep is over. -/
def State.readLocals (s : State) (renewable_now diesel_now roll draw : ℚ) : Locals where
  renewable_w := powerByTypes .exact renewableTypes renewable_now s.registry s.readings
  diesel_w := powerByTypes .exact [dieselType] diesel_now s.registry s.readings
  load_w := generateLoadW roll draw
  battery_node := firstOfType "battery" s.registry

/-- What can happen. -/
inductive Event where
  /-- The other tasks and the MQTT thread leave the registry and the readings so. -/
  | others (registry : Registry) (readings : Dict Key Reading)
  /-- The sleep is over, with the times of the two calls of `_power_by_types` and the two numbers
  that are drawn for the load. -/
  | wake (renewable_now diesel_now roll draw : ℚ)
  /-- The sleep is over, and the MQTT thread adds a producer while the powers are summed, which
  raises. -/
  | raced
  /-- The battery's state has come, or none where the request fails or times out. -/
  | state (response : Option Response)
  /-- `set_status` has its answer, or the exception that takes its place. -/
  | diesel (answer : Except Exc Response)
  /-- `adjust_battery` has its answer, or the exception that takes its place. -/
  | battery (answer : Except Exc Response)

/-- `adjust_battery` raises `BatteryChargeLockedError`. -/
def chargeLocked (answer : Except Exc Response) : Bool :=
  match answer with
  | .error _ => false
  | .ok response => (replyText response).isOk && decide (response.code = .forbidden)

section

variable (py : Interp) (rejects : Uri → Bool)

/-- The request for the battery's state, where there is a battery and the request can be made. -/
def Locals.stateRequest (l : Locals) : Option (Node × Uri) :=
  l.battery_node.bind fun node =>
    (batteryStateUri py rejects node.info).toOption.map fun uri => (node, uri)

/-- The request of `_update_diesel_dispatch`, where it makes one and it can be made. -/
def dieselRequest (dispatched : Bool) (diesel_node : Option Node) (soc : Option ExtRat)
    (renewable_surplus_w : ExtRat) : Option (Node × Bool × PutRequest) :=
  (dieselCommand dispatched diesel_node soc renewable_surplus_w).bind fun c =>
    (requestAt py rejects c.1.info (dieselStatus c.2)).toOption.map fun request =>
      (c.1, c.2, request)

/-- The request that changes the charge, where there is a battery, the change is not zero, and the
request can be made. -/
def Locals.batteryRequest (l : Locals) : Option (Node × PutRequest) :=
  l.battery_node.bind fun node =>
    if l.delta_kwh ≠ .fin 0 then
      (requestAt py rejects node.info (.adjustBattery l.delta_kwh)).toOption.map fun request =>
        (node, request)
    else none

/-- `battery_reachable` after the call of `adjust_battery`. -/
def reached (node : Node) (delta_kwh : ExtRat) (answer : Except Exc Response) : Bool :=
  ((Command.adjustBattery delta_kwh).performAt py rejects node.info answer).isOk ||
    chargeLocked answer

/-- The rest of a cycle from its point on. -/
def finishCycle (s : State) (l : Locals) (soc : Option ExtRat) (battery_reachable : Bool) :
    State × List Action :=
  ({ s with task := .sleeping }, [.write (balancePoint l soc battery_reachable s.dispatched)])

/-- The rest of a cycle from the command to the battery on. -/
def adjust (s : State) (l : Locals) (soc : Option ExtRat) : State × List Action :=
  match l.batteryRequest py rejects with
  | some (node, request) => ({ s with task := .adjusting l soc node }, [.putBattery node request])
  | none => finishCycle s l soc false

/-- The rest of a cycle from `_update_diesel_dispatch` on. -/
def dispatch (s : State) (l : Locals) (soc : Option ExtRat) : State × List Action :=
  match dieselRequest py rejects s.dispatched (firstOfType dieselType s.registry) soc
      l.renewable_surplus_w with
  | some (node, run, request) =>
    ({ s with task := .dispatching l soc node run }, [.putDiesel node run request])
  | none => adjust py rejects s l soc

/-- The rest of a cycle from its sleep on. -/
def beginCycle (s : State) (l : Locals) : State × List Action :=
  match l.stateRequest py rejects with
  | some (node, uri) => ({ s with task := .readingSoc l }, [.getBattery node uri])
  | none => dispatch py rejects s l none

/-- The task runs from one suspension to the next. An event that it does not wait for leaves it
alone. -/
def advance (s : State) : Event → State × List Action
  | .others registry readings => ({ s with registry := registry, readings := readings }, [])
  | .wake renewable_now diesel_now roll draw =>
    match s.task with
    | .sleeping =>
      beginCycle py rejects s (s.readLocals renewable_now diesel_now roll draw)
    | _ => (s, [])
  -- The `except` of the cycle catches what is raised before its first await.
  | .raced => (s, [])
  | .state response =>
    match s.task with
    | .readingSoc l => dispatch py rejects s l (getBatterySoc py response)
    | _ => (s, [])
  | .diesel answer =>
    match s.task with
    | .dispatching l soc node run =>
      let returned := ((dieselStatus run).performAt py rejects node.info answer).isOk
      adjust py rejects { s with dispatched := if returned then run else s.dispatched } l soc
    | _ => (s, [])
  | .battery answer =>
    match s.task with
    | .adjusting l soc node => finishCycle s l soc (reached py rejects node l.delta_kwh answer)
    | _ => (s, [])

/-- The state after an event. -/
def step (s : State) (e : Event) : State := (advance py rejects s e).1

/-- What the task does at an event. -/
def acts (s : State) (e : Event) : List Action := (advance py rejects s e).2

/-- A whole cycle: what it reads, and what its requests are answered. An answer to a request that it
does not make is not looked at. -/
structure Round where
  /-- What it reads when its sleep is over. -/
  locals : Locals
  /-- The battery's state. -/
  state : Option Response
  /-- The diesel node that it picks. -/
  diesel_node : Option Node
  /-- The answer of the diesel node. -/
  diesel : Except Exc Response
  /-- The battery's answer to the command. -/
  battery : Except Exc Response

namespace Round

/-- The state of charge that the cycle knows. -/
def soc (r : Round) : Option ExtRat :=
  if (r.locals.stateRequest py rejects).isSome then getBatterySoc py r.state else none

/-- The command of the cycle to a diesel node, where the flag was `dispatched`. -/
def dieselRequest (dispatched : Bool) (r : Round) : Option (Node × Bool × PutRequest) :=
  BalanceLoop.dieselRequest py rejects dispatched r.diesel_node (r.soc py rejects)
    r.locals.renewable_surplus_w

/-- The cycle as `_update_diesel_dispatch` sees it. -/
def dieselCycle (dispatched : Bool) (r : Round) : DieselHysteresis.Cycle Node where
  diesel_node := r.diesel_node
  soc := r.soc py rejects
  renewable_surplus_w := r.locals.renewable_surplus_w
  returned :=
    match r.dieselRequest py rejects dispatched with
    | some (node, run, _) => ((dieselStatus run).performAt py rejects node.info r.diesel).isOk
    | none => false

/-- `_diesel_dispatched` after the cycle. -/
def next (dispatched : Bool) (r : Round) : Bool :=
  DieselHysteresis.step dispatched (r.dieselCycle py rejects dispatched)

/-- `battery_reachable` of the cycle. -/
def batteryReachable (r : Round) : Bool :=
  match r.locals.batteryRequest py rejects with
  | some (node, _) => reached py rejects node r.locals.delta_kwh r.battery
  | none => false

/-- What the cycle does up to the await of the battery's state. -/
def stateActs (r : Round) : List Action :=
  ((r.locals.stateRequest py rejects).map fun q => Action.getBattery q.1 q.2).toList

/-- What the cycle does up to the await of the diesel node's answer. -/
def dieselActs (dispatched : Bool) (r : Round) : List Action :=
  r.stateActs py rejects ++
    ((r.dieselRequest py rejects dispatched).map fun q => Action.putDiesel q.1 q.2.1 q.2.2).toList

/-- What the cycle does up to the await of the battery's answer. -/
def batteryActs (dispatched : Bool) (r : Round) : List Action :=
  r.dieselActs py rejects dispatched ++
    ((r.locals.batteryRequest py rejects).map fun q => Action.putBattery q.1 q.2).toList

/-- What the cycle does: it asks the battery for its state, commands a diesel node, commands the
same battery, each at most once and in this order, and writes one point. -/
def trace (dispatched : Bool) (r : Round) : List Action :=
  r.batteryActs py rejects dispatched ++
    [.write (balancePoint r.locals (r.soc py rejects) (r.batteryReachable py rejects)
      (r.next py rejects dispatched))]

end Round

/-- One of the events `es`, which follow the state `s`, is `e`, and finds the task at `task` in
`s'`. -/
def Finds (s : State) (es : List Event) (task : Task) (e : Event) (s' : State) : Prop :=
  s'.task = task ∧ ∃ before, before ++ [e] <+: es ∧ run (step py rejects) s before = s'

/-- One of the events `es`, which follow the state `s`, ends the sleep of the task, which then reads
`l`. -/
def WakesWith (s : State) (es : List Event) (l : Locals) : Prop :=
  ∃ s' renewable_now diesel_now roll draw,
    Finds py rejects s es .sleeping (.wake renewable_now diesel_now roll draw) s' ∧
      l = s'.readLocals renewable_now diesel_now roll draw

/-- The cycle has read the events `es`, which follow the state `s` in which it begins, up to its
choice of a diesel node. -/
structure PicksDiesel (s : State) (es : List Event) (r : Round) : Prop where
  /-- What it reads when its sleep is over, it reads from the state of that moment, and where it
  does not ask for the battery's state, it picks the diesel node then. -/
  wakes : ∃ s' renewable_now diesel_now roll draw,
    Finds py rejects s es .sleeping (.wake renewable_now diesel_now roll draw) s' ∧
      r.locals = s'.readLocals renewable_now diesel_now roll draw ∧
      (r.locals.stateRequest py rejects = none → r.diesel_node = firstOfType dieselType s'.registry)
  /-- The battery's state has come while the cycle awaited it, and the diesel node is picked
  then. -/
  state : (r.locals.stateRequest py rejects).isSome = true →
    ∃ s', Finds py rejects s es (.readingSoc r.locals) (.state r.state) s' ∧
      r.diesel_node = firstOfType dieselType s'.registry

/-- The cycle has read the events `es` up to the answer of the diesel node. -/
structure HearsDiesel (s : State) (es : List Event) (r : Round) : Prop
    extends PicksDiesel py rejects s es r where
  /-- The answer of the diesel node has come while the cycle awaited it. -/
  diesel : ∀ node on request, r.dieselRequest py rejects s.dispatched = some (node, on, request) →
    ∃ s', Finds py rejects s es (.dispatching r.locals (r.soc py rejects) node on)
      (.diesel r.diesel) s'

/-- The cycle has read the events `es`. -/
structure Reads (s : State) (es : List Event) (r : Round) : Prop
    extends HearsDiesel py rejects s es r where
  /-- The battery's answer has come while the cycle awaited it. -/
  battery : ∀ node request, r.locals.batteryRequest py rejects = some (node, request) →
    ∃ s', Finds py rejects s es (.adjusting r.locals (r.soc py rejects) node)
      (.battery r.battery) s'

/-- The events `es`, which follow the state `s`, are those of a whole cycle: the task is in its
sleep before them, and all that the cycle reads is read in them. -/
def IsCycle (s : State) (es : List Event) (r : Round) : Prop :=
  s.task = .sleeping ∧ Reads py rejects s es r

/-- The cycle that began in `s` is at `s'` after the events `es`, and has done `o` so far. -/
def OpenAt (s : State) (es : List Event) (s' : State) (o : List Action) : Prop :=
  match s'.task with
  | .sleeping => s'.dispatched = s.dispatched ∧ o = []
  | .readingSoc l =>
    s'.dispatched = s.dispatched ∧ WakesWith py rejects s es l ∧
      (l.stateRequest py rejects).isSome = true ∧
      o = ((l.stateRequest py rejects).map fun q => Action.getBattery q.1 q.2).toList
  | .dispatching l soc node run =>
    s'.dispatched = s.dispatched ∧ ∃ r : Round, r.locals = l ∧ r.soc py rejects = soc ∧
      PicksDiesel py rejects s es r ∧
      (∃ request, r.dieselRequest py rejects s.dispatched = some (node, run, request)) ∧
      o = r.dieselActs py rejects s.dispatched
  | .adjusting l soc node =>
    ∃ r : Round, r.locals = l ∧ r.soc py rejects = soc ∧ HearsDiesel py rejects s es r ∧
      s'.dispatched = r.next py rejects s.dispatched ∧
      (∃ request, l.batteryRequest py rejects = some (node, request)) ∧
      o = r.batteryActs py rejects s.dispatched

/-- The cycle that began in `s` goes on, or has just ended. -/
def Settled (s : State) (es : List Event) (s' : State) (o : List Action) : Prop :=
  OpenAt py rejects s es s' o ∨
    ∃ r : Round, o = r.trace py rejects s.dispatched ∧ Reads py rejects s es r ∧
      s'.task = .sleeping ∧ s'.dispatched = r.next py rejects s.dispatched

end

section

variable {py : Interp} {rejects : Uri → Bool}

/-- An event more does not take away what has been read. -/
theorem Finds.concat {s s' : State} {es : List Event} {task : Task} {e : Event}
    (h : Finds py rejects s es task e s') (e' : Event) :
    Finds py rejects s (es ++ [e']) task e s' := by
  obtain ⟨htask, before, hprefix, hs'⟩ := h
  exact ⟨htask, before, hprefix.trans (List.prefix_append es [e']), hs'⟩

/-- The last event finds the task where it is. -/
theorem finds_last (s : State) (es : List Event) (e : Event) :
    Finds py rejects s (es ++ [e]) (run (step py rejects) s es).task e
      (run (step py rejects) s es) :=
  ⟨rfl, es, List.prefix_rfl, rfl⟩

theorem WakesWith.concat {s : State} {es : List Event} {l : Locals}
    (h : WakesWith py rejects s es l) (e : Event) : WakesWith py rejects s (es ++ [e]) l := by
  obtain ⟨s', renewable_now, diesel_now, roll, draw, hfinds, hl⟩ := h
  exact ⟨s', renewable_now, diesel_now, roll, draw, hfinds.concat e, hl⟩

theorem PicksDiesel.concat {s : State} {es : List Event} {r : Round}
    (h : PicksDiesel py rejects s es r) (e : Event) : PicksDiesel py rejects s (es ++ [e]) r := by
  obtain ⟨s', renewable_now, diesel_now, roll, draw, hfinds, hread⟩ := h.wakes
  refine ⟨⟨s', renewable_now, diesel_now, roll, draw, hfinds.concat e, hread⟩, fun hsome => ?_⟩
  obtain ⟨s'', hfinds', hnode⟩ := h.state hsome
  exact ⟨s'', hfinds'.concat e, hnode⟩

theorem HearsDiesel.concat {s : State} {es : List Event} {r : Round}
    (h : HearsDiesel py rejects s es r) (e : Event) : HearsDiesel py rejects s (es ++ [e]) r :=
  ⟨h.toPicksDiesel.concat e, fun node on request hrequest =>
    (h.diesel node on request hrequest).imp fun _ hfinds => hfinds.concat e⟩

/-- What the task can do at an event. -/
inductive Advance (py : Interp) (rejects : Uri → Bool) (s : State) :
    Event → State × List Action → Prop where
  /-- The others go on. -/
  | others (registry : Registry) (readings : Dict Key Reading) :
      Advance py rejects s (.others registry readings)
        ({ s with registry := registry, readings := readings }, [])
  /-- It does not wait for the event. -/
  | idle (e : Event) : Advance py rejects s e (s, [])
  /-- Its sleep is over. -/
  | wake (renewable_now diesel_now roll draw : ℚ) (htask : s.task = .sleeping) :
      Advance py rejects s (.wake renewable_now diesel_now roll draw)
        (beginCycle py rejects s (s.readLocals renewable_now diesel_now roll draw))
  /-- The battery's state has come. -/
  | state (l : Locals) (response : Option Response) (htask : s.task = .readingSoc l) :
      Advance py rejects s (.state response) (dispatch py rejects s l (getBatterySoc py response))
  /-- The diesel node has answered. -/
  | diesel (l : Locals) (soc : Option ExtRat) (node : Node) (run : Bool)
      (answer : Except Exc Response)
      (htask : s.task = .dispatching l soc node run) :
      Advance py rejects s (.diesel answer) (adjust py rejects
        { s with
          dispatched :=
            if ((dieselStatus run).performAt py rejects node.info answer).isOk then run
            else s.dispatched } l soc)
  /-- The battery has answered. -/
  | battery (l : Locals) (soc : Option ExtRat) (node : Node) (answer : Except Exc Response)
      (htask : s.task = .adjusting l soc node) :
      Advance py rejects s (.battery answer)
        (finishCycle s l soc (reached py rejects node l.delta_kwh answer))

/-- The task does one of these. -/
theorem advance_cases (s : State) (e : Event) :
    Advance py rejects s e (advance py rejects s e) := by
  cases e with
  | others registry readings => exact .others registry readings
  | wake renewable_now diesel_now roll draw =>
    rcases htask : s.task with _ | l | ⟨l, soc, node, run⟩ | ⟨l, soc, node⟩
    · simp only [advance, htask]
      exact .wake renewable_now diesel_now roll draw htask
    · simp only [advance, htask]
      exact .idle _
    · simp only [advance, htask]
      exact .idle _
    · simp only [advance, htask]
      exact .idle _
  | raced => exact .idle _
  | state response =>
    rcases htask : s.task with _ | l | ⟨l, soc, node, run⟩ | ⟨l, soc, node⟩
    · simp only [advance, htask]
      exact .idle _
    · simp only [advance, htask]
      exact .state l response htask
    · simp only [advance, htask]
      exact .idle _
    · simp only [advance, htask]
      exact .idle _
  | diesel answer =>
    rcases htask : s.task with _ | l | ⟨l, soc, node, run⟩ | ⟨l, soc, node⟩
    · simp only [advance, htask]
      exact .idle _
    · simp only [advance, htask]
      exact .idle _
    · simp only [advance, htask]
      exact .diesel l soc node run answer htask
    · simp only [advance, htask]
      exact .idle _
  | battery answer =>
    rcases htask : s.task with _ | l | ⟨l, soc, node, run⟩ | ⟨l, soc, node⟩
    · simp only [advance, htask]
      exact .idle _
    · simp only [advance, htask]
      exact .idle _
    · simp only [advance, htask]
      exact .idle _
    · simp only [advance, htask]
      exact .battery l soc node answer htask

/-- From the command to the battery on, a cycle goes on as it should. -/
theorem adjust_settled {s s' : State} {es : List Event} {r : Round}
    (hr : HearsDiesel py rejects s es r) (hflag : s'.dispatched = r.next py rejects s.dispatched) :
    Settled py rejects s es (adjust py rejects s' r.locals (r.soc py rejects)).1
      (r.dieselActs py rejects s.dispatched ++
        (adjust py rejects s' r.locals (r.soc py rejects)).2) := by
  unfold adjust
  rcases hrequest : r.locals.batteryRequest py rejects with _ | ⟨node, request⟩
  · refine .inr ⟨r, ?_, ⟨hr, fun node request hsome => ?_⟩, rfl, hflag⟩
    · simp [finishCycle, Round.trace, Round.batteryActs, Round.batteryReachable, hrequest, hflag]
    · rw [hrequest] at hsome
      cases hsome
  · refine .inl ⟨r, rfl, rfl, hr, hflag, ⟨request, hrequest⟩, ?_⟩
    simp [Round.batteryActs, hrequest]

/-- From the choice of a diesel node on, a cycle goes on as it should. -/
theorem dispatch_settled {s s' : State} {es : List Event} {r : Round}
    (hr : PicksDiesel py rejects s es r)
    (hnode : r.diesel_node = firstOfType dieselType s'.registry)
    (hflag : s'.dispatched = s.dispatched) :
    Settled py rejects s es (dispatch py rejects s' r.locals (r.soc py rejects)).1
      (r.stateActs py rejects ++ (dispatch py rejects s' r.locals (r.soc py rejects)).2) := by
  have hdiesel : dieselRequest py rejects s'.dispatched (firstOfType dieselType s'.registry)
      (r.soc py rejects) r.locals.renewable_surplus_w =
        r.dieselRequest py rejects s.dispatched := by
    rw [← hnode, hflag]
    rfl
  unfold dispatch
  rw [hdiesel]
  rcases hrequest : r.dieselRequest py rejects s.dispatched with _ | ⟨node, run, request⟩
  · have hacts : r.dieselActs py rejects s.dispatched = r.stateActs py rejects := by
      simp [Round.dieselActs, hrequest]
    -- A call that is not made does not return.
    have hnext : r.next py rejects s.dispatched = s.dispatched :=
      (DieselHysteresis.hysteretic s.dispatched _).raised (by simp [Round.dieselCycle, hrequest])
    have hhears : HearsDiesel py rejects s es r := by
      refine ⟨hr, fun node on request hsome => ?_⟩
      rw [hrequest] at hsome
      cases hsome
    rw [← hacts]
    exact adjust_settled hhears (hflag.trans hnext.symm)
  · refine .inl ⟨hflag, r, rfl, rfl, hr, ⟨request, hrequest⟩, ?_⟩
    simp [Round.dieselActs, hrequest]

/-- From the end of the sleep on, a cycle goes on as it should. -/
theorem beginCycle_settled {s s' : State} {es : List Event} {renewable_now diesel_now roll draw : ℚ}
    (hfinds : Finds py rejects s es .sleeping (.wake renewable_now diesel_now roll draw) s')
    (hflag : s'.dispatched = s.dispatched) {l : Locals}
    (hl : l = s'.readLocals renewable_now diesel_now roll draw) :
    Settled py rejects s es (beginCycle py rejects s' l).1 (beginCycle py rejects s' l).2 := by
  unfold beginCycle
  rcases hrequest : l.stateRequest py rejects with _ | ⟨node, uri⟩
  · -- Without a request nothing is awaited, and no state of charge is known.
    let r : Round :=
      ⟨l, none, firstOfType dieselType s'.registry, .error .external, .error .external⟩
    have hsoc : r.soc py rejects = none := by simp [r, Round.soc, hrequest]
    have hacts : r.stateActs py rejects = [] := by simp [r, Round.stateActs, hrequest]
    have hpicks : PicksDiesel py rejects s es r :=
      ⟨⟨s', renewable_now, diesel_now, roll, draw, hfinds, hl, fun _ => rfl⟩, by simp [r, hrequest]⟩
    have hdispatch := dispatch_settled hpicks (rfl : _ = firstOfType dieselType s'.registry) hflag
    rwa [hsoc, hacts, List.nil_append] at hdispatch
  · have hwakes : WakesWith py rejects s es l :=
      ⟨s', renewable_now, diesel_now, roll, draw, hfinds, hl⟩
    refine .inl ⟨hflag, hwakes, ?_, ?_⟩
    · rw [hrequest]
      rfl
    · rw [hrequest]
      rfl

/-- A cycle that waits is where it was after an event that it does not wait for. -/
theorem OpenAt.idle {s s₁ s' : State} {es : List Event} {o : List Action}
    (h : OpenAt py rejects s es s₁ o) (htask : s'.task = s₁.task)
    (hflag : s'.dispatched = s₁.dispatched) (e : Event) : OpenAt py rejects s (es ++ [e]) s' o := by
  unfold OpenAt at h ⊢
  rw [htask, hflag]
  rcases hcase : s₁.task with _ | l | ⟨l, soc, node, run⟩ | ⟨l, soc, node⟩
  · rwa [hcase] at h
  · rw [hcase] at h
    exact ⟨h.1, h.2.1.concat e, h.2.2⟩
  · rw [hcase] at h
    obtain ⟨hsame, r, hl, hsoc, hpicks, hrequest, ho⟩ := h
    exact ⟨hsame, r, hl, hsoc, hpicks.concat e, hrequest, ho⟩
  · rw [hcase] at h
    obtain ⟨r, hl, hsoc, hhears, hnext, hrequest, ho⟩ := h
    exact ⟨r, hl, hsoc, hhears.concat e, hnext, hrequest, ho⟩

/-- The flag after a cycle that commands a diesel node. -/
theorem Round.next_of_request {dispatched : Bool} {r : Round} {node : Node} {run : Bool}
    {request : PutRequest} (h : r.dieselRequest py rejects dispatched = some (node, run, request)) :
    r.next py rejects dispatched =
      if ((dieselStatus run).performAt py rejects node.info r.diesel).isOk then run
      else dispatched := by
  obtain ⟨⟨node', run'⟩, hcommand, hmap⟩ := Option.bind_eq_some_iff.mp h
  obtain ⟨request', -, heq⟩ := Option.map_eq_some_iff.mp hmap
  simp only [Prod.mk.injEq] at heq
  obtain ⟨rfl, rfl, rfl⟩ := heq
  simp only [Round.next, DieselHysteresis.step, updateDieselDispatch, Round.dieselCycle,
    hcommand, h]

/-- The answer of the diesel node takes its place in the cycle. -/
theorem PicksDiesel.hears {s s' : State} {es : List Event} {r : Round} {node : Node} {on : Bool}
    {request : PutRequest} {answer : Except Exc Response} (h : PicksDiesel py rejects s es r)
    (hrequest : r.dieselRequest py rejects s.dispatched = some (node, on, request))
    (hfinds : Finds py rejects s es (.dispatching r.locals (r.soc py rejects) node on)
      (.diesel answer) s') :
    HearsDiesel py rejects s es { r with diesel := answer } := by
  refine ⟨⟨h.wakes, h.state⟩, fun node' on' request' hrequest' => ?_⟩
  have hsame : some (node, on, request) = some (node', on', request') :=
    hrequest.symm.trans hrequest'
  simp only [Option.some.injEq, Prod.mk.injEq] at hsame
  obtain ⟨rfl, rfl, -⟩ := hsame
  exact ⟨s', hfinds⟩

/-- So does the battery's answer to the command. -/
theorem HearsDiesel.reads {s s' : State} {es : List Event} {r : Round} {node : Node}
    {request : PutRequest} {answer : Except Exc Response} (h : HearsDiesel py rejects s es r)
    (hrequest : r.locals.batteryRequest py rejects = some (node, request))
    (hfinds : Finds py rejects s es (.adjusting r.locals (r.soc py rejects) node)
      (.battery answer) s') :
    Reads py rejects s es { r with battery := answer } := by
  refine ⟨⟨⟨h.wakes, h.state⟩, h.diesel⟩, fun node' request' hrequest' => ?_⟩
  have hsame : some (node, request) = some (node', request') := hrequest.symm.trans hrequest'
  simp only [Option.some.injEq, Prod.mk.injEq] at hsame
  obtain ⟨rfl, -⟩ := hsame
  exact ⟨s', hfinds⟩

/-- Every event continues the cycle under way or ends it. -/
theorem settled_concat {s : State} {es : List Event} {o : List Action} (e : Event)
    (h : OpenAt py rejects s es (run (step py rejects) s es) o) :
    Settled py rejects s (es ++ [e]) (run (step py rejects) s (es ++ [e]))
      (o ++ acts py rejects (run (step py rejects) s es) e) := by
  have hlast := @finds_last py rejects s es e
  rw [run_concat]
  generalize run (step py rejects) s es = s₁ at h hlast ⊢
  change Settled py rejects s (es ++ [e]) (advance py rejects s₁ e).1
    (o ++ (advance py rejects s₁ e).2)
  have hcases := @advance_cases py rejects s₁ e
  generalize advance py rejects s₁ e = q at hcases
  cases hcases with
  | others registry readings =>
    rw [List.append_nil]
    exact .inl (h.idle rfl rfl _)
  | idle e =>
    rw [List.append_nil]
    exact .inl (h.idle rfl rfl e)
  | wake renewable_now diesel_now roll draw htask =>
    rw [OpenAt, htask] at h
    rw [htask] at hlast
    rw [h.2, List.nil_append]
    exact beginCycle_settled hlast h.1 rfl
  | state l response htask =>
    rw [OpenAt, htask] at h
    rw [htask] at hlast
    obtain ⟨hflag, hl, hsome, ho⟩ := h
    obtain ⟨s', renewable_now, diesel_now, roll, draw, hfinds, hread⟩ := hl.concat (.state response)
    let r : Round :=
      ⟨l, response, firstOfType dieselType s₁.registry, .error .external, .error .external⟩
    have hsoc : r.soc py rejects = getBatterySoc py response := by simp [r, Round.soc, hsome]
    have hpicks : PicksDiesel py rejects s (es ++ [.state response]) r := by
      refine ⟨⟨s', renewable_now, diesel_now, roll, draw, hfinds, hread, fun hnone => ?_⟩,
        fun _ => ⟨s₁, hlast, rfl⟩⟩
      rw [hnone] at hsome
      cases hsome
    have hdispatch := dispatch_settled hpicks (rfl : _ = firstOfType dieselType s₁.registry) hflag
    rw [hsoc] at hdispatch
    rw [ho]
    exact hdispatch
  | diesel l soc node on answer htask =>
    rw [OpenAt, htask] at h
    rw [htask] at hlast
    obtain ⟨hflag, r, rfl, rfl, hpicks, ⟨request, hrequest⟩, ho⟩ := h
    let r' : Round := { r with diesel := answer }
    have hhears : HearsDiesel py rejects s (es ++ [.diesel answer]) r' :=
      (hpicks.concat (.diesel answer)).hears hrequest hlast
    rw [ho]
    refine adjust_settled (r := r') hhears ?_
    rw [Round.next_of_request (r := r') hrequest, ← hflag]
  | battery l soc node answer htask =>
    rw [OpenAt, htask] at h
    rw [htask] at hlast
    obtain ⟨r, rfl, rfl, hhears, hnext, ⟨request, hrequest⟩, ho⟩ := h
    let r' : Round := { r with battery := answer }
    have hreads : Reads py rejects s (es ++ [.battery answer]) r' :=
      (hhears.concat (.battery answer)).reads hrequest hlast
    refine .inr ⟨r', ?_, hreads, rfl, hnext⟩
    have hreached : r'.batteryReachable py rejects =
        reached py rejects node r.locals.delta_kwh answer := by
      simp only [r', Round.batteryReachable, hrequest]
    rw [ho, Round.trace, hreached, finishCycle, hnext]
    rfl

/-- Every run of the loop from its start, whatever the other tasks do while it is suspended and
whatever its requests are answered, is a sequence of whole cycles and the beginning of one: its
events fall into one block for each cycle, in order, and the rest. Each whole cycle asks the battery
for its state, commands a diesel node, commands the battery that it has asked, each at most once and
in this order, and writes one point, which tells what it has read and what has come of it. It has
read all that in its own block, and the flag passes from cycle to cycle as `_update_diesel_dispatch`
says. -/
theorem balance_loop_rounds (py : Interp) (rejects : Uri → Bool) (es : List Event) :
    ∃ blocks post rounds, es = blocks.flatten ++ post ∧
      InBlocks (step py rejects) (acts py rejects) (Round.next py rejects) (Round.trace py rejects)
        (IsCycle py rejects) boot false blocks rounds ∧
      outputs (step py rejects) (acts py rejects) boot es =
        outputs (Round.next py rejects) (Round.trace py rejects) false rounds ++
          outputs (step py rejects) (acts py rejects)
            (run (step py rejects) boot blocks.flatten) post ∧
      (run (step py rejects) boot blocks.flatten).task = .sleeping ∧
      (run (step py rejects) boot blocks.flatten).dispatched =
        run (Round.next py rejects) false rounds ∧
      OpenAt py rejects (run (step py rejects) boot blocks.flatten) post
        (run (step py rejects) boot es)
        (outputs (step py rejects) (acts py rejects)
          (run (step py rejects) boot blocks.flatten) post) := by
  -- The machine of the whole cycles has the flag as its state, and sees it where the task sleeps.
  have hstep : ∀ s es t o e,
      (s.task = .sleeping ∧ s.dispatched = t ∧
        OpenAt py rejects s es (run (step py rejects) s es) o) →
      (s.task = .sleeping ∧ s.dispatched = t ∧
        OpenAt py rejects s (es ++ [e]) (run (step py rejects) s (es ++ [e]))
          (o ++ acts py rejects (run (step py rejects) s es) e)) ∨
      ∃ r, o ++ acts py rejects (run (step py rejects) s es) e = Round.trace py rejects t r ∧
        IsCycle py rejects s (es ++ [e]) r ∧
        ((run (step py rejects) s (es ++ [e])).task = .sleeping ∧
          (run (step py rejects) s (es ++ [e])).dispatched = Round.next py rejects t r ∧
          OpenAt py rejects (run (step py rejects) s (es ++ [e])) []
            (run (step py rejects) (run (step py rejects) s (es ++ [e])) []) []) := by
    rintro s es t o e ⟨hs, rfl, hopen⟩
    rcases settled_concat e hopen with hopen' | ⟨r, htrace, hreads, htask, hflag⟩
    · exact .inl ⟨hs, rfl, hopen'⟩
    · refine .inr ⟨r, htrace, ⟨hs, hreads⟩, htask, hflag, ?_⟩
      -- The next cycle has done nothing yet.
      rw [run_nil, OpenAt, htask]
      exact ⟨rfl, rfl⟩
  have hboot : OpenAt py rejects boot [] (run (step py rejects) boot []) [] := ⟨rfl, rfl⟩
  obtain ⟨blocks, post, rounds, rfl, hblocks, htask, hflag, hopen⟩ :=
    exists_rounds hstep ⟨rfl, rfl, hboot⟩ es
  refine ⟨blocks, post, rounds, rfl, hblocks, ?_, htask, hflag, ?_⟩
  · rw [outputs_append, hblocks.outputs_eq]
    rfl
  · rw [← run_append] at hopen
    exact hopen

/-- The command to the battery leaves the flag alone, and no diesel node is awaited after it. -/
theorem adjust_task (s : State) (l : Locals) (soc : Option ExtRat) :
    (adjust py rejects s l soc).1.dispatched = s.dispatched ∧
      ∀ l' soc' node run, (adjust py rejects s l soc).1.task ≠ .dispatching l' soc' node run := by
  unfold adjust finishCycle
  rcases l.batteryRequest py rejects with _ | ⟨node, request⟩
  · exact ⟨rfl, fun _ _ _ _ h => by cases h⟩
  · exact ⟨rfl, fun _ _ _ _ h => by cases h⟩

/-- The choice of a diesel node leaves the flag alone, and a diesel node is awaited after it only
with the command that the state of charge asks for. -/
theorem dispatch_task (s : State) (l : Locals) (soc : Option ExtRat) :
    (dispatch py rejects s l soc).1.dispatched = s.dispatched ∧
      ∀ l' soc' node run, (dispatch py rejects s l soc).1.task = .dispatching l' soc' node run →
        l' = l ∧ soc' = soc ∧
          dieselCommand s.dispatched (some node) soc l.renewable_surplus_w = some (node, run) := by
  unfold dispatch
  rcases hrequest : dieselRequest py rejects s.dispatched (firstOfType dieselType s.registry) soc
    l.renewable_surplus_w with _ | ⟨node, run, request⟩
  · obtain ⟨hflag, htask⟩ := @adjust_task py rejects s l soc
    exact ⟨hflag, fun l' soc' node run h => absurd h (htask l' soc' node run)⟩
  · refine ⟨rfl, fun l' soc' node' run' h => ?_⟩
    obtain ⟨⟨node'', run''⟩, hcommand, hmap⟩ := Option.bind_eq_some_iff.mp hrequest
    obtain ⟨request', -, heq⟩ := Option.map_eq_some_iff.mp hmap
    simp only [Prod.mk.injEq] at heq
    obtain ⟨rfl, rfl, rfl⟩ := heq
    cases h
    obtain ⟨-, hnode, -⟩ := dieselCommand_eq_some hcommand
    rw [hnode] at hcommand
    exact ⟨rfl, rfl, hcommand⟩

/-- The end of the sleep leaves the flag alone, and no diesel node is awaited right after it. -/
theorem beginCycle_task (s : State) (l : Locals) :
    (beginCycle py rejects s l).1.dispatched = s.dispatched ∧
      ∀ l' soc' node run, (beginCycle py rejects s l).1.task ≠ .dispatching l' soc' node run := by
  unfold beginCycle
  rcases l.stateRequest py rejects with _ | ⟨node, uri⟩
  · obtain ⟨hflag, htask⟩ := @dispatch_task py rejects s l none
    refine ⟨hflag, fun l' soc' node run h => ?_⟩
    -- Without a state of charge there is no command.
    obtain ⟨-, -, hcommand⟩ := htask l' soc' node run h
    cases hcommand
  · exact ⟨rfl, fun _ _ _ _ h => by cases h⟩

/-- A flag changes only when the awaited diesel node has answered. -/
theorem step_dispatched_cases (s : State) (e : Event) :
    (step py rejects s e).dispatched = s.dispatched ∨
      ∃ l soc node run answer, s.task = .dispatching l soc node run ∧ e = .diesel answer ∧
        ((dieselStatus run).performAt py rejects node.info answer).isOk = true ∧
        (step py rejects s e).dispatched = run ∧
        ∀ l' soc' node' run', (step py rejects s e).task ≠ .dispatching l' soc' node' run' := by
  have hcases := @advance_cases py rejects s e
  unfold step
  generalize advance py rejects s e = q at hcases
  cases hcases with
  | others registry readings => exact .inl rfl
  | idle e => exact .inl rfl
  | wake renewable_now diesel_now roll draw htask => exact .inl (beginCycle_task s _).1
  | state l response htask => exact .inl (dispatch_task s l _).1
  | diesel l soc node run answer htask =>
    -- The command to the battery, which comes next, leaves the flag alone.
    rw [(adjust_task _ l soc).1]
    by_cases hok : ((dieselStatus run).performAt py rejects node.info answer).isOk = true
    · rw [if_pos hok]
      exact .inr ⟨l, soc, node, run, answer, htask, rfl, hok, rfl, (adjust_task _ l soc).2⟩
    · rw [if_neg hok]
      exact .inl rfl
  | battery l soc node answer htask => exact .inl rfl

/-- A diesel node is awaited after a step where it was awaited before, or where a state of charge
has just come that asks for the command. -/
theorem step_dispatching {s : State} {e : Event} {l : Locals} {soc : Option ExtRat} {node : Node}
    {run : Bool} (h : (step py rejects s e).task = .dispatching l soc node run) :
    (s.task = .dispatching l soc node run ∧ (step py rejects s e).dispatched = s.dispatched) ∨
      ∃ response, e = .state response ∧ soc = getBatterySoc py response ∧
        (step py rejects s e).dispatched = s.dispatched ∧
        dieselCommand s.dispatched (some node) soc l.renewable_surplus_w = some (node, run) := by
  have hcases := @advance_cases py rejects s e
  unfold step at h ⊢
  generalize advance py rejects s e = q at hcases h
  cases hcases with
  | others registry readings => exact .inl ⟨h, rfl⟩
  | idle e => exact .inl ⟨h, rfl⟩
  | wake renewable_now diesel_now roll draw htask =>
    exact absurd h ((beginCycle_task s _).2 l soc node run)
  | state l' response htask =>
    obtain ⟨hflag, hcommand⟩ := @dispatch_task py rejects s l' (getBatterySoc py response)
    obtain ⟨rfl, rfl, hcommand⟩ := hcommand l soc node run h
    exact .inr ⟨response, rfl, rfl, hflag, hcommand⟩
  | diesel l' soc' node' run' answer htask =>
      exact absurd h ((adjust_task _ l' soc').2 l soc node run)
  | battery l' soc' node' answer htask => cases h

/-- The event switches the flag on. -/
def SwitchesOn (py : Interp) (rejects : Uri → Bool) (s : State) (e : Event) : Prop :=
  s.dispatched = false ∧ (step py rejects s e).dispatched = true

/-- A state of charge above the recovery threshold has come. -/
def Recovered (py : Interp) (es : List Event) : Prop :=
  ∃ response, .state response ∈ es ∧ SocRecovered (getBatterySoc py response)

/-- In every run a diesel node is awaited only with a command that a state of charge has asked for,
which has come since the start. -/
theorem run_dispatching (es : List Event) {l : Locals} {soc : Option ExtRat} {node : Node}
    {on : Bool} (h : (run (step py rejects) boot es).task = .dispatching l soc node on) :
    ∃ response, .state response ∈ es ∧ soc = getBatterySoc py response ∧
      dieselCommand (run (step py rejects) boot es).dispatched (some node) soc
        l.renewable_surplus_w =
        some (node, on) := by
  induction es using List.reverseRecOn with
  | nil => cases h
  | append_singleton es e ih =>
    rw [run_concat] at h ⊢
    rcases step_dispatching h with ⟨hbefore, hflag⟩ | ⟨response, rfl, hsoc, hflag, hcommand⟩
    · obtain ⟨response, hresponse, hsoc, hcommand⟩ := ih hbefore
      rw [hflag]
      exact ⟨response, List.mem_append_left [e] hresponse, hsoc, hcommand⟩
    · rw [hflag]
      exact ⟨response, by simp, hsoc, hcommand⟩

/-- A flag that is set while no diesel node is awaited stays set until a recovered state of charge
has come. -/
theorem run_set {s : State} (hs : s.dispatched = true)
    (htask : ∀ l soc node run, s.task ≠ .dispatching l soc node run) (es : List Event) :
    Recovered py es ∨ ((run (step py rejects) s es).dispatched = true ∧
      ∀ l soc node run', (run (step py rejects) s es).task ≠ .dispatching l soc node run') := by
  induction es using List.reverseRecOn with
  | nil => exact .inr ⟨hs, htask⟩
  | append_singleton es e ih =>
    rcases ih with ⟨response, hresponse, hrecovered⟩ | ⟨hset, hnone⟩
    · exact .inl ⟨response, List.mem_append_left [e] hresponse, hrecovered⟩
    · rw [run_concat]
      have hset' : (step py rejects (run (step py rejects) s es) e).dispatched = true := by
        rcases @step_dispatched_cases py rejects (run (step py rejects) s es) e with
          hsame | ⟨l, soc, node, on, answer, hbefore, -⟩
        · rw [hsame, hset]
        · exact absurd hbefore (hnone l soc node on)
      by_cases hawaits : ∃ l soc node on,
          (step py rejects (run (step py rejects) s es) e).task = .dispatching l soc node on
      · obtain ⟨l, soc, node, on, hawaits⟩ := hawaits
        rcases step_dispatching hawaits with ⟨hbefore, -⟩ | ⟨response, rfl, hsoc, -, hcommand⟩
        · exact absurd hbefore (hnone l soc node on)
        · -- What a set flag asks for is a stop, above the recovery threshold.
          have hon : on = false := by
            obtain ⟨hon, -⟩ := dieselCommand_eq_some hcommand
            rw [hset] at hon
            simpa using hon.symm
          rw [hset, hon, dieselCommand_true, hsoc] at hcommand
          exact .inl ⟨response, by simp, hcommand⟩
      · refine .inr ⟨hset', fun l soc node on h => ?_⟩
        exact hawaits ⟨l, soc, node, on, h⟩

/-- The change of the flag to `on` at the event `e`, after the events `pre`, was asked for: the call
that commands it returns at `e`, and the state of charge that the cycle has read has come in `pre`
and asks for it. -/
def AskedFor (py : Interp) (rejects : Uri → Bool) (pre : List Event) (e : Event) (on : Bool) :
    Prop :=
  ∃ l node answer response, e = .diesel answer ∧
    ((dieselStatus on).performAt py rejects node.info answer).isOk = true ∧
    (run (step py rejects) boot pre).task = .dispatching l (getBatterySoc py response) node on ∧
    .state response ∈ pre ∧
    if on then SocLow (getBatterySoc py response) ∧ l.renewable_surplus_w.lt (.fin 0) = true
    else SocRecovered (getBatterySoc py response)

/-- The hysteresis of the diesel dispatch, whatever the other tasks do between the awaits of the
loop and whatever is lost. The flag changes only when the call that commands the change returns: to
set it a state of charge below the dispatch threshold has come, in a deficit, and to clear it one
above the recovery threshold. Between two events that switch it on, a state of charge above the
recovery threshold has come. -/
theorem interleaved_hysteresis (py : Interp) (rejects : Uri → Bool) :
    (∀ pre e on, (run (step py rejects) boot pre).dispatched = !on →
      (run (step py rejects) boot (pre ++ [e])).dispatched = on → AskedFor py rejects pre e on) ∧
    (∀ pre e mid e', SwitchesOn py rejects (run (step py rejects) boot pre) e →
      SwitchesOn py rejects (run (step py rejects) boot (pre ++ e :: mid)) e' →
        Recovered py mid) := by
  constructor
  · intro pre e on hbefore hafter
    rw [run_concat] at hafter
    rcases @step_dispatched_cases py rejects (run (step py rejects) boot pre) e with
      hsame | ⟨l, soc, node, on', answer, htask, rfl, hok, hset, -⟩
    · rw [hsame, hbefore] at hafter
      exact absurd hafter (Bool.not_ne_self on)
    · obtain rfl : on' = on := hset.symm.trans hafter
      -- The awaited command was made when the battery's state came.
      obtain ⟨response, hresponse, rfl, hcommand⟩ := run_dispatching pre htask
      refine ⟨l, node, answer, response, rfl, hok, htask, hresponse, ?_⟩
      rw [hbefore] at hcommand
      cases on' with
      | false => exact (dieselCommand_true node _ _).mp hcommand
      | true => exact (dieselCommand_false node _ _).mp hcommand
  · rintro pre e mid e' ⟨hclear, hset⟩ ⟨hclear', -⟩
    rw [run_append, run_cons] at hclear'
    rcases @step_dispatched_cases py rejects (run (step py rejects) boot pre) e with
      hsame | ⟨l, soc, node, on, answer, -, -, -, -, hnone⟩
    · rw [hsame, hclear] at hset
      cases hset
    · -- After the first of the two no diesel node is awaited.
      rcases run_set hset hnone mid with hrecovered | ⟨hstill, -⟩
      · exact hrecovered
      · rw [hstill] at hclear'
        cases hclear'

end

end EnergyStation.Cloud.BalanceLoop
