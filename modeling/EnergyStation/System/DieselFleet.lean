import EnergyStation.Cloud.Balance
import EnergyStation.Firmware.Status
import EnergyStation.Lib.Runs
import Mathlib.Logic.Function.Basic

/-!
# The cloud and a fleet of diesel generators

Any number of producers, each at its address, and a cloud that sees them through its registry. A
balance cycle picks the first diesel node of the registry anew, and `_diesel_dispatched` is one flag
for all of them. Messages are not lost: a command reaches the producer at the address of the chosen
node, and its reply returns. What a cycle does is said once, by `step_of_none` and
`step_of_some`.
-/

namespace EnergyStation.System.DieselFleet

open Python Cloud Firmware Runs

/-- The text is made of what an IPv6 address is written with: hexadecimal digits and colons. -/
def Ipv6Text (ip : Str) : Prop :=
  58 ∈ ip ∧ ∀ c ∈ ip, (48 ≤ c ∧ c ≤ 58) ∨ (65 ≤ c ∧ c ≤ 70) ∨ (97 ≤ c ∧ c ≤ 102)

instance (ip : Str) : Decidable (Ipv6Text ip) := inferInstanceAs (Decidable (_ ∧ _))

/-- The body of a node's request to `/register`. -/
structure Registration where
  /-- `node_id`, which the firmware builds from its type and its link-layer address. -/
  node_id : Str
  /-- `ip` -/
  ip : Str
  /-- `type` -/
  type : Str
  /-- `sent_ms` -/
  sent_ms : ℤ
  /-- The id is not empty. -/
  node_id_ne : node_id ≠ []
  /-- The node has an address that the cloud can send to. -/
  ip_usable : Ipv6Text ip

/-- The object that the body spells. -/
def Registration.payload (reg : Registration) : Obj :=
  [(Numeral.text "node_id", .str reg.node_id), (Numeral.text "ip", .str reg.ip),
    (Numeral.text "port", .int 5683), (Numeral.text "type", .str reg.type),
    (Numeral.text "proto", .str (Numeral.text "coap")), (Numeral.text "sent_ms", .int reg.sent_ms)]

/-- The registration of a diesel node. -/
def Registration.diesel (node_id ip : String) (hid : Numeral.text node_id ≠ [])
    (hip : Ipv6Text (Numeral.text ip)) : Registration where
  node_id := Numeral.text node_id
  ip := Numeral.text ip
  type := Numeral.text dieselType
  sent_ms := 15000
  node_id_ne := hid
  ip_usable := hip

/-- The registry after `add_node` of a registration. Where it raises, it stores nothing. -/
def register (r : Registry) (now_ms : ℤ) (reg : Registration) : Registry :=
  (r.addNode now_ms reg.payload).toOption.getD r

/-- The address to which a node's requests are sent. Every registration has one. -/
def address (node : Node) : Str :=
  match node.info.get "ip" with
  | .str ip => ip
  | _ => []

/-- The address of the diesel node that a cycle would pick. -/
def dieselAddress (r : Registry) : Option Str := (firstOfType dieselType r).map address

/-- The cloud, and the producer at each address. -/
structure State where
  /-- The registry. -/
  registry : Registry
  /-- `_diesel_dispatched` -/
  dispatched : Bool
  /-- The producers. -/
  devices : Str → Producer

/-- What can happen. -/
inductive Event where
  /-- A balance cycle, with its state of charge and its surplus. -/
  | cycle (soc : Option ExtRat) (renewableSurplusW : ExtRat)
  /-- A node registers. -/
  | register (now_ms : ℤ) (reg : Registration)
  /-- The heartbeat loop removes a node. -/
  | remove (node_id : Str)
  /-- The producer at an address reboots. -/
  | reboot (ip : Str)
  /-- A clock tick of the producer at an address. -/
  | tick (ip : Str)
  /-- The timer process of the producer at an address runs. -/
  | fire (ip : Str)

/-- The command that a cycle sends, and where, `true` for `on`. -/
def command (s : State) (soc : Option ExtRat) (surplus : ExtRat) : Option (Str × Bool) :=
  dieselCommand s.dispatched (dieselAddress s.registry) soc surplus

/-- The producer at an address changes. -/
def State.update (s : State) (ip : Str) (f : Producer → Producer) : State :=
  { s with devices := Function.update s.devices ip (f (s.devices ip)) }

/-- The producer's state after a command. -/
def obey (cfg : ProducerBuild) (run : Bool) (p : Producer) : Producer :=
  (p.resPutHandler cfg (Producer.statusBody run)).2

/-- The state after a cycle's command, if it sends one, with the flag after the cycle. -/
def State.deliver (cfg : ProducerBuild) (s : State) (dispatched : Bool)
    (c : Option (Str × Bool)) : State :=
  match c with
  | some (ip, run) => { s.update ip (obey cfg run) with dispatched := dispatched }
  | none => { s with dispatched := dispatched }

/-- One event. -/
def step (cfg : ProducerBuild) (s : State) : Event → State
  | .cycle soc surplus =>
    s.deliver cfg (updateDieselDispatch s.dispatched (dieselAddress s.registry) soc surplus true)
      (command s soc surplus)
  | .register now_ms reg => { s with registry := register s.registry now_ms reg }
  | .remove node_id => { s with registry := s.registry.delete (.str node_id) }
  | .reboot ip => s.update ip fun _ => Producer.boot cfg
  | .tick ip => s.update ip Producer.tick
  | .fire ip => s.update ip Producer.fire

/-- The cloud has just started, and so have the producers. -/
def boot (cfg : ProducerBuild) : State := ⟨Registry.boot, false, fun _ => Producer.boot cfg⟩

/-- The producer is on or starting. -/
def Running (p : Producer) : Prop := p.device_on = true ∨ p.device_starting = true

instance (p : Producer) : Decidable (Running p) := inferInstanceAs (Decidable (_ ∨ _))

@[simp] theorem update_registry (s : State) (ip : Str) (f : Producer → Producer) :
    (s.update ip f).registry = s.registry := rfl

@[simp] theorem update_dispatched (s : State) (ip : Str) (f : Producer → Producer) :
    (s.update ip f).dispatched = s.dispatched := rfl

@[simp] theorem update_devices_self (s : State) (ip : Str) (f : Producer → Producer) :
    (s.update ip f).devices ip = f (s.devices ip) := Function.update_self ip _ s.devices

theorem update_devices_ne (s : State) {ip ip' : Str} (h : ip' ≠ ip) (f : Producer → Producer) :
    (s.update ip f).devices ip' = s.devices ip' := Function.update_of_ne h _ s.devices

/-- A property of every producer survives the change of one of them. -/
theorem forall_update {P : Str → Producer → Prop} {s : State} {ip : Str} {f : Producer → Producer}
    (hs : ∀ ip', P ip' (s.devices ip')) (hf : P ip (s.devices ip) → P ip (f (s.devices ip))) :
    ∀ ip', P ip' ((s.update ip f).devices ip') := by
  intro ip'
  by_cases h : ip' = ip
  · rw [h, update_devices_self]
    exact hf (hs ip)
  · rw [update_devices_ne s h]
    exact hs ip'

/-- A cycle that sends nothing changes nothing. -/
theorem step_of_none (cfg : ProducerBuild) {s : State} {soc : Option ExtRat} {surplus : ExtRat}
    (h : command s soc surplus = none) : step cfg s (.cycle soc surplus) = s := by
  have hnone : dieselCommand s.dispatched (dieselAddress s.registry) soc surplus = none := h
  simp only [step, h, updateDieselDispatch, hnone, State.deliver]

/-- A cycle's command goes to the first diesel node, and the flag takes its value. -/
theorem step_of_some (cfg : ProducerBuild) {s : State} {soc : Option ExtRat} {surplus : ExtRat}
    {ip : Str} {run : Bool} (h : command s soc surplus = some (ip, run)) :
    dieselAddress s.registry = some ip ∧
      step cfg s (.cycle soc surplus) = { s.update ip (obey cfg run) with dispatched := run } := by
  have hsome : dieselCommand s.dispatched (dieselAddress s.registry) soc surplus =
      some (ip, run) := h
  refine ⟨(dieselCommand_eq_some hsome).2.1, ?_⟩
  simp only [step, h, updateDieselDispatch, hsome, if_true, State.deliver]

/-- A cycle that needs the generator sends a start to the first diesel node, unless the flag is
set. -/
theorem command_of_low {s : State} {ip : Str} {soc : Option ExtRat} {surplus : ExtRat}
    (hip : dieselAddress s.registry = some ip) (hsoc : SocLow soc)
    (hsurplus : surplus.lt (.fin 0) = true) :
    command s soc surplus = if s.dispatched then none else some (ip, true) := by
  unfold command
  rw [hip]
  rcases s.dispatched with _ | _
  · exact (dieselCommand_false ip soc surplus).mpr ⟨hsoc, hsurplus⟩
  · rcases dieselCommand_cases true ip soc surplus with h | h
    · exact h
    · exact absurd ((dieselCommand_true ip soc surplus).mp h) hsoc.not_recovered

/-- A cycle that reads a recovered battery sends a stop to the first diesel node, if the flag is
set. -/
theorem command_of_recovered {s : State} {ip : Str} {soc : Option ExtRat}
    (hip : dieselAddress s.registry = some ip) (hsoc : SocRecovered soc) (surplus : ExtRat) :
    command s soc surplus = if s.dispatched then some (ip, false) else none := by
  unfold command
  rw [hip]
  rcases s.dispatched with _ | _
  · rcases dieselCommand_cases false ip soc surplus with h | h
    · exact h
    · exact absurd hsoc ((dieselCommand_false ip soc surplus).mp h).1.not_recovered
  · exact (dieselCommand_true ip soc surplus).mpr hsoc

/-- A stop is sent to the first diesel node, while the flag is set and after a reading above the
recovery threshold. -/
theorem command_stop_iff {s : State} {ip : Str} {soc : Option ExtRat} {surplus : ExtRat} :
    command s soc surplus = some (ip, false) ↔
      s.dispatched = true ∧ dieselAddress s.registry = some ip ∧ SocRecovered soc := by
  constructor
  · intro h
    obtain ⟨hflag, hip, q, hsoc, hstop⟩ := dieselCommand_eq_some h
    rw [hflag, Bool.not_false, shouldRun_true] at hstop
    exact ⟨hflag, hip, q, hsoc, hstop⟩
  · rintro ⟨hflag, hip, hsoc⟩
    rw [command_of_recovered hip hsoc, hflag, if_pos rfl]

end EnergyStation.System.DieselFleet
