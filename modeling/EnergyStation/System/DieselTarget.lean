import EnergyStation.System.DieselFleet

/-!
# The node that a stop reaches

A start and its stop each go to the diesel node that is first in the registry at the time, and the
flag does not remember which node was started. Removals and registrations change the order of the
registry, so the stop can go to another node. It reaches every node that was started exactly in the
runs in which each stop finds the only node that is on or starting first (`stops_all_iff_onTarget`).
-/

namespace EnergyStation.System.DieselTarget

open Python Cloud Firmware Runs DieselFleet

/-- In a cycle that reads a state of charge above 0.40 and finds a diesel node, every producer that
is on or starting is sent the stop, and none is on or starting at the end of the cycle. -/
def StopsAll (cfg : ProducerBuild) (s : State) : Event → Prop
  | .cycle soc surplus =>
    SocRecovered soc → (dieselAddress s.registry).isSome = true →
      (∀ ip, Running (s.devices ip) → command s soc surplus = some (ip, false)) ∧
        ∀ ip, ¬ Running ((step cfg s (.cycle soc surplus)).devices ip)
  | _ => True

/-- In a cycle that reads a state of charge above 0.40 while the flag is set, the first diesel node
of the registry is the only producer that is on or starting. -/
def OnTarget (s : State) : Event → Prop
  | .cycle soc _ =>
    s.dispatched = true → SocRecovered soc → ∀ ip, dieselAddress s.registry = some ip →
      ∀ ip', Running (s.devices ip') → ip' = ip
  | _ => True

/-- A producer that is neither on nor starting has no startup pending. -/
def Settled (p : Producer) : Prop := ¬ Running p → p.Idle

theorem Settled.tick {p : Producer} (h : Settled p) : Settled p.tick := fun hp => (h hp).tick

theorem Settled.fire {p : Producer} (h : Settled p) : Settled p.fire := by
  intro hp
  have hidle : p.Idle := by
    refine h fun hrun => hp ?_
    unfold Producer.fire
    split_ifs
    · exact .inl rfl
    · exact hrun
  exact hidle.fire

/-- What holds between the events: with a flag that is clear no producer is on or starting. -/
structure Inv (s : State) : Prop where
  /-- Every producer is settled. -/
  settled : ∀ ip, Settled (s.devices ip)
  /-- A clear flag means that all producers are off. -/
  idle : s.dispatched = false → ∀ ip, (s.devices ip).Idle

theorem not_running_of_idle {p : Producer} (h : p.Idle) : ¬ Running p := by
  rintro (hon | hstarting)
  · exact Bool.false_ne_true (h.off.symm.trans hon)
  · exact Bool.false_ne_true (h.notStarting.symm.trans hstarting)

/-- The producers before the first event. -/
theorem inv_boot {cfg : ProducerBuild} (hboot : cfg.sensorDefaultOn = false) : Inv (boot cfg) :=
  ⟨fun _ _ => Producer.boot_idle hboot, fun _ _ => Producer.boot_idle hboot⟩

/-- A change of one producer that keeps it settled, and off where it is off, keeps the invariant. -/
theorem Inv.update {s : State} (h : Inv s) {ip : Str} {f : Producer → Producer}
    (hsettled : ∀ p, Settled p → Settled (f p)) (hidle : ∀ p, p.Idle → (f p).Idle) :
    Inv (s.update ip f) where
  settled := forall_update (P := fun _ p => Settled p) h.settled (hsettled _)
  idle hflag := forall_update (P := fun _ p => p.Idle) (h.idle hflag) (hidle _)

section

variable {cfg : ProducerBuild} (hcfg : 0 < cfg.sensorStartupDelayS)
include hcfg

/-- A stop that is on target leaves every producer off. -/
theorem idle_of_stop {s : State} (h : Inv s) {ip : Str}
    (honly : ∀ ip', Running (s.devices ip') → ip' = ip) (ip' : Str) :
    ((s.update ip (obey cfg false)).devices ip').Idle := by
  by_cases hip : ip' = ip
  · rw [hip, update_devices_self]
    exact Producer.resPutHandler_off hcfg (s.devices ip)
  · rw [update_devices_ne s hip]
    exact h.settled ip' fun hrun => hip (honly ip' hrun)

/-- Every event keeps the invariant, where a stop is on target. -/
theorem Inv.step (hboot : cfg.sensorDefaultOn = false) {s : State} (h : Inv s) {e : Event}
    (he : OnTarget s e) : Inv (step cfg s e) := by
  cases e with
  | register now_ms reg => exact ⟨h.settled, h.idle⟩
  | remove node_id => exact ⟨h.settled, h.idle⟩
  | tick ip => exact h.update (fun _ => Settled.tick) (fun _ => Producer.Idle.tick)
  | fire ip => exact h.update (fun _ => Settled.fire) (fun _ => Producer.Idle.fire)
  | reboot ip =>
    exact h.update (fun _ _ _ => Producer.boot_idle hboot) fun _ _ => Producer.boot_idle hboot
  | cycle soc surplus =>
    cases hcmd : command s soc surplus with
    | none => rwa [step_of_none cfg hcmd]
    | some c =>
      obtain ⟨ip, run⟩ := c
      rw [(step_of_some cfg hcmd).2]
      cases run with
      | false =>
        -- A stop that is on target leaves all producers off, as the clear flag says.
        obtain ⟨hflag, hip, hsoc⟩ := command_stop_iff.mp hcmd
        have hidle := idle_of_stop hcfg h (he hflag hsoc ip hip)
        exact ⟨fun ip' _ => hidle ip', fun _ => hidle⟩
      | true =>
        refine ⟨?_, fun hflag => absurd hflag.symm Bool.false_ne_true⟩
        apply forall_update (P := fun _ p => Settled p) h.settled
        exact fun _ hrun => absurd (Producer.resPutHandler_on hcfg (s.devices ip)) hrun

/-- Under the invariant, a cycle stops all producers exactly if its stop is on target. -/
theorem onTarget_iff {s : State} (h : Inv s) (e : Event) : OnTarget s e ↔ StopsAll cfg s e := by
  cases e with
  | cycle soc surplus =>
    constructor
    · intro he hsoc hnode
      obtain ⟨ip, hip⟩ := Option.isSome_iff_exists.mp hnode
      have hcmd := command_of_recovered hip hsoc surplus
      cases hflag : s.dispatched with
      | false =>
        -- With a clear flag there is nothing to stop.
        have hoff : ∀ ip', ¬ Running (s.devices ip') := fun ip' =>
          not_running_of_idle (h.idle hflag ip')
        rw [hflag, if_neg Bool.false_ne_true] at hcmd
        rw [step_of_none cfg hcmd]
        exact ⟨fun ip' hrun => absurd hrun (hoff ip'), hoff⟩
      | true =>
        rw [hflag, if_pos rfl] at hcmd
        -- The stop goes to the first diesel node, and there is no other to stop.
        have honly := he hflag hsoc ip hip
        refine ⟨fun ip' hrun => ?_, fun ip' => ?_⟩
        · rw [hcmd, honly ip' hrun]
        · rw [(step_of_some cfg hcmd).2]
          exact not_running_of_idle (idle_of_stop hcfg h honly ip')
    · intro hstops hflag hsoc ip hip ip' hrun
      have hsent := (hstops hsoc (Option.isSome_of_eq_some hip)).1 ip' hrun
      exact Option.some.inj ((command_stop_iff.mp hsent).2.1.symm.trans hip)
  | _ => exact ⟨fun _ => trivial, fun _ => trivial⟩

end

/-- In every run from boot, with any number of producers, every cycle that reads a state of charge
above 0.40 and finds a diesel node stops all producers that are on or starting, if and only if every
such cycle, while the flag is set, finds the only one of them first in the registry. -/
theorem stops_all_iff_onTarget (clockSecond : ℕ) (es : List Event) :
    Along (step (dieselBuild clockSecond)) (StopsAll (dieselBuild clockSecond))
        (boot (dieselBuild clockSecond)) es ↔
      Along (step (dieselBuild clockSecond)) OnTarget (boot (dieselBuild clockSecond)) es := by
  have hcfg : 0 < (dieselBuild clockSecond).sensorStartupDelayS := Nat.succ_pos 39
  have hboot : (dieselBuild clockSecond).sensorDefaultOn = false := rfl
  exact (along_iff_of_invariant (I := Inv) (fun s e hs => onTarget_iff hcfg hs e)
    (fun s e hs he => hs.step hcfg hboot he) (inv_boot hboot) es).symm

/-- Two diesel nodes are registered and the first is started. It is removed, and the stop goes to
the other one. -/
theorem removed_node_is_not_stopped :
    ¬ ∀ es, Along (step (dieselBuild 128)) (StopsAll (dieselBuild 128))
      (boot (dieselBuild 128)) es := by
  intro h
  generalize hfirst : Registration.diesel "prod_diesel_0303" "fd00::203:3:3:3" (by decide)
    (by decide) = first
  generalize hother : Registration.diesel "prod_diesel_0404" "fd00::204:4:4:4" (by decide)
    (by decide) = other
  have hrecovered : SocRecovered (some (.fin (1 / 2))) :=
    ⟨_, rfl, by norm_num [ExtRat.lt, dieselRecoverSoc_eq]⟩
  generalize hes : [Event.register 0 first, .register 0 other,
    .cycle (some (.fin (1 / 10))) (.fin (-500)), .remove first.node_id] = es
  have hnode : (dieselAddress (run (step (dieselBuild 128)) (boot (dieselBuild 128))
      es).registry).isSome = true := by
    rw [← hes, ← hfirst, ← hother]
    decide +kernel
  have hrun : Running ((step (dieselBuild 128) (run (step (dieselBuild 128))
      (boot (dieselBuild 128)) es) (.cycle (some (.fin (1 / 2))) (.fin 0))).devices first.ip) := by
    rw [← hes, ← hfirst, ← hother]
    decide +kernel
  have hall := h (es ++ [.cycle (some (.fin (1 / 2))) (.fin 0)])
  exact (((along_append _ _ _ _).mp hall).2.1 hrecovered hnode).2 first.ip hrun

end EnergyStation.System.DieselTarget
