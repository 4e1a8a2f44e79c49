import EnergyStation.System.DieselFleet

/-!
# The diesel node's start after a restart

A cycle that needs the generator starts the first diesel node, unless `_diesel_dispatched` says that
this has been done. The flag stays what it was when the node reboots, registers again or gives way
to another node, so it is a record of the first diesel node only as long as none of these puts a
node first that is neither on nor starting (`KeepsRunning`). After a step that does, the flag
suppresses the command that the node would need (`must_run_iff_keepsRunning`).
-/

namespace EnergyStation.System.DieselRestart

open Python Cloud Firmware Runs DieselFleet

/-- A cycle that reads a state of charge below 0.20, has a renewable deficit and finds a diesel node
ends with that node on or starting. -/
def MustRun (cfg : ProducerBuild) (s : State) : Event → Prop
  | .cycle soc surplus =>
    SocLow soc → surplus.lt (.fin 0) = true → ∀ ip, dieselAddress s.registry = some ip →
      Running ((step cfg s (.cycle soc surplus)).devices ip)
  | _ => True

/-- While the flag is set, the first diesel node does not reboot, and no registration or removal
puts a diesel node first that is neither on nor starting. -/
def KeepsRunning (s : State) : Event → Prop
  | .register now_ms reg =>
    s.dispatched = true → ∀ ip, dieselAddress (register s.registry now_ms reg) = some ip →
      Running (s.devices ip)
  | .remove node_id =>
    s.dispatched = true → ∀ ip, dieselAddress (s.registry.delete (.str node_id)) = some ip →
      Running (s.devices ip)
  | .reboot ip => s.dispatched = true → dieselAddress s.registry ≠ some ip
  | _ => True

/-- A flag that is set tells the truth about the first diesel node. -/
def Sound (s : State) : Prop :=
  s.dispatched = true → ∀ ip, dieselAddress s.registry = some ip → Running (s.devices ip)

/-- The clock does not stop a producer. -/
theorem running_tick {p : Producer} (h : Running p) : Running p.tick := h

/-- Its timer does not either. -/
theorem running_fire {p : Producer} (h : Running p) : Running p.fire := by
  unfold Producer.fire
  split_ifs
  · exact .inl rfl
  · exact h

section

variable {cfg : ProducerBuild} (hcfg : 0 < cfg.sensorStartupDelayS)
include hcfg

/-- A step that keeps the first diesel node running keeps the flag sound. -/
theorem step_sound {s : State} (hs : Sound s) {e : Event} (he : KeepsRunning s e) :
    Sound (step cfg s e) := by
  cases e with
  | register now_ms reg => exact he
  | remove node_id => exact he
  | reboot ip =>
    intro hflag ip' hip'
    -- The node that reboots is not the first one.
    have hne : ip' ≠ ip := fun h => he hflag (h ▸ hip')
    rw [step, update_devices_ne s hne]
    exact hs hflag ip' hip'
  | tick ip =>
    intro hflag ip' hip'
    exact forall_update (P := fun ip' p => dieselAddress s.registry = some ip' → Running p)
      (hs hflag) (fun h hip => running_tick (h hip)) ip' hip'
  | fire ip =>
    intro hflag ip' hip'
    exact forall_update (P := fun ip' p => dieselAddress s.registry = some ip' → Running p)
      (hs hflag) (fun h hip => running_fire (h hip)) ip' hip'
  | cycle soc surplus =>
    cases hcmd : command s soc surplus with
    | none => rwa [step_of_none cfg hcmd]
    | some c =>
      obtain ⟨ip, run⟩ := c
      obtain ⟨hip, hstep⟩ := step_of_some cfg hcmd
      rw [hstep]
      intro hrun ip' hip'
      -- A flag that is set after a command was set by a start, which went to the first diesel node.
      have heq : ip' = ip := Option.some.inj (hip'.symm.trans hip)
      have hon : run = true := hrun
      rw [heq, hon]
      show Running ((s.update ip (obey cfg true)).devices ip)
      rw [update_devices_self]
      exact Producer.resPutHandler_on hcfg (s.devices ip)

/-- With a sound flag, a cycle that needs the generator has it. -/
theorem mustRun_of_sound {s : State} (hs : Sound s) (e : Event) : MustRun cfg s e := by
  cases e with
  | cycle soc surplus =>
    intro hsoc hsurplus ip hip
    have hcmd := command_of_low hip hsoc hsurplus
    cases hflag : s.dispatched with
    | true =>
      -- The start has been sent before.
      rw [hflag, if_pos rfl] at hcmd
      rw [step_of_none cfg hcmd]
      exact hs hflag ip hip
    | false =>
      rw [hflag, if_neg Bool.false_ne_true] at hcmd
      rw [(step_of_some cfg hcmd).2]
      show Running ((s.update ip (obey cfg true)).devices ip)
      rw [update_devices_self]
      exact Producer.resPutHandler_on hcfg (s.devices ip)
  | _ => trivial

end

/-- After a step that puts a diesel node first that is neither on nor starting, a cycle that needs
the generator does not start it. -/
theorem not_mustRun {cfg : ProducerBuild} (hboot : cfg.sensorDefaultOn = false) {s : State}
    {e : Event} (he : ¬ KeepsRunning s e) {soc : Option ExtRat} {surplus : ExtRat}
    (hsoc : SocLow soc) (hsurplus : surplus.lt (.fin 0) = true) :
    ¬ MustRun cfg (step cfg s e) (.cycle soc surplus) := by
  have hidle : ¬ Running (Producer.boot cfg) := by simp [Running, Producer.boot, hboot]
  -- The step leaves a set flag and a first diesel node that is neither on nor starting.
  have hlost : (step cfg s e).dispatched = true ∧
      ∃ ip, dieselAddress (step cfg s e).registry = some ip ∧
        ¬ Running ((step cfg s e).devices ip) := by
    cases e with
    | register now_ms reg =>
      simp only [KeepsRunning, Classical.not_imp, not_forall] at he
      obtain ⟨hflag, ip, hip, hrun⟩ := he
      exact ⟨hflag, ip, hip, hrun⟩
    | remove node_id =>
      simp only [KeepsRunning, Classical.not_imp, not_forall] at he
      obtain ⟨hflag, ip, hip, hrun⟩ := he
      exact ⟨hflag, ip, hip, hrun⟩
    | reboot ip =>
      simp only [KeepsRunning, Classical.not_imp, ne_eq, not_not] at he
      refine ⟨he.1, ip, he.2, ?_⟩
      rw [step, update_devices_self]
      exact hidle
    | cycle soc' surplus' => exact absurd trivial he
    | tick ip => exact absurd trivial he
    | fire ip => exact absurd trivial he
  obtain ⟨hflag, ip, hip, hrun⟩ := hlost
  generalize step cfg s e = s' at hflag hip hrun
  -- The flag suppresses the start, so the node stays as it is.
  have hcmd := command_of_low hip hsoc hsurplus
  rw [hflag, if_pos rfl] at hcmd
  intro h
  have h' := h hsoc hsurplus ip hip
  rw [step_of_none cfg hcmd] at h'
  exact hrun h'

/-- In every run from boot in which no reboot, registration or removal puts a diesel node first that
is neither on nor starting while the flag is set, every cycle that needs the generator and finds a
diesel node ends with that node on or starting. The condition is exact: right after a step that does
not meet it, such a cycle leaves the node off. -/
theorem must_run_iff_keepsRunning (clockSecond : ℕ) :
    (∀ es, Along (step (dieselBuild clockSecond)) KeepsRunning (boot (dieselBuild clockSecond)) es →
      Along (step (dieselBuild clockSecond)) (MustRun (dieselBuild clockSecond))
        (boot (dieselBuild clockSecond)) es) ∧
      (∀ es e,
        ¬ KeepsRunning
          (run (step (dieselBuild clockSecond)) (boot (dieselBuild clockSecond)) es) e →
        ∀ soc surplus, SocLow soc → surplus.lt (.fin 0) = true →
          ¬ MustRun (dieselBuild clockSecond)
            (step (dieselBuild clockSecond)
              (run (step (dieselBuild clockSecond)) (boot (dieselBuild clockSecond)) es) e)
            (.cycle soc surplus)) := by
  have hcfg : 0 < (dieselBuild clockSecond).sensorStartupDelayS := Nat.succ_pos 39
  constructor
  · intro es hes
    apply along_of_invariant (I := Sound) ?_ ?_ hes
    · exact fun s e hs he => ⟨step_sound hcfg hs he, mustRun_of_sound hcfg hs e⟩
    · exact fun h => absurd h Bool.false_ne_true
  · intro es e he soc surplus hsoc hsurplus
    exact not_mustRun rfl he hsoc hsurplus

/-- A diesel node is started, reboots and registers again. The next cycle still needs it, and sends
nothing, since the flag is set. -/
theorem restarted_node_is_not_started :
    ¬ ∀ es, Along (step (dieselBuild 128)) (MustRun (dieselBuild 128))
      (boot (dieselBuild 128)) es := by
  intro h
  have hlow : SocLow (some (.fin (1 / 10))) :=
    ⟨_, rfl, by norm_num [ExtRat.lt, dieselDispatchSoc_eq]⟩
  have hdeficit : ExtRat.lt (.fin (-500)) (.fin 0) = true := by norm_num [ExtRat.lt]
  generalize hreg : Registration.diesel "prod_diesel_0303" "fd00::203:3:3:3" (by decide)
    (by decide) = reg
  generalize hes : [Event.register 0 reg, .cycle (some (.fin (1 / 10))) (.fin (-500)),
    .reboot reg.ip] = es
  have hlost : ¬ KeepsRunning (run (step (dieselBuild 128)) (boot (dieselBuild 128)) es)
      (.register 60000 reg) := by
    have hflag : (run (step (dieselBuild 128)) (boot (dieselBuild 128)) es).dispatched = true := by
      rw [← hes, ← hreg]
      decide +kernel
    have hip : dieselAddress (register (run (step (dieselBuild 128)) (boot (dieselBuild 128))
        es).registry 60000 reg) = some reg.ip := by
      rw [← hes, ← hreg]
      decide +kernel
    have hoff : ¬ Running ((run (step (dieselBuild 128)) (boot (dieselBuild 128)) es).devices
        reg.ip) := by
      rw [← hes, ← hreg]
      decide +kernel
    exact fun hkeeps => hoff (hkeeps hflag reg.ip hip)
  have hrun := h (es ++ [.register 60000 reg, .cycle (some (.fin (1 / 10))) (.fin (-500))])
  exact not_mustRun rfl hlost hlow hdeficit ((along_append _ _ _ _).mp hrun).2.2.1

end EnergyStation.System.DieselRestart
