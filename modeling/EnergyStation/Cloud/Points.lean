import EnergyStation.Cloud.BalanceLoop
import EnergyStation.Cloud.CoapSite
import EnergyStation.Cloud.Liveness

/-!
# The points of the program

The handlers of the site, `on_message` and `balance_loop` append their points to one log. A part of
the program reads none of them, so it does the same for those who see its points and no others.
-/

namespace EnergyStation.Cloud

open CStdlib Python

/-- The points that a task can see. -/
def Site.points (f : Point → Bool) (s : Site) : Site := { s with written := s.written.filter f }

/-- A handler does the same for those who see its points and no others. -/
theorem handle_points {f : Point → Bool} {point : Obj → Point}
    (hf : ∀ payload, f (point payload) = true) (py : Interp) (body : Bytes) (accepts : Bool)
    (change : Obj → Registry → Except Exc Registry) (s : Site) :
    handle py body accepts point change (s.points f) =
      ((handle py body accepts point change s).1,
        (handle py body accepts point change s).2.points f) := by
  unfold handle writePoint
  rcases loadObject py body with e | payload
  · rfl
  · cases accepts with
    | false => rfl
    | true =>
      have happend : (s.written ++ [point payload]).filter f =
          s.written.filter f ++ [point payload] := by
        rw [List.filter_append, List.filter_cons_of_pos (hf payload), List.filter_nil]
      have hregistry : (s.points f).registry = s.registry := rfl
      simp only [if_true, hregistry]
      rcases change payload s.registry with e | registry
      · simp only [Site.points, happend]
      · simp only [Site.points, happend]

/-- A handler writes nothing, or it writes the point of its payload and then changes the registry,
or raises. -/
theorem handle_site_cases (py : Interp) (body : Bytes) (accepts : Bool) (point : Obj → Point)
    (change : Obj → Registry → Except Exc Registry) (s : Site) :
    (handle py body accepts point change s).2 = s ∨
      ∃ payload, ((∃ e, change payload s.registry = .error e) ∧
          (handle py body accepts point change s).2 = ⟨s.registry, s.written ++ [point payload]⟩) ∨
        ∃ registry, change payload s.registry = .ok registry ∧
          (handle py body accepts point change s).2 = ⟨registry, s.written ++ [point payload]⟩ := by
  unfold handle writePoint
  rcases loadObject py body with e | payload
  · exact .inl rfl
  · cases accepts with
    | false => exact .inl rfl
    | true =>
      refine .inr ⟨payload, ?_⟩
      simp only [if_true]
      rcases hchange : change payload s.registry with e | registry
      · exact .inl ⟨⟨e, rfl⟩, rfl⟩
      · exact .inr ⟨registry, rfl, rfl⟩

/-- The site after a registration. -/
theorem RegisterResource.renderPost_site (py : Interp) (now_ms : ℤ) (accepts : Bool)
    (body : Bytes) (s : Site) : (renderPost py now_ms accepts body s).2 =
      (handle py body accepts registerPoint (Registry.addNode now_ms) s).2 := by
  unfold renderPost
  rcases handle py body accepts registerPoint (Registry.addNode now_ms) s with ⟨e | u, site⟩ <;> rfl

/-- The site after an unregistration. -/
theorem UnregisterResource.renderPost_site (py : Interp) (accepts : Bool) (body : Bytes)
    (s : Site) : (renderPost py accepts body s).2 =
      (handle py body accepts unregisterPoint
        (fun payload => Registry.removeNode (payload.get "node_id")) s).2 := by
  unfold renderPost
  rcases handle py body accepts unregisterPoint (fun payload =>
    Registry.removeNode (payload.get "node_id")) s with
    ⟨e | u, site⟩ <;> rfl

/-- The point is one of a registration or an unregistration. -/
def Point.isSite (p : Point) : Bool :=
  p.measurement = "registered_nodes" || p.measurement = "device_events"

/-- The point is one of telemetry. -/
def Point.isTelemetry (p : Point) : Bool := p.measurement = "telemetry_raw"

/-- The point is one of a cycle of `balance_loop`. -/
def Point.isEnergy (p : Point) : Bool := p.measurement = "energy_balance"

theorem isSite_registerPoint (payload : Obj) : (registerPoint payload).isSite = true := rfl

theorem isSite_unregisterPoint (payload : Obj) : (unregisterPoint payload).isSite = true := rfl

theorem isEnergy_balancePoint (l : BalanceLoop.Locals) (soc : Option ExtRat)
    (reachable dispatched : Bool) :
    (BalanceLoop.balancePoint l soc reachable dispatched).isEnergy = true := rfl

/-- A point of telemetry is one. -/
theorem isTelemetry_of_telemetryPoint {py : Interp} {payload : Obj} {delay_ms : ℤ}
    {state : DelayState} {p : Point} (h : telemetryPoint py payload delay_ms state = .ok p) :
    p.isTelemetry = true := by
  unfold telemetryPoint at h
  obtain ⟨seq, -, h⟩ := bind_eq_ok.mp h
  obtain ⟨v, -, h⟩ := bind_eq_ok.mp h
  obtain ⟨i, -, h⟩ := bind_eq_ok.mp h
  obtain ⟨anomaly, -, h⟩ := bind_eq_ok.mp h
  obtain ⟨interval, -, h⟩ := bind_eq_ok.mp h
  obtain ⟨sent_ms, -, h⟩ := bind_eq_ok.mp h
  rcases hsoc : payload.get? "soc" with _ | soc
  · rw [hsoc] at h
    obtain ⟨fields, -, h⟩ := bind_eq_ok.mp h
    cases h
    rfl
  · rw [hsoc] at h
    obtain ⟨fields, -, h⟩ := bind_eq_ok.mp h
    cases h
    rfl

/-- A point has one kind. -/
theorem Point.kinds (p : Point) :
    (p.isSite = true → p.isTelemetry = false ∧ p.isEnergy = false) ∧
      (p.isTelemetry = true → p.isSite = false ∧ p.isEnergy = false) ∧
      (p.isEnergy = true → p.isSite = false ∧ p.isTelemetry = false) := by
  unfold Point.isSite Point.isTelemetry Point.isEnergy
  refine ⟨fun h => ?_, fun h => ?_, fun h => ?_⟩
  · rcases Bool.or_eq_true_iff.mp h with h | h
    · rw [of_decide_eq_true h]
      decide
    · rw [of_decide_eq_true h]
      decide
  · rw [of_decide_eq_true h]
    decide
  · rw [of_decide_eq_true h]
    decide

/-- `save_to_influxdb` writes a point of telemetry, or none, and does not look at the others. -/
theorem saveToInfluxdb_written (py : Interp) (accepts : Bool) (payload : Val) (received_ms : ℤ)
    (tables : DelayTables) :
    ∃ result tables' points, (∀ p ∈ points, p.isTelemetry = true) ∧ ∀ written,
      saveToInfluxdb py accepts payload received_ms ⟨tables, written⟩ =
        (result, ⟨tables', written ++ points⟩) := by
  unfold saveToInfluxdb
  rcases measuredGap py payload received_ms with e | ⟨payload, node_id, current_gap⟩
  · exact ⟨.error e, tables, [], List.forall_mem_nil _, fun written => by rw [List.append_nil]⟩
  · simp only
    rcases tables.track py node_id current_gap with ⟨e | u, tables'⟩
    · exact ⟨.error e, tables', [], List.forall_mem_nil _, fun written => by rw [List.append_nil]⟩
    · simp only
      rcases hpoint : telemetryPoint py payload (tables.delay node_id current_gap)
        (DelayState.ofWindow py (tables'.window node_id)) with e | p
      · exact ⟨.ok (), tables', [], List.forall_mem_nil _,
          fun written => by rw [List.append_nil]; rfl⟩
      · cases accepts with
        | false => exact ⟨.ok (), tables', [], List.forall_mem_nil _,
            fun written => by rw [List.append_nil]; rfl⟩
        | true =>
          refine ⟨.ok (), tables', [p], fun q hq => ?_, fun written => rfl⟩
          rw [List.mem_singleton.mp hq]
          exact isTelemetry_of_telemetryPoint hpoint

/-- `on_message` writes a point of telemetry, or none, and does not look at the others. -/
theorem onMessage_written (py : Interp) (accepts : Bool) (received_ms : ℤ) (now : ℚ) (body : Bytes)
    (tables : DelayTables) (readings : Dict Key Reading) :
    ∃ result tables' readings' points, (∀ p ∈ points, p.isTelemetry = true) ∧ ∀ written,
      onMessage py accepts received_ms now body ⟨⟨tables, written⟩, readings⟩ =
        (result, ⟨⟨tables', written ++ points⟩, readings'⟩) := by
  unfold onMessage ingest
  rcases loadBody py body with e | payload
  · exact ⟨exceptJsonDecodeError (.error e), tables, readings, [], List.forall_mem_nil _,
      fun written => by
      rw [List.append_nil]⟩
  · obtain ⟨result, tables', points, hpoints, hsaved⟩ :=
      saveToInfluxdb_written py accepts payload received_ms tables
    simp only [hsaved]
    rcases result with e | u
    · exact ⟨exceptJsonDecodeError (.error e), tables', readings, points, hpoints, fun written =>
        rfl⟩
    · simp only
      rcases updateReading .exact now payload readings with e | readings'
      · exact ⟨exceptJsonDecodeError (.error e), tables', readings, points, hpoints, fun written =>
          rfl⟩
      · exact ⟨.ok (), tables', readings', points, hpoints, fun written => rfl⟩

end EnergyStation.Cloud

namespace EnergyStation.Cloud.Liveness

open Python

/-- The loop, and the points that it can see. -/
def State.points (f : Point → Bool) (s : State) : State := { s with site := s.site.points f }

/-- A failed probe writes no point, and reads none. -/
theorem drop_points (f : Point → Bool) (s : State) (node : Node) (rest : List Node) :
    (s.points f).drop node rest = (s.drop node rest).points f := by
  have hregistry : (s.points f).registry = s.registry := rfl
  unfold State.drop
  rw [hregistry]
  rcases s.registry.removeNode (removalId node.info) with e | registry <;> rfl

theorem drop_written (s : State) (node : Node) (rest : List Node) :
    (s.drop node rest).site.written = s.site.written := by
  unfold State.drop
  rcases s.registry.removeNode (removalId node.info) with e | registry <;> rfl

/-- The loop and the handlers do the same for those who see their points and no others. -/
theorem step_points {f : Point → Bool} (hregister : ∀ payload, f (registerPoint payload) = true)
    (hunregister : ∀ payload, f (unregisterPoint payload) = true) (py : Interp)
    (rejects : Uri → Bool) (s : State) (e : Event) :
    step py rejects (s.points f) e = (step py rejects s e).points f := by
  have htask : (s.points f).task = s.task := rfl
  cases e with
  | register now_ms accepts body =>
    simp only [step, htask]
    split_ifs
    · rfl
    · rw [RegisterResource.renderPost_site, RegisterResource.renderPost_site]
      exact congrArg (fun r => State.mk r _ _ _)
        (congrArg Prod.snd (handle_points hregister py body accepts (Registry.addNode now_ms)
          s.site))
  | unregister accepts body =>
    simp only [step, htask]
    split_ifs
    · rfl
    · rw [UnregisterResource.renderPost_site, UnregisterResource.renderPost_site]
      exact congrArg (fun r => State.mk r _ _ _)
        (congrArg Prod.snd (handle_points hunregister py body accepts _ s.site))
  | wake =>
    simp only [step, htask]
    rcases s.task with _ | rest | ⟨node, uri, rest⟩ | e <;> rfl
  | run =>
    simp only [step, htask]
    rcases s.task with _ | (_ | ⟨node, rest⟩) | ⟨node, uri, rest⟩ | e
    · rfl
    · rfl
    · simp only [State.probe]
      rcases probeRequest py rejects node.info with e | _ | uri
      · rfl
      · exact drop_points f { s with probed := s.probed ++ [node] } node rest
      · rfl
    · rfl
    · rfl
  | response r =>
    simp only [step, htask]
    rcases s.task with _ | rest | ⟨node, uri, rest⟩ | e
    · rfl
    · rfl
    · simp only
      split_ifs
      · rfl
      · exact drop_points f s node rest
    · rfl

end EnergyStation.Cloud.Liveness
