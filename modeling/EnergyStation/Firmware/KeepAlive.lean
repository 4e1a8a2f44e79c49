import EnergyStation.Firmware.Publisher

/-!
# The keep-alive of a session

The process passes a keep-alive with each call of `mqtt_connect`, three times the interval at that
moment in whole seconds. A PUT that changes the interval in a session arms the timer anew but does
not connect again, so the keep-alive of the session stays what it was. The keep-alive covers three
intervals in every state of a run exactly if, whenever a connection comes about and whenever a PUT
is accepted in a session, three times the interval takes no more whole seconds than at the call that
opened it (`keepalive_covers_iff`).
-/

namespace EnergyStation.Firmware.MqttSensor

open CStdlib Runs

variable {cfg : SamplingBuild} {p : Platform}

/-- In a session, the keep-alive that opened it covers three publish intervals. -/
def KeepAliveCovers (s : MqttSensor) : Prop :=
  s.mqtt_state = .connected → ∀ c, s.session = some c →
    3 * s.publishIntervalMs ≤ c.keepalive_seconds * 1000

/-- Three intervals, in whole seconds. -/
def threeIntervals (interval_ms : ℕ) : ℕ := (3 * interval_ms + 999) / 1000

/-- The interval that a PUT sets, where its body is accepted. -/
def acceptedInterval (body : Bytes) : Option ℕ :=
  let tmp := boundedString 32 body
  let (interval_ms, rest) := strtoul tmp
  if body = [] ∨ rest = tmp ∨ rest ≠ [] ∨ interval_ms < 1 ∨ 60000 < interval_ms then none
  else some (min interval_ms mqttPublishIntervalStressedMs)

/-- What an event has to meet: an interval that comes into force in a session, and an interval that
is in force when a session is opened, takes no more than the interval of the call. -/
def KeepsCover (s : MqttSensor) : MqttSensorEvent → Prop
  | .sampling body =>
    s.mqtt_state = .connected → ∀ c, s.session = some c → ∀ i, acceptedInterval body = some i →
      threeIntervals i ≤ threeIntervals c.publish_interval_ms
  | .mqtt (.connected call) =>
    ∀ c, s.connects[call]? = some c →
      threeIntervals s.publishIntervalMs ≤ threeIntervals c.publish_interval_ms
  | _ => True

/-- The PUT handler sets the accepted interval. -/
theorem resPutHandler_current (cfg : SamplingBuild) (s : Sampling) (body : Bytes) :
    (s.resPutHandler cfg body).2.current_publish_interval_ms =
      (acceptedInterval body).getD s.current_publish_interval_ms := by
  unfold Sampling.resPutHandler acceptedInterval
  simp only
  by_cases hbody : body = []
  · rw [if_pos hbody, if_pos (.inl hbody)]
    rfl
  · rw [if_neg hbody]
    split_ifs with hbad hbad' hbad'
    · rfl
    · exact absurd (.inr hbad) hbad'
    · exact absurd (hbad'.resolve_left hbody) hbad
    · rw [Sampling.setPublishIntervalMs_current, Option.getD_some]
      unfold Sampling.clampInterval
      simp only
      split_ifs <;> omega

/-- A call passed the keep-alive of its interval. -/
def Passed (c : ConnectCall) : Prop := c.keepalive_seconds = threeIntervals c.publish_interval_ms

/-- Every call of `mqtt_connect` passed the keep-alive of its interval. -/
structure Sessions (s : MqttSensor) : Prop where
  /-- So did all calls. -/
  connects : ∀ c ∈ s.connects, Passed c
  /-- So did the one that opened the session. -/
  session : ∀ c, s.session = some c → Passed c

theorem sessions_boot (cfg : SamplingBuild) (p : Platform) (clock : ℕ) :
    Sessions (boot cfg p clock) :=
  ⟨fun _ hc => (nomatch hc), fun _ hc => (nomatch hc)⟩

/-- The keep-alive covers three intervals exactly if they take no more than those of the call. -/
theorem Sessions.covers_iff {s : MqttSensor} (h : Sessions s) :
    KeepAliveCovers s ↔ (s.mqtt_state = .connected → ∀ c, s.session = some c →
      threeIntervals s.publishIntervalMs ≤ threeIntervals c.publish_interval_ms) := by
  refine forall_congr' fun _ => forall_congr' fun c => forall_congr' fun hc => ?_
  rw [h.session c hc]
  unfold threeIntervals
  omega

/-- What a resumption leaves as it is: the interval, the session, and a state that is not connected.
The calls of `mqtt_connect` are one more at most. -/
theorem resume_frame (p : Platform) (s : MqttSensor) (ev : ProcessEvent) (w : Surroundings) :
    let s' := (s.resume p ev w).1
    s'.publishIntervalMs = s.publishIntervalMs ∧ s'.session = s.session ∧
      (s'.mqtt_state = .connected → s.mqtt_state = .connected) ∧
      (s'.connects = s.connects ∨ s'.connects =
        s.connects ++ [⟨s.publishIntervalMs, mqttKeepaliveSeconds s.publishIntervalMs⟩]) := by
  have happly : (applyInterval p (s.deliver ev) ev).publishIntervalMs = s.publishIntervalMs ∧
      (applyInterval p (s.deliver ev) ev).session = s.session ∧
      (applyInterval p (s.deliver ev) ev).mqtt_state = s.mqtt_state ∧
      (applyInterval p (s.deliver ev) ev).connects = s.connects := by
    rcases ev with _ | _
    · rcases applyInterval_cases p (s.deliver .poll) .poll with ⟨-, -, heq⟩ | ⟨heq, -⟩
      · rw [heq]
        exact ⟨rfl, rfl, rfl, rfl⟩
      · rw [heq]
        exact ⟨rfl, rfl, rfl, rfl⟩
    · exact ⟨rfl, rfl, rfl, rfl⟩
  obtain ⟨hinterval, hsession, hmqtt, hconnects⟩ := happly
  simp only
  rcases resume_cases p s ev w with ⟨-, heq⟩ | ⟨-, hstep⟩
  · rw [heq]
    exact ⟨hinterval, hsession, fun h => hmqtt.symm.trans h, .inl hconnects⟩
  · rw [← hinterval, ← hsession, ← hmqtt, ← hconnects]
    generalize applyInterval p (s.deliver ev) ev = s₀ at hstep ⊢
    generalize s.resume p ev w = r at hstep ⊢
    rcases hstep with hw | ⟨hw, hstate⟩ | ⟨hw, hstate, hattempts⟩ | ⟨hw, hstate, hattempts⟩ |
      ⟨hw, hstate, hready⟩ | ⟨hw, hstate, hready⟩
    · exact ⟨rfl, rfl, id, .inl rfl⟩
    · exact ⟨rfl, rfl, fun h => (nomatch h), .inr rfl⟩
    · exact ⟨rfl, rfl, fun h => (nomatch h), .inl rfl⟩
    · exact ⟨rfl, rfl, id, .inl rfl⟩
    · exact ⟨rfl, rfl, id, .inl rfl⟩
    · exact ⟨rfl, rfl, id, .inl rfl⟩

/-- Every event keeps what holds of the calls. -/
theorem Sessions.step {s : MqttSensor} (h : Sessions s) (e : MqttSensorEvent) :
    Sessions (step cfg p s e) := by
  rcases e with body | event | ticks | _ | ⟨ev, w⟩
  · exact ⟨h.connects, h.session⟩
  · rcases event with call | _ | _ | _ | _
    · exact ⟨h.connects, fun c hc => h.connects c (List.mem_of_getElem? hc)⟩
    · exact h
    · exact ⟨h.connects, h.session⟩
    · exact ⟨h.connects, h.session⟩
    · exact h
  · exact ⟨h.connects, h.session⟩
  · exact ⟨h.connects, h.session⟩
  · obtain ⟨-, hsession, -, hconnects⟩ := resume_frame p s ev w
    refine ⟨fun c hc => ?_, fun c hc => h.session c (hsession ▸ hc)⟩
    rw [step_resume] at hc
    rcases hconnects with heq | heq
    · exact h.connects c (heq ▸ hc)
    · rw [heq, List.mem_append, List.mem_singleton] at hc
      rcases hc with hc | rfl
      · exact h.connects c hc
      · exact mqttKeepaliveSeconds_of_bounds s.sampling.pos s.sampling.le

/-- Where an event meets the condition, the keep-alive goes on covering three intervals. -/
theorem covers_step {s : MqttSensor} (h : Sessions s) (hcovers : KeepAliveCovers s)
    {e : MqttSensorEvent} (hkeeps : KeepsCover s e) : KeepAliveCovers (step cfg p s e) := by
  rw [h.covers_iff] at hcovers
  rw [(h.step e).covers_iff]
  rcases e with body | event | ticks | _ | ⟨ev, w⟩
  · intro hstate c hc
    change threeIntervals (s.sampling.resPutHandler cfg body).2.current_publish_interval_ms ≤ _
    rw [resPutHandler_current]
    rcases hbody : acceptedInterval body with _ | i
    · exact hcovers hstate c hc
    · exact hkeeps hstate c hc i hbody
  · rcases event with call | _ | _ | _ | _
    · exact fun _ c hc => hkeeps c hc
    · exact hcovers
    · exact fun hstate => nomatch hstate
    · exact hcovers
    · exact hcovers
  · exact hcovers
  · exact hcovers
  · obtain ⟨hinterval, hsession, hstate, -⟩ := resume_frame p s ev w
    rw [step_resume, hinterval, hsession]
    exact fun h => hcovers (hstate h)

/-- An event after which the keep-alive covers three intervals met the condition. -/
theorem keepsCover_of_step {s : MqttSensor} {e : MqttSensorEvent}
    (h : Sessions (step cfg p s e) ∧ KeepAliveCovers (step cfg p s e)) : KeepsCover s e := by
  obtain ⟨hsessions, hcovers⟩ := h
  rw [hsessions.covers_iff] at hcovers
  rcases e with body | event | ticks | _ | ⟨ev, w⟩
  · intro hstate c hc i hbody
    have hi := hcovers hstate c hc
    change threeIntervals (s.sampling.resPutHandler cfg body).2.current_publish_interval_ms ≤
      _ at hi
    rwa [resPutHandler_current, hbody, Option.getD_some] at hi
  · rcases event with call | _ | _ | _ | _
    · exact fun c hc => hcovers rfl c hc
    · trivial
    · trivial
    · trivial
    · trivial
  · trivial
  · trivial
  · trivial

/-- In every run, the keep-alive covers three intervals in every state exactly if every event meets
the condition. -/
theorem keepalive_covers_iff (cfg : SamplingBuild) (p : Platform) (clock : ℕ)
    (es : List MqttSensorEvent) :
    (∀ s ∈ visited (step cfg p) (boot cfg p clock) es, KeepAliveCovers s) ↔
      Along (step cfg p) KeepsCover (boot cfg p clock) es := by
  constructor
  · intro h
    have hback : ∀ s e, Sessions (step cfg p s e) ∧ KeepAliveCovers (step cfg p s e) →
        KeepsCover s e := fun s e => keepsCover_of_step
    refine along_of_visited (I := fun s => Sessions s ∧ KeepAliveCovers s) hback
      fun s hs => ⟨?_, h s hs⟩
    obtain ⟨es', -, rfl⟩ := mem_visited_iff.mp hs
    exact run_invariant' (fun _ e hs => hs.step e) (sessions_boot cfg p clock) es'
  · intro h s hs
    have hstep : ∀ s e, Sessions s ∧ KeepAliveCovers s → KeepsCover s e →
        Sessions (step cfg p s e) ∧ KeepAliveCovers (step cfg p s e) :=
      fun s e hs hkeeps => ⟨hs.1.step e, covers_step hs.1 hs.2 hkeeps⟩
    have hboot : Sessions (boot cfg p clock) ∧ KeepAliveCovers (boot cfg p clock) :=
      ⟨sessions_boot cfg p clock, fun hstate => nomatch hstate⟩
    exact (visited_invariant hstep hboot h s hs).2

/-- A node that connects with an interval of 800 ms, and is told in the session to publish every
five seconds, has a keep-alive of three seconds. -/
theorem longer_interval_is_not_covered :
    ¬ ∀ (cfg : SamplingBuild) (p : Platform) (clock : ℕ) (es : List MqttSensorEvent),
      KeepAliveCovers (run (step cfg p) (boot cfg p clock) es) := by
  intro h
  have hcovers := h ⟨800, by decide, by decide⟩ ⟨128, by decide⟩ 0
    [.elapse 640, .timer, .resume .other ⟨true, true, 0⟩, .mqtt (.connected 0),
      .sampling (Sampling.intervalBody 5000)]
  exact absurd (hcovers (by decide) ⟨800, 3⟩ (by decide)) (by decide)

end EnergyStation.Firmware.MqttSensor
