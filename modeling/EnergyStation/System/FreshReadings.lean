import EnergyStation.Firmware.Punctual
import EnergyStation.System.FleetTelemetry

/-!
# The readings of nodes that keep publishing

`_power_by_types` leaves readings out that are older than 30 s, while a node may be told to publish
every 15 s. A node whose session stays up, which finds the network and its library ready whenever it
is resumed, and whose process is in time is never left out: the time that its packets take, the time
of a call of `publish_telemetry`, one interval, and one more for each change of it, only have to fit
into the 30 s (`nobody_is_stale`). The node and the cloud have clocks of their own.
-/

namespace EnergyStation.System.FreshReadings

open Cloud FleetTelemetry Latest Numeral Python Runs

open Firmware.PacketStream (Punctual putOffs stream)

/-- A producer node of the fleet. -/
structure Sender where
  /-- Its build. -/
  build : Firmware.PacketStream.Build
  /-- Its clock at boot, in ticks. -/
  clock : ℕ
  /-- The time of the cloud at which its clock was zero. -/
  epoch : ℚ
  /-- What has happened to it since its boot. -/
  events : List Firmware.PacketStream.Event

namespace Sender

/-- The node after some of its events. -/
def after (x : Sender) (es : List Firmware.PacketStream.Event) : Firmware.PacketStream.State :=
  run (Firmware.PacketStream.step x.build) (Firmware.PacketStream.boot x.build x.clock) es

/-- The time of the cloud at a tick of the node. -/
def time (x : Sender) (tick : ℕ) : ℚ := x.epoch + tick / x.build.producer.clockSecond

/-- The key of the node. -/
def key (x : Sender) : Key := .str x.build.node.nodeId

end Sender

/-- The node has published. Since its last packet it has stayed in its session, every resumption has
found connectivity and a library that is ready, and its process has been in time. The longest
silence that this allows is not longer than the 30 s less the latency. -/
def KeepsPublishing (latency : ℚ) (x : Sender) : Prop :=
  ∃ pre e mid m δ ε, x.events = pre ++ e :: mid ∧
    m ∈ Firmware.PacketStream.packets x.build (x.after pre) e ∧
    Punctual x.build δ ε (x.after (pre ++ [e])) mid ∧
    outputs (Firmware.PacketStream.step x.build) (Firmware.PacketStream.packets x.build)
      (x.after (pre ++ [e])) mid = [] ∧
    latency + (((x.after (pre ++ [e])).mqtt.clock +
        (1 + putOffs (x.after (pre ++ [e])) mid) * (δ + ε) : ℕ) - m.clock) /
      x.build.producer.clockSecond ≤ staleAfterS

/-- What the node has published up to `latency` seconds before `now` has arrived. -/
structure Delivered (latency now : ℚ) (ps : List Packet) (x : Sender) : Prop where
  /-- The events of the node are those up to then. -/
  present : now - latency ≤ x.time (x.after x.events).mqtt.clock
  /-- Their packets have arrived, and not before they were sent. -/
  arrived : ∀ m ∈ stream x.build x.clock x.events, ∃ p ∈ ps, p.message = m.message ∧
    x.time m.clock ≤ p.now

/-- The packets of the registered nodes of the types. -/
def registeredPackets (types : List String) (registry : Registry) (ps : List Packet) :
    List Packet :=
  (latest Packet.key ps).filter fun p =>
    types.any (isStr · (.str p.message.node.type.text)) && (registry.nodes.get? p.key).isSome

/-- A packet that a node has printed carries its key. -/
theorem key_of_message {x : Sender} {m : Firmware.PacketStream.Packet}
    (hm : m ∈ stream x.build x.clock x.events) {p : Packet} (hp : p.message = m.message) :
    p.key = x.key := by
  obtain ⟨pre, e, rand, -, -, rfl⟩ := Firmware.PacketStream.mem_stream_iff.mp hm
  rw [Packet.key, Packet.nodeId, hp]
  rfl

/-- The latest packet of a node that keeps publishing is not stale. -/
theorem exists_fresh {latency now : ℚ} {ps : List Packet}
    (hsorted : ps.Pairwise fun p q => p.now ≤ q.now) {x : Sender}
    (hkeeps : KeepsPublishing latency x) (hdelivered : Delivered latency now ps x) :
    ∃ p ∈ latest Packet.key ps, p.key = x.key ∧ now - p.now ≤ staleAfterS := by
  obtain ⟨pre, e, mid, m, δ, ε, hevents, hm, hpunctual, hsilent, hlimit⟩ := hkeeps
  have hstream : m ∈ stream x.build x.clock x.events :=
    mem_outputs_iff.mpr ⟨pre, e, hevents ▸ ⟨mid, by simp⟩, hm⟩
  obtain ⟨p, hp, hmessage, hsent⟩ := hdelivered.arrived m hstream
  obtain ⟨q, hq, hkey, hlater⟩ : ∃ q ∈ latest Packet.key ps, q.key = p.key ∧ p.now ≤ q.now :=
    exists_mem_latest hsorted hp
  refine ⟨q, hq, hkey.trans (key_of_message hstream hmessage), ?_⟩
  -- The node has not been silent for longer than its promptness allows.
  have hafter : x.after x.events =
      run (Firmware.PacketStream.step x.build) (x.after (pre ++ [e])) mid := by
    rw [hevents, Sender.after, Sender.after, ← run_append, List.append_assoc]
    rfl
  have hstep : x.after (pre ++ [e]) = Firmware.PacketStream.step x.build (x.after pre) e :=
    run_concat _ pre e
  have hsilence := Firmware.PacketStream.heard_again (δ := δ) (ε := ε) hm (hstep ▸ hpunctual)
    (hstep ▸ hsilent)
  rw [← hstep, ← hafter] at hsilence
  have hsecond : (0 : ℚ) < x.build.producer.clockSecond := Nat.cast_pos.mpr x.build.clock_pos
  have hpresent := hdelivered.present
  calc now - q.now ≤ now - x.time m.clock := sub_le_sub_left (hsent.trans hlater) now
    _ ≤ latency + (x.time (x.after x.events).mqtt.clock - x.time m.clock) := by linarith
    _ = latency + ((x.after x.events).mqtt.clock - m.clock) / x.build.producer.clockSecond := by
        unfold Sender.time
        ring
    _ ≤ latency + (((x.after (pre ++ [e])).mqtt.clock +
          (1 + putOffs (x.after (pre ++ [e])) mid) * (δ + ε) : ℕ) - m.clock) /
          x.build.producer.clockSecond := by
        have hcast := Nat.cast_le (α := ℚ).mpr hsilence
        gcongr
    _ ≤ staleAfterS := hlimit

/-- What the cloud has of nodes that keep publishing. -/
structure AllCounted {ι : Type*} (py : Interp) (senders : ι → Sender) (types : List String)
    (now : ℚ) (registry : Registry) (ps : List Packet) : Prop where
  /-- The latest reading of every node is not stale. -/
  fresh : ∀ i, ∃ p ∈ latest Packet.key ps, p.key = (senders i).key ∧ now - p.now ≤ staleAfterS
  /-- `_power_by_types` adds up the latest powers of all registered nodes of the types. -/
  sum : powerByTypes .exact types now registry (run (step py) boot ps).readings =
    .fin ((registeredPackets types registry ps).map Packet.power).sum

/-- No node that keeps publishing is left out, for any number of nodes, whatever their builds and
intervals are, and in whatever order their packets arrive. What a node meets on the way is said by
`KeepsPublishing`: no loss of its session, of connectivity or of its library's readiness since its
last packet. -/
theorem nobody_is_stale {ι : Type*} {py : Interp} (hdepth : 0 < py.recursionLimit)
    {senders : ι → Sender} {latency now : ℚ} {registry : Registry} {ps : List Packet}
    (hsorted : ps.Pairwise fun p q => p.now ≤ q.now)
    (hkeeps : ∀ i, KeepsPublishing latency (senders i))
    (hdelivered : ∀ i, Delivered latency now ps (senders i))
    (hfleet : ∀ p ∈ ps, (registry.nodes.get? p.key).isSome → ∃ i, (senders i).key = p.key)
    (types : List String) : AllCounted py senders types now registry ps where
  fresh i := exists_fresh hsorted (hkeeps i) (hdelivered i)
  sum := by
    rw [(follows_run hdepth ps).2.2, powerByTypes_table]
    have hcounted : countedPackets types now registry ps = registeredPackets types registry ps := by
      refine List.filter_congr fun p hp => ?_
      unfold counts
      rcases hregistered : (registry.nodes.get? p.key).isSome with _ | _
      · rw [Bool.and_false, Bool.and_false]
      · obtain ⟨i, hi⟩ := hfleet p (mem_of_mem_latest hp) hregistered
        obtain ⟨q, hq, hkey, hfresh⟩ := exists_fresh hsorted (hkeeps i) (hdelivered i)
        -- There is one latest packet of the key.
        have heq : q = p :=
          List.inj_on_of_nodup_map (nodup_map_latest Packet.key ps) hq hp (hkey.trans hi)
        have hts : now - p.reading.ts ≤ staleAfterS := heq ▸ hfresh
        rw [decide_eq_true hts, Bool.and_true]
        rfl
    rw [hcounted]

section

open Firmware.MqttSensor Firmware.PacketStream

/-- A node connects five seconds after its boot, publishes after five more, and waits for some
ticks. -/
def publishAndWait (waits : ℕ) : List Firmware.PacketStream.Event :=
  [.mqtt (.elapse 640) 0, .mqtt .timer 0, .mqtt (.resume .other ⟨true, true, 3⟩) 0,
    .mqtt (.mqtt (.connected 0)) 0,
    .mqtt (.elapse 640) 0, .mqtt .timer 0, .mqtt (.resume .other ⟨true, true, 3⟩) fun _ => 50,
    .mqtt (.elapse waits) 0]

/-- How long each of two nodes waits. -/
def waits : Bool → ℕ
  | true => 125
  | false => 61

/-- A wind node, and a solar node that has booted half a second later. -/
def twoSenders : Bool → Sender
  | true => ⟨⟨Firmware.ProtectiveShutdown.windBuild, by decide⟩, 0, 90, publishAndWait (waits true)⟩
  | false =>
    ⟨⟨Firmware.ProtectiveShutdown.solarBuild, by decide⟩, 0, 90 + 1 / 2,
      publishAndWait (waits false)⟩

/-- What each of them publishes. -/
def twoPackets (i : Bool) : Firmware.PacketStream.Packet where
  clock := 1280
  message := (publishCall (twoSenders i).build ((twoSenders i).after ((twoSenders i).events.take 6))
    fun _ => 50).1

/-- The wind node's packet takes a second. -/
def windArrival : FleetTelemetry.Packet where
  message := (twoPackets true).message
  accepts := true
  received_ms := 101000
  now := 101
  received_nonneg := by decide
  received_lt := by decide

/-- The solar node's packet is sent after it, and overtakes it. -/
def solarArrival : FleetTelemetry.Packet where
  message := (twoPackets false).message
  accepts := true
  received_ms := 100750
  now := 100 + 3 / 4
  received_nonneg := by decide
  received_lt := by decide

/-- What a node has published. -/
theorem mem_twoPackets (i : Bool) : twoPackets i ∈
    packets (twoSenders i).build ((twoSenders i).after ((twoSenders i).events.take 6))
      (.mqtt (.resume .other ⟨true, true, 3⟩) fun _ => 50) := by
  cases i with
  | true => exact mem_packets_iff.mpr ⟨_, _, rfl, by decide, rfl⟩
  | false => exact mem_packets_iff.mpr ⟨_, _, rfl, by decide, rfl⟩

/-- Both nodes are in time, with intervals of 5 s at most. -/
theorem keepsPublishing_two (i : Bool) : KeepsPublishing 1 (twoSenders i) := by
  have hclock : ((twoSenders i).after ((twoSenders i).events.take 6 ++
      [.mqtt (.resume .other ⟨true, true, 3⟩) fun _ => 50])).mqtt.clock = 1283 := by
    cases i <;> rfl
  have hputOffs : putOffs ((twoSenders i).after ((twoSenders i).events.take 6 ++
      [.mqtt (.resume .other ⟨true, true, 3⟩) fun _ => 50])) [.mqtt (.elapse (waits i)) 0] = 0 := by
    cases i <;> rfl
  have hsecond : (twoSenders i).build.producer.clockSecond = 128 := by
    cases i <;> rfl
  have hsent : (twoPackets i).clock = 1280 := rfl
  refine ⟨(twoSenders i).events.take 6, _, [.mqtt (.elapse (waits i)) 0], twoPackets i, 640, 0, ?_,
    mem_twoPackets i, ⟨fun e he => ?_, ?_, ?_⟩, ?_, ?_⟩
  · cases i <;> rfl
  · rw [List.mem_singleton.mp he]
    trivial
  · cases i <;> decide
  · cases i <;> decide
  · cases i <;> rfl
  · rw [hclock, hputOffs, hsent, hsecond, staleAfterS]
    norm_num

/-- Their packets have arrived. -/
theorem delivered_two (i : Bool) : Delivered 1 102 [solarArrival, windArrival] (twoSenders i) := by
  have hsecond : (twoSenders i).build.producer.clockSecond = 128 := by
    cases i <;> rfl
  have hclock : ((twoSenders i).after (twoSenders i).events).mqtt.clock = 1283 + waits i := by
    cases i <;> rfl
  have hstream : stream (twoSenders i).build (twoSenders i).clock (twoSenders i).events =
      [twoPackets i] := by
    cases i <;> rfl
  have hsent : (twoPackets i).clock = 1280 := rfl
  refine ⟨?_, fun m hm => ?_⟩
  · rw [hclock, Sender.time, hsecond]
    cases i <;> norm_num [twoSenders, waits]
  · rw [hstream, List.mem_singleton] at hm
    subst hm
    rw [hsent, Sender.time, hsecond]
    cases i with
    | true =>
      exact ⟨windArrival, by simp, rfl, by norm_num [twoSenders, windArrival]⟩
    | false =>
      exact ⟨solarArrival, by simp, rfl, by norm_num [twoSenders, solarArrival]⟩

/-- Two seconds after the first of the two packets was sent, both readings are counted. -/
theorem nobody_is_stale_two :
    AllCounted .cpython twoSenders renewableTypes 102
      ((Registry.boot.insert (twoSenders true).key 0 []).insert (twoSenders false).key 0 [])
      [solarArrival, windArrival] := by
  have hsorted : [solarArrival, windArrival].Pairwise fun p q => p.now ≤ q.now :=
    List.pairwise_pair.mpr (by norm_num [solarArrival, windArrival])
  refine nobody_is_stale (by decide) hsorted keepsPublishing_two delivered_two (fun p hp _ => ?_)
    renewableTypes
  rcases List.mem_cons.mp hp with rfl | hp
  · exact ⟨false, rfl⟩
  · rw [List.mem_singleton.mp hp]
    exact ⟨true, rfl⟩

end

end EnergyStation.System.FreshReadings
