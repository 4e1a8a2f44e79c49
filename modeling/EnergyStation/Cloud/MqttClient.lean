import EnergyStation.Cloud.EnergyState
import EnergyStation.Cloud.InfluxdbConnect
import EnergyStation.CStdlib

/-!
# MQTT ingestion

`on_message` of `mqtt_client.py` decodes a message, stores it and updates the readings. It catches
`JSONDecodeError` only. Its caller is the network loop of `paho-mqtt`. The powers of the readings
are computed without rounding.
-/

namespace EnergyStation.Cloud

open Python

/-- What the ingestion of telemetry changes. -/
structure Ingested where
  /-- The delay tables and the points. -/
  store : Store
  /-- `_latest_readings` -/
  readings : Dict Key Reading

/-- `except json.JSONDecodeError`. -/
def exceptJsonDecodeError : Except Exc Unit → Except Exc Unit
  | .error .jsonDecodeError => .ok ()
  | r => r

/-- The body of the `try` of `on_message`. -/
def ingest (py : Interp) (accepts : Bool) (received_ms : ℤ) (now : ℚ) (body : CStdlib.Bytes)
    (s : Ingested) : Except Exc Unit × Ingested :=
  match loadBody py body with
  | .error e => (.error e, s)
  | .ok payload =>
    match saveToInfluxdb py accepts payload received_ms s.store with
    | (.error e, store) => (.error e, { s with store := store })
    | (.ok _, store) =>
      match updateReading .exact now payload s.readings with
      | .error e => (.error e, { s with store := store })
      | .ok readings => (.ok (), ⟨store, readings⟩)

/-- `on_message`. Its second component is the state as it is when the function returns or raises. -/
def onMessage (py : Interp) (accepts : Bool) (received_ms : ℤ) (now : ℚ) (body : CStdlib.Bytes)
    (s : Ingested) : Except Exc Unit × Ingested :=
  let r := ingest py accepts received_ms now body s
  (exceptJsonDecodeError r.1, r.2)

end EnergyStation.Cloud
