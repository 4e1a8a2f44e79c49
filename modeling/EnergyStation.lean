import EnergyStation.Lib.Runs
import EnergyStation.Lib.Dict
import EnergyStation.Lib.Latch
import EnergyStation.Lib.Exchange
import EnergyStation.Lib.Ledger
import EnergyStation.Lib.ExtRat
import EnergyStation.Lib.Window
import EnergyStation.Lib.Numeral
import EnergyStation.CStdlib
import EnergyStation.Coap
import EnergyStation.Firmware.Battery
import EnergyStation.Firmware.Status
import EnergyStation.Firmware.Clock
import EnergyStation.Firmware.Sampling
import EnergyStation.Python.Value
import EnergyStation.Python.Utf8
import EnergyStation.Python.Json
import EnergyStation.Cloud.EnergyState
import EnergyStation.Cloud.NodeRegistry
import EnergyStation.Cloud.InfluxdbConnect
import EnergyStation.Cloud.MqttClient
import EnergyStation.Cloud.CoapResources
import EnergyStation.Cloud.CoapClient
import EnergyStation.Cloud.Liveness
import EnergyStation.Cloud.Congestion
import EnergyStation.Cloud.CongestionPass
import EnergyStation.Battery.ChargeLock
import EnergyStation.Battery.Range
import EnergyStation.Battery.Override
import EnergyStation.Liveness.LostUpdate
import EnergyStation.Liveness.Survival
import EnergyStation.Telemetry.Malformed
import EnergyStation.Telemetry.DelayReference
import EnergyStation.Telemetry.ClockPhase
import EnergyStation.Telemetry.Reboot
import EnergyStation.System.DieselStop
import EnergyStation.System.AdaptiveSampling
import EnergyStation.System.SamplingLedger
import EnergyStation.System.SamplingInvariant
import EnergyStation.System.SamplingAgreement
import EnergyStation.Cloud.DieselHysteresis
import EnergyStation.Cloud.Balance
import EnergyStation.Firmware.WarmUp
import EnergyStation.System.DieselFleet
import EnergyStation.System.DieselRestart
import EnergyStation.System.DieselTarget
import EnergyStation.Python.JsonText
import EnergyStation.Python.Printed
import EnergyStation.Firmware.BatteryReport
import EnergyStation.System.SocReading
import EnergyStation.System.ClosedLoop
import EnergyStation.Python.FloatSum
import EnergyStation.Telemetry.BatchReference
import EnergyStation.Telemetry.RoundTrip
import EnergyStation.Cloud.Commands
import EnergyStation.Cloud.ControlResources
import EnergyStation.Cloud.CoapSite
import EnergyStation.Cloud.Outcomes
import EnergyStation.Firmware.Idempotence
import EnergyStation.System.Publishing
import EnergyStation.Liveness.Removal
import EnergyStation.Lib.Timer
import EnergyStation.Firmware.MqttSensor
import EnergyStation.Firmware.Publisher
import EnergyStation.Firmware.PublishRate
import EnergyStation.Firmware.KeepAlive
import EnergyStation.Firmware.Telemetry
import EnergyStation.System.CongestedInterval
import EnergyStation.System.Returning
import EnergyStation.Cloud.BadReadings
import EnergyStation.Firmware.ProtectiveShutdown
import EnergyStation.Firmware.SamplingPut
import EnergyStation.System.CommandAccuracy
import EnergyStation.Cloud.ControlRequests
import EnergyStation.Cloud.RejectedRegistrations
import EnergyStation.Firmware.FixedFormat
import EnergyStation.Firmware.Conversions
import EnergyStation.Lib.Outputs
import EnergyStation.Cloud.BalanceLoop
import EnergyStation.Lib.Latest
import EnergyStation.System.FleetTelemetry
import EnergyStation.Lib.Drift
import EnergyStation.System.DieselDwell
import EnergyStation.Firmware.Registration
import EnergyStation.Telemetry.Registrations
import EnergyStation.System.Members
import EnergyStation.System.Requests
import EnergyStation.Firmware.DecisionTree
import EnergyStation.Liveness.Probes
import EnergyStation.System.Detection
import EnergyStation.Cloud.CongestionTraffic
import EnergyStation.System.FleetBalance
import EnergyStation.Firmware.Leds
import EnergyStation.System.LedCommands
import EnergyStation.Firmware.PacketStream
import EnergyStation.Firmware.Punctual
import EnergyStation.System.FreshReadings
import EnergyStation.System.Operators
import EnergyStation.Firmware.Silence
import EnergyStation.Cloud.Points
import EnergyStation.System.CloudApp
import EnergyStation.Cloud.Recipients
import EnergyStation.System.Recipients
