import TelemetryLog.Main
import TelemetryLog.Proofs.Device.Chunking
import TelemetryLog.Proofs.Log.Sessions
import TelemetryLog.Proofs.Recorder.Rows
import TelemetryLog.Proofs.Csv.Cut
import TelemetryLog.Proofs.Log.Crash
import TelemetryLog.Proofs.Csv.Continue
import TelemetryLog.Proofs.Log.Resume
import TelemetryLog.Proofs.Settings.Texts
import TelemetryLog.Proofs.Json.Nesting
import TelemetryLog.Proofs.Line.CutOff
import TelemetryLog.Proofs.Json.Grammar
import TelemetryLog.Proofs.Json.Scalars
import TelemetryLog.Proofs.Json.Members
import TelemetryLog.Proofs.Json.Texts
import TelemetryLog.Proofs.Json.Soundness
import TelemetryLog.Proofs.Json.Completeness
import TelemetryLog.Proofs.Line.Objects
import TelemetryLog.Proofs.Device.Timing
import TelemetryLog.Proofs.Device.Memory
import TelemetryLog.Proofs.Recorder.Agreement
import TelemetryLog.Proofs.Log.AppendOnly
import TelemetryLog.Proofs.Log.Header
import TelemetryLog.Proofs.Json.Meaning
import TelemetryLog.Proofs.Json.Spelling
import TelemetryLog.Proofs.Json.Rendering
import TelemetryLog.Proofs.Line.WrittenBack
import TelemetryLog.Proofs.Json.Likeness
import TelemetryLog.Proofs.Line.Likeness
import TelemetryLog.Proofs.Json.Places
import TelemetryLog.Proofs.Line.Readings
import TelemetryLog.Proofs.Recorder.Told
