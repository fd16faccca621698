import Thermals.Main
import Thermals.Replay.Screen
import Thermals.Config.Printer
import Thermals.Time.Span.Printer
import Thermals.Proofs.Detection.Table
import Thermals.Proofs.Detection.Target
import Thermals.Proofs.Window
import Thermals.Proofs.Detection.Evidence
import Thermals.Proofs.Detection.Publication
import Thermals.Proofs.Detection.Confirmation
import Thermals.Proofs.Detection.Frozen
import Thermals.Proofs.Detection.Isolation
import Thermals.Proofs.Detection.Known
import Thermals.Proofs.Detection.Retention
import Thermals.Proofs.Detection.Probation
import Thermals.Proofs.Log.Grouping
import Thermals.Proofs.Detection.Operations
import Thermals.Proofs.Log.Feeding
import Thermals.Detection.Call
import Thermals.Proofs.Detection.Coherence
import Thermals.Proofs.Detection.Noninterference
import Thermals.Proofs.Detection.Translation
import Thermals.Proofs.Log.Acceptance
import Thermals.Proofs.Log.Reordering
import Thermals.Proofs.Replay
import Thermals.Proofs.Detection.Upkeep
import Thermals.Proofs.Detection.Eviction
import Thermals.Proofs.Detection.Sweep
import Thermals.Proofs.Detection.Batches
import Thermals.Proofs.Number.Binary64
import Thermals.Proofs.Number.Digits
import Thermals.Proofs.Text.Run
import Thermals.Proofs.Geo.Degrees
import Thermals.Proofs.Number.Representable
import Thermals.Proofs.Geo.Normalization
import Thermals.Proofs.Geo.Record
import Thermals.Proofs.Log.Refusal
import Thermals.Proofs.Line
import Thermals.Proofs.Program
import Thermals.Proofs.Ron.Reader
import Thermals.Proofs.Ron.Number
import Thermals.Proofs.Time.SpanText
import Thermals.Proofs.Config.Text
import Thermals.Proofs.Config.RoundTrip
import Thermals.Proofs.Time.Words
import Thermals.Proofs.Time.Saturation
import Thermals.Proofs.Number.Hex
import Thermals.Proofs.Json.Plain
import Thermals.Proofs.Text.Blank
import Thermals.Proofs.Traffic.FlarmId
import Thermals.Proofs.Number.Zero
import Thermals.Proofs.Number.Order
import Thermals.Proofs.Geo.Distance
import Thermals.Proofs.Geo.Box
import Thermals.Proofs.Detection.Area
import Thermals.Proofs.Detection.Center
import Thermals.Proofs.Filling
import Thermals.Proofs.Window.Ledger
