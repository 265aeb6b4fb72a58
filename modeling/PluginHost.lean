import PluginHost.Main
import PluginHost.Proofs.Bench.Inline
import PluginHost.Proofs.Call.Comment
import PluginHost.Proofs.Call.Controls
import PluginHost.Proofs.Call.Errand
import PluginHost.Proofs.Call.Inquiry
import PluginHost.Proofs.Call.Outbox
import PluginHost.Proofs.Config.Written
import PluginHost.Proofs.Executor.Drain
import PluginHost.Proofs.Ledger.Book
import PluginHost.Proofs.Probe.Report
import PluginHost.Proofs.Promise.Writes
import PluginHost.Proofs.Traffic.Order
import PluginHost.Proofs.Traffic.System
import PluginHost.Worker
import PluginHost.Proofs.Registry
import PluginHost.Proofs.Directory.Chronicle
import PluginHost.Proofs.Call.Repetition
import PluginHost.Proofs.Json.Written
import PluginHost.Proofs.Registry.Listing
import PluginHost.Proofs.Config.Number
import PluginHost.Proofs.Promise.Wait
import PluginHost.Proofs.Settings
import PluginHost.Proofs.Call.Payload
import PluginHost.Proofs.Registry.Configured
import PluginHost.Proofs.Call.LogLine
import PluginHost.Proofs.Ledger.Text
import PluginHost.Proofs.Ledger.Room
import PluginHost.Proofs.Connection
import PluginHost.Proofs.Snapshot
import PluginHost.Proofs.Call.PayloadName
import PluginHost.Proofs.Ledger.Peak
import PluginHost.Proofs.Registry.Query
