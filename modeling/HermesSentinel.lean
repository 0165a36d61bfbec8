import HermesSentinel.Foundation.Acquisition
import HermesSentinel.Foundation.Alike
import HermesSentinel.Foundation.Awk
import HermesSentinel.Foundation.Binary64
import HermesSentinel.Foundation.Binary64Order
import HermesSentinel.Foundation.Calendar
import HermesSentinel.Foundation.Changes
import HermesSentinel.Foundation.Cleanup
import HermesSentinel.Foundation.CodePoints
import HermesSentinel.Foundation.Consecutive
import HermesSentinel.Foundation.Decimal
import HermesSentinel.Foundation.Dictionary
import HermesSentinel.Foundation.Digits
import HermesSentinel.Foundation.EventLog
import HermesSentinel.Foundation.FixedPoint
import HermesSentinel.Foundation.FixedWidth
import HermesSentinel.Foundation.Hysteresis
import HermesSentinel.Foundation.HysteresisFlips
import HermesSentinel.Foundation.InOrder
import HermesSentinel.Foundation.Json
import HermesSentinel.Foundation.JsonMembers
import HermesSentinel.Foundation.JsonRoundTrip
import HermesSentinel.Foundation.Lines
import HermesSentinel.Foundation.Machine
import HermesSentinel.Foundation.Program
import HermesSentinel.Foundation.Register
import HermesSentinel.Foundation.SelfDelimiting
import HermesSentinel.Foundation.SortedSet
import HermesSentinel.Foundation.Twin
import HermesSentinel.Foundation.Utf8
import HermesSentinel.Python.DateTime
import HermesSentinel.Python.Exceptions
import HermesSentinel.Python.Float
import HermesSentinel.Python.IsoFormat
import HermesSentinel.Python.IsoReadBack
import HermesSentinel.Python.Json
import HermesSentinel.Python.Number
import HermesSentinel.Python.Strip
import HermesSentinel.Python.Text
import HermesSentinel.Sqlite.Catalogue
import HermesSentinel.Sqlite.Connection
import HermesSentinel.Domain.Config
import HermesSentinel.Domain.Telemetry
import HermesSentinel.DeadMan.AtomicRegister
import HermesSentinel.DeadMan.Codec
import HermesSentinel.DeadMan.CodecContract
import HermesSentinel.DeadMan.CodecExactness
import HermesSentinel.DeadMan.CodecRoundTrip
import HermesSentinel.DeadMan.ContentMachine
import HermesSentinel.DeadMan.Cycle
import HermesSentinel.DeadMan.DebounceWindows
import HermesSentinel.DeadMan.Delivery
import HermesSentinel.DeadMan.Drain
import HermesSentinel.DeadMan.FullAbstraction
import HermesSentinel.DeadMan.Ledger
import HermesSentinel.DeadMan.Machine
import HermesSentinel.DeadMan.Probe
import HermesSentinel.DeadMan.Resaving
import HermesSentinel.DeadMan.StateStore
import HermesSentinel.DeadMan.Status
import HermesSentinel.DeadMan.Store
import HermesSentinel.DeadMan.Vocabulary
import HermesSentinel.Heartbeat.Acceptance
import HermesSentinel.Heartbeat.Admission
import HermesSentinel.Heartbeat.Authenticity
import HermesSentinel.Heartbeat.BodyFraming
import HermesSentinel.Heartbeat.Bootstrap
import HermesSentinel.Heartbeat.ClientErrors
import HermesSentinel.Heartbeat.ContentType
import HermesSentinel.Heartbeat.DeclaredLength
import HermesSentinel.Heartbeat.Http
import HermesSentinel.Heartbeat.HttpStatus
import HermesSentinel.Heartbeat.Ingestion
import HermesSentinel.Heartbeat.LatestHeartbeat
import HermesSentinel.Heartbeat.Listener
import HermesSentinel.Heartbeat.NoEnumeration
import HermesSentinel.Heartbeat.Payload
import HermesSentinel.Heartbeat.ProbeAgreement
import HermesSentinel.Heartbeat.Record
import HermesSentinel.Heartbeat.Repository
import HermesSentinel.Heartbeat.Schema
import HermesSentinel.Heartbeat.SchemaRuns
import HermesSentinel.Heartbeat.StrictDecoding
import HermesSentinel.Heartbeat.Timestamp
import HermesSentinel.Heartbeat.Wire
import HermesSentinel.Heartbeat.WireExactness
import HermesSentinel.Host.AlarmWindows
import HermesSentinel.Host.AlertStream
import HermesSentinel.Host.Engine
import HermesSentinel.Host.EngineMemory
import HermesSentinel.Host.Evidence
import HermesSentinel.Host.Monitoring
import HermesSentinel.Host.Resolver
import HermesSentinel.Host.ResolverWindows
import HermesSentinel.Central.AgreeOnTime
import HermesSentinel.Central.Alarms
import HermesSentinel.Central.Application
import HermesSentinel.Central.Chat
import HermesSentinel.Central.Evaluation
import HermesSentinel.Central.FailClosed
import HermesSentinel.Central.Interleaving
import HermesSentinel.Central.Process
import HermesSentinel.Central.Runtime
import HermesSentinel.Central.Schedule
import HermesSentinel.Central.Service
import HermesSentinel.Central.StopRequest
import HermesSentinel.Settings.Central
import HermesSentinel.Settings.CentralContract
import HermesSentinel.Settings.DeadMan
import HermesSentinel.Settings.Environment
import HermesSentinel.Settings.Secrecy
import HermesSentinel.Settings.StrictJson
import HermesSentinel.Settings.Telegram
import HermesSentinel.Telegram.BoundedDelivery
import HermesSentinel.Telegram.Delivery
import HermesSentinel.Telegram.HostNames
import HermesSentinel.Telegram.Message
import HermesSentinel.Telegram.ReadBack
import HermesSentinel.Oneshot.Contract
import HermesSentinel.Oneshot.Prober
import HermesSentinel.Oneshot.Process
import HermesSentinel.Oneshot.Refinement
import HermesSentinel.Oneshot.Secrecy
import HermesSentinel.Oneshot.Wire
import HermesSentinel.Candidate.Accounting
import HermesSentinel.Candidate.EffectiveEntries
import HermesSentinel.Candidate.Fingerprint
import HermesSentinel.Candidate.Identification
import HermesSentinel.Candidate.Listing
import HermesSentinel.Candidate.StagingInvariance
import HermesSentinel.Reporter.Collector
import HermesSentinel.Reporter.Contract
import HermesSentinel.Reporter.Delivery
import HermesSentinel.Reporter.Document
import HermesSentinel.Reporter.Measurements
import HermesSentinel.Reporter.Parsers
import HermesSentinel.Reporter.Secrecy
import HermesSentinel.Reporter.Timer
