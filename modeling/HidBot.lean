import HidBot.Usb.FaultExecutor
import HidBot.Usb.FaultRequests
import HidBot.Usb.FaultLasts
import HidBot.Ble.CommandOrder
import HidBot.Ble.Control
import HidBot.Ble.Overflow
import HidBot.Ble.OverflowMarks
import HidBot.Ble.Executor
import HidBot.Ble.Blocks
import HidBot.Ble.RouteLoss
import HidBot.Ble.LossFence
import HidBot.Interleaving.History
import HidBot.Ble.FaultCommit
import HidBot.Route.Machine
import HidBot.Route.Contract
import HidBot.Route.Writer
import HidBot.Route.Callers
import HidBot.Route.Operations
import HidBot.Route.Runs
import HidBot.Route.Authority
import HidBot.Route.Stranding
import HidBot.Route.VetoRace
import HidBot.Protocol.Json
import HidBot.Protocol.Session
import HidBot.Protocol.Messages
import HidBot.Protocol.Responses
import HidBot.Protocol.Protocol
import HidBot.Protocol.Answers
import HidBot.Protocol.Moves
import HidBot.Protocol.Steps
import HidBot.Protocol.Caches
import HidBot.Protocol.Owners
import HidBot.Protocol.Requests
import HidBot.Protocol.Executions
import HidBot.Protocol.Written
import HidBot.Wire.Value
import HidBot.Host.SequenceStatus
import HidBot.Host.Client
import HidBot.Host.Link
import HidBot.Host.ExactlyOnce
import HidBot.Runtime.Routing
import HidBot.Runtime.Loads
import HidBot.Runtime.TicketSteps
import HidBot.Runtime.TermRuns
import HidBot.Interleaving.Scripted
import HidBot.Interleaving.Pledge
import HidBot.Sequence.Plan
import HidBot.Sequence.Status
import HidBot.Sequence.Controller
import HidBot.Sequence.Records
import HidBot.Sequence.Callers
import HidBot.Sequence.TerminalRecord
import HidBot.Sequence.HostView
import HidBot.Sequence.StatusReads
import HidBot.Interleaving.Fallible
import HidBot.Bonds.DeleteTransaction
import HidBot.Bonds.CrashSafety
import HidBot.Bonds.Association
import HidBot.Bonds.Startup
import HidBot.Bonds.Backend
import HidBot.Bonds.Provenance
import HidBot.Bonds.RefusedWrites
import HidBot.Pairing.Safety
import HidBot.Usb.Runs
import HidBot.Ble.Runs
import HidBot.Runtime.SleepGate
import HidBot.Framing.Grammar
import HidBot.Interleaving.Logged
import HidBot.Sequence.Followed
import HidBot.Sequence.Language
import HidBot.Runtime.SofWatchdog
import HidBot.Runtime.LinkRuns
import HidBot.Host.Framer
import HidBot.Identity.Agreement
import HidBot.Bonds.OrphanRecovery
import HidBot.Bonds.SchemaKey
import HidBot.Ble.Evidence
import HidBot.Ble.Timeouts
import HidBot.Ble.EstablishmentRuns
import HidBot.Ble.StopRuns
import HidBot.Ble.GraceRuns
import HidBot.Ble.GraceTimers
import HidBot.Artifact.ImageMap
import HidBot.Artifact.RoundTrip
import HidBot.Host.ResultErrors
