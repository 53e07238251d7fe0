import Quinte.Framework.KeyedMerge
import Quinte.Framework.Tally
import Quinte.Framework.Program
import Quinte.Framework.Pool
import Quinte.Framework.Interference
import Quinte.Framework.FramedLog
import Quinte.Framework.Substitution
import Quinte.Model.Types
import Quinte.Model.Policy
import Quinte.Model.RunDir
import Quinte.Model.Schema
import Quinte.Store.Journal
import Quinte.Store.Protocol
import Quinte.Store.Operations
import Quinte.Store.Alone
import Quinte.Store.Completeness
import Quinte.Store.Custody
import Quinte.Merge.Contestation
import Quinte.Merge.Verdicts
import Quinte.Merge.Conservatism
import Quinte.Merge.Divergence
import Quinte.Merge.Replay
import Quinte.Evidence.References
import Quinte.Packet.Scrub
import Quinte.Packet.Readback
import Quinte.Packet.Pseudonymity
import Quinte.Run.Lanes
import Quinte.Run.Receipts
import Quinte.Run.Advance
import Quinte.Run.Commands
import Quinte.Run.Amendment
import Quinte.Run.LaneProtocol
import Quinte.Run.LaneContract
import Quinte.Run.Bystanders
import Quinte.Run.LaneAttempts
import Quinte.Run.LanePhases
import Quinte.Run.LaneSessions
import Quinte.Run.PhaseTimeouts
import Quinte.Run.Scheduling
import Quinte.Run.Finality
import Quinte.Run.Remapping
import Quinte.Framework.Json
import Quinte.Framework.JsonText
import Quinte.Framework.Codec
import Quinte.Framework.FileTree
import Quinte.Framework.Base64
import Quinte.Framework.JsonSchema
import Quinte.Framework.HashChain
import Quinte.Framework.Recovery
import Quinte.Finance.Types
import Quinte.Finance.Contracts
import Quinte.Finance.Digests
import Quinte.Finance.Schemas
import Quinte.Finance.Review
import Quinte.Finance.Ledger
import Quinte.Finance.Acceptance
import Quinte.Finance.Tampering
import Quinte.Finance.Journal
import Quinte.Finance.Reconstruction
import Quinte.Finance.Reconciliation
import Quinte.Finance.Authenticity
import Quinte.Framework.Focus
import Quinte.Framework.Ownership
import Quinte.Framework.JsonAccess
import Quinte.Wire.Carriers
import Quinte.Wire.Home
import Quinte.Wire.Observation
import Quinte.Wire.Tasks
import Quinte.Wire.AtRest
import Quinte.Wire.Pagination
import Quinte.Wire.Requests
import Quinte.Wire.Identities
import Quinte.Run.Cancelling
import Quinte.Framework.EditDistance
import Quinte.Evidence.Repair
import Quinte.Evidence.InputReceipt
import Quinte.Wire.Intake
import Quinte.Contest.BriefDigest
import Quinte.Wire.ActionBinding
import Quinte.Seat.Tasks
import Quinte.Seat.TornAppend
import Quinte.Seat.Serving
import Quinte.Seat.Orphans
import Quinte.Run.SeatCalls
import Quinte.Framework.Braces
import Quinte.Seat.Contract
import Quinte.Contest.Campaign
import Quinte.Contest.Malformed
import Quinte.Contest.FailStop
import Quinte.Finance.Packets
import Quinte.Finance.Projection
import Quinte.Finance.Finalize
import Quinte.Finance.Publication
import Quinte.Run.Backoff
import Quinte.Run.Suffixes
import Quinte.Framework.Decode
import Quinte.Model.PolicyFile
import Quinte.Framework.JsonEdit
import Quinte.Framework.JsonShape
import Quinte.Adapter.Payload
import Quinte.Adapter.Identifiers
import Quinte.Run.Snapshot
import Quinte.Run.SnapshotRefs
import Quinte.Run.OutputCap
import Quinte.Store.AtomicWrite
import Quinte.Merge.ResultContract
import Quinte.Adapter.SnapshotDelivery
import Quinte.Wire.Attempts
import Quinte.Framework.JsonLexemes
import Quinte.Adapter.Quoting
import Quinte.Adapter.NormalForm
import Quinte.Adapter.ProviderFaces
import Quinte.Adapter.ModelText
import Quinte.Wire.Launch
import Quinte.Wire.HomeLocks
import Quinte.Wire.SingleRun
import Quinte.Framework.JsonPrefix
import Quinte.Finance.Utf8
import Quinte.Store.EventLog
