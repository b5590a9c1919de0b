import NetworkEngine.Backend.Coherence
import NetworkEngine.Backend.Complementarity
import NetworkEngine.Backend.EtwProviders
import NetworkEngine.Backend.FailoverHealth
import NetworkEngine.Backend.FailoverManager
import NetworkEngine.Backend.FailureReport
import NetworkEngine.Backend.HealthHistory
import NetworkEngine.Backend.IpHelperConnections
import NetworkEngine.Backend.IpHelperLookup
import NetworkEngine.Backend.IpHelperRows
import NetworkEngine.Backend.IpHelperTables
import NetworkEngine.Backend.Manager
import NetworkEngine.Backend.Native
import NetworkEngine.Backend.NativeHandles
import NetworkEngine.Backend.NpcapAdapters
import NetworkEngine.Backend.NpcapCapture
import NetworkEngine.Backend.NpcapReceipts
import NetworkEngine.Backend.NpcapSessions
import NetworkEngine.Backend.RoundRobin
import NetworkEngine.Backend.Selection
import NetworkEngine.Backend.WfpCondition
import NetworkEngine.Backend.WfpEvaluate
import NetworkEngine.Backend.WfpFilters
import NetworkEngine.Backend.WfpFlow
import NetworkEngine.Bus.Backpressure
import NetworkEngine.Bus.BufferContents
import NetworkEngine.Bus.BufferPool
import NetworkEngine.Bus.Concurrent
import NetworkEngine.Bus.OwnedPacket
import NetworkEngine.Bus.OwnershipRace
import NetworkEngine.Bus.PacketBus
import NetworkEngine.Bus.PoolConcurrent
import NetworkEngine.Bus.QueueConcurrent
import NetworkEngine.Bus.ReadInto
import NetworkEngine.Bus.Sequential
import NetworkEngine.Capture.CaptureRuntime
import NetworkEngine.Capture.NpcapRuntime
import NetworkEngine.Capture.WinDivert
import NetworkEngine.Capture.WinDivertQueue
import NetworkEngine.Core.Error
import NetworkEngine.Core.Filter
import NetworkEngine.Core.Histogram
import NetworkEngine.Core.Metadata
import NetworkEngine.Core.MetadataCache
import NetworkEngine.Core.MetadataJoin
import NetworkEngine.Core.Observation
import NetworkEngine.Core.Ownership
import NetworkEngine.Core.Policy
import NetworkEngine.Core.Statistics
import NetworkEngine.Engine.Agreement
import NetworkEngine.Engine.CaptureRoute
import NetworkEngine.Engine.Completion
import NetworkEngine.Engine.Coordination
import NetworkEngine.Engine.Failover
import NetworkEngine.Engine.GatewayControl
import NetworkEngine.Engine.Instances
import NetworkEngine.Engine.LoadCounters
import NetworkEngine.Engine.LoadSelect
import NetworkEngine.Engine.NativeSend
import NetworkEngine.Engine.NetworkSync
import NetworkEngine.Engine.PacketPolicy
import NetworkEngine.Engine.Packets
import NetworkEngine.Engine.QueueContents
import NetworkEngine.Engine.Runtime
import NetworkEngine.Engine.Selectors
import NetworkEngine.Engine.Shutdown
import NetworkEngine.Engine.State
import NetworkEngine.Engine.StateConcurrent
import NetworkEngine.Engine.StatisticsConcurrent
import NetworkEngine.Engine.WorkerPool
import NetworkEngine.Ffi.ActionContext
import NetworkEngine.Ffi.Annotations
import NetworkEngine.Ffi.Custody
import NetworkEngine.Ffi.Diverted
import NetworkEngine.Ffi.FlowStats
import NetworkEngine.Ffi.Handles
import NetworkEngine.Ffi.ObservationIds
import NetworkEngine.Ffi.PolicyApi
import NetworkEngine.Ffi.PoolAnswers
import NetworkEngine.Ffi.Protocol
import NetworkEngine.Ffi.Sessions
import NetworkEngine.Ffi.StateJson
import NetworkEngine.Flow.Accounting
import NetworkEngine.Flow.ConversationGroups
import NetworkEngine.Flow.ConversationHistory
import NetworkEngine.Flow.Conversations
import NetworkEngine.Flow.DedupWindow
import NetworkEngine.Flow.FlowTable
import NetworkEngine.Flow.Identity
import NetworkEngine.Flow.IdleClock
import NetworkEngine.Flow.LegacyKey
import NetworkEngine.Flow.Processing
import NetworkEngine.Flow.ProcessingRuns
import NetworkEngine.Gateway.Capability
import NetworkEngine.Gateway.CidrMatchers
import NetworkEngine.Gateway.Connections
import NetworkEngine.Gateway.Expiry
import NetworkEngine.Gateway.Forwarding
import NetworkEngine.Gateway.Ingress
import NetworkEngine.Gateway.Nat
import NetworkEngine.Gateway.Neighbors
import NetworkEngine.Gateway.RouteAgreement
import NetworkEngine.Gateway.Routing
import NetworkEngine.Gateway.Runtime
import NetworkEngine.Lib.CasLoop
import NetworkEngine.Lib.Checked
import NetworkEngine.Lib.Copies
import NetworkEngine.Lib.Expiry
import NetworkEngine.Lib.Fields
import NetworkEngine.Lib.Json
import NetworkEngine.Lib.Ledger
import NetworkEngine.Lib.Logged
import NetworkEngine.Lib.Masked
import NetworkEngine.Lib.Monitor
import NetworkEngine.Lib.OnesComplement
import NetworkEngine.Lib.Op
import NetworkEngine.Lib.Padded
import NetworkEngine.Lib.Prefix
import NetworkEngine.Lib.Projection
import NetworkEngine.Lib.Ranking
import NetworkEngine.Lib.ReprC
import NetworkEngine.Lib.Slot
import NetworkEngine.Lib.SortedPair
import NetworkEngine.Lib.Table
import NetworkEngine.Lib.Threads
import NetworkEngine.Lib.Trail
import NetworkEngine.Lib.Transition
import NetworkEngine.Lib.Triple
import NetworkEngine.Lib.Wire
import NetworkEngine.Network.AddressText
import NetworkEngine.Network.Cidr
import NetworkEngine.Network.State
import NetworkEngine.Parser.Checksum
import NetworkEngine.Parser.Datagram
import NetworkEngine.Parser.ExtensionChain
import NetworkEngine.Parser.ExtensionWalk
import NetworkEngine.Parser.FragmentPorts
import NetworkEngine.Parser.Fragments
import NetworkEngine.Parser.Headers
import NetworkEngine.Parser.Ipv6Format
import NetworkEngine.Parser.Link
import NetworkEngine.Parser.Network
import NetworkEngine.Parser.Packet
import NetworkEngine.Parser.Padding
import NetworkEngine.Parser.Transport
import NetworkEngine.Parser.UpperLayer
import NetworkEngine.Flow.CountersConcurrent
