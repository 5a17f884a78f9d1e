import NumaFabric.Cluster
import NumaFabric.Control.Service
import NumaFabric.Gpu.Device
import NumaFabric.Gpu.Inventory
import NumaFabric.Gpu.Scheduler
import NumaFabric.Ingress.BufferPool
import NumaFabric.Ingress.Dispatcher
import NumaFabric.Ingress.Pool
import NumaFabric.Ingress.Ring
import NumaFabric.Json.Basic
import NumaFabric.Json.Parser
import NumaFabric.Json.Printer
import NumaFabric.Json.Reader
import NumaFabric.Kernel.Cache
import NumaFabric.Kernel.Launch
import NumaFabric.Kernel.Listing
import NumaFabric.Kernel.ModuleDirectory
import NumaFabric.Kernel.Recorder
import NumaFabric.Lifecycle.Lifetime
import NumaFabric.Lifecycle.Tracker
import NumaFabric.Link.Connections
import NumaFabric.Link.Datagram
import NumaFabric.Link.Loopback
import NumaFabric.Link.Registration
import NumaFabric.Link.TransferError
import NumaFabric.Link.TransportConfig
import NumaFabric.Logging.Directive
import NumaFabric.Logging.Filter
import NumaFabric.Logging.Pattern
import NumaFabric.Main
import NumaFabric.Memory.AddressSpace
import NumaFabric.Memory.LocalMemory
import NumaFabric.Memory.Region
import NumaFabric.Memory.RegionJson
import NumaFabric.Net.Host
import NumaFabric.Net.IpAddress
import NumaFabric.Net.SocketAddress
import NumaFabric.Node.Running
import NumaFabric.Node.Startup
import NumaFabric.Numa.AddressMap
import NumaFabric.Numa.CpuList
import NumaFabric.Numa.NumaNode
import NumaFabric.Numa.Topology
import NumaFabric.Proofs.Cluster.Delivery
import NumaFabric.Proofs.Cluster.Fabric
import NumaFabric.Proofs.Cluster.Station
import NumaFabric.Proofs.Cluster.Transparency
import NumaFabric.Proofs.Gpu.Grants
import NumaFabric.Proofs.Gpu.Inventory
import NumaFabric.Proofs.Gpu.Ownership
import NumaFabric.Proofs.Ingress.Settle
import NumaFabric.Proofs.Link.Connected
import NumaFabric.Proofs.Memory.Contents
import NumaFabric.Proofs.Numa.Edits
import NumaFabric.Proofs.Numa.Ranges
import NumaFabric.Proofs.Retry.Attempts
import NumaFabric.Proofs.Routing.Attempt
import NumaFabric.Proofs.Routing.CarryOut
import NumaFabric.Proofs.Routing.Effect
import NumaFabric.Proofs.Routing.Span
import NumaFabric.Proofs.Rpc.Holders
import NumaFabric.Proofs.Rpc.Identity
import NumaFabric.Proofs.Rpc.Sessions
import NumaFabric.Proofs.Store.Floor
import NumaFabric.Proofs.Store.Listed
import NumaFabric.Proofs.Store.Separated
import NumaFabric.Proofs.Wire.RoundTrip
import NumaFabric.Report.Failure
import NumaFabric.Report.Outcome
import NumaFabric.Report.Rewritten
import NumaFabric.Retry.Duration
import NumaFabric.Retry.Policy
import NumaFabric.Retry.Run
import NumaFabric.Retry.Task
import NumaFabric.Routing.Outbox
import NumaFabric.Routing.RouteTable
import NumaFabric.Routing.Router
import NumaFabric.Routing.SharedRoutes
import NumaFabric.Rpc.Client
import NumaFabric.Rpc.Framing
import NumaFabric.Rpc.Message
import NumaFabric.Rpc.Server
import NumaFabric.Settings.CommandLine
import NumaFabric.Settings.Environment
import NumaFabric.Settings.Fabric
import NumaFabric.Settings.FabricJson
import NumaFabric.Settings.Reader
import NumaFabric.Settings.Switch
import NumaFabric.Settings.Toml.Document
import NumaFabric.Settings.Toml.Scalar
import NumaFabric.Settings.Toml.Tree
import NumaFabric.Settings.Value
import NumaFabric.Settings.Wrapped
import NumaFabric.Store.OrderedMap
import NumaFabric.Text.Base64
import NumaFabric.Text.Blank
import NumaFabric.Text.FloatRange
import NumaFabric.Text.Hexadecimal
import NumaFabric.Text.HiddenCharacter
import NumaFabric.Text.Letter
import NumaFabric.Text.Numeral
import NumaFabric.Text.Quoted
import NumaFabric.Text.Slice
import NumaFabric.Text.Split
import NumaFabric.Text.Utf8
import NumaFabric.Wire.Checksum
import NumaFabric.Wire.Command
import NumaFabric.Wire.CommandJson
import NumaFabric.Wire.Frame
import NumaFabric.Wire.Word
import NumaFabric.Wire.WordLemmas
import NumaFabric.Proofs.Ingress.Fifo
import NumaFabric.Proofs.Memory.LastWrite
import NumaFabric.Proofs.Wire.Register
import NumaFabric.Proofs.Wire.Burst
import NumaFabric.Proofs.Ingress.Conservation
import NumaFabric.Proofs.Kernel.Residence
import NumaFabric.Proofs.Kernel.SingleLoad
import NumaFabric.Proofs.Routing.Guarded
import NumaFabric.Proofs.Control.Entrances
import NumaFabric.Proofs.Text.Digits
import NumaFabric.Proofs.Text.Base64
import NumaFabric.Proofs.Text.Utf8
import NumaFabric.Proofs.Net.Rendered
import NumaFabric.Proofs.Json.Written
import NumaFabric.Proofs.Json.Records
import NumaFabric.Proofs.Rpc.Messages
import NumaFabric.Proofs.Link.Cached
import NumaFabric.Proofs.Link.Deliveries
import NumaFabric.Proofs.Numa.Owner
import NumaFabric.Proofs.Node.ServedPool
import NumaFabric.Proofs.Memory.Usable
import NumaFabric.Proofs.Link.Exchange
import NumaFabric.Proofs.Link.Phases
import NumaFabric.Proofs.Link.InOrder
import NumaFabric.Proofs.Routing.Fills
import NumaFabric.Proofs.Ingress.Truncation
import NumaFabric.Proofs.Kernel.Failures
import NumaFabric.Proofs.Kernel.Launches
import NumaFabric.Proofs.Link.Outstanding
import NumaFabric.Proofs.Link.ForeignHandles
import NumaFabric.Proofs.Retry.Schedule
import NumaFabric.Proofs.Link.Evictions
import NumaFabric.Proofs.Ingress.Lending
import NumaFabric.Proofs.Text.Pieces
import NumaFabric.Proofs.Text.Numerals
import NumaFabric.Proofs.Numa.CpuLists
import NumaFabric.Proofs.Routing.Entries
import NumaFabric.Proofs.Routing.Replacement
import NumaFabric.Proofs.Runs.Sequences
import NumaFabric.Proofs.Lifecycle.WakeUps
import NumaFabric.Proofs.Numa.Views
import NumaFabric.Proofs.Logging.Precedence
import NumaFabric.Proofs.Gpu.Rows
import NumaFabric.Proofs.Kernel.Declarations
