import EdgeOffloading.Lib.Framing
import EdgeOffloading.Lib.Segments
import EdgeOffloading.Lib.Unframed
import EdgeOffloading.Lib.Fields
import EdgeOffloading.Lib.Run
import EdgeOffloading.Lib.Multimap
import EdgeOffloading.Lib.Allocation
import EdgeOffloading.Lib.Delivery
import EdgeOffloading.Lib.PartialRead
import EdgeOffloading.Lib.BoundedQueue
import EdgeOffloading.Lib.Intact
import EdgeOffloading.Lib.RoundRobin
import EdgeOffloading.Lib.Mailbox
import EdgeOffloading.Lib.Marker
import EdgeOffloading.Cpp.Json
import EdgeOffloading.Cpp.Parse
import EdgeOffloading.Cpp.Text
import EdgeOffloading.Cpp.Numerals
import EdgeOffloading.Protocol.Messages
import EdgeOffloading.Protocol.Shape
import EdgeOffloading.Protocol.ControlStream
import EdgeOffloading.Transport.Server
import EdgeOffloading.Transport.Client
import EdgeOffloading.Transport.SendData
import EdgeOffloading.Bridge.Header
import EdgeOffloading.Bridge.RoutingTable
import EdgeOffloading.Bridge.SessionManager
import EdgeOffloading.Bridge.GlobalConfig
import EdgeOffloading.Bridge.TransportHandler
import EdgeOffloading.Bridge.Reassembly
import EdgeOffloading.Bridge.Stream
import EdgeOffloading.Bridge.Worker
import EdgeOffloading.Bridge.Separation
import EdgeOffloading.Bridge.Progress
import EdgeOffloading.Bridge.Rounds
import EdgeOffloading.Bridge.Connection
import EdgeOffloading.Bridge.Reliable
import EdgeOffloading.Bridge.ControlPlane
import EdgeOffloading.Bridge.Step
import EdgeOffloading.Bridge.Relay
import EdgeOffloading.Bridge.Invariants
import EdgeOffloading.Bridge.RouteCreation
import EdgeOffloading.Bridge.Provenance
import EdgeOffloading.Bridge.Routes
import EdgeOffloading.Bridge.Addressing
import EdgeOffloading.Bridge.Endpoint
import EdgeOffloading.Bridge.Isolation
import EdgeOffloading.Bridge.Keepalive
import EdgeOffloading.Bridge.Copies
import EdgeOffloading.Bridge.Confirmation
import EdgeOffloading.Bridge.RouteRemoval
import EdgeOffloading.Bridge.Reentry
import EdgeOffloading.Bridge.Reconnect
import EdgeOffloading.Bridge.Departure
import EdgeOffloading.Bridge.Binding
import EdgeOffloading.Bridge.Survival
import EdgeOffloading.Manager.Decision
import EdgeOffloading.Manager.Exclusive
import EdgeOffloading.Manager.Concurrent
import EdgeOffloading.Manager.Config
import EdgeOffloading.Manager.DiscoveryClient
import EdgeOffloading.Manager.Text
import EdgeOffloading.Manager.QueryReply
import EdgeOffloading.Manager.Atomic
import EdgeOffloading.Gateway.Handlers
import EdgeOffloading.Gateway.Controller
import EdgeOffloading.Gateway.TaskDatabase
import EdgeOffloading.Gateway.Approval
import EdgeOffloading.Gateway.Sessions
import EdgeOffloading.Gateway.Restart
import EdgeOffloading.Gateway.Process
import EdgeOffloading.Gateway.Steps
import EdgeOffloading.Gateway.Confirmation
import EdgeOffloading.Gateway.Requests
import EdgeOffloading.Gateway.Reliable
import EdgeOffloading.Gateway.Header
import EdgeOffloading.Gateway.Receiver
import EdgeOffloading.Gateway.Publishing
import EdgeOffloading.Gateway.Sender
import EdgeOffloading.Gateway.SenderThread
import EdgeOffloading.Gateway.Survival
import EdgeOffloading.Discovery.Protocol
import EdgeOffloading.Discovery.Service
import EdgeOffloading.Discovery.Configuration
import EdgeOffloading.Discovery.Registry
import EdgeOffloading.Discovery.RoundRobin
import EdgeOffloading.Discovery.Naming
import EdgeOffloading.Discovery.Rejection
import EdgeOffloading.Discovery.Startup
import EdgeOffloading.Discovery.Walk
import EdgeOffloading.Discovery.Matchmaking
import EdgeOffloading.Discovery.Liveness
import EdgeOffloading.Discovery.Purge
import EdgeOffloading.Discovery.ComponentList
import EdgeOffloading.Discovery.Numerals
import EdgeOffloading.System.Identity
import EdgeOffloading.System.Retransmission
import EdgeOffloading.System.Operational
import EdgeOffloading.System.Configuration
import EdgeOffloading.System.Requester
import EdgeOffloading.System.Termination
import EdgeOffloading.System.RequestIds
import EdgeOffloading.System.HeaderCodec
import EdgeOffloading.System.ComponentQueries
import EdgeOffloading.System.Pairing
import EdgeOffloading.System.ComponentIds
import EdgeOffloading.System.RegistrationReply
import EdgeOffloading.System.AckNumbers
import EdgeOffloading.System.Survival
import EdgeOffloading.System.DataPlane
import EdgeOffloading.System.Delivery
import EdgeOffloading.System.Confinement
import EdgeOffloading.System.EndToEnd
import EdgeOffloading.System.Progress
import EdgeOffloading.Discovery.Segment
import EdgeOffloading.Discovery.Replies
import EdgeOffloading.Bridge.Registration
import EdgeOffloading.Gateway.DiscoveryClient
import EdgeOffloading.System.Enrolment
import EdgeOffloading.System.Enrolled
import EdgeOffloading.Bridge.Outgoing
import EdgeOffloading.System.Grants
