import Stheno.Superpeer.Reach
import Stheno.Superpeer.Refusal
import Stheno.Superpeer.Convergence
import Stheno.Net.Framing
import Stheno.Net.BufferGrowth
import Stheno.Net.Frames
import Stheno.Net.Resync
import Stheno.FT.Failover
import Stheno.FT.Group
import Stheno.FT.Roles
import Stheno.Net.Matching
import Stheno.Peer.Fields
import Stheno.Superpeer.Grafting
import Stheno.Net.MessageSize
import Stheno.Superpeer.Packets
import Stheno.Superpeer.Succession
import Stheno.Superpeer.Uplink
import Stheno.Superpeer.Assembly
import Stheno.Peer.Services
import Stheno.Peer.LocalService
import Stheno.Superpeer.UpdateInfo
import Stheno.Flood
import Stheno.Copies
import Stheno.Superpeer.ServiceNet
import Stheno.Backlog
import Stheno.Superpeer.Catalogue
import Stheno.Superpeer.Listings
import Stheno.Superpeer.Admission
import Stheno.Superpeer.Removal
import Stheno.Superpeer.UpdateCases
import Stheno.Superpeer.Requests
import Stheno.Discovery.Classes
import Stheno.Discovery.Relay
import Stheno.Discovery.Provider
import Stheno.Discovery.Routing
import Stheno.Discovery.Distance
import Stheno.FT.Membership
import Stheno.FT.Atomicity
import Stheno.Selection
import Stheno.Superpeer.Sites
import Stheno.FT.Placement
import Stheno.FT.Channels
import Stheno.FT.Links
import Stheno.FT.Mesh
import Stheno.FT.FailoverReach
import Stheno.FT.Replication
import Stheno.FT.Sends
import Stheno.Net.InOrder
import Stheno.FT.Delivery
import Stheno.FT.UpdateOrder
import Stheno.FT.GroupNet
import Stheno.FT.Renaming
import Stheno.FT.Takeover
import Stheno.FT.Listed
import Stheno.Superpeer.Pruning
import Stheno.Superpeer.Deallocation
import Stheno.Superpeer.LeastLoad
import Stheno.Superpeer.Growth
import Stheno.Superpeer.Vacancies
import Stheno.Superpeer.LevelSearch
import Stheno.Superpeer.TreeDecoding
import Stheno.Superpeer.CellPacketFactory
import Stheno.Events.Completion
import Stheno.Peer.Instances
import Stheno.Peer.Live
import Stheno.Peer.Creation
import Stheno.Peer.Announcements
import Stheno.Net.HeaderShape
import Stheno.Superpeer.AddressAgreement
import Stheno.Events.Counting
import Stheno.Net.ChannelMembership
import Stheno.Superpeer.UpdateFactory
import Stheno.FT.InitReplica
import Stheno.Discovery.Merging
import Stheno.Superpeer.SAPLookup
import Stheno.Discovery.Registry
import Stheno.Wire.Hexadecimal
import Stheno.Peer.UUIDText
import Stheno.Wire.Decimal
import Stheno.QoS.CPUCgroup
import Stheno.Lineup
import Stheno.Net.Sending
import Stheno.Net.Receive
import Stheno.Net.Outgoing
import Stheno.Streaming.Seam
import Stheno.Superpeer.DirectoryRuns
import Stheno.Messages.Delivery
import Stheno.Actuation.Broadcast
import Stheno.RPC.Replicas
