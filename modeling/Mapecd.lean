import Mapecd.Semantics.Checked
import Mapecd.Common.PsidConfig
import Mapecd.Ebpf.Translation
import Mapecd.Map.PortSet
import Mapecd.Ebpf.PortSetAgreement
import Mapecd.Ebpf.Packet
import Mapecd.Ebpf.Rewriting
import Mapecd.Ebpf.ByteOrder
import Mapecd.Semantics.Requests
import Mapecd.Error
import Mapecd.Kernel.State
import Mapecd.Daemon.Lifecycle
import Mapecd.Daemon.Runner
import Mapecd.Daemon.Frame
import Mapecd.Daemon.PortConformity
import Mapecd.Daemon.AllOrNothing
import Mapecd.Daemon.NoFaults
import Mapecd.Ebpf.Loading
import Mapecd.Daemon.Rollback
import Mapecd.Daemon.Applied
import Mapecd.Daemon.Running
import Mapecd.Daemon.UpdateRollback
import Mapecd.Kernel.View
import Mapecd.Daemon.PathIndependence
import Mapecd.Map.Network
import Mapecd.Semantics.Bytes
import Mapecd.Dhcpv6.Parser
import Mapecd.Dhcpv6.RuleEncoding
import Mapecd.Map.CeAddress
import Mapecd.Dhcpv6.ReceivedRules
import Mapecd.Map.AddressMapping
import Mapecd.Map.V6plusRules
import Mapecd.Daemon.StaticRules
import Mapecd.Daemon.PidGuard
import Mapecd.Dhcpv6.Message
import Mapecd.Dhcpv6.Reply
import Mapecd.Dhcpv6.Client
import Mapecd.Dhcpv6.ServerIdentity
import Mapecd.Dhcpv6.Wire
import Mapecd.Dhcpv6.Deadlines
import Mapecd.Semantics.History
import Mapecd.Daemon.Stays
import Mapecd.Daemon.Startup
import Mapecd.Daemon.Leak
import Mapecd.Dhcpv6.Capture
import Mapecd.Dhcpv6.Outputs
import Mapecd.Daemon.RuleRetention
import Mapecd.Dhcpv6.NamedPrefix
import Mapecd.Dhcpv6.Retransmission
import Mapecd.Dhcpv6.ContainerEncoding
import Mapecd.Map.HasParams
import Mapecd.Dhcpv6.ProvisionedPsid
import Mapecd.Semantics.Selection
import Mapecd.Daemon.RuleSelection
import Mapecd.Ebpf.StagingConfinement
import Mapecd.Ebpf.PortMap
import Mapecd.Ebpf.HeaderOnly
import Mapecd.Ebpf.Checksum
import Mapecd.Semantics.OnesComplement
import Mapecd.Daemon.InstalledPsid
import Mapecd.Map.PortRanges
import Mapecd.Dhcpv6.OptionScan
import Mapecd.Semantics.Intervals
import Mapecd.Daemon.DefaultRoute
import Mapecd.Ebpf.Session
import Mapecd.Daemon.SharedPorts
import Mapecd.Daemon.Shutdown
import Mapecd.Semantics.Keeping
import Mapecd.Daemon.Foreign
import Mapecd.Semantics.Observation
import Mapecd.Dhcpv6.Conversation
import Mapecd.Semantics.PacketFilter
import Mapecd.Dhcpv6.CaptureFilter
import Mapecd.Semantics.PrefixFree
import Mapecd.Daemon.StaticPorts
import Mapecd.Dhcpv6.LeaseWatcher
import Mapecd.Dhcpv6.LeaseFollowing
import Mapecd.Daemon.LeasePrefix
import Mapecd.Semantics.Files
import Mapecd.Daemon.Persistence
import Mapecd.Semantics.Recording
import Mapecd.Daemon.Confined
import Mapecd.Map.CeIdentity
import Mapecd.Daemon.Continuity
