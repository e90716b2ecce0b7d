import VpnHub.Library.Exchange
import VpnHub.Library.Filter
import VpnHub.Library.Framing
import VpnHub.Library.IpAddr
import VpnHub.Library.Loop
import VpnHub.Library.OnesComplement
import VpnHub.Library.Prog
import VpnHub.Library.Redaction
import VpnHub.Library.Reordering
import VpnHub.Library.Substring
import VpnHub.Library.Text
import VpnHub.Library.Trim
import VpnHub.Model.Connection
import VpnHub.Model.Daemon
import VpnHub.Model.Ipc
import VpnHub.Model.Loopback
import VpnHub.Model.Network
import VpnHub.Model.Quoting
import VpnHub.Model.Rollback
import VpnHub.Model.SendQueueRuns
import VpnHub.Model.SlotHistory
import VpnHub.Model.StateLog
import VpnHub.Model.StorageRuns
import VpnHub.Model.TcpChecksum
import VpnHub.Model.TlsInput
import VpnHub.Model.TlsOutput
import VpnHub.Model.Tunnel
import VpnHub.Model.Writers
import VpnHub.Program.App.Client
import VpnHub.Program.Config
import VpnHub.Program.Daemon.Driver
import VpnHub.Program.Daemon.Firewall
import VpnHub.Program.Daemon.Network
import VpnHub.Program.Daemon.Orchestrator
import VpnHub.Program.Daemon.Routing
import VpnHub.Program.Daemon.State
import VpnHub.Program.Engine
import VpnHub.Program.KeySlots
import VpnHub.Program.Parser
import VpnHub.Program.Push
import VpnHub.Program.Session
import VpnHub.Program.StaticKey
import VpnHub.Verification.Announcements
import VpnHub.Verification.AntiReplay.Refinement
import VpnHub.Verification.App.Credentials
import VpnHub.Verification.App.LiveView
import VpnHub.Verification.App.Pairing
import VpnHub.Verification.App.ProfilePolicy
import VpnHub.Verification.App.Requests
import VpnHub.Verification.App.Storage
import VpnHub.Verification.App.StorageOverlaps
import VpnHub.Verification.App.Totp
import VpnHub.Verification.Challenges
import VpnHub.Verification.Codec
import VpnHub.Verification.Daemon.Commands
import VpnHub.Verification.Daemon.Counters
import VpnHub.Verification.Daemon.DnsRollback
import VpnHub.Verification.Daemon.Endpoint
import VpnHub.Verification.Daemon.Failover
import VpnHub.Verification.Daemon.IpcCodec
import VpnHub.Verification.Daemon.KillSwitch
import VpnHub.Verification.Daemon.Ownership
import VpnHub.Verification.Daemon.Provisioning
import VpnHub.Verification.Daemon.Reporting
import VpnHub.Verification.Daemon.Rollback
import VpnHub.Verification.Daemon.Routes
import VpnHub.Verification.Daemon.Sanitizing
import VpnHub.Verification.Daemon.Shields
import VpnHub.Verification.Daemon.StateLog
import VpnHub.Verification.Daemon.Tasks
import VpnHub.Verification.Daemon.Telemetry
import VpnHub.Verification.Daemon.WindowsRoutes
import VpnHub.Verification.Daemon.WireGuard
import VpnHub.Verification.DataHeader
import VpnHub.Verification.Engine.Acknowledgements
import VpnHub.Verification.Engine.Binding
import VpnHub.Verification.Engine.Certificates
import VpnHub.Verification.Engine.Closing
import VpnHub.Verification.Engine.Deadlines
import VpnHub.Verification.Engine.Emission
import VpnHub.Verification.Engine.EndToEnd
import VpnHub.Verification.Engine.Feeding
import VpnHub.Verification.Engine.Footprint
import VpnHub.Verification.Engine.Inactivity
import VpnHub.Verification.Engine.Keyed
import VpnHub.Verification.Engine.Moves
import VpnHub.Verification.Engine.Negotiation
import VpnHub.Verification.Engine.Nonces
import VpnHub.Verification.Engine.Replay
import VpnHub.Verification.Engine.Steps
import VpnHub.Verification.Engine.TlsAuth
import VpnHub.Verification.Engine.TlsOutput
import VpnHub.Verification.Ffi
import VpnHub.Verification.Kdf
import VpnHub.Verification.KeyMethod
import VpnHub.Verification.KeySlots
import VpnHub.Verification.MssFix.Checksum
import VpnHub.Verification.Parser.Arguments
import VpnHub.Verification.Parser.Blocks
import VpnHub.Verification.Parser.Connections
import VpnHub.Verification.Parser.Lines
import VpnHub.Verification.Parser.Termination
import VpnHub.Verification.PqKem
import VpnHub.Verification.Push.Escaping
import VpnHub.Verification.Push.Fragments
import VpnHub.Verification.Push.Grouping
import VpnHub.Verification.Push.History
import VpnHub.Verification.Push.Merging
import VpnHub.Verification.Push.Messages
import VpnHub.Verification.Push.Options
import VpnHub.Verification.Push.Reordering
import VpnHub.Verification.Push.Splitter
import VpnHub.Verification.Push.StaticOptions
import VpnHub.Verification.Push.Terminator
import VpnHub.Verification.Reliable.Acknowledgement
import VpnHub.Verification.Reliable.Retransmission
import VpnHub.Verification.Session
import VpnHub.Verification.SessionStats
import VpnHub.Verification.StateEvents
import VpnHub.Verification.StaticKey
import VpnHub.Verification.StaticKeyText
import VpnHub.Verification.Transport.Base64
import VpnHub.Verification.Transport.Proxy
import VpnHub.Verification.Transport.Tcp
