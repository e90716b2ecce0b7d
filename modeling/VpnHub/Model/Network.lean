import VpnHub.Library.Transition
import VpnHub.Program.Daemon.Network

/-! The network manager and its host as a transition system over the manager's calls. -/

namespace VpnHub.Daemon

open VpnHub.Filter

structure NetworkState where
  manager : NetworkManager
  host : Host

/-- A call, with what the world answers while it runs. -/
inductive NetworkCall where
  | setup (env : Env) (args : SetupArgs)
  | setKillSwitch (env : Env) (enabled : Bool) (mode : Option KillSwitchMode)
  | teardown (env : Env)

namespace NetworkState

def call (s : NetworkState) (method : NetworkManager → Shell → NetworkManager × Shell) :
    NetworkState :=
  let (manager, sh) := method s.manager { host := s.host }
  ⟨manager, sh.host⟩

def step (s : NetworkState) : NetworkCall → Option NetworkState
  | .setup env args => some (s.call (NetworkManager.setupVpnNetwork env args))
  | .setKillSwitch env enabled mode =>
    some (s.call (NetworkManager.setKillSwitch env enabled mode))
  | .teardown env => some (s.call (NetworkManager.teardownVpnNetwork env))

/-- A new manager on a host that has no kill switch table. -/
def Fresh (s : NetworkState) : Prop := s.manager = {} ∧ s.host.killswitch = none

end NetworkState

def NetworkCall.env : NetworkCall → Env
  | setup env _ => env
  | setKillSwitch env _ _ => env
  | teardown env => env

/-! ## The kill switch on its own -/

structure FirewallState where
  firewall : LinuxFirewallManager := {}
  host : Host := {}

inductive FirewallCall where
  | enable (env : Env) (args : KillSwitchArgs)
  | disable (env : Env)

namespace FirewallState

def call (s : FirewallState)
    (method : LinuxFirewallManager → Shell → LinuxFirewallManager × Shell) : FirewallState :=
  let (firewall, sh) := method s.firewall { host := s.host }
  ⟨firewall, sh.host⟩

def step (s : FirewallState) : FirewallCall → Option FirewallState
  | .enable env args => some (s.call fun _ => LinuxFirewallManager.enableKillSwitch env args)
  | .disable env => some (s.call (LinuxFirewallManager.disableKillSwitch env))

/-- A new manager on a host that has no kill switch table. -/
def Fresh (s : FirewallState) : Prop := s.firewall = {} ∧ s.host.killswitch = none

end FirewallState

/-! ## What the shields promise -/

/-- The verdict of the kill switch table; a host without one lets every packet pass. -/
def Host.killSwitchVerdict (host : Host) (p : Packet) : Verdict :=
  (host.killswitch.map fun chain => chain.verdict NftRule.meaning p).getD .accept

/-- The verdict that the arguments of a call give on their own. -/
def FirewallCall.verdict : FirewallCall → Packet → Verdict
  | enable _ args, p => args.ruleset.verdict NftRule.meaning p
  | disable _, _ => .accept

/-- The packets that a full-tunnel kill switch lets pass. -/
def KillSwitchArgs.Exempt (args : KillSwitchArgs) (p : Packet) : Prop :=
  p.oif = loopback ∨ p.oif = args.tunnelIface ∨
  (∃ ip ∈ args.serverEndpointIps, IpAddr.parse ip = some p.dst ∧
    p.transport.dport? = some args.serverPort) ∨
  p.transport = .udp 67 ∨ p.transport = .udp 68 ∨
  p.dst = .v4 ⟨255, 255, 255, 255⟩ ∨
  (∃ lan ∈ args.localLanSubnet, matchesAddr lan p.dst = true ∨
    matchesAddr "224.0.0.0/4".toList p.dst = true)

instance (args : KillSwitchArgs) (p : Packet) : Decidable (args.Exempt p) :=
  inferInstanceAs (Decidable (_ ∨ _))

namespace NetworkState

/-- The shields that the manager reports are in force on the host. -/
structure Shielded (s : NetworkState) : Prop where
  killSwitch : s.manager.isKillSwitchActive = true →
    ∀ ctx ∈ s.manager.activeTunnel, ctx.intranetOnly = false →
    ∀ p : Packet, p.ctState = .new → ¬ (ctx.killSwitch s.manager.router).Exempt p →
      s.host.dropped p = true
  ipv6 : s.manager.isIpv6Protected = true → s.host.shieldRoutes ≠ []

/-- The kill switch is active for the tunnels whose policy asks for one. -/
def FollowsPolicy (s : NetworkState) : Prop :=
  s.manager.isKillSwitchActive = true ↔
    ∃ ctx, s.manager.activeTunnel = some ctx ∧ ctx.securityPolicy.killSwitchMode ≠ .off

end NetworkState

end VpnHub.Daemon
