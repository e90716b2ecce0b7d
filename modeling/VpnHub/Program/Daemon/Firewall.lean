import VpnHub.Program.Daemon.Host

/-! The kill switch (`network/firewall/linux_nft.rs`) and the IPv6 leak shield
(`network/ipv6.rs`) on Linux. -/

namespace VpnHub.Daemon

open VpnHub.Filter

/-! ## The kill switch -/

structure LinuxFirewallManager where
  isActive : Bool := false
  deriving DecidableEq, Repr

/-- The arguments of `enable_kill_switch`. -/
structure KillSwitchArgs where
  serverEndpointIps : List Text
  serverPort : UInt16
  tunnelIface : Text
  intranetOnly : Bool
  vpnSubnets : List Text
  webrtcProtection : Bool
  localLanSubnet : Option Text
  deriving DecidableEq, Repr

def loopback : Text := "lo".toList

/-- A subnet in CIDR notation; a dotted netmask is counted. -/
def cidrText (s : Text) : Text :=
  match Text.splitOnce s '/' with
  | some (ip, mask) =>
    if mask = "255.255.255.255".toList then ip ++ "/32".toList
    else
      match IpAddr.parseIpv4 mask with
      | some m => ip ++ '/' :: Text.ofNat m.countOnes
      | none => s
  | none => s

def stunPorts : List UInt16 :=
  [3478, 5349, 19302, 19303, 19304, 19305, 19306, 19307, 19308, 19309]

namespace KillSwitchArgs

def targetIps (args : KillSwitchArgs) : List Text :=
  if args.serverEndpointIps = [] then ["0.0.0.0".toList] else args.serverEndpointIps

/-- The rules that both modes begin with: loopback and the tunnel itself. -/
def localRules (args : KillSwitchArgs) : List NftRule :=
  [⟨[.oif loopback], .accept⟩, ⟨[.oif args.tunnelIface], .accept⟩]

/-- STUN packets outside the tunnel. -/
def webrtcRules (args : KillSwitchArgs) : List NftRule :=
  if args.webrtcProtection then
    [⟨[.udpDport stunPorts, .oifNe args.tunnelIface, .oifNe loopback], .drop⟩]
  else []

def establishedRule : NftRule := ⟨[.ctEstablishedRelated], .accept⟩

def intranetRules (args : KillSwitchArgs) : List NftRule :=
  let subnets := (args.vpnSubnets.map Text.trim).filter (· ≠ [])
  args.localRules ++
    (args.localLanSubnet.toList.map fun lan => ⟨[.ipDaddr lan], .accept⟩) ++
    args.webrtcRules ++
    (subnets.map fun s =>
      ⟨[.ipDaddr (cidrText s), .oifnameNotIn [args.tunnelIface, loopback]], .drop⟩) ++
    [establishedRule]

def fullTunnelRules (args : KillSwitchArgs) : List NftRule :=
  args.localRules ++
    (args.targetIps.map fun tip => ⟨[.ipDaddr tip, .thDport args.serverPort], .accept⟩) ++
    [⟨[.udpDport [67, 68]], .accept⟩, ⟨[.ipDaddr "255.255.255.255".toList], .accept⟩] ++
    (args.localLanSubnet.toList.flatMap fun lan =>
      [⟨[.ipDaddr lan], .accept⟩, ⟨[.ipDaddr "224.0.0.0/4".toList], .accept⟩]) ++
    args.webrtcRules ++
    [establishedRule]

/-- The ruleset that is written to `nft`. -/
def ruleset (args : KillSwitchArgs) : Chain NftRule :=
  if args.intranetOnly then ⟨.accept, args.intranetRules⟩ else ⟨.drop, args.fullTunnelRules⟩

/-- `apply_iptables_fallback`: the chain is filled, and nothing jumps to it. -/
def iptablesFallback (args : KillSwitchArgs) : List Command :=
  let primaryIp := args.targetIps.headD "0.0.0.0".toList
  [.iptablesNew,
    .iptablesAppend { out := some loopback },
    .iptablesAppend { out := some args.tunnelIface },
    .iptablesAppend { destination := some primaryIp, udpDport := some args.serverPort }] ++
  (args.localLanSubnet.toList.map fun lan => .iptablesAppend { destination := some lan }) ++
  [.iptablesAppend { establishedRelated := true }]

end KillSwitchArgs

namespace LinuxFirewallManager

/-- Where `nft` does not take the ruleset, the fallback runs; both ways end active. -/
def enableKillSwitch (env : Env) (args : KillSwitchArgs) (sh : Shell) :
    LinuxFirewallManager × Shell :=
  match sh.run env (.nftLoad args.ruleset) with
  | (.success, sh) => (⟨true⟩, sh)
  | (_, sh) => (⟨true⟩, sh.execAll env args.iptablesFallback)

def disableKillSwitch (env : Env) (firewall : LinuxFirewallManager) (sh : Shell) :
    LinuxFirewallManager × Shell :=
  if !firewall.isActive then (firewall, sh)
  else (⟨false⟩, sh.execAll env [.nftDeleteTable, .iptablesFlush, .iptablesDelete])

end LinuxFirewallManager

/-! ## The IPv6 leak shield -/

structure PlatformIpv6Manager where
  isActive : Bool := false
  deriving DecidableEq, Repr

namespace PlatformIpv6Manager

/-- The second route is tried where the first command ran and failed. -/
def enableIpv6Protection (env : Env) (ipv6 : PlatformIpv6Manager) (sh : Shell) :
    PlatformIpv6Manager × Shell :=
  if ipv6.isActive then (ipv6, sh)
  else
    match sh.run env (.shieldAdd .blackhole) with
    | (.success, sh) => (⟨true⟩, sh)
    | (.failure, sh) => (⟨true⟩, sh.exec env (.shieldAdd .unreachable))
    | (.notRun, sh) => (⟨true⟩, sh)

def disableIpv6Protection (env : Env) (ipv6 : PlatformIpv6Manager) (sh : Shell) :
    PlatformIpv6Manager × Shell :=
  if !ipv6.isActive then (ipv6, sh)
  else (⟨false⟩, sh.execAll env [.shieldDel .blackhole, .shieldDel .unreachable])

end PlatformIpv6Manager

end VpnHub.Daemon
