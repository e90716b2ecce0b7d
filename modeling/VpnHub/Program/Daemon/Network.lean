import VpnHub.Program.Daemon.Routing
import VpnHub.Program.Daemon.State

/-! The network manager (`network/mod.rs`). The interface and DNS settings it also makes touch
neither the packet filter nor the routes, and their failures are not fatal; they are left
out. -/

namespace VpnHub.Daemon

structure TunnelContext where
  serverIp : Text
  serverEndpointIps : List Text
  serverPort : UInt16
  iface : Text
  intranetOnly : Bool
  vpnSubnets : List Text
  securityPolicy : SecurityPolicy
  deriving DecidableEq, Repr

structure NetworkManager where
  router : LinuxRouteManager := {}
  firewall : LinuxFirewallManager := {}
  ipv6 : PlatformIpv6Manager := {}
  activeTunnel : Option TunnelContext := none
  deriving DecidableEq, Repr

/-- The arguments of `setup_vpn_network`. -/
structure SetupArgs where
  serverIp : Text
  serverPort : UInt16
  iface : Text
  assignedIp : Option Text
  serverDns : List Text
  searchDomains : List Text
  pushedRoutes : List Text
  isRedirectGateway : Bool
  securityPolicy : SecurityPolicy
  routingPolicy : RoutingPolicy
  deriving DecidableEq, Repr

namespace SetupArgs

def isIntranetSplit (args : SetupArgs) : Bool :=
  !(args.isRedirectGateway && !args.routingPolicy.intranetOnly)

def vpnSubnets (args : SetupArgs) : List Text :=
  args.assignedIp.toList ++ args.pushedRoutes ++ args.routingPolicy.customSubnets

def routing (args : SetupArgs) : RoutingArgs where
  serverIp := args.serverIp
  tunnelIface := args.iface
  assignedIp := args.assignedIp
  intranetOnly := args.isIntranetSplit
  pushedRoutes := args.pushedRoutes
  customSubnets := args.routingPolicy.customSubnets
  lanBypass := args.securityPolicy.lanBypass

/-- The context of the tunnel, with the addresses its server was resolved to. -/
def context (args : SetupArgs) (resolvedServerIps : List Text) : TunnelContext where
  serverIp := args.serverIp
  serverEndpointIps := resolvedServerIps
  serverPort := args.serverPort
  iface := args.iface
  intranetOnly := args.isIntranetSplit
  vpnSubnets := args.vpnSubnets
  securityPolicy := args.securityPolicy

end SetupArgs

/-- The LAN that the rules for a tunnel let pass. -/
def TunnelContext.localLan (ctx : TunnelContext) (router : LinuxRouteManager) : Option Text :=
  if ctx.securityPolicy.lanBypass then router.localLanSubnet else none

/-- The arguments with which the kill switch of a tunnel is engaged. -/
def TunnelContext.killSwitch (ctx : TunnelContext) (router : LinuxRouteManager) :
    KillSwitchArgs where
  serverEndpointIps := ctx.serverEndpointIps
  serverPort := ctx.serverPort
  tunnelIface := ctx.iface
  intranetOnly := ctx.intranetOnly
  vpnSubnets := ctx.vpnSubnets
  webrtcProtection := ctx.securityPolicy.webrtcProtection
  localLanSubnet := ctx.localLan router

namespace NetworkManager

/-- On Linux neither the interface nor the routes can fail the call. -/
def setupVpnNetwork (env : Env) (args : SetupArgs) (net : NetworkManager) (sh : Shell) :
    NetworkManager × Shell :=
  let (resolved, sh) := resolveServerIps env args.serverIp sh
  let ctx := args.context resolved
  let (router, sh) := net.router.setupVpnRouting env args.routing sh
  let (ipv6, sh) :=
    if args.securityPolicy.ipv6LeakProtection then net.ipv6.enableIpv6Protection env sh
    else (net.ipv6, sh)
  let (firewall, sh) :=
    if args.securityPolicy.killSwitchMode ≠ .off then
      LinuxFirewallManager.enableKillSwitch env (ctx.killSwitch router) sh
    else (net.firewall, sh)
  ({ router, firewall, ipv6, activeTunnel := some ctx }, sh)

def teardownVpnNetwork (env : Env) (net : NetworkManager) (sh : Shell) :
    NetworkManager × Shell :=
  let (firewall, sh) := net.firewall.disableKillSwitch env sh
  let (ipv6, sh) := net.ipv6.disableIpv6Protection env sh
  match net.activeTunnel with
  | none => ({ net with firewall, ipv6 }, sh)
  | some ctx =>
    let (router, sh) := net.router.teardownVpnRouting env ctx.serverIp ctx.iface sh
    ({ router, firewall, ipv6, activeTunnel := none }, sh)

def setKillSwitch (env : Env) (enabled : Bool) (mode : Option KillSwitchMode)
    (net : NetworkManager) (sh : Shell) : NetworkManager × Shell :=
  match net.activeTunnel with
  | none => (net, sh)
  | some ctx =>
    let mode := if enabled then mode.getD .strict else .off
    let ctx := { ctx with securityPolicy := { ctx.securityPolicy with killSwitchMode := mode } }
    let (firewall, sh) :=
      if enabled then LinuxFirewallManager.enableKillSwitch env (ctx.killSwitch net.router) sh
      else net.firewall.disableKillSwitch env sh
    ({ net with firewall, activeTunnel := some ctx }, sh)

def isKillSwitchActive (net : NetworkManager) : Bool := net.firewall.isActive

def isIpv6Protected (net : NetworkManager) : Bool := net.ipv6.isActive

end NetworkManager

end VpnHub.Daemon
