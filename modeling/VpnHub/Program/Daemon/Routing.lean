import VpnHub.Program.Daemon.Firewall

/-! The IPv4 routes of a tunnel (`network/routing/linux.rs`). -/

namespace VpnHub.Daemon

structure LinuxRouteManager where
  originalGateway : Option Text := none
  physicalInterface : Option Text := none
  localLanSubnet : Option Text := none
  injectedRoutes : List Text := []
  deriving DecidableEq, Repr

/-- The arguments of `setup_vpn_routing`. -/
structure RoutingArgs where
  serverIp : Text
  tunnelIface : Text
  assignedIp : Option Text
  intranetOnly : Bool
  pushedRoutes : List Text
  customSubnets : List Text
  lanBypass : Bool
  deriving DecidableEq, Repr

/-- The word after the first occurrence of `key`. -/
def wordAfter (key : Text) : List Text → Option Text
  | [] => none
  | word :: rest => if word = key then rest.head? else wordAfter key rest

/-- The addresses of a server, as text: the address itself, what its name resolves to, or the
name where nothing else is known. -/
def resolveServerIps (env : Env) (serverIp : Text) (sh : Shell) : List Text × Shell :=
  let (resolved, sh) :=
    match IpAddr.parse serverIp with
    | some ip => ([ip.toText], sh)
    | none =>
      let (addrs, sh) := sh.lookup env serverIp
      ((addrs.getD []).map IpAddr.toText, sh)
  (if resolved = [] then [serverIp] else resolved, sh)

/-- Any route text in CIDR notation; a netmask may also follow the address after blanks. -/
def normalizeRoute (r : Text) : Text :=
  let s := Text.trim r
  match Text.splitOnce s '/' with
  | some _ => cidrText s
  | none =>
    if ' ' ∈ s then
      match Text.splitWhitespace s with
      | first :: second :: _ =>
        match IpAddr.parseIpv4 second with
        | some m => first ++ '/' :: Text.ofNat m.countOnes
        | none => first
      | _ => s
    else s

namespace LinuxRouteManager

def discoverOriginalGateway (env : Env) (router : LinuxRouteManager) (sh : Shell) :
    LinuxRouteManager × Shell :=
  match sh.query env .routeShowDefault with
  | (none, sh) => (router, sh)
  | (some text, sh) =>
    let parts := Text.splitWhitespace text
    ({ router with
        originalGateway := (wordAfter "via".toList parts).or router.originalGateway
        physicalInterface := (wordAfter "dev".toList parts).or router.physicalInterface }, sh)

/-- The subnet in the first line of the kernel's own routes that names one. -/
def kernelSubnet (text : Text) : Option Text :=
  (Text.lines text).findSome? fun line =>
    (Text.splitWhitespace line).head?.filter fun subnet =>
      '/' ∈ subnet && !Text.startsWith subnet "169.254.".toList

/-- The network of an interface address such as `192.168.1.50/24`; `ip` prints no length above
32. -/
def networkOf (cidr : Text) : Option Text := do
  let (ipText, maskText) ← Text.splitOnce cidr '/'
  let ip ← IpAddr.parseIpv4 ipText
  let mask ← Text.parseU8 maskText
  let size := 2 ^ (32 - mask.toNat)
  return (Ipv4Addr.ofNat (ip.toNat / size * size)).toText ++ '/' :: Text.ofNat mask.toNat

def addressSubnet (text : Text) : Option Text :=
  (Text.lines text).findSome? fun line =>
    (wordAfter "inet".toList (Text.splitWhitespace line)).bind networkOf

def detectLocalLanSubnet (env : Env) (router : LinuxRouteManager) (sh : Shell) :
    LinuxRouteManager × Shell :=
  match router.physicalInterface with
  | none => (router, sh)
  | some dev =>
    let (kernel, sh) := sh.query env (.routeShowKernel dev)
    match kernel.bind kernelSubnet with
    | some subnet => ({ router with localLanSubnet := some subnet }, sh)
    | none =>
      let (addresses, sh) := sh.query env (.addrShow dev)
      match addresses.bind addressSubnet with
      | some subnet => ({ router with localLanSubnet := some subnet }, sh)
      | none => (router, sh)

/-- Sets a route and notes it for the teardown; a route that is only noted when the command
succeeds is `checked`. -/
def inject (env : Env) (checked : Bool) (command : Command) (note : Text) :
    LinuxRouteManager × Shell → LinuxRouteManager × Shell
  | (router, sh) =>
    let (outcome, sh) := sh.run env command
    if checked && outcome != .success then (router, sh)
    else ({ router with injectedRoutes := router.injectedRoutes ++ [note] }, sh)

/-- The host route to an address of the server, past the tunnel. -/
def injectBypass (env : Env) (gw : Text) (st : LinuxRouteManager × Shell) (targetIp : Text) :
    LinuxRouteManager × Shell :=
  let dev := st.1.physicalInterface
  inject env true (.routeReplace targetIp (some gw) dev (some 1))
    (targetIp ++ " via ".toList ++ gw ++
      ((dev.map fun d => " dev ".toList ++ d).getD [])) st

/-- A route into the tunnel. -/
def injectTunnel (env : Env) (checked : Bool) (iface : Text) (st : LinuxRouteManager × Shell)
    (route : Text) : LinuxRouteManager × Shell :=
  inject env checked (.routeReplace route none (some iface) none)
    (route ++ " dev ".toList ++ iface) st

/-- Host routes to all addresses of the server, where the gateway is known. -/
def bypassServer (env : Env) (serverIp : Text) (st : LinuxRouteManager × Shell) :
    LinuxRouteManager × Shell :=
  match st.1.originalGateway with
  | none => st
  | some gw =>
    let (targets, sh) := resolveServerIps env serverIp st.2
    targets.foldl (injectBypass env gw) (st.1, sh)

def injectRoutes (env : Env) (args : RoutingArgs) (st : LinuxRouteManager × Shell) :
    LinuxRouteManager × Shell :=
  let routes := (args.pushedRoutes ++ args.customSubnets).map normalizeRoute
  if args.intranetOnly then
    routes.foldl (injectTunnel env true args.tunnelIface)
      (args.assignedIp.toList.foldl (injectTunnel env false args.tunnelIface) st)
  else
    ("0.0.0.0/1".toList :: "128.0.0.0/1".toList :: routes).foldl
      (injectTunnel env false args.tunnelIface) st

def setupVpnRouting (env : Env) (args : RoutingArgs) (router : LinuxRouteManager) (sh : Shell) :
    LinuxRouteManager × Shell :=
  let st := bypassServer env args.serverIp (router.discoverOriginalGateway env sh)
  let st := if args.lanBypass then st.1.detectLocalLanSubnet env st.2 else st
  injectRoutes env args st

/-- The deletion of a noted route, which is named by the first three words of the note. -/
def deletion (entry : Text) : Option Command :=
  match Text.splitWhitespace entry with
  | dest :: key :: value :: _ =>
    if key = "via".toList then some (.routeDel dest (some value) none none)
    else if key = "dev".toList then some (.routeDel dest none (some value) none)
    else if key = "metric".toList then
      (Text.parseU32 value).map fun metric => .routeDel dest none none (some metric.toNat)
    else none
  | _ => none

/-- Deletes a noted route; words that `ip` does not take delete nothing. -/
def forget (env : Env) (sh : Shell) (entry : Text) : Shell :=
  match deletion entry with
  | some command => sh.exec env command
  | none => sh

def teardownVpnRouting (env : Env) (serverIp tunnelIface : Text) (router : LinuxRouteManager)
    (sh : Shell) : LinuxRouteManager × Shell :=
  let sh := router.injectedRoutes.foldl (forget env) sh
  let sh := sh.exec env (.routeDel "0.0.0.0/1".toList none (some tunnelIface) none)
  let sh := sh.exec env (.routeDel "128.0.0.0/1".toList none (some tunnelIface) none)
  let sh :=
    match router.originalGateway with
    | some gw => sh.exec env (.routeDel serverIp (some gw) none none)
    | none => sh
  ({}, sh)

end LinuxRouteManager

end VpnHub.Daemon
