import VpnHub.Program.Daemon.Host

/-! `network/routing/windows.rs`: the IPv4 routes of a tunnel as they are read from text, and
`WindowsRouteManager`, which adds them to the table of the host and takes them back. -/

namespace VpnHub.Daemon

/-- Address and prefix length of an address with a netmask after blanks, of an address with a
prefix length after a slash, or of an address alone. -/
def parseCidrOrMask (routeStr : Text) : Option (Ipv4Addr × UInt8) :=
  let trimmed := Text.trim routeStr
  let masked :=
    match Text.splitWhitespace trimmed with
    | [ip, mask] =>
      match IpAddr.parseIpv4 ip, IpAddr.parseIpv4 mask with
      | some ip, some mask => some (ip, UInt8.ofNat mask.countOnes)
      | _, _ => none
    | _ => none
  let slashed :=
    match Text.splitOnce trimmed '/' with
    | some (ipPart, prefixPart) =>
      match IpAddr.parseIpv4 ipPart, Text.parseU8 prefixPart with
      | some ip, some len => some (ip, len)
      | _, _ => none
    | none => none
  (masked.or slashed).or ((IpAddr.parseIpv4 trimmed).map fun ip => (ip, 32))

/-- The routes that `setup_vpn_routing` adds to the interface. -/
def routesToAdd (intranetOnly : Bool) (pushedRoutes customSubnets : List Text) :
    List (Ipv4Addr × UInt8) :=
  let specific := (pushedRoutes ++ customSubnets).filterMap parseCidrOrMask
  if intranetOnly then specific else (⟨0, 0, 0, 0⟩, 1) :: (⟨128, 0, 0, 0⟩, 1) :: specific

/-! ## The routing table -/

/-- `NET_LUID_LH`. -/
abbrev Luid := UInt64

/-- `MIB_IPFORWARD_ROW2` by what tells rows without a next hop apart. -/
structure ForwardRow where
  interfaceLuid : Luid
  destination : Ipv4Addr
  prefixLength : UInt8
  deriving DecidableEq

/-- The functions of the IP helper over a state of the host, each with its error code. -/
structure IpHelper (T : Type) where
  convertInterfaceAliasToLuid : Text → T → (UInt32 × Luid) × T
  createIpForwardEntry2 : ForwardRow → T → UInt32 × T
  deleteIpForwardEntry2 : ForwardRow → T → UInt32 × T

structure WindowsRouteManager where
  addedRoutes : List (Ipv4Addr × UInt8) := []
  luid : Option Luid := none
  deriving DecidableEq

/-- The arguments that `setup_vpn_routing` uses. -/
structure WindowsRoutingArgs where
  tunnelIface : Text
  intranetOnly : Bool
  pushedRoutes : List Text
  customSubnets : List Text
  deriving DecidableEq

namespace WindowsRouteManager

variable {T : Type} (api : IpHelper T)

/-- The interface is looked up once more after a failure. -/
def luidOf (tunnelIface : Text) (table : T) : Except Text Luid × T :=
  let ((res, luid), table) := api.convertInterfaceAliasToLuid tunnelIface table
  if res = 0 then (.ok luid, table)
  else
    let ((res, luid), table) := api.convertInterfaceAliasToLuid tunnelIface table
    if res = 0 then (.ok luid, table)
    else (.error ("ConvertInterfaceAliasToLuid failed for '".toList ++ tunnelIface ++
      "': win error ".toList ++ Text.ofNat res.toNat), table)

def rowOf (luid : Luid) (route : Ipv4Addr × UInt8) : ForwardRow := ⟨luid, route.1, route.2⟩

/-- A route that exists already counts as added (5010). -/
def addRouteLuid (luid : Luid) (route : Ipv4Addr × UInt8) (table : T) : Bool × T :=
  let (res, table) := api.createIpForwardEntry2 (rowOf luid route) table
  (res = 0 || res = 5010, table)

def deleteRouteLuid (luid : Luid) (route : Ipv4Addr × UInt8) (table : T) : T :=
  (api.deleteIpForwardEntry2 (rowOf luid route) table).2

/-- The loop over the routes. -/
def addRoutes (luid : Luid) : List (Ipv4Addr × UInt8) → List (Ipv4Addr × UInt8) × T →
    List (Ipv4Addr × UInt8) × T
  | [], s => s
  | route :: routes, (addedRoutes, table) =>
    let (added, table) := addRouteLuid api luid route table
    addRoutes luid routes (if added then addedRoutes ++ [route] else addedRoutes, table)

def deleteRoutes (luid : Luid) (routes : List (Ipv4Addr × UInt8)) (table : T) : T :=
  routes.foldl (fun table route => deleteRouteLuid api luid route table) table

/-- The routes of an earlier call are forgotten. -/
def setupVpnRouting (args : WindowsRoutingArgs) (router : WindowsRouteManager) (table : T) :
    Except Text Unit × WindowsRouteManager × T :=
  match luidOf api args.tunnelIface table with
  | (.error e, table) => (.error e, router, table)
  | (.ok luid, table) =>
    let routes := routesToAdd args.intranetOnly args.pushedRoutes args.customSubnets
    let (addedRoutes, table) := addRoutes api luid routes ([], table)
    (.ok (), { addedRoutes, luid := some luid }, table)

/-- A route that cannot be removed is forgotten too. -/
def teardownVpnRouting (router : WindowsRouteManager) (table : T) : WindowsRouteManager × T :=
  match router.luid with
  | some luid => ({}, deleteRoutes api luid router.addedRoutes table)
  | none => (router, table)

end WindowsRouteManager

end VpnHub.Daemon
