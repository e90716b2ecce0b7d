import VpnHub.Program.Config

/-! The `PUSH_REPLY` parser and the merge with the profile, `ovpn-config/src/push.rs`. -/

namespace VpnHub.Config

structure PushOptions where
  topology : Option NetworkTopology := none
  ifconfigV4 : Option (Ipv4Addr × Ipv4Addr) := none
  ifconfigV6 : Option (Ipv6Addr × UInt8 × Option Ipv6Addr) := none
  routeGateway : Option Ipv4Addr := none
  routeMetric : Option UInt32 := none
  routesV4 : List Ipv4Route := []
  routesV6 : List Ipv6Route := []
  redirectGateway : Option RedirectGatewayFlags := none
  dnsServers : List IpAddr := []
  searchDomains : List Text := []
  winsServers : List Ipv4Addr := []
  ntpServers : List IpAddr := []
  blockOutsideDns : Bool := false
  pingInterval : Option Duration := none
  pingRestart : Option Duration := none
  peerId : Option UInt32 := none
  mssFix : Option UInt16 := none
  tunMtu : Option UInt32 := none
  explicitExitNotify : Option UInt8 := none
  authToken : Option Text := none
  cipher : Option Text := none
  customOptions : OrdMap Text Text := .empty

/-! ## Splitting -/

/-- The state of the character loop of `split_push_reply_items`; the current item is kept in
reverse. -/
structure SplitState where
  items : List Text := []
  current : Text := []
  inDoubleQuote : Bool := false
  inSingleQuote : Bool := false
  escaped : Bool := false

namespace SplitState

def flush (s : SplitState) : SplitState :=
  let trimmed := Text.trim s.current.reverse
  { s with items := if trimmed.isEmpty then s.items else s.items ++ [trimmed], current := [] }

/-- `escaped` holds when the last character was a backslash that takes this one along. -/
def step (s : SplitState) (c : Char) : SplitState :=
  if s.escaped then { s with current := c :: s.current, escaped := false }
  else if c = '\\' then { s with escaped := true }
  else if c = '"' ∧ !s.inSingleQuote then { s with inDoubleQuote := !s.inDoubleQuote }
  else if c = '\'' ∧ !s.inDoubleQuote then { s with inSingleQuote := !s.inSingleQuote }
  else if (c = ',' ∨ c = '\n' ∨ c = '\r') ∧ !s.inDoubleQuote ∧ !s.inSingleQuote then s.flush
  else { s with current := c :: s.current }

end SplitState

def splitPushReplyItems (payload : Text) : List Text :=
  let clean := Text.trim payload
  let clean := match Text.stripPrefix clean "PUSH_REPLY".toList with
    | some stripped => Text.trimStartMatches ([',', ' ', '\t', '\n', '\r'].contains ·) stripped
    | none => clean
  (clean.foldl SplitState.step {}).flush.items

/-! ## Options -/

namespace PushOptions

def applyDhcpOption (options : PushOptions) (optType optVal : Text) : PushOptions :=
  if optType = "DNS".toList then
    match IpAddr.parse optVal with
    | some ip => { options with dnsServers := pushNew options.dnsServers ip }
    | none => options
  else if optType = "DOMAIN".toList ∨ optType = "DOMAIN-SEARCH".toList ∨
      optType = "ADAPTER_DOMAIN_SUFFIX".toList then
    { options with searchDomains := pushNew options.searchDomains optVal }
  else if optType = "WINS".toList then
    match IpAddr.parseIpv4 optVal with
    | some ip => { options with winsServers := pushNew options.winsServers ip }
    | none => options
  else if optType = "NTP".toList then
    match IpAddr.parse optVal with
    | some ip => { options with ntpServers := pushNew options.ntpServers ip }
    | none => options
  else options

/-- The `match` on the option's verb. -/
def apply (options : PushOptions) (verb : Text) (args : List Text) : PushOptions :=
  if verb = "topology".toList then
    match args.head? with
    | some top => { options with topology := NetworkTopology.fromName top }
    | none => options
  else if verb = "ifconfig".toList then
    match argAt args 0 IpAddr.parseIpv4, argAt args 1 IpAddr.parseIpv4 with
    | some loc, some remote => { options with ifconfigV4 := some (loc, remote) }
    | _, _ => options
  else if verb = "ifconfig-ipv6".toList then
    match firstArg args (ipv6WithPrefix · 64) with
    | some (ip, len) =>
      { options with ifconfigV6 := some (ip, len, argAt args 1 IpAddr.parseIpv6) }
    | none => options
  else if verb = "route-gateway".toList then
    match firstArg args IpAddr.parseIpv4 with
    | some gw => { options with routeGateway := some gw }
    | none => options
  else if verb = "route-metric".toList then
    match firstArg args Text.parseU32 with
    | some m => { options with routeMetric := some m }
    | none => options
  else if verb = "route".toList then
    match firstArg args IpAddr.parseIpv4 with
    | some dest =>
      { options with routesV4 := options.routesV4 ++ [{
          destination := dest
          netmask := (argAt args 1 IpAddr.parseIpv4).getD ipv4HostMask
          gateway := (argAt args 2 IpAddr.parseIpv4).or options.routeGateway
          metric := (argAt args 3 Text.parseU32).or options.routeMetric }] }
    | none => options
  else if verb = "route-ipv6".toList then
    match firstArg args (ipv6WithPrefix · 128) with
    | some (dest, len) =>
      { options with routesV6 := options.routesV6 ++ [{
          destination := dest
          prefixLen := len
          gateway := argAt args 1 IpAddr.parseIpv6
          metric := (argAt args 2 Text.parseU32).or options.routeMetric }] }
    | none => options
  else if verb = "redirect-gateway".toList ∨ verb = "redirect-private".toList then
    { options with redirectGateway := some (RedirectGatewayFlags.fromArgs args) }
  else if verb = "dhcp-option".toList then
    match args with
    | optType :: optVal :: rest =>
      options.applyDhcpOption (Text.toAsciiUppercase optType) (Text.join (optVal :: rest) [' '])
    | _ => options
  else if verb = "block-outside-dns".toList then { options with blockOutsideDns := true }
  else if verb = "ping".toList then
    match firstArg args Text.parseU64 with
    | some sec => { options with pingInterval := some (fromSecs sec) }
    | none => options
  else if verb = "ping-restart".toList then
    match firstArg args Text.parseU64 with
    | some sec => { options with pingRestart := some (fromSecs sec) }
    | none => options
  else if verb = "peer-id".toList then
    match firstArg args Text.parseU32 with
    | some id => { options with peerId := some id }
    | none => options
  else if verb = "mssfix".toList then
    { options with mssFix := some ((firstArg args Text.parseU16).getD 1450) }
  else if verb = "tun-mtu".toList then
    match firstArg args Text.parseU32 with
    | some m => { options with tunMtu := some m }
    | none => options
  else if verb = "explicit-exit-notify".toList then
    { options with explicitExitNotify := some ((firstArg args Text.parseU8).getD 1) }
  else if verb = "auth-token".toList then
    match args.head? with
    | some tok => { options with authToken := some tok }
    | none => options
  else if verb = "cipher".toList then
    match args.head? with
    | some c => { options with cipher := some c }
    | none => options
  else { options with customOptions := options.customOptions.insert verb (Text.join args [' ']) }

/-- One turn of the loop over the items. -/
def applyItem (options : PushOptions) (item : Text) : PushOptions :=
  match Text.splitWhitespace item with
  | [] => options
  | verb :: args => options.apply (Text.toAsciiLowercase verb) args

end PushOptions

def parsePushReply (payload : Text) : Except ConfigError PushOptions :=
  .ok ((splitPushReplyItems payload).foldl PushOptions.applyItem {})

/-! ## Merging -/

namespace PushOptions

/-- Address, netmask and gateway: the pushed ones as the topology reads them, else the
profile's. -/
def ipv4Settings (options : PushOptions) (base : OpenVpnConfig) (topology : NetworkTopology) :
    Option Ipv4Addr × Option Ipv4Addr × Option Ipv4Addr :=
  match options.ifconfigV4 with
  | some (loc, remoteOrMask) =>
    match topology with
    | .subnet => (some loc, some remoteOrMask, options.routeGateway)
    | .net30 | .p2p => (some loc, some ⟨255, 255, 255, 252⟩, some remoteOrMask)
  | none =>
    match base.ifconfigV4 with
    | some (loc, remoteOrMask) => (some loc, some remoteOrMask, none)
    | none => (none, none, none)

def ipv6Settings (options : PushOptions) (base : OpenVpnConfig) :
    Option Ipv6Addr × Option UInt8 × Option Ipv6Addr :=
  match options.ifconfigV6 with
  | some (loc, len, gw) => (some loc, some len, gw)
  | none =>
    match base.ifconfigV6 with
    | some (loc, remote) => (some loc, some 64, some remote)
    | none => (none, none, none)

def buildProvisioningConfig (options : PushOptions) (base : OpenVpnConfig) :
    NetworkProvisioningConfig :=
  let topology := (options.topology.or base.topology).getD .subnet
  let ipv4 := options.ipv4Settings base topology
  let ipv6 := options.ipv6Settings base
  { interfaceName := some base.dev
    mtu := (options.tunMtu.or base.tunMtu).getD 1500
    topology
    ipv4Address := ipv4.1
    ipv4Netmask := ipv4.2.1
    ipv4Gateway := ipv4.2.2
    ipv6Address := ipv6.1
    ipv6PrefixLen := ipv6.2.1
    ipv6Gateway := ipv6.2.2
    dnsServers := base.dnsServers.foldl pushNew options.dnsServers
    searchDomains := base.searchDomains.foldl pushNew options.searchDomains
    winsServers := options.winsServers
    ntpServers := options.ntpServers
    routesV4 := base.routesV4.foldl pushNew options.routesV4
    routesV6 := base.routesV6.foldl pushNew options.routesV6
    excludedRoutesV4 := []
    excludedRoutesV6 := []
    redirectGateway := options.redirectGateway.getD base.redirectGateway
    blockOutsideDns := options.blockOutsideDns || base.blockOutsideDns
    mssFix := options.mssFix.or base.mssFix
    peerId := options.peerId
    pingInterval := options.pingInterval.or base.pingInterval
    pingRestart := options.pingRestart.or base.pingRestart
    customOptions := options.customOptions }

end PushOptions

end VpnHub.Config
