import Mathlib.Data.Char
import Mathlib.Data.List.Lex
import Mathlib.Order.Basic
import VpnHub.Library.IpAddr
import VpnHub.Library.OrdMap
import VpnHub.Program.Errors

/-! Configuration types of `ovpn-config/src/model.rs` and `network_config.rs`. -/

namespace VpnHub.Config

/-! ## Network settings -/

structure Ipv4Route where
  destination : Ipv4Addr
  netmask : Ipv4Addr
  gateway : Option Ipv4Addr
  metric : Option UInt32
  deriving DecidableEq

structure Ipv6Route where
  destination : Ipv6Addr
  prefixLen : UInt8
  gateway : Option Ipv6Addr
  metric : Option UInt32
  deriving DecidableEq

structure RedirectGatewayFlags where
  def1 : Bool := false
  isLocal : Bool := false
  ipv6 : Bool := false
  blockLocal : Bool := false
  bypassDhcp : Bool := false
  bypassDns : Bool := false
  enabled : Bool := false
  deriving DecidableEq, Repr

namespace RedirectGatewayFlags

def addArg (flags : RedirectGatewayFlags) (arg : Text) : RedirectGatewayFlags :=
  if arg = "def1".toList then { flags with def1 := true }
  else if arg = "local".toList ∨ arg = "autolocal".toList then { flags with isLocal := true }
  else if arg = "ipv6".toList then { flags with ipv6 := true }
  else if arg = "block-local".toList then { flags with blockLocal := true }
  else if arg = "bypass-dhcp".toList then { flags with bypassDhcp := true }
  else if arg = "bypass-dns".toList then { flags with bypassDns := true }
  else flags

def fromArgs (args : List Text) : RedirectGatewayFlags :=
  args.foldl addArg { enabled := true }

end RedirectGatewayFlags

inductive NetworkTopology where
  | net30
  | subnet
  | p2p
  deriving DecidableEq, Repr

/-- The names both parsers know, in any letter case. -/
def NetworkTopology.fromName (name : Text) : Option NetworkTopology :=
  let lower := Text.toAsciiLowercase name
  if lower = "subnet".toList then some subnet
  else if lower = "net30".toList then some net30
  else if lower = "p2p".toList then some p2p
  else none

structure NetworkProvisioningConfig where
  interfaceName : Option Text
  mtu : UInt32
  topology : NetworkTopology
  ipv4Address : Option Ipv4Addr
  ipv4Netmask : Option Ipv4Addr
  ipv4Gateway : Option Ipv4Addr
  ipv6Address : Option Ipv6Addr
  ipv6PrefixLen : Option UInt8
  ipv6Gateway : Option Ipv6Addr
  dnsServers : List IpAddr
  searchDomains : List Text
  winsServers : List Ipv4Addr
  ntpServers : List IpAddr
  routesV4 : List Ipv4Route
  routesV6 : List Ipv6Route
  excludedRoutesV4 : List Ipv4Route
  excludedRoutesV6 : List Ipv6Route
  redirectGateway : RedirectGatewayFlags
  blockOutsideDns : Bool
  mssFix : Option UInt16
  peerId : Option UInt32
  pingInterval : Option Duration
  pingRestart : Option Duration
  customOptions : OrdMap Text Text
  deriving DecidableEq

/-! ## Profile settings -/

inductive TransportProtocol where
  | udp
  | tcp
  | udp4
  | udp6
  | tcp4
  | tcp6
  | tcpClient
  | tcpServer
  deriving DecidableEq, Repr

/-- `Protocol::from_str`. -/
def TransportProtocol.fromStr (s : Text) : Option TransportProtocol :=
  let lower := Text.toAsciiLowercase s
  if lower = "udp".toList then some udp
  else if lower = "tcp".toList then some tcp
  else if lower = "udp4".toList then some udp4
  else if lower = "udp6".toList then some udp6
  else if lower = "tcp4".toList then some tcp4
  else if lower = "tcp6".toList then some tcp6
  else if lower = "tcp-client".toList then some tcpClient
  else if lower = "tcp-server".toList then some tcpServer
  else none

inductive DeviceType where
  | tun
  | tap
  deriving DecidableEq, Repr

def DeviceType.fromStr (s : Text) : Option DeviceType :=
  let lower := Text.toAsciiLowercase s
  if Text.startsWith lower "tun".toList then some tun
  else if Text.startsWith lower "tap".toList then some tap
  else none

structure RemoteEntry where
  host : Text
  port : UInt16
  proto : Option TransportProtocol
  deriving DecidableEq, Repr

inductive KeyDirection where
  | server
  | client
  | bidirectional
  deriving DecidableEq, Repr

def KeyDirection.fromStr (s : Text) : Option KeyDirection :=
  if s = "0".toList then some server
  else if s = "1".toList then some client
  else if s = "bidirectional".toList then some bidirectional
  else none

structure TlsAuthConfig where
  key : Text
  direction : Option KeyDirection
  deriving DecidableEq, Repr

structure Pkcs12Config where
  data : Bytes
  password : Option Text
  deriving DecidableEq, Repr

structure AuthUserPassConfig where
  username : Option Text
  password : Option Text
  path : Option Text
  deriving DecidableEq, Repr

inductive VerifyX509Type where
  | subject
  | namePrefix
  | subjectAltName
  deriving DecidableEq, Repr

structure VerifyX509Name where
  name : Text
  nameType : VerifyX509Type
  deriving DecidableEq, Repr

inductive ProxyConfig where
  | http (host : Text) (port : UInt16) (authFile : Option Text)
  | socks (host : Text) (port : UInt16) (authFile : Option Text)
  deriving DecidableEq, Repr

/-- The defaults are those of the source's `Default` instance. -/
structure OpenVpnConfig where
  remotes : List RemoteEntry := []
  remoteRandom : Bool := false
  resolvRetryInfinite : Bool := true
  dev : Text := "tun".toList
  devType : DeviceType := .tun
  proto : TransportProtocol := .udp
  nobind : Bool := true
  persistKey : Bool := true
  persistTun : Bool := true
  client : Bool := true
  pull : Bool := true
  ca : Option Text := none
  cert : Option Text := none
  key : Option Text := none
  extraCerts : Option Text := none
  pkcs12 : Option Pkcs12Config := none
  tlsAuth : Option TlsAuthConfig := none
  tlsCrypt : Option Text := none
  tlsCryptV2 : Option Text := none
  keyDirection : Option KeyDirection := none
  dataCiphers : List Text :=
    ["AES-256-GCM".toList, "AES-128-GCM".toList, "CHACHA20-POLY1305".toList]
  dataCiphersFallback : Option Text := none
  cipher : Option Text := none
  authDigest : Option Text := some "SHA1".toList
  authUserPass : Option AuthUserPassConfig := none
  remoteCertTls : Option Text := some "server".toList
  verifyX509Name : Option VerifyX509Name := none
  tlsVersionMin : Option Text := some "1.2".toList
  renegSec : Option UInt32 := some 3600
  handWindow : Option UInt32 := some 60
  ifconfigV4 : Option (Ipv4Addr × Ipv4Addr) := none
  ifconfigV6 : Option (Ipv6Addr × Ipv6Addr) := none
  topology : Option NetworkTopology := none
  routesV4 : List Ipv4Route := []
  routesV6 : List Ipv6Route := []
  redirectGateway : RedirectGatewayFlags := {}
  dnsServers : List IpAddr := []
  searchDomains : List Text := []
  blockOutsideDns : Bool := false
  tunMtu : Option UInt32 := some 1500
  linkMtu : Option UInt32 := none
  mssFix : Option UInt16 := none
  pingInterval : Option Duration := none
  pingRestart : Option Duration := none
  explicitExitNotify : Option UInt8 := none
  proxy : Option ProxyConfig := none
  verb : UInt8 := 3
  fastIo : Bool := false
  compression : Option Text := none

/-- `Duration::from_secs`. -/
def fromSecs (secs : UInt64) : Duration := secs.toNat * 1000000000

/-! ## Reading arguments -/

/-- The first argument, read by `read`. -/
def firstArg {α : Type} (args : List Text) (read : Text → Option α) : Option α :=
  args.head?.bind read

/-- Argument `i`, read by `read`. -/
def argAt {α : Type} (args : List Text) (i : ℕ) (read : Text → Option α) : Option α :=
  args[i]?.bind read

def ipv4HostMask : Ipv4Addr := ⟨255, 255, 255, 255⟩

/-- Address and prefix length of `<address>/<prefix>`. -/
def ipv6WithPrefix (s : Text) (default : UInt8) : Option (Ipv6Addr × UInt8) :=
  let parts := Text.splitChar s '/'
  (argAt parts 0 IpAddr.parseIpv6).map fun ip => (ip, (argAt parts 1 Text.parseU8).getD default)

/-- `if !list.contains(x) { list.push(x) }`. -/
def pushNew {α : Type} [DecidableEq α] (list : List α) (x : α) : List α :=
  if list.contains x then list else list ++ [x]

end VpnHub.Config
