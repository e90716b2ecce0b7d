import VpnHub.Program.Session

/-! Remote endpoint failover: `ClientSession::spawn` and `run_orchestration_loop` of
`ovpn-core/src/session.rs`, between two of their await points. -/

namespace VpnHub.Core

open Config

structure SocketAddr where
  ip : IpAddr
  port : UInt16
  deriving DecidableEq

/-- Where the session task stands. -/
inductive SessionPc where
  /-- At `lookup_host` for the first of the remotes. -/
  | resolving (remotes : List RemoteEntry)
  /-- At the connection to the first of the addresses of a remote. -/
  | dialing (remote : RemoteEntry) (addrs : List SocketAddr) (rest : List RemoteEntry)
  /-- In `run_pipeline_loop`, over a transport to `peer`. -/
  | connected (peer : SocketAddr) (remote : RemoteEntry) (addrs : List SocketAddr)
      (rest : List RemoteEntry)
  | ended
  deriving DecidableEq

def isTcp : TransportProtocol → Bool
  | .udp | .udp4 | .udp6 => false
  | .tcp | .tcp4 | .tcp6 | .tcpClient | .tcpServer => true

/-- `host:port` as `SocketAddr::parse` reads it; an IPv6 host stands in brackets. -/
def parseSocketAddr (host : Text) (port : UInt16) : Option SocketAddr :=
  match IpAddr.parseIpv4 host with
  | some addr => some ⟨.v4 addr, port⟩
  | none =>
    match Text.stripPrefix host ['['] with
    | some inner =>
      if inner.getLast? = some ']' then
        (IpAddr.parseIpv6 inner.dropLast).map fun addr => ⟨.v6 addr, port⟩
      else none
    | none => none

def ProxyConfig.addr : ProxyConfig → Option SocketAddr
  | .http host port _ => parseSocketAddr host port
  | .socks host port _ => parseSocketAddr host port

namespace SessionPc

/-- What the transport is connected to. -/
def peer? : SessionPc → Option SocketAddr
  | .connected peer _ _ _ => some peer
  | _ => none

/-- An error of the loop is broadcast, and the task ends. -/
def fail (message : Text) : SessionPc × List SessionEvent := (.ended, [.error message])

def allRemotesFailed : Text := "Failed to connect to all configured remote endpoints".toList

def invalidProxy : Text :=
  "Transport error: Remote DNS resolution failed for invalid socket address syntax".toList

def start (config : OpenVpnConfig) : SessionPc × List SessionEvent :=
  if config.remotes = [] then fail allRemotesFailed else (.resolving config.remotes, [])

/-- The lookup of a remote returns its addresses, or fails. -/
def resolved (remotes : List RemoteEntry) (addrs : Option (List SocketAddr)) :
    SessionPc × List SessionEvent :=
  match remotes, addrs with
  | [], _ => fail allRemotesFailed
  | _ :: rest, none => (.resolving rest, [])
  | remote :: rest, some addrs => (.dialing remote addrs rest, [])

/-- The address whose packets carry a connection to `addr`: a proxy's where one is used, and
none where the proxy's address does not parse. -/
def peerOf (config : OpenVpnConfig) (remote : RemoteEntry) (addr : SocketAddr) :
    Option SocketAddr :=
  if isTcp (remote.proto.getD config.proto) then
    match config.proxy with
    | some proxy => ProxyConfig.addr proxy
    | none => some addr
  else some addr

/-- An attempt to connect succeeds or fails. -/
def dialed (config : OpenVpnConfig) (remote : RemoteEntry) (addrs : List SocketAddr)
    (rest : List RemoteEntry) (success : Bool) : SessionPc × List SessionEvent :=
  match addrs with
  | [] => (.resolving rest, [])
  | addr :: addrs =>
    match peerOf config remote addr with
    | none => fail invalidProxy
    | some peer =>
      if success then (.connected peer remote addrs rest, []) else (.dialing remote addrs rest, [])

end SessionPc

end VpnHub.Core
