import VpnHub.Program.Daemon.Orchestrator
import VpnHub.Program.Failover
import VpnHub.Program.Parser

/-! The OpenVPN driver (`engine/openvpn/driver.rs`): the profile it starts a session with, the
cells its getters read, and the task that bridges the session's events. -/

namespace VpnHub.Daemon

open Config VpnHub.Core Protocol

/-! ## The profile -/

/-- The profile that `start` begins with: the parsed text or, without one, the server of the
request. -/
def baseConfig (env : ParserEnv) (params : ConnectParams) :
    Option (Except DriverError OpenVpnConfig) :=
  let parsed (text : Text) (what : Text) :=
    (parseOvpnConfig env text).map fun result =>
      result.mapError fun e => DriverError.initializationFailed (what ++ ": ".toList ++ e.toText)
  match params.authConfig with
  | .rawOvpnConfig content username password =>
    (parsed content "Failed to parse OVPN profile".toList).map fun result =>
      result.map fun cfg =>
        match username, password with
        | some u, some p => { cfg with authUserPass := some ⟨some u, some p, none⟩ }
        | _, _ => cfg
  | .userPassword username password ca cert key tlsAuth tlsCrypt keyDirection ovpnConfig =>
    let base := match ovpnConfig with
      | some text => parsed text "Failed to parse OVPN config".toList
      | none => some (.ok { remotes := [⟨params.serverEndpoint, params.serverPort, none⟩] })
    let direction := keyDirection.bind KeyDirection.fromStr
    base.map fun result => result.map fun cfg => { cfg with
      authUserPass := some ⟨some username, some password, none⟩
      ca := ca.or cfg.ca
      cert := cert.or cfg.cert
      key := key.or cfg.key
      tlsAuth := (tlsAuth.map fun k => ⟨k, direction⟩).or cfg.tlsAuth
      tlsCrypt := tlsCrypt.or cfg.tlsCrypt
      keyDirection := direction.or cfg.keyDirection }
  | .wireguardKey _ _ =>
    some (.error (.initializationFailed
      "Unsupported auth configuration for OpenVPN engine".toList))

/-- The protocol of the request stands in where the profile names none, and its server where
the profile has no remotes. -/
def finishConfig (params : ConnectParams) (cfg : OpenVpnConfig) : OpenVpnConfig :=
  let proto : TransportProtocol := if params.protocol = .openvpnTcp then .tcpClient else .udp
  { cfg with
    proto
    remotes :=
      if cfg.remotes = [] then [⟨params.serverEndpoint, params.serverPort, some proto⟩]
      else cfg.remotes.map fun r => { r with proto := r.proto.or (some proto) } }

/-- The profile of the session, or the error of `start`; `none` when the parser does not
return. -/
def driverConfig (env : ParserEnv) (params : ConnectParams) :
    Option (Except DriverError OpenVpnConfig) :=
  (baseConfig env params).map fun result => result.map (finishConfig params)

/-! ## The cells -/

structure Cells where
  assignedIp : Option Text := none
  tunnelGateway : Option Text := none
  pushedRoutes : List Text := []
  searchDomains : List Text := []
  dnsServers : List Text := []
  isRedirectGateway : Bool := false
  deriving DecidableEq, Repr

/-- One assignment through a write lock. -/
inductive CellWrite where
  | assignedIp (ip : Text)
  | tunnelGateway (gw : Text)
  | isRedirectGateway (enabled : Bool)
  | searchDomains (domains : List Text)
  | dnsServers (servers : List Text)
  | pushedRoutes (routes : List Text)
  deriving DecidableEq, Repr

def Cells.write (cells : Cells) : CellWrite → Cells
  | .assignedIp ip => { cells with assignedIp := some ip }
  | .tunnelGateway gw => { cells with tunnelGateway := some gw }
  | .isRedirectGateway enabled => { cells with isRedirectGateway := enabled }
  | .searchDomains domains => { cells with searchDomains := domains }
  | .dnsServers servers => { cells with dnsServers := servers }
  | .pushedRoutes routes => { cells with pushedRoutes := routes }

def routeText (r : Ipv4Route) : Text := r.destination.toText ++ '/' :: Text.ofNat r.netmask.countOnes

/-- The writes for a provisioning, in order. An address or gateway that is missing is not
written. -/
def provisioningWrites (prov : NetworkProvisioningConfig) : List CellWrite :=
  (prov.ipv4Address.toList.map fun ip => .assignedIp ip.toText) ++
  (prov.ipv4Gateway.toList.map fun gw => .tunnelGateway gw.toText) ++
  [.isRedirectGateway prov.redirectGateway.enabled,
    .searchDomains prov.searchDomains,
    .dnsServers (prov.dnsServers.map IpAddr.toText),
    .pushedRoutes (prov.routesV4.map routeText)]

/-- Which of the getters find their cell locked by a writer. -/
structure LockedCells where
  assignedIp : Bool := false
  pushedRoutes : Bool := false
  isRedirectGateway : Bool := false
  searchDomains : Bool := false
  dnsServers : Bool := false
  deriving DecidableEq, Repr

/-- What the getters return; a locked cell reads as its default. -/
def Cells.getters (cells : Cells) (locked : LockedCells) : Reading where
  assignedIp := if locked.assignedIp then none else cells.assignedIp
  pushedRoutes := if locked.pushedRoutes then [] else cells.pushedRoutes
  isRedirectGateway := if locked.isRedirectGateway then false else cells.isRedirectGateway
  searchDomains := if locked.searchDomains then [] else cells.searchDomains
  dnsServers := if locked.dnsServers then [] else cells.dnsServers

/-! ## The bridge -/

/-- Where the bridging task stands. -/
inductive BridgePc where
  /-- At `event_rx.recv().await`. -/
  | recv
  /-- At `event_sender.send(event).await`; the last event ends the task. -/
  | sending (event : DriverEvent) (last : Bool)
  /-- At the first of the writes of a provisioning. -/
  | writing (write : CellWrite) (rest : List CellWrite)
  | ended
  deriving DecidableEq, Repr

/-- The first thing the task does is to announce `Connecting`. -/
def BridgePc.start : BridgePc := .sending (.stateChanged .connecting) false

def BridgePc.writes : List CellWrite → BridgePc
  | [] => .recv
  | write :: rest => .writing write rest

def daemonState : EngineState → SessionState
  | .connecting | .tlsHandshake | .authenticating | .pullingConfig => .connecting
  | .connected | .rekeying => .connected
  | .disconnecting => .disconnecting
  | .disconnected => .disconnected
  | .error => .disconnected

/-- What the bridge does with an event of the session. -/
def BridgePc.receive : SessionEvent → BridgePc
  | .stateChanged state => .sending (.stateChanged (daemonState state)) false
  | .networkConfigured prov => .writes (provisioningWrites prov)
  | .statsUpdated stats =>
    .sending (.metrics ⟨stats.bytesIn, stats.bytesOut, stats.uptimeSecs⟩) false
  | .disconnected _ => .sending (.stateChanged .disconnected) true
  | .error message => .sending (.fatalError (.initializationFailed message)) true
  | .authChallenge _ => .recv

end VpnHub.Daemon
