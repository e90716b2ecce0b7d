import VpnHub.Program.Daemon.Network

/-! The orchestrator (`core/orchestrator.rs`): what `connect`, `disconnect`, the kill switch
request and the driver monitor do between two of their await points. Of the locks only the one
of the active driver is held across an await, while the driver is stopped. -/

namespace VpnHub.Daemon

/-- Drivers are told apart by the order in which they were made. -/
abbrev DriverId := ℕ

structure ActiveSession where
  profileId : Text
  protocol : ProtocolType
  serverEndpoint : Text
  serverPort : UInt16
  interfaceName : Text
  assignedIp : Option Text
  dnsServers : List Text
  killSwitchEnabled : Bool
  deriving DecidableEq, Repr

def ActiveSession.new (params : ConnectParams) (interfaceName : Text) (assignedIp : Option Text) :
    ActiveSession where
  profileId := params.profileId
  protocol := params.protocol
  serverEndpoint := params.serverEndpoint
  serverPort := params.serverPort
  interfaceName := interfaceName
  assignedIp := assignedIp
  dnsServers := []
  killSwitchEnabled := params.enableKillSwitch

/-- What the getters of a driver return. -/
structure Reading where
  assignedIp : Option Text := none
  pushedRoutes : List Text := []
  isRedirectGateway : Bool := false
  searchDomains : List Text := []
  dnsServers : List Text := []
  deriving DecidableEq, Repr

/-- The state that the daemon's tasks share. -/
structure Daemon where
  state : SessionState := .disconnected
  activeDriver : Option DriverId := none
  /-- The lock of `active_driver` is held. -/
  driverLocked : Bool := false
  activeSession : Option ActiveSession := none
  net : NetworkManager := {}
  host : Host := {}
  /-- The drivers that were started and not yet stopped. -/
  running : List DriverId := []

namespace Daemon

/-- A method of the network manager, under its lock. -/
def onNetwork (method : NetworkManager → Shell → NetworkManager × Shell) (d : Daemon) : Daemon :=
  let (net, sh) := method d.net { host := d.host }
  { d with net, host := sh.host }

end Daemon

/-! ## The driver monitor -/

inductive MonitorPc where
  /-- At `driver_rx.recv().await`. -/
  | recv
  /-- At `active_driver.lock().await`. -/
  | readDriver
  /-- At `active_session.lock().await`. -/
  | writeSession (reading : Reading)
  /-- At `network_mgr.lock().await`. -/
  | setupNetwork (reading : Reading)
  | ended
  deriving DecidableEq, Repr

def ConnectParams.securityPolicyOrDefault (params : ConnectParams) : SecurityPolicy :=
  params.securityPolicy.getD
    (if params.enableKillSwitch then {} else { killSwitchMode := .off })

def ConnectParams.setupArgs (params : ConnectParams) (iface : Text) (reading : Reading) :
    SetupArgs where
  serverIp := params.serverEndpoint
  serverPort := params.serverPort
  iface := iface
  assignedIp := reading.assignedIp
  serverDns := reading.dnsServers
  searchDomains := reading.searchDomains
  pushedRoutes := reading.pushedRoutes
  isRedirectGateway := reading.isRedirectGateway
  securityPolicy := params.securityPolicyOrDefault
  routingPolicy := params.routingPolicy.getD {}

namespace Daemon

/-- An event that the monitor receives. -/
def receive (d : Daemon) : DriverEvent → Daemon × MonitorPc
  | .stateChanged next =>
    if d.state = next then (d, .recv)
    else if next = .connected then (d, .readDriver)
    else ({ d with state := d.state.attempt next }, .recv)
  | .log _ _ => (d, .recv)
  | .metrics _ => (d, .recv)
  | .fatalError _ => ({ d with state := d.state.attempt .error }, .ended)

/-- What the monitor reads of the active driver, if there is one. -/
def readDriver (d : Daemon) (getters : Reading) : Reading :=
  if d.activeDriver.isSome then getters else {}

def writeSession (d : Daemon) (reading : Reading) : Daemon :=
  { d with activeSession := d.activeSession.map fun session =>
      { session with assignedIp := reading.assignedIp.or session.assignedIp } }

/-- The network is set up before the transition is tried. -/
def setupNetwork (env : Env) (params : ConnectParams) (iface : Text) (reading : Reading)
    (d : Daemon) : Daemon :=
  let d := d.onNetwork (NetworkManager.setupVpnNetwork env (params.setupArgs iface reading))
  { d with state := d.state.attempt .connected }

end Daemon

/-! ## Requests -/

/-- Where a task that handles a request stands. -/
inductive Task where
  | connect (params : ConnectParams)
  /-- At `driver.start(driver_tx).await`. -/
  | starting (params : ConnectParams) (driver : DriverId)
  /-- At `active_session.lock().await`, with the session to store. -/
  | storeSession (params : ConnectParams) (driver : DriverId) (session : ActiveSession)
  /-- At `active_driver.lock().await`, with the driver to store. -/
  | storeDriver (params : ConnectParams) (driver : DriverId) (iface : Text)
  | disconnect
  /-- At `active_driver.lock().await`. -/
  | takeDriver
  /-- At `driver.stop().await`, holding the lock. -/
  | stopping (driver : DriverId)
  /-- At `network_mgr.lock().await`. -/
  | teardown
  /-- At `active_session.lock().await`. -/
  | clearSession
  /-- At `network_mgr.lock().await`. -/
  | setKillSwitch (enabled : Bool) (mode : Option KillSwitchMode)
  | done (result : Except DaemonError Unit)

def Task.new : DaemonRequest → Task
  | .connect params => .connect params
  | .disconnect _ => .disconnect
  | .setKillSwitch enabled mode => .setKillSwitch enabled mode

namespace Daemon

/-- The beginning of `connect`; `driver` is the one it makes. -/
def connect (d : Daemon) (params : ConnectParams) (driver : DriverId) : Daemon × Task :=
  if d.state ≠ .disconnected ∧ d.state ≠ .error then
    (d, .done (.error (.invalidState ("Cannot connect while in state ".toList ++ d.state.debug))))
  else
    match d.state.transitionTo .connecting with
    | .error e => (d, .done (.error e))
    | .ok state => ({ d with state }, .starting params driver)

/-- The driver's `start` returns, with an error or the interface and address it has. -/
def started (d : Daemon) (params : ConnectParams) (driver : DriverId) :
    Except DriverError (Text × Option Text) → Daemon × Task
  | .error e =>
    match d.state.transitionTo .error with
    | .error e' => (d, .done (.error e'))
    | .ok state => ({ d with state }, .done (.error (.driver e)))
  | .ok (iface, assignedIp) =>
    ({ d with running := d.running ++ [driver] },
      .storeSession params driver (.new params iface assignedIp))

/-- The beginning of `disconnect`. -/
def disconnect (d : Daemon) : Daemon × Task :=
  if d.state = .disconnected then (d, .done (.ok ()))
  else
    match d.state.transitionTo .disconnecting with
    | .error e => (d, .done (.error e))
    | .ok state => ({ d with state }, .takeDriver)

def takeDriver (d : Daemon) : Daemon × Task :=
  match d.activeDriver with
  | some driver => ({ d with activeDriver := none, driverLocked := true }, .stopping driver)
  | none => (d, .teardown)

def stopped (d : Daemon) (driver : DriverId) : Daemon × Task :=
  ({ d with driverLocked := false, running := d.running.erase driver }, .teardown)

def clearSession (d : Daemon) : Daemon × Task :=
  let d := { d with activeSession := none }
  match d.state.transitionTo .disconnected with
  | .error e => (d, .done (.error e))
  | .ok state => ({ d with state }, .done (.ok ()))

end Daemon

end VpnHub.Daemon
