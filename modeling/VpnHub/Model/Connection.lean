import VpnHub.Library.Transition
import VpnHub.Program.Daemon.Driver

/-! One connection as a transition system: the session task, the bridge of the driver and the
monitor of the orchestrator, interleaved at their await points. The session broadcasts any
events; the driver may send events of its own beside those of the bridge. -/

namespace VpnHub.Daemon

open Config VpnHub.Core Protocol

/-- `broadcast::channel(128)`. -/
def broadcastCapacity : ℕ := 128

/-- `mpsc::channel(64)`. -/
def driverCapacity : ℕ := 64

structure Connection where
  config : OpenVpnConfig
  params : ConnectParams
  iface : Text
  session : SessionPc
  /-- The events that the bridge has not received yet. -/
  queue : List SessionEvent
  /-- An event that the bridge had not received was overwritten. -/
  lagged : Bool := false
  bridge : BridgePc := .start
  cells : Cells := {}
  channel : List DriverEvent := []
  monitor : MonitorPc := .recv
  daemon : Daemon
  /-- The configuration of the engine's last `ConfigureNetwork` action. -/
  provisioned : Option NetworkProvisioningConfig := none
  /-- The arguments of the last call of `setup_vpn_network`. -/
  applied : Option SetupArgs := none
  /-- The driver has reported `Disconnected` or a fatal error. -/
  reported : Bool := false

inductive ConnectionAction where
  /-- The lookup of a remote ends. -/
  | resolve (addrs : Option (List SocketAddr))
  /-- An attempt to connect ends. -/
  | dial (success : Bool)
  /-- The pipeline broadcasts an event. -/
  | broadcast (event : SessionEvent)
  /-- The pipeline ends with an error. -/
  | pipelineFails
  /-- The pipeline receives the command to disconnect. -/
  | disconnectCommand (reason : Text)
  /-- The pipeline finds that its control handle was dropped. -/
  | handleDropped
  /-- The bridge runs to its next await point. -/
  | bridge
  /-- The monitor runs to its next await point. -/
  | monitor (env : Env) (locked : LockedCells)
  /-- The driver sends an event of its own. -/
  | emit (event : DriverEvent)
  /-- A request switches the kill switch. -/
  | setKillSwitch (env : Env) (enabled : Bool) (mode : Option KillSwitchMode)

/-- A driver event after which the tunnel is gone. -/
def DriverEvent.terminal : DriverEvent → Bool
  | .stateChanged .disconnected => true
  | .fatalError _ => true
  | _ => false

def BridgePc.isWriting : BridgePc → Bool
  | .writing _ _ => true
  | _ => false

/-- A host route to an address through a gateway. -/
def Route.bypasses (route : Route) : IpAddr → Bool
  | .v4 addr => route.dest == ⟨addr, 32⟩ && route.via.isSome
  | .v6 _ => false

namespace Connection

/-- The connection when `connect` has spawned the monitor. -/
def initial (config : OpenVpnConfig) (params : ConnectParams) (iface : Text) (host : Host) :
    Connection where
  config := config
  params := params
  iface := iface
  session := (SessionPc.start config).1
  queue := (SessionPc.start config).2
  daemon := {
    state := .connecting
    activeDriver := some 0
    activeSession := some (.new params iface none)
    host := host
    running := [0] }

/-- A broadcast. A bridge that has ended receives nothing, and a full channel overwrites its
oldest event. -/
def send (c : Connection) (event : SessionEvent) : Connection :=
  let provisioned := match event with
    | .networkConfigured prov => some prov
    | _ => c.provisioned
  if c.bridge = .ended then { c with provisioned }
  else if c.queue.length < broadcastCapacity then
    { c with provisioned, queue := c.queue ++ [event] }
  else { c with provisioned, queue := c.queue.tail ++ [event], lagged := true }

/-- The session task goes on, with the events it broadcasts. -/
def proceed (c : Connection) (next : SessionPc × List SessionEvent) : Connection :=
  { next.2.foldl send c with session := next.1 }

/-- An event sent to the monitor, which gets lost where the monitor has ended; `none` while
the channel is full. -/
def deliver (c : Connection) (event : DriverEvent) : Option Connection :=
  let reported := c.reported || event.terminal
  if c.monitor = .ended then some { c with reported }
  else if c.channel.length < driverCapacity then
    some { c with reported, channel := c.channel ++ [event] }
  else none

def stepBridge (c : Connection) : Option Connection :=
  match c.bridge with
  | .recv =>
    if c.lagged then some { c with bridge := .ended }
    else
      match c.queue with
      | event :: rest => some { c with queue := rest, bridge := .receive event }
      | [] => if c.session = .ended then some { c with bridge := .ended } else none
  | .sending event last =>
    (c.deliver event).map fun c => { c with bridge := if last then .ended else .recv }
  | .writing write rest => some { c with cells := c.cells.write write, bridge := .writes rest }
  | .ended => none

def stepMonitor (c : Connection) (env : Env) (locked : LockedCells) : Option Connection :=
  match c.monitor with
  | .recv =>
    match c.channel with
    | event :: rest =>
      let (daemon, monitor) := c.daemon.receive event
      some { c with channel := rest, daemon, monitor }
    | [] => if c.bridge = .ended then some { c with monitor := .ended } else none
  | .readDriver =>
    -- only a writer makes a read fail
    if locked ≠ {} ∧ c.bridge.isWriting = false then none
    else some { c with monitor := .writeSession (c.daemon.readDriver (c.cells.getters locked)) }
  | .writeSession reading =>
    some { c with daemon := c.daemon.writeSession reading, monitor := .setupNetwork reading }
  | .setupNetwork reading =>
    some { c with
      daemon := c.daemon.setupNetwork env c.params c.iface reading
      applied := some (c.params.setupArgs c.iface reading)
      monitor := .recv }
  | .ended => none

def step (c : Connection) : ConnectionAction → Option Connection
  | .resolve addrs =>
    match c.session with
    | .resolving remotes => some (c.proceed (SessionPc.resolved remotes addrs))
    | _ => none
  | .dial success =>
    match c.session with
    | .dialing remote addrs rest =>
      some (c.proceed (SessionPc.dialed c.config remote addrs rest success))
    | _ => none
  | .broadcast event =>
    match c.session, event with
    | .connected _ _ _ _, .error _ => none
    | .connected _ _ _ _, event => some (c.send event)
    | _, _ => none
  | .pipelineFails =>
    match c.session with
    | .connected _ remote addrs rest => some { c with session := .dialing remote addrs rest }
    | _ => none
  | .disconnectCommand reason =>
    match c.session with
    | .connected _ _ _ _ => some (c.proceed (.ended, [.disconnected reason]))
    | _ => none
  | .handleDropped =>
    match c.session with
    | .connected _ _ _ _ => some { c with session := .ended }
    | _ => none
  | .bridge => c.stepBridge
  | .monitor env locked => c.stepMonitor env locked
  | .emit event => c.deliver event
  | .setKillSwitch env enabled mode =>
    some { c with daemon :=
      c.daemon.onNetwork (NetworkManager.setKillSwitch env enabled mode) }

/-! ## What the connection promises -/

/-- All tasks have consumed their queues. -/
def Quiescent (c : Connection) : Prop :=
  (c.bridge = .ended ∨ c.bridge = .recv ∧ c.queue = [] ∧ c.lagged = false) ∧
    (c.monitor = .ended ∨ c.monitor = .recv ∧ c.channel = [])

/-- The daemon reports a tunnel that is up or coming up. -/
def ReportedUp (c : Connection) : Prop :=
  c.daemon.state = .connected ∨ c.daemon.state = .connecting ∨ c.daemon.state = .reconnecting

/-- A tunnel that is gone is not reported as up, once everything is consumed. -/
def DownSeen (c : Connection) : Prop :=
  c.session = .ended ∨ c.reported = true → c.Quiescent → ¬ c.ReportedUp

/-- The network set-up used the settings of the last provisioning, once everything is consumed
and the daemon reports the tunnel as up. -/
def ProvisioningApplied (c : Connection) : Prop :=
  c.Quiescent → c.daemon.state = .connected → ∀ prov ∈ c.provisioned,
    ∃ args ∈ c.applied, args.assignedIp = prov.ipv4Address.map Ipv4Addr.toText ∧
      args.pushedRoutes = prov.routesV4.map routeText ∧
      args.isRedirectGateway = prov.redirectGateway.enabled ∧
      args.searchDomains = prov.searchDomains ∧
      args.serverDns = prov.dnsServers.map IpAddr.toText

/-- No rule of the kill switch drops the packets to the peer of the transport, and a host route
leads to it past the tunnel. -/
def EndpointExempt (c : Connection) : Prop :=
  c.daemon.state = .connected → ∀ peer ∈ c.session.peer?,
    (∀ chain ∈ c.daemon.host.killswitch, ∀ p : Packet, p.dst = peer.ip →
      p.transport.dport? = some peer.port → chain.verdict NftRule.meaning p = .accept) ∧
    ∃ route ∈ c.daemon.host.routes, route.bypasses peer.ip = true

end Connection

end VpnHub.Daemon
