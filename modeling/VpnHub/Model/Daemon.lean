import VpnHub.Library.Transition
import VpnHub.Program.Daemon.Orchestrator

/-! The daemon as a transition system: any number of request tasks and the monitors of the
connections, interleaved at their await points, with drivers that emit any events. -/

namespace VpnHub.Daemon

/-- The channel from a driver to its monitor. -/
structure Channel where
  events : List DriverEvent := []
  closed : Bool := false
  deriving DecidableEq, Repr

def channelCapacity : ℕ := 64

structure Monitor where
  driver : DriverId
  params : ConnectParams
  iface : Text
  pc : MonitorPc := .recv
  deriving DecidableEq, Repr

structure System extends Daemon where
  tasks : List Task := []
  monitors : List Monitor := []
  channels : List Channel := []

/-- What the world answers while a task runs: the commands of a network call, how the start of
a driver ends, and what the getters of the active driver return. -/
structure World where
  env : Env
  started : Except DriverError (Text × Option Text)
  getters : Reading

inductive Action where
  /-- A request arrives. -/
  | request (request : DaemonRequest)
  /-- A request task runs to its next await point. -/
  | task (index : ℕ) (world : World)
  /-- A monitor runs to its next await point. -/
  | monitor (index : ℕ) (world : World)
  /-- A driver sends an event. -/
  | emit (driver : DriverId) (event : DriverEvent)
  /-- A driver drops its end of the channel. -/
  | close (driver : DriverId)

namespace System

/-- One step of a request task: the shared state and the task afterwards. -/
def resume (sys : System) (world : World) : Task → Option (Daemon × Task)
  | .connect params => some (sys.connect params sys.channels.length)
  | .starting params driver => some (sys.started params driver world.started)
  | .storeSession params driver session =>
    some ({ sys.toDaemon with activeSession := some session },
      .storeDriver params driver session.interfaceName)
  | .storeDriver _ driver _ =>
    if sys.driverLocked then none
    else some ({ sys.toDaemon with activeDriver := some driver }, .done (.ok ()))
  | .disconnect => some sys.disconnect
  | .takeDriver => if sys.driverLocked then none else some sys.takeDriver
  | .stopping driver => some (sys.stopped driver)
  | .teardown =>
    some (sys.onNetwork (NetworkManager.teardownVpnNetwork world.env), .clearSession)
  | .clearSession => some sys.clearSession
  | .setKillSwitch enabled mode =>
    some (sys.onNetwork (NetworkManager.setKillSwitch world.env enabled mode), .done (.ok ()))
  | .done _ => none

/-- A task that has stored its driver spawns the monitor. -/
def spawned : Task → List Monitor
  | .storeDriver params driver iface => [{ driver, params, iface }]
  | _ => []

/-- A task that begins to start a driver has made the channel to it. -/
def opened : Task → Task → List Channel
  | .connect _, .starting _ _ => [{}]
  | _, _ => []

/-- One step of a monitor that does not wait for an event. -/
def proceed (sys : System) (world : World) (m : Monitor) : Option (Daemon × MonitorPc) :=
  match m.pc with
  | .recv => none
  | .readDriver =>
    if sys.driverLocked then none
    else some (sys.toDaemon, .writeSession (sys.readDriver world.getters))
  | .writeSession reading => some (sys.writeSession reading, .setupNetwork reading)
  | .setupNetwork reading => some (sys.setupNetwork world.env m.params m.iface reading, .recv)
  | .ended => none

/-- The next event of a monitor that waits for one. -/
def nextEvent (sys : System) (m : Monitor) : Option DriverEvent :=
  match m.pc with
  | .recv => (sys.channels[m.driver]?).bind (·.events.head?)
  | _ => none

def step (sys : System) : Action → Option System
  | .request request => some { sys with tasks := sys.tasks ++ [.new request] }
  | .task i world => do
    let task ← sys.tasks[i]?
    let (daemon, task') ← sys.resume world task
    some { sys with
      toDaemon := daemon
      tasks := sys.tasks.set i task'
      monitors := sys.monitors ++ spawned task
      channels := sys.channels ++ opened task task' }
  | .monitor i world => do
    let m ← sys.monitors[i]?
    match sys.nextEvent m with
    | some event =>
      let (daemon, pc) := sys.receive event
      some { sys with
        toDaemon := daemon
        monitors := sys.monitors.set i { m with pc }
        channels := sys.channels.modify m.driver fun ch => { ch with events := ch.events.tail } }
    | none =>
      if m.pc = .recv then
        -- the channel is empty; it ends the monitor once it is closed
        if (sys.channels[m.driver]?).any (·.closed) then
          some { sys with monitors := sys.monitors.set i { m with pc := .ended } }
        else none
      else do
        let (daemon, pc) ← sys.proceed world m
        some { sys with toDaemon := daemon, monitors := sys.monitors.set i { m with pc } }
  | .emit driver event => do
    let ch ← sys.channels[driver]?
    if ch.closed ∨ ch.events.length ≥ channelCapacity then none
    else some { sys with
      channels := sys.channels.set driver { ch with events := ch.events ++ [event] } }
  | .close driver =>
    (sys.channels[driver]?).map fun ch =>
      { sys with channels := sys.channels.set driver { ch with closed := true } }

end System

/-- No network change of a connection is left: no tunnel, no kill switch, no IPv6 shield. -/
def NetworkManager.Clear (net : NetworkManager) : Prop :=
  net.activeTunnel = none ∧ net.isKillSwitchActive = false ∧ net.isIpv6Protected = false

/-- What a daemon owns: nothing while it is disconnected, and one running driver at most. -/
structure Daemon.Owned (d : Daemon) : Prop where
  disconnected : d.state = .disconnected →
    d.activeDriver = none ∧ d.activeSession = none ∧ d.net.Clear
  drivers : d.running.length ≤ 1

end VpnHub.Daemon
