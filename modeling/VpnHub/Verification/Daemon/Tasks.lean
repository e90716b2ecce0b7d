import VpnHub.Model.Connection

/-! What each task of a connection can do in one step, and what it leaves alone. -/

namespace VpnHub.Daemon

open Config VpnHub.Core Protocol

/-! ## The session task -/

/-- Looking a remote up goes on without a transport, or ends the session with an error. -/
theorem resolved_cases (remotes : List RemoteEntry) (addrs : Option (List SocketAddr)) :
    (∃ pc, pc ≠ .ended ∧ (∀ peer remote addrs rest, pc ≠ .connected peer remote addrs rest) ∧
      SessionPc.resolved remotes addrs = (pc, [])) ∨
      ∃ message, SessionPc.resolved remotes addrs = SessionPc.fail message := by
  cases remotes with
  | nil => exact .inr ⟨_, rfl⟩
  | cons remote rest =>
      cases addrs with
      | none => exact .inl ⟨.resolving rest, by simp, by simp, rfl⟩
      | some addrs => exact .inl ⟨.dialing remote addrs rest, by simp, by simp, rfl⟩

/-- Dialing goes on, with a transport only where an attempt succeeded, or ends the session
with an error. -/
theorem dialed_cases (config : OpenVpnConfig) (remote : RemoteEntry) (addrs : List SocketAddr)
    (rest : List RemoteEntry) (success : Bool) :
    (∃ pc, pc ≠ .ended ∧ (∀ peer remote' addrs' rest', pc = .connected peer remote' addrs' rest' →
        ∃ addr, addrs = addr :: addrs' ∧ remote' = remote ∧ rest' = rest ∧ success = true ∧
          SessionPc.peerOf config remote addr = some peer) ∧
      SessionPc.dialed config remote addrs rest success = (pc, [])) ∨
      ∃ message, SessionPc.dialed config remote addrs rest success = SessionPc.fail message := by
  cases addrs with
  | nil => exact .inl ⟨.resolving rest, by simp, by simp, rfl⟩
  | cons addr addrs =>
      cases hpeer : SessionPc.peerOf config remote addr with
      | none => exact .inr ⟨SessionPc.invalidProxy, by simp [SessionPc.dialed, hpeer]⟩
      | some peer =>
          cases success with
          | true =>
              refine .inl ⟨.connected peer remote addrs rest, by simp, ?_,
                by simp [SessionPc.dialed, hpeer]⟩
              rintro peer' remote' addrs' rest' ⟨⟩
              exact ⟨addr, rfl, rfl, rfl, rfl, hpeer⟩
          | false =>
              exact .inl ⟨.dialing remote addrs rest, by simp, by simp,
                by simp [SessionPc.dialed, hpeer]⟩

/-! ## The monitor -/

/-- What the monitor has read and not yet used. -/
def MonitorPc.reading : MonitorPc → Option Reading
  | .writeSession reading => some reading
  | .setupNetwork reading => some reading
  | _ => none

/-- An event changes the state of the daemon alone, and makes no daemon connected. -/
theorem receive_frame (d : Daemon) (report : DriverEvent) :
    ∃ state, (d.receive report).1 = { d with state } ∧
      (state = .connected → d.state = .connected) ∧ (d.receive report).2.reading = none := by
  cases report with
  | log level message => exact ⟨d.state, rfl, id, rfl⟩
  | metrics metrics => exact ⟨d.state, rfl, id, rfl⟩
  | fatalError e =>
      refine ⟨_, rfl, ?_, rfl⟩
      intro hstate
      rw [SessionState.attempt_eq] at hstate
      split at hstate
      · cases hstate
      · exact hstate
  | stateChanged next =>
      simp only [Daemon.receive]
      split
      · exact ⟨d.state, rfl, id, rfl⟩
      · split
        · exact ⟨d.state, rfl, id, rfl⟩
        · rename_i hnext
          refine ⟨_, rfl, ?_, rfl⟩
          intro hstate
          rw [SessionState.attempt_eq] at hstate
          split at hstate
          · exact absurd hstate hnext
          · exact hstate

/-! ## Queues and channels -/

def ConnectionAction.isHandleDropped : ConnectionAction → Bool
  | .handleDropped => true
  | _ => false

namespace Connection

variable {c c' : Connection} {event : SessionEvent}

/-- The events that a step broadcasts. -/
def broadcasts (c : Connection) : ConnectionAction → List SessionEvent
  | .resolve addrs =>
    match c.session with
    | .resolving remotes => (SessionPc.resolved remotes addrs).2
    | _ => []
  | .dial success =>
    match c.session with
    | .dialing remote addrs rest => (SessionPc.dialed c.config remote addrs rest success).2
    | _ => []
  | .broadcast event => [event]
  | .disconnectCommand reason => [.disconnected reason]
  | _ => []

/-- The event that a step sends to the monitor. -/
def delivers (c : Connection) : ConnectionAction → Option DriverEvent
  | .bridge =>
    match c.bridge with
    | .sending event _ => some event
    | _ => none
  | .emit event => some event
  | _ => none

/-- The event that a step of the monitor takes from its channel. -/
def takes (c : Connection) : ConnectionAction → Option DriverEvent
  | .monitor _ _ => if c.monitor = .recv then c.channel.head? else none
  | _ => none

/-- A broadcast now overwrites no event that the bridge has yet to receive. -/
def Room (c : Connection) : Prop := c.bridge ≠ .ended → c.queue.length < broadcastCapacity

instance (c : Connection) : Decidable c.Room := inferInstanceAs (Decidable (_ → _))

/-- A broadcast changes the queue and the history alone. -/
theorem send_frame (c : Connection) (event : SessionEvent) :
    ∃ queue lagged provisioned,
      c.send event = { c with queue, lagged, provisioned } := by
  simp only [send]
  split
  · exact ⟨c.queue, c.lagged, _, rfl⟩
  · split
    · exact ⟨_, c.lagged, _, rfl⟩
    · exact ⟨_, _, _, rfl⟩

@[simp] theorem bridge_send : (c.send event).bridge = c.bridge := by
  obtain ⟨queue, lagged, provisioned, h⟩ := c.send_frame event
  rw [h]

@[simp] theorem reported_send : (c.send event).reported = c.reported := by
  obtain ⟨queue, lagged, provisioned, h⟩ := c.send_frame event
  rw [h]

theorem lagged_send (h : c.Room) : (c.send event).lagged = c.lagged := by
  simp only [send]
  split
  · rfl
  · rename_i hbridge
    rw [if_pos (h hbridge)]

theorem queue_send (h : c.Room) (hbridge : c.bridge ≠ .ended) :
    (c.send event).queue = c.queue ++ [event] := by
  simp only [send]
  rw [if_neg hbridge, if_pos (h hbridge)]

theorem mem_queue_send (h : c.Room) {old : SessionEvent} (hold : old ∈ c.queue) :
    old ∈ (c.send event).queue := by
  simp only [send]
  split
  · exact hold
  · rename_i hbridge
    rw [if_pos (h hbridge)]
    exact List.mem_append_left _ hold

/-- An event reaches the end of the monitor's channel, or gets lost after the monitor. -/
theorem deliver_cases {event : DriverEvent} (h : c.deliver event = some c') :
    (c.monitor = .ended ∧ c' = { c with reported := c.reported || event.terminal }) ∨
      c.monitor ≠ .ended ∧ c.channel.length < driverCapacity ∧
        c' = { c with
          reported := c.reported || event.terminal, channel := c.channel ++ [event] } := by
  simp only [deliver] at h
  split at h
  · rename_i hmonitor
    exact .inl ⟨hmonitor, (Option.some.inj h).symm⟩
  · rename_i hmonitor
    split at h
    · rename_i hroom
      exact .inr ⟨hmonitor, hroom, (Option.some.inj h).symm⟩
    · cases h

/-- What an event sent to the monitor changes. -/
theorem deliver_frame {event : DriverEvent} (h : c.deliver event = some c') :
    ∃ channel, c' = { c with reported := c.reported || event.terminal, channel } := by
  rcases deliver_cases h with ⟨-, rfl⟩ | ⟨-, -, rfl⟩
  · exact ⟨c.channel, rfl⟩
  · exact ⟨_, rfl⟩

/-! ## One step -/

/-- What a step can do, with what it found before. -/
inductive Step (c : Connection) : ConnectionAction → Connection → Prop where
  /-- The session task goes on; a new transport comes from an attempt that succeeded. -/
  | moves {action : ConnectionAction} (pc : SessionPc) (going : pc ≠ .ended)
      (transport : ∀ peer remote addrs rest, pc = .connected peer remote addrs rest →
        ∃ addr, c.session = .dialing remote (addr :: addrs) rest ∧ action = .dial true ∧
          SessionPc.peerOf c.config remote addr = some peer) :
      Step c action { c with session := pc }
  /-- The session task runs out of remotes. -/
  | fails {action : ConnectionAction} (message : Text)
      (sends : c.broadcasts action = [.error message]) :
      Step c action { c.send (.error message) with session := .ended }
  | broadcast (event : SessionEvent) : Step c (.broadcast event) (c.send event)
  | disconnects (reason : Text) :
      Step c (.disconnectCommand reason) { c.send (.disconnected reason) with session := .ended }
  | dropped : Step c .handleDropped { c with session := .ended }
  | lags (idle : c.bridge = .recv) (lagged : c.lagged = true) :
      Step c .bridge { c with bridge := .ended }
  | bridgeReceives (event : SessionEvent) (rest : List SessionEvent) (idle : c.bridge = .recv)
      (next : c.queue = event :: rest) :
      Step c .bridge { c with queue := rest, bridge := .receive event }
  | bridgeCloses (idle : c.bridge = .recv) (empty : c.queue = []) (stopped : c.session = .ended) :
      Step c .bridge { c with bridge := .ended }
  | bridgeSends {sent : Connection} (event : DriverEvent) (last : Bool)
      (waiting : c.bridge = .sending event last) (delivered : c.deliver event = some sent) :
      Step c .bridge { sent with bridge := if last then .ended else .recv }
  | bridgeWrites (write : CellWrite) (rest : List CellWrite)
      (waiting : c.bridge = .writing write rest) :
      Step c .bridge { c with cells := c.cells.write write, bridge := .writes rest }
  | monitorReceives {env : Env} {locked : LockedCells} (event : DriverEvent)
      (rest : List DriverEvent) (idle : c.monitor = .recv) (next : c.channel = event :: rest) :
      Step c (.monitor env locked)
        { c with
          channel := rest, daemon := (c.daemon.receive event).1,
          monitor := (c.daemon.receive event).2 }
  | monitorCloses {env : Env} {locked : LockedCells} (idle : c.monitor = .recv)
      (empty : c.channel = []) (stopped : c.bridge = .ended) :
      Step c (.monitor env locked) { c with monitor := .ended }
  | reads {env : Env} {locked : LockedCells} (waiting : c.monitor = .readDriver)
      (free : locked = {} ∨ c.bridge.isWriting = true) :
      Step c (.monitor env locked)
        { c with monitor := .writeSession (c.daemon.readDriver (c.cells.getters locked)) }
  | writesSession {env : Env} {locked : LockedCells} (reading : Reading)
      (waiting : c.monitor = .writeSession reading) :
      Step c (.monitor env locked)
        { c with daemon := c.daemon.writeSession reading, monitor := .setupNetwork reading }
  | setsUp {env : Env} {locked : LockedCells} (reading : Reading)
      (waiting : c.monitor = .setupNetwork reading) :
      Step c (.monitor env locked)
        { c with
          daemon := c.daemon.setupNetwork env c.params c.iface reading,
          applied := some (c.params.setupArgs c.iface reading), monitor := .recv }
  | emits (event : DriverEvent) {sent : Connection} (delivered : c.deliver event = some sent) :
      Step c (.emit event) sent
  | killSwitch (env : Env) (enabled : Bool) (mode : Option KillSwitchMode) :
      Step c (.setKillSwitch env enabled mode)
        { c with
          daemon := c.daemon.onNetwork (NetworkManager.setKillSwitch env enabled mode) }

theorem Step.of_bridge (h : c.stepBridge = some c') : Step c .bridge c' := by
  simp only [stepBridge] at h
  split at h
  · rename_i hbridge
    split at h
    · rename_i hlagged
      obtain rfl := Option.some.inj h
      exact .lags hbridge hlagged
    · split at h
      · rename_i event rest hqueue
        obtain rfl := Option.some.inj h
        exact .bridgeReceives event rest hbridge hqueue
      · rename_i hqueue
        split at h
        · rename_i hsession
          obtain rfl := Option.some.inj h
          exact .bridgeCloses hbridge hqueue hsession
        · cases h
  · rename_i event last hbridge
    obtain ⟨sent, hsent, rfl⟩ := Option.map_eq_some_iff.mp h
    exact .bridgeSends event last hbridge hsent
  · rename_i write rest hbridge
    obtain rfl := Option.some.inj h
    exact .bridgeWrites write rest hbridge
  · cases h

theorem Step.of_monitor {env : Env} {locked : LockedCells}
    (h : c.stepMonitor env locked = some c') : Step c (.monitor env locked) c' := by
  simp only [stepMonitor] at h
  split at h
  · rename_i hmonitor
    split at h
    · rename_i event rest hchannel
      obtain rfl := Option.some.inj h
      exact .monitorReceives event rest hmonitor hchannel
    · rename_i hchannel
      split at h
      · rename_i hbridge
        obtain rfl := Option.some.inj h
        exact .monitorCloses hmonitor hchannel hbridge
      · cases h
  · rename_i hmonitor
    split at h
    · cases h
    · rename_i hfree
      obtain rfl := Option.some.inj h
      refine .reads hmonitor ?_
      by_contra hne
      push Not at hne
      exact hfree ⟨hne.1, by simpa using hne.2⟩
  · rename_i reading hmonitor
    obtain rfl := Option.some.inj h
    exact .writesSession reading hmonitor
  · rename_i reading hmonitor
    obtain rfl := Option.some.inj h
    exact .setsUp reading hmonitor
  · cases h

theorem Step.of_step {action : ConnectionAction} (h : c.step action = some c') :
    Step c action c' := by
  cases action with
  | resolve addrs =>
      simp only [step] at h
      split at h
      · rename_i remotes hsession
        obtain rfl := Option.some.inj h
        rcases resolved_cases remotes addrs with ⟨pc, hpc, hno, hres⟩ | ⟨message, hres⟩
        · rw [hres]
          exact .moves pc hpc fun peer remote addrs rest heq =>
            absurd heq (hno peer remote addrs rest)
        · rw [hres]
          exact .fails message (by simp only [broadcasts, hsession, hres, SessionPc.fail])
      · cases h
  | dial success =>
      simp only [step] at h
      split at h
      · rename_i remote addrs rest hsession
        obtain rfl := Option.some.inj h
        rcases dialed_cases c.config remote addrs rest success with
          ⟨pc, hpc, hpeer, hres⟩ | ⟨message, hres⟩
        · rw [hres]
          refine .moves pc hpc fun peer remote' addrs' rest' heq => ?_
          obtain ⟨addr, rfl, rfl, rfl, rfl, hsome⟩ := hpeer peer remote' addrs' rest' heq
          exact ⟨addr, hsession, rfl, hsome⟩
        · rw [hres]
          exact .fails message (by simp only [broadcasts, hsession, hres, SessionPc.fail])
      · cases h
  | broadcast event =>
      simp only [step] at h
      split at h
      · cases h
      · obtain rfl := Option.some.inj h
        exact .broadcast _
      · cases h
  | pipelineFails =>
      simp only [step] at h
      split at h
      · obtain rfl := Option.some.inj h
        exact .moves _ (by simp) (by simp)
      · cases h
  | disconnectCommand reason =>
      simp only [step] at h
      split at h
      · obtain rfl := Option.some.inj h
        exact .disconnects reason
      · cases h
  | handleDropped =>
      simp only [step] at h
      split at h
      · obtain rfl := Option.some.inj h
        exact .dropped
      · cases h
  | bridge => exact .of_bridge h
  | monitor env locked => exact .of_monitor h
  | emit event => exact .emits event h
  | setKillSwitch env enabled mode =>
      obtain rfl := Option.some.inj h
      exact .killSwitch env enabled mode

end Connection

/-! ### A profile to connect with -/

def office : ConnectParams where
  profileId := "office".toList
  protocol := .openvpnUdp
  serverEndpoint := "203.0.113.7".toList
  serverPort := 1194
  authConfig := .userPassword "alice".toList "secret".toList none none none none none none none

/-- The configuration of a request without a profile: its server is the one remote. -/
def ConnectParams.directConfig (params : ConnectParams) : OpenVpnConfig :=
  finishConfig params {}

/-- What a server pushes with `ifconfig 10.8.0.6 255.255.255.0` and `redirect-gateway`. -/
def pushed : NetworkProvisioningConfig :=
  PushOptions.buildProvisioningConfig
    { ifconfigV4 := some (⟨10, 8, 0, 6⟩, ⟨255, 255, 255, 0⟩)
      redirectGateway := some { enabled := true } }
    office.directConfig

/-- Every command succeeds, with an answer that says nothing. -/
def allSucceed : Env where
  outcome := fun _ _ => .success
  stdout := fun _ _ => none
  lookup := fun _ _ => none

end VpnHub.Daemon
