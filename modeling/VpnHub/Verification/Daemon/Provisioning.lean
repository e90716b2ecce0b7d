import VpnHub.Verification.Daemon.Tasks

/-! When the network is set up with what the server provisioned: the settings travel through
the driver's cells, beside the channel that tells the monitor to read them. -/

namespace VpnHub.Daemon

open Config VpnHub.Core Protocol

/-! ## What the cells will hold -/

/-- The settings of a provisioning as the getters return them. -/
def rendering (prov : NetworkProvisioningConfig) : Reading where
  assignedIp := prov.ipv4Address.map Ipv4Addr.toText
  pushedRoutes := prov.routesV4.map routeText
  isRedirectGateway := prov.redirectGateway.enabled
  searchDomains := prov.searchDomains
  dnsServers := prov.dnsServers.map IpAddr.toText

/-- The writes that the bridge makes for an event. -/
def writesOf : SessionEvent → List CellWrite
  | .networkConfigured prov => provisioningWrites prov
  | _ => []

/-- The writes that the bridge has begun and not yet made. -/
def BridgePc.pending : BridgePc → List CellWrite
  | .writing write rest => write :: rest
  | _ => []

@[simp] theorem BridgePc.pending_recv : BridgePc.recv.pending = [] := rfl

@[simp] theorem BridgePc.pending_writing (write : CellWrite) (rest : List CellWrite) :
    (BridgePc.writing write rest).pending = write :: rest := rfl

@[simp] theorem BridgePc.pending_writes (writes : List CellWrite) :
    (BridgePc.writes writes).pending = writes := by
  cases writes with
  | nil => rfl
  | cons write rest => rfl

@[simp] theorem BridgePc.pending_receive (event : SessionEvent) :
    (BridgePc.receive event).pending = writesOf event := by
  cases event with
  | networkConfigured prov => simp only [receive, pending_writes, writesOf]
  | stateChanged state => rfl
  | authChallenge challenge => rfl
  | statsUpdated stats => rfl
  | disconnected reason => rfl
  | error message => rfl

theorem BridgePc.pending_of_not_writing {bridge : BridgePc} (h : bridge.isWriting = false) :
    bridge.pending = [] := by
  cases bridge with
  | writing write rest => cases h
  | recv => rfl
  | sending report last => rfl
  | ended => rfl

/-- The writes for a provisioning leave its settings, whatever was there before; only an
address that is missing leaves the old one. -/
theorem getters_provisioningWrites (cells : Cells) (prov : NetworkProvisioningConfig)
    (h : prov.ipv4Address = none → cells.assignedIp = none) :
    ((provisioningWrites prov).foldl Cells.write cells).getters {} = rendering prov := by
  cases hip : prov.ipv4Address with
  | none =>
      cases hgw : prov.ipv4Gateway <;>
        simp [provisioningWrites, hip, hgw, Cells.write, Cells.getters, rendering, h hip]
  | some ip =>
      cases hgw : prov.ipv4Gateway <;>
        simp [provisioningWrites, hip, hgw, Cells.write, Cells.getters, rendering]

namespace Connection

variable {c c' : Connection} {event : SessionEvent} {action : ConnectionAction}

/-- The cells when the bridge has made all the writes that are begun or queued. -/
def settled (c : Connection) : Cells :=
  (c.bridge.pending ++ c.queue.flatMap writesOf).foldl Cells.write c.cells

/-! ## Steps that keep the settings together -/

/-- A provisioning that the monitor is going to use: the bridge will write it, before the
monitor has read or used an earlier one, and no address of an earlier one remains. -/
structure Usable (c : Connection) (prov : NetworkProvisioningConfig) : Prop where
  bridged : c.bridge ≠ .ended
  unread : (∃ old ∈ c.provisioned, rendering prov = rendering old) ∨
    c.daemon.state ≠ .connected ∧ c.monitor.reading = none
  address : prov.ipv4Address = none → ∀ old ∈ c.provisioned, old.ipv4Address = none

instance (c : Connection) (prov : NetworkProvisioningConfig) : Decidable (c.Usable prov) :=
  decidable_of_iff
    (c.bridge ≠ .ended ∧
      ((∃ old ∈ c.provisioned, rendering prov = rendering old) ∨
        c.daemon.state ≠ .connected ∧ c.monitor.reading = none) ∧
      (prov.ipv4Address = none → ∀ old ∈ c.provisioned, old.ipv4Address = none))
    ⟨fun h => ⟨h.1, h.2.1, h.2.2⟩, fun h => ⟨h.bridged, h.unread, h.address⟩⟩

/-- The monitor is about to read the driver. -/
def reads (c : Connection) : ConnectionAction → Bool
  | .monitor _ _ => decide (c.monitor = .readDriver)
  | _ => false

def Accepts (c : Connection) : SessionEvent → Prop
  | .networkConfigured prov => c.Room ∧ c.Usable prov
  | _ => c.Room

instance (c : Connection) : DecidablePred c.Accepts
  | .networkConfigured prov => inferInstanceAs (Decidable (c.Room ∧ c.Usable prov))
  | .stateChanged _ => inferInstanceAs (Decidable c.Room)
  | .authChallenge _ => inferInstanceAs (Decidable c.Room)
  | .statsUpdated _ => inferInstanceAs (Decidable c.Room)
  | .disconnected _ => inferInstanceAs (Decidable c.Room)
  | .error _ => inferInstanceAs (Decidable c.Room)

structure InTime (c : Connection) (action : ConnectionAction) : Prop where
  accepts : ∀ event ∈ c.broadcasts action, c.Accepts event
  /-- The monitor reads when the bridge has written every provisioning. -/
  written : c.reads action = true → c.bridge.isWriting = false ∧ c.queue.flatMap writesOf = []

instance (c : Connection) (action : ConnectionAction) : Decidable (c.InTime action) :=
  decidable_of_iff
    ((∀ event ∈ c.broadcasts action, c.Accepts event) ∧
      (c.reads action = true → c.bridge.isWriting = false ∧ c.queue.flatMap writesOf = []))
    ⟨fun h => ⟨h.1, h.2⟩, fun h => ⟨h.accepts, h.written⟩⟩

structure Synced (c : Connection) : Prop where
  lagged : c.lagged = false
  driver : c.daemon.activeDriver.isSome = true
  cells : ∀ prov ∈ c.provisioned, c.settled.getters {} = rendering prov
  fresh : c.provisioned = none → c.settled.assignedIp = none
  reading : ∀ reading ∈ c.monitor.reading, ∀ prov ∈ c.provisioned, reading = rendering prov
  applied : c.daemon.state = .connected → ∀ prov ∈ c.provisioned,
    c.applied = some (c.params.setupArgs c.iface (rendering prov))

/-- The settings of the last provisioning are those of the last network set-up. -/
theorem Synced.provisioningApplied (h : c.Synced) : c.ProvisioningApplied := by
  intro _ hstate prov hprov
  exact ⟨_, h.applied hstate prov hprov, rfl, rfl, rfl, rfl, rfl⟩

/-! ## Each task keeps them together -/

theorem provisioned_send : (c.send event).provisioned =
    match event with
    | .networkConfigured prov => some prov
    | _ => c.provisioned := by
  simp only [send]
  split
  · rfl
  · split
    · rfl
    · rfl

/-- What is queued is going to be written. -/
theorem settled_send (hroom : c.Room) (h : c.bridge = .ended → writesOf event = []) :
    (c.send event).settled = (writesOf event).foldl Cells.write c.settled := by
  obtain ⟨queue, lagged, provisioned, hsend⟩ := c.send_frame event
  have hqueue : queue.flatMap writesOf = c.queue.flatMap writesOf ++ writesOf event := by
    by_cases hbridge : c.bridge = .ended
    · have hkept : (c.send event).queue = c.queue := by simp [send, hbridge]
      rw [hsend] at hkept
      obtain rfl : queue = c.queue := hkept
      rw [h hbridge, List.append_nil]
    · have happend := @queue_send c event hroom hbridge
      rw [hsend] at happend
      obtain rfl : queue = c.queue ++ [event] := happend
      simp
  rw [hsend]
  simp only [settled, hqueue, ← List.append_assoc, List.foldl_append]

theorem Synced.send_quiet (h : c.Synced) (hroom : c.Room) (hwrites : writesOf event = [])
    (hprov : (c.send event).provisioned = c.provisioned) : (c.send event).Synced := by
  have hsettled := settled_send hroom fun _ => hwrites
  have hlagged := @lagged_send c event hroom
  rw [hwrites] at hsettled
  obtain ⟨queue, lagged, provisioned, hsend⟩ := c.send_frame event
  rw [hsend] at hsettled hlagged hprov ⊢
  obtain rfl : provisioned = c.provisioned := hprov
  refine ⟨hlagged.trans h.lagged, h.driver, ?_, ?_, h.reading, h.applied⟩
  · rw [hsettled]
    exact h.cells
  · rw [hsettled]
    exact h.fresh

/-- A usable provisioning is the one that the cells will hold. -/
theorem Synced.send_configured {prov : NetworkProvisioningConfig} (h : c.Synced)
    (hroom : c.Room) (husable : c.Usable prov) :
    (c.send (.networkConfigured prov)).Synced := by
  have hsettled := @settled_send c (.networkConfigured prov) hroom
    fun hended => absurd hended husable.bridged
  have hlagged := @lagged_send c (.networkConfigured prov) hroom
  have hprov := @provisioned_send c (.networkConfigured prov)
  have haddress : prov.ipv4Address = none → c.settled.assignedIp = none := by
    intro hnone
    cases hold : c.provisioned with
    | none => exact h.fresh hold
    | some old =>
        have hcells := congrArg Reading.assignedIp (h.cells old hold)
        simpa [rendering, husable.address hnone old hold, Cells.getters] using hcells
  obtain ⟨queue, lagged, provisioned, hsend⟩ := c.send_frame (.networkConfigured prov)
  rw [hsend] at hsettled hlagged hprov ⊢
  obtain rfl : provisioned = some prov := hprov
  refine ⟨hlagged.trans h.lagged, h.driver, ?_, fun hnone => ?_, ?_, ?_⟩
  · rintro _ ⟨⟩
    rw [hsettled]
    exact getters_provisioningWrites c.settled prov haddress
  · cases hnone
  · rintro reading hreading _ ⟨⟩
    rcases husable.unread with ⟨old, hold, hsame⟩ | ⟨-, hnone⟩
    · rw [hsame]
      exact h.reading reading hreading old hold
    · rw [hnone] at hreading
      cases hreading
  · rintro hstate _ ⟨⟩
    rcases husable.unread with ⟨old, hold, hsame⟩ | ⟨hstate', -⟩
    · rw [hsame]
      exact h.applied hstate old hold
    · exact absurd hstate hstate'

theorem Synced.send (h : c.Synced) (haccepts : c.Accepts event) : (c.send event).Synced := by
  cases event with
  | networkConfigured prov => exact h.send_configured haccepts.1 haccepts.2
  | stateChanged state => exact h.send_quiet haccepts rfl provisioned_send
  | authChallenge challenge => exact h.send_quiet haccepts rfl provisioned_send
  | statsUpdated stats => exact h.send_quiet haccepts rfl provisioned_send
  | disconnected reason => exact h.send_quiet haccepts rfl provisioned_send
  | error message => exact h.send_quiet haccepts rfl provisioned_send

/-- A step of the bridge that loses no write. -/
theorem Synced.bridge (h : c.Synced) {queue : List SessionEvent} {cells : Cells}
    {channel : List DriverEvent} {bridge : BridgePc} {reported : Bool}
    (hsettled : (bridge.pending ++ queue.flatMap writesOf).foldl Cells.write cells = c.settled) :
    Synced { c with queue, cells, channel, bridge, reported } := by
  refine ⟨h.lagged, h.driver, ?_, ?_, h.reading, h.applied⟩
  · intro prov hprov
    exact (congrArg (Cells.getters · {}) hsettled).trans (h.cells prov hprov)
  · intro hnone
    exact (congrArg Cells.assignedIp hsettled).trans (h.fresh hnone)

theorem Synced.step (h : c.Synced) (hin : c.InTime action) (hstep : Step c action c') :
    c'.Synced := by
  cases hstep with
  | moves pc going => exact ⟨h.lagged, h.driver, h.cells, h.fresh, h.reading, h.applied⟩
  | fails message sends =>
      have hsent := h.send (hin.accepts (.error message) (by simp [sends]))
      exact ⟨hsent.lagged, hsent.driver, hsent.cells, hsent.fresh, hsent.reading, hsent.applied⟩
  | broadcast event => exact h.send (hin.accepts event (by simp [broadcasts]))
  | disconnects reason =>
      have hsent := h.send (hin.accepts (.disconnected reason) (by simp [broadcasts]))
      exact ⟨hsent.lagged, hsent.driver, hsent.cells, hsent.fresh, hsent.reading, hsent.applied⟩
  | dropped => exact ⟨h.lagged, h.driver, h.cells, h.fresh, h.reading, h.applied⟩
  | lags idle lagged =>
      rw [h.lagged] at lagged
      cases lagged
  | bridgeReceives event rest idle next =>
      refine h.bridge ?_
      simp [settled, idle, next]
  | bridgeCloses idle empty stopped =>
      refine h.bridge ?_
      simp [settled, idle, BridgePc.pending]
  | bridgeSends report last waiting delivered =>
      obtain ⟨channel, rfl⟩ := deliver_frame delivered
      refine h.bridge ?_
      cases last <;> simp [settled, waiting, BridgePc.pending]
  | bridgeWrites write rest waiting =>
      refine h.bridge ?_
      simp [settled, waiting]
  | monitorReceives report rest idle next =>
      obtain ⟨state, hdaemon, hstate, hreading⟩ := receive_frame c.daemon report
      rw [hdaemon]
      refine ⟨h.lagged, h.driver, h.cells, h.fresh, ?_, fun hnow => h.applied (hstate hnow)⟩
      intro reading hsome
      rw [hreading] at hsome
      cases hsome
  | monitorCloses idle empty stopped =>
      refine ⟨h.lagged, h.driver, h.cells, h.fresh, ?_, h.applied⟩
      intro reading hreading
      cases hreading
  | @reads env locked waiting free =>
      obtain ⟨hwriting, hqueue⟩ := hin.written (by simp [Connection.reads, waiting])
      obtain rfl : locked = {} := free.resolve_right (by simp [hwriting])
      refine ⟨h.lagged, h.driver, h.cells, h.fresh, ?_, h.applied⟩
      rintro _ ⟨⟩ prov hprov
      have hnow : c.settled = c.cells := by
        simp [settled, BridgePc.pending_of_not_writing hwriting, hqueue]
      have hcells := h.cells prov hprov
      rw [hnow] at hcells
      simp only [Daemon.readDriver, h.driver, if_true]
      exact hcells
  | writesSession reading waiting =>
      refine ⟨h.lagged, h.driver, h.cells, h.fresh, ?_, h.applied⟩
      rintro _ ⟨⟩
      exact h.reading reading (by simp [waiting, MonitorPc.reading])
  | setsUp reading waiting =>
      refine ⟨h.lagged, h.driver, h.cells, h.fresh, ?_, ?_⟩
      · intro _ hnone
        cases hnone
      · intro _ prov hprov
        rw [h.reading reading (by simp [waiting, MonitorPc.reading]) prov hprov]
  | emits report delivered =>
      obtain ⟨channel, rfl⟩ := deliver_frame delivered
      exact ⟨h.lagged, h.driver, h.cells, h.fresh, h.reading, h.applied⟩
  | killSwitch env enabled mode =>
      exact ⟨h.lagged, h.driver, h.cells, h.fresh, h.reading, h.applied⟩

theorem writes_start (config : OpenVpnConfig) :
    (SessionPc.start config).2.flatMap writesOf = [] := by
  simp only [SessionPc.start]
  split
  · rfl
  · rfl

theorem Synced.initial (config : OpenVpnConfig) (params : ConnectParams) (iface : Text)
    (host : Host) : (initial config params iface host).Synced where
  lagged := rfl
  driver := rfl
  cells := by
    intro prov hprov
    cases hprov
  fresh := by
    intro _
    simp [Connection.initial, settled, BridgePc.start, BridgePc.pending, writes_start]
  reading := by
    intro reading hreading
    cases hreading
  applied := by
    intro hstate
    cases hstate

/-- In every state that steps in time lead to, the last set-up used the last provisioning. -/
theorem provisioningApplied_of_inTime {config : OpenVpnConfig} {params : ConnectParams}
    {iface : Text} {host : Host} {actions : List ConnectionAction}
    (run : Transition.Run step InTime (initial config params iface host) actions c) :
    c.ProvisioningApplied := by
  have hsynced : c.Synced := run.invariant
    (fun _ _ _ hin hstep h => h.step hin (.of_step hstep)) (.initial config params iface host)
  exact hsynced.provisioningApplied

/-! ### A provisioning and its reader -/

/-- The session comes up and the engine provisions the network. -/
def comesUp : List ConnectionAction :=
  [.bridge, .monitor allSucceed {}, .resolve (some [⟨.v4 ⟨203, 0, 113, 7⟩, 1194⟩]), .dial true,
    .broadcast (.stateChanged .connected), .broadcast (.networkConfigured pushed)]

/-- The monitor takes `Connected`, reads the driver, stores the address and sets up. -/
def monitorSetsUp : List ConnectionAction := List.replicate 4 (.monitor allSucceed {})

theorem provisioningApplied_of_inTime_written : ∃ c, Transition.Run step InTime
    (initial office.directConfig office "tun0".toList {})
    (comesUp ++ List.replicate 8 .bridge ++ monitorSetsUp) c ∧
    c.daemon.state = .connected ∧ c.provisioned = some pushed ∧ c.ProvisioningApplied := by
  have hend : (Transition.runList step InTime
      (initial office.directConfig office "tun0".toList {})
      (comesUp ++ List.replicate 8 .bridge ++ monitorSetsUp)).any (fun c =>
        decide (c.daemon.state = .connected ∧ c.provisioned = some pushed)) = true := by
    decide +kernel
  obtain ⟨c, run, hc⟩ := Transition.exists_run_of_any hend
  obtain ⟨hstate, hprov⟩ := of_decide_eq_true hc
  exact ⟨c, run, hstate, hprov, provisioningApplied_of_inTime run⟩

/-- The engine announces `Connected` before the provisioning, and the monitor reads the cells
in between. -/
theorem setup_before_provisioning : ¬ ∀ (config : OpenVpnConfig) (params : ConnectParams)
    (iface : Text) (host : Host) (actions : List ConnectionAction) (c : Connection),
    Transition.Run step (fun _ _ => True) (initial config params iface host) actions c →
      c.ProvisioningApplied := by
  intro hclaim
  have hend : (Transition.runList step (fun _ _ => True)
      (initial office.directConfig office "tun0".toList {})
      (comesUp ++ List.replicate 2 .bridge ++ monitorSetsUp ++ List.replicate 6 .bridge)).any
        (fun c => decide ((c.bridge = .recv ∧ c.queue = [] ∧ c.lagged = false) ∧
          (c.monitor = .recv ∧ c.channel = []) ∧ c.daemon.state = .connected ∧
          c.provisioned = some pushed ∧ c.applied.bind (·.assignedIp) = none)) = true := by
    decide +kernel
  obtain ⟨c, run, hc⟩ := Transition.exists_run_of_any hend
  obtain ⟨hbridge, hmonitor, hstate, hprov, hnone⟩ := of_decide_eq_true hc
  obtain ⟨args, hargs, haddress, -⟩ :=
    hclaim _ _ _ _ _ c run ⟨.inr hbridge, .inr hmonitor⟩ hstate pushed hprov
  rw [Option.mem_def.mp hargs] at hnone
  have hsome : (some args).bind (·.assignedIp) = some (Ipv4Addr.toText ⟨10, 8, 0, 6⟩) := haddress
  rw [hnone] at hsome
  cases hsome

end Connection

end VpnHub.Daemon
