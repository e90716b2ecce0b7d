import VpnHub.Verification.Daemon.Tasks

/-! When the end of a tunnel reaches the state that the daemon reports: the session's broadcast,
the bridge's report and the monitor's transition have each to let it through. -/

namespace VpnHub.Daemon

open Config VpnHub.Core Protocol

/-! ## What the bridge and the monitor make of the end -/

/-- An event of the session with which the bridge ends. -/
def closing : SessionEvent → Bool
  | .disconnected _ => true
  | .error _ => true
  | _ => false

/-- The bridge is about to send its last event. -/
def BridgePc.isLast : BridgePc → Bool
  | .sending _ last => last
  | _ => false

theorem isLast_receive {event : SessionEvent} (h : closing event = true) :
    (BridgePc.receive event).isLast = true := by
  cases event with
  | disconnected reason => rfl
  | error message => rfl
  | stateChanged state => cases h
  | networkConfigured prov => cases h
  | authChallenge challenge => cases h
  | statsUpdated stats => cases h

/-- A bridge with writes to make neither sends nor ends. -/
theorem writes_ne (writes : List CellWrite) :
    (∀ report last, BridgePc.writes writes ≠ .sending report last) ∧
      BridgePc.writes writes ≠ .ended := by
  cases writes with
  | nil => simp [BridgePc.writes]
  | cons write rest => simp [BridgePc.writes]

theorem terminal_of_receive {event : SessionEvent} {report : DriverEvent}
    (h : BridgePc.receive event = .sending report true) : report.terminal = true := by
  cases event with
  | disconnected reason =>
      cases h
      rfl
  | error message =>
      cases h
      rfl
  | networkConfigured prov => exact absurd h ((writes_ne _).1 report true)
  | stateChanged state => cases h
  | authChallenge challenge => cases h
  | statsUpdated stats => cases h

theorem receive_ne_ended (event : SessionEvent) : BridgePc.receive event ≠ .ended := by
  cases event with
  | networkConfigured prov => exact (writes_ne _).2
  | disconnected reason => simp [BridgePc.receive]
  | error message => simp [BridgePc.receive]
  | stateChanged state => simp [BridgePc.receive]
  | authChallenge challenge => simp [BridgePc.receive]
  | statsUpdated stats => simp [BridgePc.receive]

/-- An error is reported from every state but `Disconnected`. -/
theorem SessionState.attempt_error (state : SessionState) :
    state.attempt .error = .error ∨ state.attempt .error = .disconnected := by
  cases state <;> decide

/-- The only way out of `Disconnected` is to connect again. -/
theorem SessionState.attempt_of_disconnected {next : SessionState} (h : next ≠ .connecting) :
    SessionState.disconnected.attempt next = .disconnected := by
  cases next <;> first | rfl | exact absurd rfl h

section Monitor

variable {d : Daemon} {event : DriverEvent}

/-- Only a fatal error ends the monitor, and it leaves no tunnel reported. -/
theorem state_receive_ended (h : (d.receive event).2 = .ended) :
    (d.receive event).1.state = .error ∨ (d.receive event).1.state = .disconnected := by
  cases event with
  | fatalError e => exact d.state.attempt_error
  | log level message => cases h
  | metrics metrics => cases h
  | stateChanged next =>
      simp only [Daemon.receive] at h
      split at h
      · cases h
      · split at h <;> cases h

theorem state_receive_disconnected (h : d.state = .disconnected)
    (hevent : event ≠ .stateChanged .connecting) :
    (d.receive event).1.state = .disconnected := by
  cases event with
  | fatalError e =>
      simp only [Daemon.receive, h]
      exact SessionState.attempt_of_disconnected (by simp)
  | log level message => exact h
  | metrics metrics => exact h
  | stateChanged next =>
      simp only [Daemon.receive]
      split
      · exact h
      · split
        · exact h
        · simp only [h]
          exact SessionState.attempt_of_disconnected fun hnext => hevent (hnext ▸ rfl)

/-- The monitor ends with the report of the end, or the daemon is disconnected. -/
theorem receive_terminal (hterminal : event.terminal = true)
    (hvalid : event = .stateChanged .disconnected →
      d.state = .disconnected ∨ d.state.isValidTransition .disconnected = true) :
    (d.receive event).2 = .ended ∨ (d.receive event).1.state = .disconnected := by
  cases event with
  | fatalError e => exact .inl rfl
  | log level message => cases hterminal
  | metrics metrics => cases hterminal
  | stateChanged next =>
      obtain rfl : next = .disconnected := by
        cases next <;> first | rfl | cases hterminal
      refine .inr ?_
      simp only [Daemon.receive]
      split
      · rename_i hstate
        exact hstate
      · simp [SessionState.attempt_eq, hvalid rfl]

end Monitor

namespace Connection

variable {c c' : Connection} {event : SessionEvent} {report : DriverEvent}
  {action : ConnectionAction}

/-! ## The end on its way -/

/-- The end of the session is on its way to the monitor, or was sent to it. -/
def Announced (c : Connection) : Prop :=
  c.reported = true ∨ (∃ event ∈ c.queue, closing event = true) ∨ c.bridge.isLast = true

instance (c : Connection) : Decidable c.Announced := inferInstanceAs (Decidable (_ ∨ _ ∨ _))

/-- What a report comes to: the monitor has ended, or the daemon is disconnected for good, or
the report is still queued and no connection is announced after it. -/
def Settling (c : Connection) : Prop :=
  c.monitor = .ended ∨
    (c.daemon.state = .disconnected ∧ .stateChanged .connecting ∉ c.channel) ∨
    ∃ front report back, c.channel = front ++ report :: back ∧ report.terminal = true ∧
      .stateChanged .connecting ∉ back

/-- A step that lets the end of a tunnel through. -/
structure Heard (c : Connection) (action : ConnectionAction) : Prop where
  /-- A broadcast overwrites nothing before the end is reported. -/
  room : c.broadcasts action ≠ [] → c.reported = true ∨ c.Room
  /-- The session does not end silently. -/
  spoken : action.isHandleDropped = true → c.Announced
  /-- No connection is announced after the report. -/
  final : c.delivers action = some (.stateChanged .connecting) → c.reported = false
  /-- `Disconnected` is taken in a state that leads there. -/
  valid : c.takes action = some (.stateChanged .disconnected) →
    c.daemon.state = .disconnected ∨ c.daemon.state.isValidTransition .disconnected = true

instance (c : Connection) (action : ConnectionAction) : Decidable (c.Heard action) :=
  decidable_of_iff
    ((c.broadcasts action ≠ [] → c.reported = true ∨ c.Room) ∧
      (action.isHandleDropped = true → c.Announced) ∧
      (c.delivers action = some (.stateChanged .connecting) → c.reported = false) ∧
      (c.takes action = some (.stateChanged .disconnected) →
        c.daemon.state = .disconnected ∨ c.daemon.state.isValidTransition .disconnected = true))
    ⟨fun h => ⟨h.1, h.2.1, h.2.2.1, h.2.2.2⟩, fun h => ⟨h.room, h.spoken, h.final, h.valid⟩⟩

structure Watched (c : Connection) : Prop where
  lagged : c.lagged = true → c.reported = true
  bridge : c.bridge = .ended → c.reported = true
  last : ∀ report, c.bridge = .sending report true → report.terminal = true
  session : c.session = .ended → c.Announced
  settling : c.reported = true → c.Settling
  monitor : c.monitor = .ended → c.daemon.state = .error ∨ c.daemon.state = .disconnected

/-- Once everything is consumed, a watched connection is not reported as up after its end. -/
theorem Watched.downSeen (h : c.Watched) : c.DownSeen := by
  intro hend hquiet hup
  have hreported : c.reported = true := by
    rcases hend with hsession | hreported
    · rcases h.session hsession with hreported | ⟨event, hevent, -⟩ | hlast
      · exact hreported
      · rcases hquiet.1 with hended | ⟨-, hqueue, -⟩
        · exact h.bridge hended
        · rw [hqueue] at hevent
          cases hevent
      · rcases hquiet.1 with hended | ⟨hrecv, -⟩
        · exact h.bridge hended
        · rw [hrecv] at hlast
          cases hlast
    · exact hreported
  have hdown : c.daemon.state = .error ∨ c.daemon.state = .disconnected := by
    rcases h.settling hreported with hended | ⟨hstate, -⟩ | ⟨front, report, back, hchannel, -⟩
    · exact h.monitor hended
    · exact .inr hstate
    · rcases hquiet.2 with hended | ⟨-, hempty⟩
      · exact h.monitor hended
      · simp [hempty] at hchannel
  rcases hdown with hstate | hstate
  · simp [ReportedUp, hstate] at hup
  · simp [ReportedUp, hstate] at hup

/-! ## Each task keeps watch -/

theorem Announced.send (h : c.Announced) (hroom : c.reported = true ∨ c.Room) :
    (c.send event).Announced := by
  rcases h with hreported | ⟨old, hold, hclosing⟩ | hlast
  · exact .inl (by simpa using hreported)
  · rcases hroom with hreported | hroom
    · exact .inl (by simpa using hreported)
    · exact .inr (.inl ⟨old, mem_queue_send hroom hold, hclosing⟩)
  · exact .inr (.inr (by simpa using hlast))

/-- A session that ends says so: the broadcast is queued, or the bridge has ended before. -/
theorem Watched.announced_send (h : c.Watched) (hroom : c.reported = true ∨ c.Room)
    (hclosing : closing event = true) : (c.send event).Announced := by
  rcases hroom with hreported | hroom
  · exact .inl (by simpa using hreported)
  · by_cases hbridge : c.bridge = .ended
    · exact .inl (by simpa using h.bridge hbridge)
    · refine .inr (.inl ⟨event, ?_, hclosing⟩)
      rw [queue_send hroom hbridge]
      exact List.mem_append_right _ (List.mem_singleton_self event)

theorem Watched.send (h : c.Watched) (hroom : c.reported = true ∨ c.Room) :
    (c.send event).Watched := by
  have hlagged : (c.send event).lagged = true → c.reported = true := by
    intro hlag
    rcases hroom with hreported | hroom
    · exact hreported
    · exact h.lagged ((lagged_send hroom).symm.trans hlag)
  have hsession : c.session = .ended → (c.send event).Announced :=
    fun hended => (h.session hended).send hroom
  obtain ⟨queue, lagged, provisioned, hsend⟩ := c.send_frame event
  rw [hsend] at hlagged hsession ⊢
  exact ⟨hlagged, h.bridge, h.last, hsession, h.settling, h.monitor⟩

theorem Watched.moves (h : c.Watched) {pc : SessionPc} (hpc : pc = .ended → c.Announced) :
    Watched { c with session := pc } :=
  ⟨h.lagged, h.bridge, h.last, hpc, h.settling, h.monitor⟩

/-- An event is sent to the monitor. -/
theorem Settling.deliver (h : c.reported = true → c.Settling)
    (hfinal : report = .stateChanged .connecting → c.reported = false)
    (hsent : c.deliver report = some c') : c'.reported = true → c'.Settling := by
  intro hreported
  rcases deliver_cases hsent with ⟨hmonitor, rfl⟩ | ⟨hmonitor, -, rfl⟩
  · exact .inl hmonitor
  · cases hbefore : c.reported with
    | true =>
        have hreport : report ≠ .stateChanged .connecting := by
          intro heq
          rw [hfinal heq] at hbefore
          cases hbefore
        rcases h hbefore with hended | ⟨hstate, hchannel⟩ |
          ⟨front, last, back, hchannel, hterminal, hback⟩
        · exact .inl hended
        · refine .inr (.inl ⟨hstate, ?_⟩)
          simp [hchannel, hreport.symm]
        · refine .inr (.inr ⟨front, last, back ++ [report], ?_, hterminal, ?_⟩)
          · simp [hchannel]
          · simp [hback, hreport.symm]
    | false =>
        have hterminal : report.terminal = true := by simpa [hbefore] using hreported
        exact .inr (.inr ⟨c.channel, report, [], rfl, hterminal, by simp⟩)

/-- The monitor takes the next event. -/
theorem Settling.receive {rest : List DriverEvent} (h : c.Settling) (hmonitor : c.monitor ≠ .ended)
    (hchannel : c.channel = report :: rest)
    (hvalid : report = .stateChanged .disconnected →
      c.daemon.state = .disconnected ∨ c.daemon.state.isValidTransition .disconnected = true) :
    Settling { c with
      channel := rest, daemon := (c.daemon.receive report).1,
      monitor := (c.daemon.receive report).2 } := by
  rcases h with hended | ⟨hstate, hclear⟩ | ⟨front, last, back, hqueued, hterminal, hback⟩
  · exact absurd hended hmonitor
  · rw [hchannel] at hclear
    refine .inr (.inl ⟨?_, fun hmem => hclear (List.mem_cons_of_mem _ hmem)⟩)
    exact state_receive_disconnected hstate fun heq => hclear (heq ▸ List.mem_cons_self)
  · rw [hchannel] at hqueued
    cases front with
    | nil =>
        obtain ⟨rfl, rfl⟩ := List.cons.inj hqueued
        rcases receive_terminal hterminal hvalid with hended | hstate
        · exact .inl hended
        · exact .inr (.inl ⟨hstate, hback⟩)
    | cons first front =>
        obtain ⟨-, rfl⟩ := List.cons.inj hqueued
        exact .inr (.inr ⟨front, last, back, rfl, hterminal, hback⟩)

/-- The monitor goes on without an event, and the daemon stays disconnected if it was. -/
theorem Settling.proceed (h : c.Settling) (hmonitor : c.monitor ≠ .ended) {d : Daemon}
    (hstate : c.daemon.state = .disconnected → d.state = .disconnected) (pc : MonitorPc)
    (applied : Option SetupArgs) :
    Settling { c with daemon := d, monitor := pc, applied := applied } := by
  rcases h with hended | ⟨hdown, hclear⟩ | hqueued
  · exact absurd hended hmonitor
  · exact .inr (.inl ⟨hstate hdown, hclear⟩)
  · exact .inr (.inr hqueued)

theorem Watched.proceed (h : c.Watched) (hmonitor : c.monitor ≠ .ended) {d : Daemon}
    (hstate : c.daemon.state = .disconnected → d.state = .disconnected) {pc : MonitorPc}
    (hpc : pc ≠ .ended) (applied : Option SetupArgs) :
    Watched { c with daemon := d, monitor := pc, applied := applied } :=
  ⟨h.lagged, h.bridge, h.last, h.session,
    fun hreported => (h.settling hreported).proceed hmonitor hstate pc applied,
    fun hended => absurd hended hpc⟩

/-- The bridge ends after the end was reported. -/
theorem Watched.stops (h : c.Watched) (hreported : c.reported = true) :
    Watched { c with bridge := .ended } := by
  refine ⟨h.lagged, fun _ => hreported, ?_, fun _ => .inl hreported, h.settling, h.monitor⟩
  intro report hlast
  cases hlast

theorem Watched.step (h : c.Watched) (hheard : c.Heard action) (hstep : Step c action c') :
    c'.Watched := by
  cases hstep with
  | moves pc going => exact h.moves fun hended => absurd hended going
  | fails message sends =>
      have hroom := hheard.room (by simp [sends])
      exact (h.send hroom).moves fun _ => h.announced_send hroom rfl
  | broadcast event => exact h.send (hheard.room (by simp [broadcasts]))
  | disconnects reason =>
      have hroom := hheard.room (by simp [broadcasts])
      exact (h.send hroom).moves fun _ => h.announced_send hroom rfl
  | dropped => exact h.moves fun _ => hheard.spoken rfl
  | lags idle lagged => exact h.stops (h.lagged lagged)
  | bridgeReceives event rest idle next =>
      refine ⟨h.lagged, fun hended => absurd hended (receive_ne_ended event),
        fun report hlast => terminal_of_receive hlast, ?_, h.settling, h.monitor⟩
      intro hended
      rcases h.session hended with hreported | ⟨old, hold, hclosing⟩ | hlast
      · exact .inl hreported
      · rw [next] at hold
        rcases List.mem_cons.mp hold with rfl | hold
        · exact .inr (.inr (isLast_receive hclosing))
        · exact .inr (.inl ⟨old, hold, hclosing⟩)
      · rw [idle] at hlast
        cases hlast
  | bridgeCloses idle empty stopped =>
      have hreported : c.reported = true := by
        rcases h.session stopped with hreported | ⟨old, hold, -⟩ | hlast
        · exact hreported
        · rw [empty] at hold
          cases hold
        · rw [idle] at hlast
          cases hlast
      exact h.stops hreported
  | bridgeSends report last waiting delivered =>
      have hsettling := Settling.deliver h.settling
        (fun heq => hheard.final (by simp [delivers, waiting, heq])) delivered
      obtain ⟨channel, rfl⟩ := deliver_frame delivered
      refine ⟨?_, ?_, ?_, ?_, hsettling, h.monitor⟩
      · intro hlagged
        simp [h.lagged hlagged]
      · intro hended
        cases last with
        | true => simp [h.last report waiting]
        | false => cases hended
      · intro report' hbridge
        cases last with
        | true => cases hbridge
        | false => cases hbridge
      · intro hended
        rcases h.session hended with hreported | hqueued | hlast
        · exact .inl (by simp [hreported])
        · exact .inr (.inl hqueued)
        · obtain rfl : last = true := by simpa [waiting, BridgePc.isLast] using hlast
          exact .inl (by simp [h.last report waiting])
  | bridgeWrites write rest waiting =>
      refine ⟨h.lagged, fun hended => absurd hended (writes_ne rest).2,
        fun report hlast => absurd hlast ((writes_ne rest).1 report true), ?_, h.settling,
        h.monitor⟩
      intro hended
      rcases h.session hended with hreported | hqueued | hlast
      · exact .inl hreported
      · exact .inr (.inl hqueued)
      · rw [waiting] at hlast
        cases hlast
  | monitorReceives report rest idle next =>
      refine ⟨h.lagged, h.bridge, h.last, h.session, ?_, state_receive_ended⟩
      intro hreported
      refine (h.settling hreported).receive (by simp [idle]) next fun heq => ?_
      exact hheard.valid (by simp [takes, idle, next, heq])
  | monitorCloses idle empty stopped =>
      refine ⟨h.lagged, h.bridge, h.last, h.session, fun _ => .inl rfl, fun _ => .inr ?_⟩
      rcases h.settling (h.bridge stopped) with hended | ⟨hstate, -⟩ | ⟨front, last, back, hqueued, -⟩
      · rw [idle] at hended
        cases hended
      · exact hstate
      · simp [empty] at hqueued
  | reads waiting free =>
      exact h.proceed (by simp [waiting]) (d := c.daemon) id (by simp) c.applied
  | writesSession reading waiting =>
      have hpc : MonitorPc.setupNetwork reading ≠ .ended := by simp
      exact h.proceed (d := c.daemon.writeSession reading) (by simp [waiting]) id hpc c.applied
  | setsUp reading waiting =>
      refine h.proceed (by simp [waiting]) (fun hstate => ?_) (by simp) _
      change c.daemon.state.attempt .connected = .disconnected
      rw [hstate]
      exact SessionState.attempt_of_disconnected (by simp)
  | emits report delivered =>
      have hsettling := Settling.deliver h.settling
        (fun heq => hheard.final (by simp [delivers, heq])) delivered
      obtain ⟨channel, rfl⟩ := deliver_frame delivered
      refine ⟨fun hlagged => by simp [h.lagged hlagged], fun hended => by simp [h.bridge hended],
        h.last, ?_, hsettling, h.monitor⟩
      intro hended
      rcases h.session hended with hreported | hqueued | hbridge
      · exact .inl (by simp [hreported])
      · exact .inr (.inl hqueued)
      · exact .inr (.inr hbridge)
  | killSwitch env enabled mode =>
      exact ⟨h.lagged, h.bridge, h.last, h.session, h.settling, h.monitor⟩

theorem Watched.initial (config : OpenVpnConfig) (params : ConnectParams) (iface : Text)
    (host : Host) : (initial config params iface host).Watched where
  lagged := fun hlagged => by cases hlagged
  bridge := fun hended => by cases hended
  last := fun _ hlast => by cases hlast
  settling := fun hreported => by cases hreported
  monitor := fun hended => by cases hended
  session := by
    intro hended
    refine .inr (.inl ⟨.error SessionPc.allRemotesFailed, ?_, rfl⟩)
    simp only [Connection.initial, SessionPc.start] at hended ⊢
    split at hended
    · rename_i hremotes
      simp [hremotes, SessionPc.fail]
    · cases hended

/-- In every state that heard steps lead to, a tunnel that is gone is not reported as up. -/
theorem downSeen_of_heard {config : OpenVpnConfig} {params : ConnectParams} {iface : Text}
    {host : Host} {actions : List ConnectionAction}
    (run : Transition.Run step Heard (initial config params iface host) actions c) :
    c.DownSeen := by
  have hwatched : c.Watched := run.invariant
    (fun _ _ _ hheard hstep h => h.step hheard (.of_step hstep))
    (.initial config params iface host)
  exact hwatched.downSeen

/-! ### A connection and its end -/

theorem downSeen_of_heard_unresolved : ∃ c, Transition.Run step Heard
    (initial office.directConfig office "tun0".toList {})
    [.bridge, .monitor allSucceed {}, .resolve none, .resolve none, .bridge, .bridge,
      .monitor allSucceed {}] c ∧ c.session = .ended ∧ c.reported = true ∧ c.DownSeen := by
  have hend : (Transition.runList step Heard (initial office.directConfig office "tun0".toList {})
      [.bridge, .monitor allSucceed {}, .resolve none, .resolve none, .bridge, .bridge,
        .monitor allSucceed {}]).any (fun c =>
          decide (c.session = .ended ∧ c.reported = true)) = true := by
    decide +kernel
  obtain ⟨c, run, hc⟩ := Transition.exists_run_of_any hend
  obtain ⟨hsession, hreported⟩ := of_decide_eq_true hc
  exact ⟨c, run, hsession, hreported, downSeen_of_heard run⟩

/-- The server closes the session of a daemon that is connected, and stays reported so. -/
theorem connected_after_end : ¬ ∀ (config : OpenVpnConfig) (params : ConnectParams) (iface : Text)
    (host : Host) (actions : List ConnectionAction) (c : Connection),
    Transition.Run step (fun _ _ => True) (initial config params iface host) actions c →
      c.DownSeen := by
  intro hclaim
  have hend : (Transition.runList step (fun _ _ => True)
      (initial office.directConfig office "tun0".toList {})
      [.bridge, .monitor allSucceed {}, .resolve (some [⟨.v4 ⟨203, 0, 113, 7⟩, 1194⟩]), .dial true,
        .broadcast (.stateChanged .connected), .bridge, .bridge, .monitor allSucceed {},
        .monitor allSucceed {}, .monitor allSucceed {}, .monitor allSucceed {},
        .broadcast (.disconnected "Server closed session".toList), .bridge, .bridge,
        .monitor allSucceed {}]).any (fun c =>
          decide (c.reported = true ∧ c.bridge = .ended ∧ c.monitor = .recv ∧ c.channel = [] ∧
            c.daemon.state = .connected)) = true := by
    decide +kernel
  obtain ⟨c, run, hc⟩ := Transition.exists_run_of_any hend
  obtain ⟨hreported, hbridge, hmonitor, hchannel, hstate⟩ := of_decide_eq_true hc
  exact hclaim _ _ _ _ _ c run (.inr hreported) ⟨.inl hbridge, .inr ⟨hmonitor, hchannel⟩⟩
    (.inl hstate)

end Connection

end VpnHub.Daemon
