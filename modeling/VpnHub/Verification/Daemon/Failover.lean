import VpnHub.Verification.Daemon.Tasks

/-! # The order of the remotes

The session dials the addresses of its remotes one after another and comes back to none, whatever
the other tasks of the connection do meanwhile. -/

namespace VpnHub.Daemon

open Config VpnHub.Core

/-- A remote with one of its addresses. -/
abbrev Candidate := RemoteEntry × SocketAddr

/-- A remote that was looked up, with what was found. -/
abbrev Lookup := RemoteEntry × List SocketAddr

def candidates (lookups : List Lookup) : List Candidate :=
  lookups.flatMap fun lookup => lookup.2.map (lookup.1, ·)

/-! ## The session alone -/

namespace SessionPc

open VpnHub.Core.SessionPc

/-- The remotes that are not looked up yet. -/
def left : Core.SessionPc → List RemoteEntry
  | .resolving remotes => remotes
  | .dialing _ _ rest => rest
  | .connected _ _ _ rest => rest
  | .ended => []

/-- The addresses that have been found and not dialed yet. -/
def todo : Core.SessionPc → List Candidate
  | .resolving _ => []
  | .dialing remote addrs _ => addrs.map (remote, ·)
  | .connected _ remote addrs _ => addrs.map (remote, ·)
  | .ended => []

def after (config : OpenVpnConfig) (pc : Core.SessionPc) : ConnectionAction → Core.SessionPc
  | .resolve addrs =>
    match pc with
    | .resolving remotes => (resolved remotes addrs).1
    | _ => pc
  | .dial success =>
    match pc with
    | .dialing remote addrs rest => (dialed config remote addrs rest success).1
    | _ => pc
  | .pipelineFails =>
    match pc with
    | .connected _ remote addrs rest => .dialing remote addrs rest
    | _ => pc
  | .disconnectCommand _ | .handleDropped => .ended
  | _ => pc

end SessionPc

namespace Connection

def lookedUp (c : Connection) : ConnectionAction → List Lookup
  | .resolve addrs => match c.session with
    | .resolving (remote :: _) => [(remote, addrs.getD [])]
    | _ => []
  | _ => []

def dials (c : Connection) : ConnectionAction → List Candidate
  | .dial _ => match c.session with
    | .dialing remote (addr :: _) _ => [(remote, addr)]
    | _ => []
  | _ => []

/-- The lookups of a run. -/
abbrev lookups (c : Connection) (as : List ConnectionAction) : List Lookup :=
  Transition.observed step lookedUp c as

/-- What has been dialed in a run. -/
abbrev dialed (c : Connection) (as : List ConnectionAction) : List Candidate :=
  Transition.observed step dials c as

theorem config_send (c : Connection) (event : SessionEvent) : (c.send event).config = c.config := by
  obtain ⟨queue, lagged, provisioned, h⟩ := c.send_frame event
  rw [h]

theorem session_send (c : Connection) (event : SessionEvent) :
    (c.send event).session = c.session := by
  obtain ⟨queue, lagged, provisioned, h⟩ := c.send_frame event
  rw [h]

theorem config_foldl_send (c : Connection) (events : List SessionEvent) :
    (events.foldl send c).config = c.config := by
  induction events generalizing c with
  | nil => rfl
  | cons event events ih => exact (ih _).trans (c.config_send event)

theorem session_stepBridge {c d : Connection} (h : c.stepBridge = some d) :
    d.config = c.config ∧ d.session = c.session := by
  unfold stepBridge at h
  split at h
  · split at h
    · obtain rfl := Option.some.inj h
      exact ⟨rfl, rfl⟩
    · split at h
      · obtain rfl := Option.some.inj h
        exact ⟨rfl, rfl⟩
      · split at h
        · obtain rfl := Option.some.inj h
          exact ⟨rfl, rfl⟩
        · cases h
  · obtain ⟨sent, hsent, rfl⟩ := Option.map_eq_some_iff.mp h
    obtain ⟨channel, rfl⟩ := deliver_frame hsent
    exact ⟨rfl, rfl⟩
  · obtain rfl := Option.some.inj h
    exact ⟨rfl, rfl⟩
  · cases h

theorem session_stepMonitor {c d : Connection} {env : Env} {locked : LockedCells}
    (h : c.stepMonitor env locked = some d) : d.config = c.config ∧ d.session = c.session := by
  unfold stepMonitor at h
  split at h
  · split at h
    · obtain rfl := Option.some.inj h
      exact ⟨rfl, rfl⟩
    · split at h
      · obtain rfl := Option.some.inj h
        exact ⟨rfl, rfl⟩
      · cases h
  · split at h
    · cases h
    · obtain rfl := Option.some.inj h
      exact ⟨rfl, rfl⟩
  · obtain rfl := Option.some.inj h
    exact ⟨rfl, rfl⟩
  · obtain rfl := Option.some.inj h
    exact ⟨rfl, rfl⟩
  · cases h

/-- Only its own actions move the session on. -/
theorem session_step {c d : Connection} {a : ConnectionAction} (h : c.step a = some d) :
    d.config = c.config ∧ d.session = SessionPc.after c.config c.session a := by
  cases a with
  | resolve addrs =>
      simp only [step] at h
      split at h
      · rename_i remotes hsession
        obtain rfl := Option.some.inj h
        exact ⟨config_foldl_send c _, by simp [SessionPc.after, proceed, hsession]⟩
      · cases h
  | dial success =>
      simp only [step] at h
      split at h
      · rename_i remote addrs rest hsession
        obtain rfl := Option.some.inj h
        exact ⟨config_foldl_send c _, by simp [SessionPc.after, proceed, hsession]⟩
      · cases h
  | broadcast event =>
      simp only [step] at h
      split at h
      · cases h
      · obtain rfl := Option.some.inj h
        exact ⟨c.config_send _, c.session_send _⟩
      · cases h
  | pipelineFails =>
      simp only [step] at h
      split at h
      · rename_i hsession
        obtain rfl := Option.some.inj h
        exact ⟨rfl, by simp [SessionPc.after, hsession]⟩
      · cases h
  | disconnectCommand reason =>
      simp only [step] at h
      split at h
      · obtain rfl := Option.some.inj h
        exact ⟨c.config_send _, rfl⟩
      · cases h
  | handleDropped =>
      simp only [step] at h
      split at h
      · obtain rfl := Option.some.inj h
        exact ⟨rfl, rfl⟩
      · cases h
  | bridge => exact session_stepBridge h
  | monitor env locked => exact session_stepMonitor h
  | emit event =>
      obtain ⟨channel, rfl⟩ := deliver_frame h
      exact ⟨rfl, rfl⟩
  | setKillSwitch env enabled mode =>
      obtain rfl := Option.some.inj h
      exact ⟨rfl, rfl⟩

/-! ## Runs -/

/-- What has been looked up and dialed, against what is left, and what a transport leads to. -/
structure InOrder (config : OpenVpnConfig) (lookups : List Lookup) (dialed : List Candidate)
    (pc : Core.SessionPc) : Prop where
  remotes : ∃ rest, lookups.map (·.1) ++ rest = config.remotes ∧
    (pc ≠ .ended → rest = SessionPc.left pc)
  addresses : ∃ rest, dialed ++ rest = candidates lookups ∧
    (pc ≠ .ended → rest = SessionPc.todo pc)
  peer : ∀ peer remote addrs rest, pc = .connected peer remote addrs rest →
    ∃ addr, dialed.getLast? = some (remote, addr) ∧
      Core.SessionPc.peerOf config remote addr = some peer

theorem InOrder.ends {config : OpenVpnConfig} {lookups : List Lookup} {dialed : List Candidate}
    {pc : Core.SessionPc} (h : InOrder config lookups dialed pc) :
    InOrder config lookups dialed .ended where
  remotes := h.remotes.imp fun _ h => ⟨h.1, fun hended => absurd rfl hended⟩
  addresses := h.addresses.imp fun _ h => ⟨h.1, fun hended => absurd rfl hended⟩
  peer _ _ _ _ h := by cases h

/-- A lost or a missing transport leaves what is to be done. -/
theorem InOrder.goes {config : OpenVpnConfig} {lookups : List Lookup} {dialed : List Candidate}
    {pc next : Core.SessionPc} (h : InOrder config lookups dialed pc) (hpc : pc ≠ .ended)
    (hleft : SessionPc.left next = SessionPc.left pc)
    (htodo : SessionPc.todo next = SessionPc.todo pc)
    (hnext : ∀ peer remote addrs rest, next ≠ .connected peer remote addrs rest) :
    InOrder config lookups dialed next where
  remotes := h.remotes.imp fun _ h => ⟨h.1, fun _ => (h.2 hpc).trans hleft.symm⟩
  addresses := h.addresses.imp fun _ h => ⟨h.1, fun _ => (h.2 hpc).trans htodo.symm⟩
  peer _ _ _ _ h := absurd h (hnext _ _ _ _)

theorem candidates_append (lookups : List Lookup) (remote : RemoteEntry)
    (addrs : List SocketAddr) :
    candidates (lookups ++ [(remote, addrs)]) = candidates lookups ++ addrs.map (remote, ·) := by
  simp [candidates]

theorem InOrder.resolve {config : OpenVpnConfig} {lookups : List Lookup} {dialed : List Candidate}
    {remote : RemoteEntry} {remotes : List RemoteEntry}
    (h : InOrder config lookups dialed (.resolving (remote :: remotes)))
    (addrs : Option (List SocketAddr)) :
    InOrder config (lookups ++ [(remote, addrs.getD [])]) dialed
      (Core.SessionPc.resolved (remote :: remotes) addrs).1 := by
  obtain ⟨rest, hrest, hleft⟩ := h.remotes
  obtain ⟨open_, hdials, htodo⟩ := h.addresses
  obtain rfl := hleft (by simp)
  obtain rfl := htodo (by simp)
  have hremotes : (lookups ++ [(remote, addrs.getD [])]).map (·.1) ++ remotes =
      config.remotes := by
    rw [← hrest]
    simp [SessionPc.left]
  rw [SessionPc.todo, List.append_nil] at hdials
  cases addrs with
  | none =>
      refine ⟨⟨remotes, hremotes, fun _ => rfl⟩, ⟨[], ?_, fun _ => rfl⟩,
        fun _ _ _ _ h => by cases h⟩
      rw [candidates_append, hdials]
      rfl
  | some addrs =>
      refine ⟨⟨remotes, hremotes, fun _ => rfl⟩, ⟨addrs.map (remote, ·), ?_, fun _ => rfl⟩,
        fun _ _ _ _ h => by cases h⟩
      rw [candidates_append, hdials]
      rfl

theorem InOrder.dial {config : OpenVpnConfig} {lookups : List Lookup} {dialed : List Candidate}
    {remote : RemoteEntry} {addr : SocketAddr} {addrs : List SocketAddr} {rest : List RemoteEntry}
    (h : InOrder config lookups dialed (.dialing remote (addr :: addrs) rest)) (success : Bool) :
    InOrder config lookups (dialed ++ [(remote, addr)])
      (Core.SessionPc.dialed config remote (addr :: addrs) rest success).1 := by
  obtain ⟨left, hrest, hleft⟩ := h.remotes
  obtain ⟨todo, hdials, htodo⟩ := h.addresses
  obtain rfl := hleft (by simp)
  obtain rfl := htodo (by simp)
  have haddresses : dialed ++ [(remote, addr)] ++ addrs.map (remote, ·) = candidates lookups := by
    rw [← hdials]
    simp [SessionPc.todo]
  simp only [Core.SessionPc.dialed]
  cases hpeer : Core.SessionPc.peerOf config remote addr with
  | none =>
      exact ⟨⟨_, hrest, fun hended => absurd rfl hended⟩,
        ⟨_, haddresses, fun hended => absurd rfl hended⟩, fun _ _ _ _ h => by cases h⟩
  | some peer =>
      cases success with
      | false =>
          exact ⟨⟨_, hrest, fun _ => rfl⟩, ⟨_, haddresses, fun _ => rfl⟩,
            fun _ _ _ _ h => by cases h⟩
      | true =>
          refine ⟨⟨_, hrest, fun _ => rfl⟩, ⟨_, haddresses, fun _ => rfl⟩, ?_⟩
          rintro _ _ _ _ ⟨⟩
          exact ⟨addr, List.getLast?_concat, hpeer⟩

theorem InOrder.step {c d : Connection} {a : ConnectionAction} {lookups : List Lookup}
    {dialed : List Candidate} (h : InOrder c.config lookups dialed c.session)
    (hstep : c.step a = some d) :
    InOrder d.config (lookups ++ c.lookedUp a) (dialed ++ c.dials a) d.session := by
  obtain ⟨hconfig, hsession⟩ := session_step hstep
  rw [hconfig, hsession]
  cases a with
  | resolve addrs =>
      simp only [lookedUp, dials, List.append_nil, SessionPc.after]
      cases hpc : c.session with
      | resolving remotes =>
          rw [hpc] at h
          cases remotes with
          | nil =>
              rw [List.append_nil]
              exact h.ends
          | cons remote remotes => exact h.resolve addrs
      | dialing | connected | ended =>
          rw [hpc] at h
          rw [List.append_nil]
          exact h
  | dial success =>
      simp only [lookedUp, dials, List.append_nil, SessionPc.after]
      cases hpc : c.session with
      | dialing remote addrs rest =>
          rw [hpc] at h
          cases addrs with
          | nil =>
              rw [List.append_nil]
              exact h.goes (by simp) rfl rfl fun _ _ _ _ hnext => by cases hnext
          | cons addr addrs => exact h.dial success
      | resolving | connected | ended =>
          rw [hpc] at h
          rw [List.append_nil]
          exact h
  | pipelineFails =>
      simp only [lookedUp, dials, List.append_nil, SessionPc.after]
      cases hpc : c.session with
      | connected peer remote addrs rest =>
          rw [hpc] at h
          exact h.goes (by simp) rfl rfl fun _ _ _ _ hnext => by cases hnext
      | resolving | dialing | ended =>
          rw [hpc] at h
          exact h
  | disconnectCommand | handleDropped =>
      simp only [lookedUp, dials, List.append_nil]
      exact h.ends
  | broadcast | bridge | monitor | emit | setKillSwitch =>
      simp only [lookedUp, dials, List.append_nil]
      exact h

theorem InOrder.run {c d : Connection} {as : List ConnectionAction} {lookups : List Lookup}
    {dialed : List Candidate}
    (run : Transition.Run Connection.step (fun _ _ => True) c as d)
    (h : InOrder c.config lookups dialed c.session) :
    InOrder d.config (lookups ++ c.lookups as) (dialed ++ c.dialed as) d.session := by
  induction run generalizing lookups dialed with
  | nil c =>
      show InOrder c.config (lookups ++ []) (dialed ++ []) c.session
      rw [List.append_nil, List.append_nil]
      exact h
  | @cons c _ _ a as _ taken _ ih =>
      have hlookups : c.lookups (a :: as) = _ := Transition.observed_cons _ _ taken
      have hdialed : c.dialed (a :: as) = _ := Transition.observed_cons _ _ taken
      rw [hlookups, hdialed, ← List.append_assoc, ← List.append_assoc]
      exact ih (h.step taken)

theorem InOrder.initial (config : OpenVpnConfig) (params : ConnectParams) (iface : Text)
    (host : Host) : InOrder config [] [] (Connection.initial config params iface host).session := by
  show InOrder config [] [] (Core.SessionPc.start config).1
  unfold Core.SessionPc.start
  split
  · rename_i hnone
    exact ⟨⟨[], hnone.symm, fun _ => rfl⟩, ⟨[], rfl, fun _ => rfl⟩, fun _ _ _ _ h => by cases h⟩
  · exact ⟨⟨_, rfl, fun _ => rfl⟩, ⟨[], rfl, fun _ => rfl⟩, fun _ _ _ _ h => by cases h⟩

/-- The remotes are looked up in the order of the profile and each address is dialed once, in the
order in which it was found, also after a connection that was lost. A transport leads to the last
address that was dialed, and all of them have been when the session reports that all failed. -/
theorem failover_of_run {config : OpenVpnConfig} {params : ConnectParams} {iface : Text}
    {host : Host} {as : List ConnectionAction} {c : Connection}
    (run : Transition.Run Connection.step (fun _ _ => True) (.initial config params iface host)
      as c) :
    ((initial config params iface host).lookups as).map (·.1) <+: config.remotes ∧
      (initial config params iface host).dialed as <+:
        candidates ((initial config params iface host).lookups as) ∧
      (∀ peer remote addrs rest, c.session = .connected peer remote addrs rest →
        ∃ addr, ((initial config params iface host).dialed as).getLast? = some (remote, addr) ∧
          Core.SessionPc.peerOf c.config remote addr = some peer) ∧
      ∀ addrs, c.broadcasts (.resolve addrs) ≠ [] →
        ((initial config params iface host).lookups as).map (·.1) = config.remotes ∧
          (initial config params iface host).dialed as =
            candidates ((initial config params iface host).lookups as) := by
  have hconfig : c.config = config :=
    run.invariant (I := fun c => c.config = config)
      (fun _ _ _ _ hstep hc => (session_step hstep).1.trans hc) rfl
  have h := InOrder.run run (InOrder.initial config params iface host)
  rw [List.nil_append, List.nil_append, hconfig] at h
  obtain ⟨rest, hrest, hleft⟩ := h.remotes
  obtain ⟨todo, htodo, hopen⟩ := h.addresses
  refine ⟨⟨rest, hrest⟩, ⟨todo, htodo⟩, hconfig ▸ h.peer, fun addrs hfails => ?_⟩
  have hsession : c.session = .resolving [] := by
    simp only [broadcasts] at hfails
    split at hfails
    · rename_i remotes hsession
      rw [hsession]
      cases remotes with
      | nil => rfl
      | cons remote remotes => cases addrs <;> exact absurd rfl hfails
    · exact absurd rfl hfails
  obtain rfl := hleft (by simp [hsession])
  obtain rfl := hopen (by simp [hsession])
  rw [hsession, SessionPc.left, List.append_nil] at hrest
  rw [hsession, SessionPc.todo, List.append_nil] at htodo
  exact ⟨hrest, htodo⟩

/-- Two addresses of a first remote, and a second that is not found. -/
def remotePair : OpenVpnConfig :=
  { remotes := [⟨"vpn.example.com".toList, 1194, none⟩, ⟨"vpn.example.org".toList, 1194, none⟩] }

/-- The connection over the second address is lost, and nothing is left. -/
def exhausting : List ConnectionAction :=
  [.resolve (some [⟨.v4 ⟨203, 0, 113, 7⟩, 1194⟩, ⟨.v4 ⟨203, 0, 113, 8⟩, 1194⟩]), .dial false,
    .dial true, .broadcast (.stateChanged .connected), .bridge, .pipelineFails, .dial false,
    .resolve none]

theorem failover_of_run_exhausting :
    ((initial remotePair office "tun0".toList {}).lookups exhausting).map (·.1) =
        remotePair.remotes ∧
      (initial remotePair office "tun0".toList {}).dialed exhausting =
        candidates ((initial remotePair office "tun0".toList {}).lookups exhausting) := by
  obtain ⟨c, run, hc⟩ := Transition.exists_run_of_any (p := fun c : Connection =>
    decide (c.broadcasts (.resolve none) ≠ []))
    (show (Transition.runList Connection.step (fun _ _ => True)
      (initial remotePair office "tun0".toList {}) exhausting).any _ = true by decide +kernel)
  exact (failover_of_run run).2.2.2 none (of_decide_eq_true hc)

end Connection

end VpnHub.Daemon
