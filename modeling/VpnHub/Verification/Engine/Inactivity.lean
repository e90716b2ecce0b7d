import VpnHub.Model.Loopback
import VpnHub.Verification.Engine.Closing

/-! # The inactivity timeout

The engine measures inactivity from the last datagram of any kind. The datagrams of a run are
kept here with their times and whether the engine accepted them, and a timeout is compared with
what they say. -/

namespace VpnHub.Protocol

open Config Crypto

namespace ProtocolEngine

variable {Conn : Type} {env : Env Conn} {e e' : ProtocolEngine Conn}

/-! ## The datagrams of a run -/

/-- A datagram: when it arrived, and whether the engine accepted it. -/
structure Datagram where
  time : Instant
  accepted : Bool
  deriving DecidableEq, Repr

/-- A data packet whose tag verifies, or a control packet that `tls-auth` lets through. -/
def accepts (env : Env Conn) (e : ProtocolEngine Conn) (packet : Bytes) : Bool :=
  match dataKeyId packet with
  | some keyId => (processIncomingDataPacket env keyId packet).succeeds e
  | none => startsControl packet && (decodeControl env e.tlsAuth packet).isOk

/-- The datagram that an operation hands to the engine. -/
def arrival (env : Env Conn) (e : ProtocolEngine Conn) : Op → List Datagram
  | .processNetworkPacket now packet => [{ time := now, accepted := accepts env e packet }]
  | _ => []

/-- The datagrams of a run, the first one first. -/
def datagrams (env : Env Conn) (e : ProtocolEngine Conn) : List Op → List Datagram
  | [] => []
  | op :: ops => arrival env e op ++ (step env e op).elim [] fun e' => datagrams env e' ops

/-- The time of the last datagram, or `start` if there was none. -/
def lastHeard (start : Instant) (received : List Datagram) : Instant :=
  received.foldl (fun _ d => d.time) start

/-- The interval `(now - r, now]`. -/
def InWindow (now : Instant) (r : Duration) (t : Instant) : Prop := now < t + r ∧ t ≤ now

def AcceptedIn (now : Instant) (r : Duration) (received : List Datagram) : Prop :=
  ∃ d ∈ received, d.accepted = true ∧ InWindow now r d.time

/-! ## The timeout -/

/-- The keepalive time in force: from the profile or pushed, else the default. -/
def effectivePingRestart (e : ProtocolEngine Conn) : Duration :=
  e.config.pingRestart.getD 120000000000

/-- A timeout ends the session, giving inactivity as the reason. -/
def EndsForInactivity (env : Env Conn) (e : ProtocolEngine Conn) (now : Instant) : Prop :=
  ∃ err e', (handleTimeout env now).run e = some (.error err, e') ∧ e'.state = .error ∧
    closings e'.outbox = closings e.outbox ++ [inactivityMessage e.effectivePingRestart]

/-- A ping that is due can be encrypted. -/
def PingPasses (env : Env Conn) (e : ProtocolEngine Conn) (now : Instant) : Prop :=
  now - e.lastPingSent ≥ e.config.pingInterval.getD 10000000000 →
    ∀ slot, e.keyManager.getTxSlot = some slot →
      ∃ out, sealPayload env e slot keepaliveMagic = .ok out

/-- No packet has used up its retransmissions, and a ping that is due can be sent: the timeout
comes to look at the inactivity. -/
def TimerPasses (env : Env Conn) (e : ProtocolEngine Conn) (now : Instant) : Prop :=
  (∃ resends, (e.sendQueue.pollRetransmissions now).1 = .ok resends) ∧ PingPasses env e now

/-! ## What a timeout looks at -/

theorem Quiet.pingPasses (h : Quiet e e') (now : Instant) :
    PingPasses env e' now ↔ PingPasses env e now := by
  rw [h]
  exact Iff.rfl

/-- Retransmitting never fails. -/
theorem exists_run_resends (env : Env Conn) (resends : List ControlPacket) (e : ProtocolEngine Conn) :
    ∃ e', (resends.forM (resend env)).run e = some (.ok ⟨⟩, e') := by
  induction resends generalizing e with
  | nil => exact ⟨e, rfl⟩
  | cons cp resends ih =>
      obtain ⟨e', hrun⟩ := ih (e.sendAcks env cp)
      refine ⟨e', ?_⟩
      change ((resend env cp) >>= fun _ => resends.forM (resend env)).run e = _
      rw [Prog.run_bind_of_ok (run_resend e cp)]
      exact hrun

theorem sameClosings_resend (cp : ControlPacket) :
    Prog.Keeps SameClosings (resend env cp) := by
  intro e r e' hrun
  rw [run_resend] at hrun
  obtain ⟨-, rfl⟩ : _ ∧ e.sendAcks env cp = e' := by simpa using hrun
  exact sameClosings_of_append rfl rfl

/-- After the retransmissions a connected engine goes on to the keepalive times. -/
theorem run_handleTimeout_of_polled (env : Env Conn) {now : Instant} {resends : List ControlPacket}
    (hpoll : (e.sendQueue.pollRetransmissions now).1 = .ok resends)
    (hconnected : e.state = .connected) : ∃ e₁, Quiet e e₁ ∧ SameClosings e e₁ ∧
      (handleTimeout env now).run e = (checkKeepalive env e₁ now).run e₁ := by
  let polled := { e with sendQueue := (e.sendQueue.pollRetransmissions now).2 }
  obtain ⟨e₁, hresends⟩ := exists_run_resends env resends polled
  have hquiet : Quiet e e₁ := Quiet.trans e polled e₁ rfl
    ((Prog.Keeps.forM Quiet.refl Quiet.trans quiet_resend resends).of_run hresends)
  have hclosings : SameClosings e e₁ := SameClosings.trans e polled e₁ rfl
    ((Prog.Keeps.forM SameClosings.refl SameClosings.trans sameClosings_resend
      resends).of_run hresends)
  have hstate : e₁.state = .connected := by
    rw [hquiet]
    exact hconnected
  refine ⟨e₁, hquiet, hclosings, ?_⟩
  have hfirst : (Prog.ofFun fun e : ProtocolEngine Conn =>
      ((e.sendQueue.pollRetransmissions now).1,
        { e with sendQueue := (e.sendQueue.pollRetransmissions now).2 })).run e =
      some (.ok resends, polled) := by
    rw [Prog.run_ofFun, hpoll]
  refine (Prog.run_bind_of_ok hfirst).trans ((Prog.run_bind_of_ok hresends).trans ?_)
  rw [Prog.run_get_bind, Prog.when, if_pos hstate]

/-- The ping queues no closing, and it goes wrong in the encryption only. -/
theorem exists_run_ping (env : Env Conn) (e : ProtocolEngine Conn) (hconnected : e.state = .connected)
    (now : Instant) : ∃ r e₁,
      (Prog.when (now - e.lastPingSent ≥ e.config.pingInterval.getD 10000000000)
        (sendKeepalivePing env now)).run e = some (r, e₁) ∧
      SameClosings e e₁ ∧ (r = .ok () ↔ PingPasses env e now) := by
  by_cases hdue : now - e.lastPingSent ≥ e.config.pingInterval.getD 10000000000
  · have hup : ¬ (e.state ≠ .connected ∧ e.state ≠ .rekeying) := fun h => h.1 hconnected
    rw [Prog.when, if_pos hdue]
    simp only [sendKeepalivePing, Prog.run_get_bind, if_neg hup]
    cases hslot : e.keyManager.getTxSlot with
    | none =>
        refine ⟨.ok (), e, rfl, SameClosings.refl e, ?_⟩
        simp [PingPasses, hslot]
    | some slot =>
        cases hseal : sealPayload env e slot keepaliveMagic with
        | error err =>
            refine ⟨.error (.crypto err), _,
              Prog.run_bind_of_error (run_sealAndSend_of_error hseal), rfl, ?_⟩
            simp [PingPasses, hslot, hseal, hdue]
        | ok out =>
            obtain ⟨ciphertext, tag⟩ := out
            refine ⟨.ok (), _, (Prog.run_bind_of_ok (run_sealAndSend_of_ok hseal)).trans rfl,
              sameClosings_of_append rfl rfl, iff_of_true rfl fun _ slot' hslot' => ?_⟩
            obtain rfl := Option.some.inj (hslot.symm.trans hslot')
            exact ⟨_, hseal⟩
  · rw [Prog.when, if_neg hdue]
    refine ⟨.ok (), e, rfl, SameClosings.refl e, ?_⟩
    simp [PingPasses, hdue]

/-- What the end of `handle_timeout` does when the last packet is too long ago. -/
theorem run_expire (e : ProtocolEngine Conn) (pingRestart : Duration) :
    (do
      transitionState .error
      pushAction (.closeSession (inactivityMessage pingRestart))
      throw (.handshakeTimeout pingRestart) : EngineM Conn Unit).run e =
      some (.error (.handshakeTimeout pingRestart),
        (e.become .error).queue (.closeSession (inactivityMessage pingRestart))) := by
  rw [Prog.run_bind_of_ok (run_transitionState e .error), Prog.run_bind_of_ok (run_pushAction _ _)]
  rfl

theorem state_become (e : ProtocolEngine Conn) (state : EngineState) :
    (e.become state).state = state := by
  unfold become
  by_cases h : e.state = state
  · rw [if_neg (not_not.mpr h)]
    exact h
  · rw [if_pos h]

/-- A timeout of a connected engine ends the session when it comes to look at the inactivity and
the last datagram is too long ago. -/
theorem endsForInactivity_iff_late (hconnected : e.state = .connected) (now : Instant) :
    EndsForInactivity env e now ↔
      TimerPasses env e now ∧ e.effectivePingRestart ≤ now - e.lastPacketRecv := by
  have hopen {r : Except ProtocolError Unit} {e' : ProtocolEngine Conn}
      (hrun : (handleTimeout env now).run e = some (r, e')) (hsame : SameClosings e e') :
      ¬ EndsForInactivity env e now := by
    rintro ⟨err, e'', hrun', -, hclosings⟩
    obtain ⟨-, rfl⟩ := Prod.mk.inj (Option.some.inj (hrun.symm.trans hrun'))
    rw [hsame] at hclosings
    simpa using congrArg List.length hclosings
  cases hpoll : (e.sendQueue.pollRetransmissions now).1 with
  | error err =>
      have hfirst : (handleTimeout env now).run e = some (.error err,
          { e with sendQueue := (e.sendQueue.pollRetransmissions now).2 }) := by
        refine Prog.run_bind_of_error ?_
        change some ((e.sendQueue.pollRetransmissions now).1, _) = _
        rw [hpoll]
        rfl
      refine iff_of_false (hopen hfirst rfl) ?_
      rintro ⟨⟨⟨resends, hpolled⟩, -⟩, -⟩
      cases hpoll.symm.trans hpolled
  | ok resends =>
      obtain ⟨e₁, hquiet, hclosings₁, hrun⟩ :=
        run_handleTimeout_of_polled env hpoll hconnected
      have hstate₁ : e₁.state = .connected := by rw [hquiet]; exact hconnected
      have hrestart : e₁.config.pingRestart.getD 120000000000 = e.effectivePingRestart := by
        rw [hquiet]
        rfl
      have hrecv : e₁.lastPacketRecv = e.lastPacketRecv := by rw [hquiet]
      have hpasses : TimerPasses env e now ↔ PingPasses env e₁ now := by
        rw [hquiet.pingPasses now]
        exact ⟨fun h => h.2, fun h => ⟨⟨resends, hpoll⟩, h⟩⟩
      obtain ⟨r, e₂, hping, hclosings₂, hok⟩ := exists_run_ping env e₁ hstate₁ now
      have hclosings := SameClosings.trans _ _ _ hclosings₁ hclosings₂
      unfold checkKeepalive at hrun
      cases r with
      | error err =>
          rw [Prog.run_bind_of_error hping] at hrun
          refine iff_of_false (hopen hrun hclosings) ?_
          rintro ⟨htimer, -⟩
          cases hok.mpr (hpasses.mp htimer)
      | ok u =>
          rw [Prog.run_bind_of_ok hping, hrestart, hrecv] at hrun
          by_cases hlate : now - e.lastPacketRecv ≥ e.effectivePingRestart
          · rw [Prog.when, if_pos hlate, run_expire] at hrun
            refine iff_of_true ⟨_, _, hrun, state_become e₂ .error, ?_⟩
              ⟨hpasses.mpr (hok.mp rfl), hlate⟩
            have hbecome : closings (e₂.become .error).outbox = closings e₂.outbox :=
              sameClosings_become e₂ .error
            change closings ((e₂.become .error).outbox ++ [_]) = _
            rw [closings_append, hbecome, hclosings]
            rfl
          · rw [Prog.when, if_neg hlate] at hrun
            exact iff_of_false (hopen hrun hclosings) fun h => hlate h.2

/-! ## When the last datagram arrived -/

/-- The time of the last datagram stays as it is. -/
def SameRecv (e e' : ProtocolEngine Conn) : Prop := e'.lastPacketRecv = e.lastPacketRecv

theorem SameRecv.refl (e : ProtocolEngine Conn) : SameRecv e e := rfl

theorem SameRecv.trans (e₁ e₂ e₃ : ProtocolEngine Conn) (h : SameRecv e₁ e₂)
    (h' : SameRecv e₂ e₃) : SameRecv e₁ e₃ :=
  Eq.trans h' h

theorem sameRecv_become (e : ProtocolEngine Conn) (state : EngineState) :
    SameRecv e (e.become state) := by
  unfold become
  split <;> rfl

theorem sameRecv_flushMove (h : FlushMove env e e') : SameRecv e e' := by
  cases h with
  | become state => exact sameRecv_become e state
  | provision acc =>
      unfold provision
      generalize pushedOptions acc = opts
      exact sameRecv_become ({ e with pushedOptionsAccumulator := acc }.applyPushed opts) .connected
  | _ => rfl

theorem FlushMoves.sameRecv (h : FlushMoves env e e') : SameRecv e e' :=
  h.invariant (I := SameRecv e)
    (fun _ _ hmove hsame => SameRecv.trans _ _ _ hsame (sameRecv_flushMove hmove)) rfl

theorem sameRecv_of_flushesBy {α : Type} {p : EngineM Conn α} (h : FlushesBy env p) :
    Prog.Keeps SameRecv p :=
  h.mono fun _ _ h => h.sameRecv

theorem sameRecv_transitionState (state : EngineState) :
    Prog.Keeps SameRecv (transitionState state : EngineM Conn Unit) := by
  intro e r e' hrun
  rw [run_transitionState] at hrun
  obtain ⟨-, rfl⟩ : _ ∧ e.become state = e' := by simpa using hrun
  exact sameRecv_become e state

theorem sameRecv_sends (h : Sends env e e') : SameRecv e e' := by
  cases h <;> rfl

theorem sameRecv_startConnect (now : Instant) : Prog.Keeps SameRecv (startConnect env now) := by
  have henqueue : FlushesBy env (enqueue .controlHardResetClientV2 [] now : EngineM Conn UInt32) :=
    flushesBy_enqueue rfl _ _
  refine Prog.Keeps.bind SameRecv.trans (sameRecv_transitionState _) fun _ =>
    Prog.Keeps.bind SameRecv.trans (sameRecv_of_flushesBy henqueue) fun _ =>
      Prog.Keeps.bind SameRecv.trans (Prog.Keeps.get SameRecv.refl) fun _ =>
        Prog.Keeps.bind SameRecv.trans ?_ fun _ => ?_
  · intro e r e' hrun
    rw [run_emitControlPacket] at hrun
    obtain ⟨-, rfl⟩ : _ ∧ e.emit env _ = e' := by simpa using hrun
    rfl
  · intro e r e' hrun
    rw [Prog.run_get_bind] at hrun
    split at hrun
    · cases hrun
    · obtain ⟨-, rfl⟩ : _ ∧ e = e' := by simpa using hrun
      rfl
    · obtain ⟨-, rfl⟩ : _ ∧ _ = e' := by simpa using hrun
      rfl

theorem sameRecv_processIncomingControlPacket (now : Instant) (packet : Bytes) :
    Prog.Keeps SameRecv (processIncomingControlPacket env now packet) := by
  refine Prog.Keeps.bind SameRecv.trans (Prog.Keeps.get SameRecv.refl) fun _ =>
    Prog.Keeps.bind SameRecv.trans (Prog.Keeps.ofExcept SameRecv.refl _) fun cp =>
      Prog.Keeps.bind SameRecv.trans (Prog.Keeps.modify fun e => ?_) fun _ =>
        Prog.Keeps.bind SameRecv.trans (Prog.Keeps.modify fun _ => rfl) fun _ =>
          Prog.Keeps.bind SameRecv.trans ?_ fun _ =>
            sameRecv_of_flushesBy (flushesBy_flushControlChannel now)
  · unfold learnRemoteSession
    cases e.remoteSessionId <;> rfl
  · unfold receiveReliable
    cases cp.packetId with
    | some packetId => exact Prog.Keeps.ofFun fun _ => rfl
    | none => exact Prog.Keeps.pure SameRecv.refl ()

theorem sameRecv_sendKeepalivePing (now : Instant) :
    Prog.Keeps SameRecv (sendKeepalivePing env now) := by
  intro e r e' hrun
  rcases sendKeepalivePing_cases hrun with rfl | ⟨-, e₁, hsends, rfl | rfl⟩
  · rfl
  · exact sameRecv_sends hsends
  · exact SameRecv.trans _ _ _ (sameRecv_sends hsends) rfl

theorem sameRecv_handleTimeout (now : Instant) : Prog.Keeps SameRecv (handleTimeout env now) := by
  refine Prog.Keeps.bind SameRecv.trans (Prog.Keeps.ofFun fun _ => rfl) fun resends =>
    Prog.Keeps.bind SameRecv.trans ?_ fun _ =>
      Prog.Keeps.bind SameRecv.trans (Prog.Keeps.get SameRecv.refl) fun e =>
        Prog.Keeps.when SameRecv.refl (Prog.Keeps.bind SameRecv.trans
          (Prog.Keeps.when SameRecv.refl (sameRecv_sendKeepalivePing now)) fun _ => ?_)
  · refine Prog.Keeps.forM SameRecv.refl SameRecv.trans (fun cp => ?_) resends
    intro e r e' hrun
    rw [run_resend] at hrun
    obtain ⟨-, rfl⟩ : _ ∧ e.sendAcks env cp = e' := by simpa using hrun
    rfl
  · exact Prog.Keeps.when SameRecv.refl (Prog.Keeps.bind SameRecv.trans
      (sameRecv_transitionState _) fun _ => Prog.Keeps.bind SameRecv.trans
        (Prog.Keeps.modify fun _ => rfl) fun _ => Prog.Keeps.throw SameRecv.refl _)

/-- Every datagram moves the time, whatever becomes of it. -/
theorem lastPacketRecv_processNetworkPacket {now : Instant} {packet : Bytes}
    {r : Except ProtocolError Unit}
    (hrun : (processNetworkPacket env now packet).run e = some (r, e')) :
    e'.lastPacketRecv = now := by
  rcases processNetworkPacket_cases hrun with ⟨keyId, hout⟩ | ⟨-, hcontrol⟩ | rfl
  · cases hout <;> rfl
  · exact (sameRecv_processIncomingControlPacket now packet).of_run hcontrol
  · rfl

/-- The time of the last datagram after an operation. -/
theorem lastPacketRecv_step {op : Op} (h : step env e op = some e') :
    e'.lastPacketRecv = lastHeard e.lastPacketRecv (arrival env e op) := by
  obtain ⟨r, hrun⟩ := step_eq_some.mp h
  cases op with
  | startConnect now => exact (sameRecv_startConnect now).of_run hrun
  | processNetworkPacket now packet => exact lastPacketRecv_processNetworkPacket hrun
  | processTunPacket now packet =>
      rcases processTunPacket_cases now hrun with rfl | ⟨-, hsends⟩
      · rfl
      · exact sameRecv_sends hsends
  | sendKeepalivePing now => exact (sameRecv_sendKeepalivePing now).of_run hrun
  | submitChallengeResponse now stateId response =>
      have hkeeps : Prog.Keeps SameRecv (submitChallengeResponse env now stateId response) :=
        sameRecv_of_flushesBy (flushesBy_bind (flushesBy_withTls _ _) fun _ =>
          flushesBy_flushControlChannel now)
      exact hkeeps.of_run hrun
  | handleTimeout now => exact (sameRecv_handleTimeout now).of_run hrun
  | pollOutputAction =>
      obtain ⟨-, rfl⟩ : _ ∧ _ = e' := by simpa [exec] using hrun
      unfold pollOutputAction
      cases e.outbox <;> rfl

/-- The time of the last datagram after a run. -/
theorem lastPacketRecv_run {guard : ProtocolEngine Conn → Op → Prop} {ops : List Op}
    (run : Transition.Run (step env) guard e ops e') :
    e'.lastPacketRecv = lastHeard e.lastPacketRecv (datagrams env e ops) := by
  induction run with
  | nil => rfl
  | @cons e e₁ e' op ops _ taken _ ih =>
      rw [ih, lastPacketRecv_step taken, datagrams, taken]
      exact (List.foldl_append).symm

/-! ## The timeout and the datagrams -/

/-- What the timeout would have to say: the keepalive time is not zero, and no accepted datagram
has arrived for that long. -/
def Inactive (e : ProtocolEngine Conn) (now : Instant) (received : List Datagram) : Prop :=
  0 < e.effectivePingRestart ∧ ¬ AcceptedIn now e.effectivePingRestart received

/-- When a timeout is right about the inactivity. If it comes to look at it, the keepalive time is
not zero, and the last datagram of any kind is recent exactly if an accepted one is. If it fails
before, there is no inactivity. -/
structure Attested (env : Env Conn) (e : ProtocolEngine Conn) (start now : Instant)
    (received : List Datagram) : Prop where
  passes : TimerPasses env e now → 0 < e.effectivePingRestart ∧
    (now < lastHeard start received + e.effectivePingRestart ↔
      AcceptedIn now e.effectivePingRestart received)
  fails : ¬ TimerPasses env e now →
    e.effectivePingRestart = 0 ∨ AcceptedIn now e.effectivePingRestart received

/-- The times at which something came in, the creation of the engine included. -/
def times (start : Instant) (received : List Datagram) : List Instant :=
  start :: received.map (·.time)

theorem lastHeard_mem_times (start : Instant) (received : List Datagram) :
    lastHeard start received ∈ times start received := by
  induction received generalizing start with
  | nil => exact List.mem_singleton_self start
  | cons d received ih => exact List.mem_cons_of_mem _ (ih d.time)

theorem le_lastHeard {start : Instant} {received : List Datagram}
    (hmono : (times start received).Pairwise (· ≤ ·)) :
    ∀ t ∈ times start received, t ≤ lastHeard start received := by
  induction received generalizing start with
  | nil =>
      intro t ht
      rw [List.mem_singleton.mp ht]
      exact le_rfl
  | cons d received ih =>
      obtain ⟨hfirst, hrest⟩ := List.pairwise_cons.mp hmono
      intro t ht
      rcases List.mem_cons.mp ht with rfl | ht
      · exact hfirst _ (lastHeard_mem_times d.time received)
      · exact ih hrest t ht

/-- With a clock that never goes back, the timeout needs an accepted datagram in the interval
whenever anything came in during it. -/
theorem heard_iff_of_monotone {start now : Instant} {r : Duration} {received : List Datagram}
    (hmono : (times start received).Pairwise (· ≤ ·)) (hnow : ∀ t ∈ times start received, t ≤ now) :
    (now < lastHeard start received + r ↔ AcceptedIn now r received) ↔
      ((∃ t ∈ times start received, InWindow now r t) → AcceptedIn now r received) := by
  have hheard : now < lastHeard start received + r ↔
      ∃ t ∈ times start received, InWindow now r t := by
    constructor
    · intro h
      have hmem := lastHeard_mem_times start received
      exact ⟨_, hmem, h, hnow _ hmem⟩
    · rintro ⟨t, ht, hlt, -⟩
      exact lt_of_lt_of_le hlt (Nat.add_le_add_right (le_lastHeard hmono t ht) r)
  rw [hheard]
  refine ⟨fun h => h.mp, fun h => ⟨h, ?_⟩⟩
  rintro ⟨d, hd, -, hin⟩
  exact ⟨d.time, List.mem_cons_of_mem _ (List.mem_map_of_mem hd), hin⟩

theorem late_iff (now heard r : ℕ) : r ≤ now - heard ↔ r = 0 ∨ ¬ now < heard + r := by omega

/-- A connected engine, after any run, tells inactivity exactly when the datagrams of the run
attest to it. -/
theorem endsForInactivity_iff {config : OpenVpnConfig} {start : Instant} {sessionId : UInt64}
    {ops : List Op}
    (run : Transition.Run (step env) (fun _ _ => True) (initial env config start sessionId) ops e)
    (hconnected : e.state = .connected) (now : Instant) :
    (EndsForInactivity env e now ↔
      e.Inactive now (datagrams env (initial env config start sessionId) ops)) ↔
    Attested env e start now (datagrams env (initial env config start sessionId) ops) := by
  have hlast : e.lastPacketRecv =
      lastHeard start (datagrams env (initial env config start sessionId) ops) :=
    lastPacketRecv_run run
  rw [endsForInactivity_iff_late hconnected, hlast]
  generalize datagrams env (initial env config start sessionId) ops = received
  generalize hr : e.effectivePingRestart = r
  by_cases htimer : TimerPasses env e now
  · have hattested : Attested env e start now received ↔
        0 < r ∧ (now < lastHeard start received + r ↔ AcceptedIn now r received) :=
      ⟨fun h => hr ▸ h.passes htimer, fun h => ⟨fun _ => hr.symm ▸ h, fun hn => absurd htimer hn⟩⟩
    rw [hattested, Inactive, hr]
    rw [and_iff_right htimer, late_iff]
    by_cases hzero : r = 0
    · subst hzero
      simp
    · have hpos : 0 < r := Nat.pos_of_ne_zero hzero
      rw [or_iff_right hzero, and_iff_right hpos, and_iff_right hpos]
      exact not_iff_not
  · have hattested : Attested env e start now received ↔ r = 0 ∨ AcceptedIn now r received :=
      ⟨fun h => hr ▸ h.fails htimer, fun h => ⟨fun hp => absurd hp htimer, fun _ => hr.symm ▸ h⟩⟩
    have hsilent : ¬ (TimerPasses env e now ∧ r ≤ now - lastHeard start received) :=
      fun h => htimer h.1
    rw [hattested, Inactive, hr, iff_false_intro hsilent, false_iff, not_and_not_right]
    constructor
    · intro h
      by_cases hzero : r = 0
      · exact .inl hzero
      · exact .inr (h (Nat.pos_of_ne_zero hzero))
    · rintro (rfl | h) hpos
      · exact absurd hpos (lt_irrefl 0)
      · exact h

end ProtocolEngine

namespace Loopback

open ProtocolEngine

/-- A profile for the given keepalive time. -/
def keepaliveProfile (seconds : String) : Text :=
  ("client\nremote vpn.example.com 1194\nping-restart " ++ seconds ++ "\n").toList

/-- A connected engine that can look at the inactivity, and its keepalive time. -/
def watches (now : Instant) (pingRestart : Duration) (e : ProtocolEngine Conn) : Bool :=
  e.state = .connected && e.effectivePingRestart = pingRestart &&
    (e.sendQueue.pollRetransmissions now).1.isOk &&
    now - e.lastPingSent < e.config.pingInterval.getD 10000000000

theorem timerPasses_of_watches {now : Instant} {pingRestart : Duration} {e : ProtocolEngine Conn}
    (h : watches now pingRestart e = true) :
    e.state = .connected ∧ e.effectivePingRestart = pingRestart ∧ TimerPasses env e now := by
  simp only [watches, Bool.and_eq_true, decide_eq_true_eq] at h
  obtain ⟨⟨⟨hstate, hrestart⟩, hpoll⟩, hping⟩ := h
  refine ⟨hstate, hrestart, ?_, fun hdue => absurd hping (not_lt.mpr hdue)⟩
  cases hresult : (e.sendQueue.pollRetransmissions now).1 with
  | error err =>
      rw [hresult] at hpoll
      cases hpoll
  | ok resends => exact ⟨resends, rfl⟩

/-- One minute is given, and a second has passed since the server was heard. -/
theorem endsForInactivity_minute : ∃ config e,
    parseOvpnConfig parserEnv (keepaliveProfile "60") = some (.ok config) ∧
      Transition.Run (step env) (fun _ _ => True) (newEngine config) connectOps e ∧
      (EndsForInactivity env e 1000000000 ↔
        e.Inactive 1000000000 (datagrams env (newEngine config) connectOps)) := by
  have hprofile : ((parseOvpnConfig parserEnv (keepaliveProfile "60")).any fun result =>
      result.toOption.any fun config =>
        (Transition.runList (step env) (fun _ _ => True) (newEngine config) connectOps).any
            (watches 1000000000 60000000000) &&
          datagrams env (newEngine config) connectOps = List.replicate 3 ⟨0, true⟩) = true := by
    decide +kernel
  obtain ⟨config, hparse, hcheck⟩ := exists_parsed hprofile
  obtain ⟨hrun, hdatagrams⟩ := Bool.and_eq_true_iff.mp hcheck
  obtain ⟨e, run, hwatches⟩ := Transition.exists_run_of_any hrun
  obtain ⟨hconnected, hrestart, htimer⟩ := timerPasses_of_watches hwatches
  have hdatagrams : datagrams env (newEngine config) connectOps = List.replicate 3 ⟨0, true⟩ := by
    simpa using hdatagrams
  refine ⟨config, e, hparse, run, (endsForInactivity_iff run hconnected 1000000000).mpr ?_⟩
  have haccepted : AcceptedIn 1000000000 60000000000 (List.replicate 3 ⟨0, true⟩) :=
    ⟨⟨0, true⟩, List.mem_replicate.mpr ⟨by decide, rfl⟩, rfl, by decide, by decide⟩
  change Attested env e 0 1000000000 (datagrams env (newEngine config) connectOps)
  rw [hdatagrams]
  refine ⟨fun _ => ?_, fun hfails => absurd htimer hfails⟩
  rw [hrestart]
  exact ⟨by decide, iff_of_true (by decide) haccepted⟩

/-- A keepalive time of zero. -/
theorem zero_ends_session :
    ¬ ∀ (Conn : Type) (env : Env Conn) (config : OpenVpnConfig) (start : Instant)
      (sessionId : UInt64) (ops : List Op) (e : ProtocolEngine Conn),
      Transition.Run (step env) (fun _ _ => True) (initial env config start sessionId) ops e →
      e.state = .connected → ∀ now, (EndsForInactivity env e now ↔
        e.Inactive now (datagrams env (initial env config start sessionId) ops)) := by
  intro hclaim
  have hprofile : ((parseOvpnConfig parserEnv (keepaliveProfile "0")).any fun result =>
      result.toOption.any fun config =>
        (Transition.runList (step env) (fun _ _ => True) (newEngine config) connectOps).any
          (watches 1000000000 0)) = true := by
    decide +kernel
  obtain ⟨config, -, hcheck⟩ := exists_parsed hprofile
  obtain ⟨e, run, hwatches⟩ := Transition.exists_run_of_any hcheck
  obtain ⟨hconnected, hrestart, htimer⟩ := timerPasses_of_watches hwatches
  have hends : EndsForInactivity env e 1000000000 := by
    refine (endsForInactivity_iff_late hconnected _).mpr ⟨htimer, ?_⟩
    rw [hrestart]
    exact Nat.zero_le _
  have hpositive := ((hclaim _ _ _ _ _ _ _ run hconnected 1000000000).mp hends).1
  rw [hrestart] at hpositive
  exact absurd hpositive (by decide)

end Loopback

end VpnHub.Protocol
