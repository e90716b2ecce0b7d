import VpnHub.Verification.Engine.Inactivity
import VpnHub.Verification.Reliable.Retransmission

/-! The deadline that the engine announces is that of its retransmissions: a timeout before it still
pings and still closes an inactive session. -/

namespace VpnHub.Protocol.ProtocolEngine

open Config Crypto

variable {Conn : Type} {env : Env Conn} {config : OpenVpnConfig} {e e' : ProtocolEngine Conn}
  {now : Instant}

/-! ## Timeouts of queued packets -/

theorem FlushMove.wellTimed (h : FlushMove env e e') (he : e.sendQueue.WellTimed) :
    e'.sendQueue.WellTimed := by
  cases h with
  | become state =>
      unfold ProtocolEngine.become
      split <;> exact he
  | queue action hne => exact he
  | tls tls => exact he
  | random => exact he
  | ready => exact he
  | enqueue opcode payload now pid sendQueue hop henqueue =>
      have hqueue := he.enqueue opcode 0 payload now
      rw [henqueue] at hqueue
      exact hqueue
  | send cp hcp => exact he
  | accumulate acc => exact he
  | provision acc =>
      rw [(provisioned_provision e acc).sendQueue]
      exact he
  | install material now => exact he

theorem Move.wellTimed (h : Move env e e') (he : e.sendQueue.WellTimed) :
    e'.sendQueue.WellTimed := by
  cases h with
  | flush hmove => exact hmove.wellTimed he
  | reset cp hacks hcp => exact he
  | heard now => exact he
  | pinged now => exact he
  | acknowledged cp =>
      unfold ProtocolEngine.acknowledged learnRemoteSession
      split
      · exact he.processAcks cp.ackArray
      · have hlearned : ({ e.sendQueue with remoteSessionId := some cp.sessionId } :
            ReliableSendQueue).WellTimed := ⟨he.positive, he.ordered, he.bounded⟩
        exact hlearned.processAcks cp.ackArray
  | receive packetId payload => exact he
  | retransmit now => exact he.poll now
  | data hframe =>
      rw [hframe.rest]
      exact he
  | sends hsends =>
      cases hsends with
      | failed hs hseal => exact he
      | sealed hs hseal => exact he
  | poll =>
      unfold pollOutputAction
      split <;> exact he

theorem Reachable.wellTimed (h : Reachable env config e) : e.sendQueue.WellTimed :=
  h.of_moves (fun _ sessionId => ReliableSendQueue.wellTimed_new sessionId 16)
    fun _ _ hmove he => hmove.wellTimed he

/-! ## A timeout before the deadline -/

/-- The ping timer has not run out, or there is no key to send a ping with. -/
def PingIdle (e : ProtocolEngine Conn) (now : Instant) : Prop :=
  now - e.lastPingSent < e.config.pingInterval.getD 10000000000 ∨ e.keyManager.getTxSlot = none

/-- A connected engine has no ping to send, and has heard from the server recently enough. -/
def KeepaliveIdle (e : ProtocolEngine Conn) (now : Instant) : Prop :=
  e.state = .connected →
    e.PingIdle now ∧ now - e.lastPacketRecv < e.effectivePingRestart

/-- Before the deadline only the keepalive part of a timeout is left. -/
theorem run_handleTimeout_before (hreach : Reachable env config e) {now : Instant}
    (hdeadline : ∀ d ∈ e.pollTimeout, now < d) :
    (handleTimeout env now).run e =
      (Prog.when (e.state = .connected) (checkKeepalive env e now)).run e := by
  have hpoll := hreach.wellTimed.poll_of_lt hdeadline
  have hfirst : (Prog.ofFun fun e : ProtocolEngine Conn =>
      ((e.sendQueue.pollRetransmissions now).1,
        { e with sendQueue := (e.sendQueue.pollRetransmissions now).2 })).run e =
      some (.ok [], e) := by
    rw [Prog.run_ofFun, hpoll]
  refine (Prog.run_bind_of_ok hfirst).trans ?_
  exact (Prog.run_bind_of_ok (a := ⟨⟩) (t := e) rfl).trans (Prog.run_get_bind _ _)

/-- A ping that goes out is queued. -/
theorem length_outbox_of_ping {slot : KeySlot} (hconnected : e.state = .connected)
    (hslot : e.keyManager.getTxSlot = some slot) {now : Instant} {e' : ProtocolEngine Conn}
    (hrun : (sendKeepalivePing env now).run e = some (.ok (), e')) :
    e'.outbox.length = e.outbox.length + 1 := by
  have hup : ¬ (e.state ≠ .connected ∧ e.state ≠ .rekeying) := fun h => h.1 hconnected
  simp only [sendKeepalivePing, Prog.run_get_bind, if_neg hup, hslot] at hrun
  cases hseal : sealPayload env e slot keepaliveMagic with
  | error err =>
      rw [Prog.run_bind_of_error (run_sealAndSend_of_error hseal)] at hrun
      cases hrun
  | ok out =>
      obtain ⟨ciphertext, tag⟩ := out
      rw [Prog.run_bind_of_ok (run_sealAndSend_of_ok hseal)] at hrun
      obtain rfl : _ = e' := by simpa using hrun
      simp [sent, withSlot]

/-- Whether the session is closed for inactivity after the ping. -/
theorem run_checkInactivity (e : ProtocolEngine Conn) (now : Instant) (pingRestart : Duration)
    (lastPacketRecv : Instant) :
    (Prog.when (now - lastPacketRecv ≥ pingRestart) (do
      transitionState .error
      pushAction (.closeSession (inactivityMessage pingRestart))
      throw (.handshakeTimeout pingRestart)) : EngineM Conn Unit).run e =
      if now - lastPacketRecv < pingRestart then some (.ok (), e)
      else some (.error (.handshakeTimeout pingRestart),
        (e.become .error).queue (.closeSession (inactivityMessage pingRestart))) := by
  by_cases hrecent : now - lastPacketRecv < pingRestart
  · rw [Prog.when, if_neg (not_le.mpr hrecent), if_pos hrecent]
    rfl
  · rw [Prog.when, if_pos (not_lt.mp hrecent), if_neg hrecent, run_expire]

theorem run_ping_of_idle (hidle : e.PingIdle now) :
    (Prog.when (now - e.lastPingSent ≥ e.config.pingInterval.getD 10000000000)
      (sendKeepalivePing env now)).run e = some (.ok (), e) := by
  by_cases hdue : now - e.lastPingSent < e.config.pingInterval.getD 10000000000
  · rw [Prog.when, if_neg (not_le.mpr hdue)]
    rfl
  · have hslot := hidle.resolve_left hdue
    rw [Prog.when, if_pos (not_lt.mp hdue)]
    simp only [sendKeepalivePing, Prog.run_get_bind, hslot]
    split <;> rfl

theorem pingIdle_of_run (hconnected : e.state = .connected)
    (hrun : (Prog.when (now - e.lastPingSent ≥ e.config.pingInterval.getD 10000000000)
      (sendKeepalivePing env now)).run e = some (.ok (), e)) : e.PingIdle now := by
  by_contra hnot
  obtain ⟨hdue, hslot⟩ := not_or.mp hnot
  obtain ⟨slot, hslot⟩ := Option.ne_none_iff_exists'.mp hslot
  rw [Prog.when, if_pos (not_lt.mp hdue)] at hrun
  have hlength := length_outbox_of_ping hconnected hslot hrun
  omega

/-- Before the deadline of the retransmissions a timeout does nothing exactly if the keepalive
timers have nothing to do either. -/
theorem timeout_is_idle_iff (hreach : Reachable env config e) (now : Instant)
    (hdeadline : ∀ d ∈ e.pollTimeout, now < d) :
    (handleTimeout env now).run e = some (.ok (), e) ↔ KeepaliveIdle e now := by
  rw [run_handleTimeout_before hreach hdeadline]
  by_cases hconnected : e.state = .connected
  · rw [Prog.when, if_pos hconnected, checkKeepalive]
    constructor
    · intro hrun _
      rcases Prog.exists_of_run_bind hrun with ⟨_, e₁, hping, hcheck⟩ | ⟨err, -, herr⟩
      · rw [run_checkInactivity] at hcheck
        split at hcheck
        · rename_i hrecent
          obtain rfl : e₁ = e := by simpa using hcheck
          exact ⟨pingIdle_of_run hconnected hping, hrecent⟩
        · simp at hcheck
      · cases herr
    · intro hidle
      obtain ⟨hping, hrecent⟩ := hidle hconnected
      refine (Prog.run_bind_of_ok (run_ping_of_idle hping)).trans ?_
      rw [run_checkInactivity]
      exact if_pos hrecent
  · rw [Prog.when, if_neg hconnected]
    exact iff_of_true rfl fun h => absurd h hconnected

end ProtocolEngine

/-! ## A connected engine with nothing to retransmit -/

namespace Loopback

open Config ProtocolEngine

/-- The server acknowledges all that the client has sent. -/
def ackOps : List Op :=
  connectOps ++ [.processNetworkPacket 0 (ControlPacket.encode {
    opcode := .ackV1, keyId := 0, sessionId := serverId, ackArray := [0, 1, 2, 3],
    remoteSessionId := some 42, packetId := none, payload := [] })]

/-- A connected engine without a deadline, whose keepalive timers have not run out. -/
def rests (now : Instant) (e : ProtocolEngine Conn) : Bool :=
  e.state = .connected && e.pollTimeout = none &&
    now - e.lastPingSent < e.config.pingInterval.getD 10000000000 &&
    now - e.lastPacketRecv < e.effectivePingRestart

/-- Just before the first ping is due. -/
theorem timeout_is_idle_iff_rests : ∃ e, Reachable env {} e ∧ e.state = .connected ∧
    (handleTimeout env 9999999999).run e = some (.ok (), e) := by
  obtain ⟨e, run, hrests⟩ := Transition.exists_run_of_any
    (show (Transition.runList (ProtocolEngine.step env) (fun _ _ => True) (newEngine {}) ackOps).any
      (rests 9999999999) = true by decide +kernel)
  have hreach : Reachable env {} e := ⟨ackOps, 0, 42, run⟩
  simp only [rests, Bool.and_eq_true, decide_eq_true_eq] at hrests
  obtain ⟨⟨⟨hstate, hdeadline⟩, hping⟩, hrecent⟩ := hrests
  refine ⟨e, hreach, hstate, (timeout_is_idle_iff hreach 9999999999 ?_).mpr ?_⟩
  · simp [hdeadline]
  · exact fun _ => ⟨.inl hping, hrecent⟩

/-- A connected engine without a deadline that a timeout makes send something. -/
def pings (now : Instant) (e : ProtocolEngine Conn) : Bool :=
  e.pollTimeout = none &&
    ((handleTimeout env now).run e).map (·.2.outbox.length) ≠ some e.outbox.length

/-- The ping is due, and no deadline says so. -/
theorem ping_without_deadline :
    ¬ ∀ (Conn : Type) (env : Env Conn) (config : OpenVpnConfig) (e : ProtocolEngine Conn),
      Reachable env config e → ∀ t, (∀ d ∈ e.pollTimeout, t < d) →
        (handleTimeout env t).run e = some (.ok (), e) := by
  intro hclaim
  obtain ⟨e, run, hpings⟩ := Transition.exists_run_of_any
    (show (Transition.runList (ProtocolEngine.step env) (fun _ _ => True) (newEngine {}) ackOps).any
      (pings 10000000000) = true by decide +kernel)
  simp only [pings, Bool.and_eq_true, decide_eq_true_eq] at hpings
  have hrun := hclaim Conn env {} e ⟨ackOps, 0, 42, run⟩ 10000000000 (by simp [hpings.1])
  rw [hrun] at hpings
  exact hpings.2 rfl

end Loopback

end VpnHub.Protocol
