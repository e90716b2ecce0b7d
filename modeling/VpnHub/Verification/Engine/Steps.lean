import VpnHub.Verification.Engine.DataChannel
import VpnHub.Verification.Engine.Footprint

/-! What one operation of the engine can do, as a case distinction that every invariant of the
engine is derived from. -/

namespace VpnHub.Protocol

open Config Crypto

/-! ## The sending half of a slot -/

/-- A slot without its receiving half. -/
def KeySlot.sender (slot : KeySlot) : KeySlot :=
  { slot with antiReplay := .new, bytesReceived := 0 }

theorem KeySlot.eq_of_sender {slot slot' : KeySlot} (h : slot'.sender = slot.sender) :
    slot' = { slot with
      antiReplay := slot'.antiReplay, bytesReceived := slot'.bytesReceived } := by
  simp only [sender, mk.injEq] at h
  cases slot'
  simp_all

theorem KeySlotManager.sender_setSlot {m : KeySlotManager} {keyId : UInt8} {ref : SlotRef}
    {slot slot' : KeySlot} (hs : m.getRxSlot keyId = some (ref, slot))
    (h : slot'.sender = slot.sender) :
    (m.setSlot ref slot').primary.map KeySlot.sender = m.primary.map KeySlot.sender := by
  rcases (getRxSlot_eq_some hs).2 with ⟨rfl, hm⟩ | ⟨rfl, hm⟩
  · simp [setSlot, hm, h]
  · rfl

theorem KeySlotManager.cipherSuite_setSlot (m : KeySlotManager) (ref : SlotRef) (slot : KeySlot) :
    (m.setSlot ref slot).cipherSuite = m.cipherSuite := by
  cases ref <;> rfl

theorem KeySlotManager.installed_setSlot (m : KeySlotManager) (ref : SlotRef) (slot : KeySlot) :
    (m.setSlot ref slot).installed = m.installed := by
  cases ref <;> rfl

namespace ProtocolEngine

variable {Conn : Type} {env : Env Conn} {e e' : ProtocolEngine Conn}

/-! ## Receiving data -/

/-- A data packet moves the receiving halves of the slots and queues packets for the TUN
device. -/
structure DataFrame (e e' : ProtocolEngine Conn) : Prop where
  rest : e' = { e with
    keyManager := e'.keyManager, lastPacketRecv := e'.lastPacketRecv, outbox := e'.outbox }
  sender : e'.keyManager.primary.map KeySlot.sender = e.keyManager.primary.map KeySlot.sender
  installed : e'.keyManager.installed = e.keyManager.installed
  suite : e'.keyManager.cipherSuite = e.keyManager.cipherSuite
  outbox : ∃ queued, e'.outbox = e.outbox ++ queued ∧
    ∀ packet, .sendToNetwork packet ∉ queued

theorem DataFrame.of_outcome {keyId : UInt8} {packet : Bytes} {now : Instant}
    {r : Except ProtocolError Unit}
    (h : DataOutcome env { e with lastPacketRecv := now } keyId packet r e') :
    DataFrame e e' := by
  have hslot {ref : SlotRef} {slot : KeySlot} (slot' : KeySlot)
      (hs : e.keyManager.getRxSlot keyId = some (ref, slot)) (h : slot'.sender = slot.sender) :
      DataFrame e (({ e with lastPacketRecv := now } : ProtocolEngine Conn).withSlot ref slot') :=
    ⟨rfl, KeySlotManager.sender_setSlot hs h, KeySlotManager.installed_setSlot _ _ _,
      KeySlotManager.cipherSuite_setSlot _ _ _, [], (List.append_nil _).symm, by simp⟩
  cases h with
  | badHeader hd => exact ⟨rfl, rfl, rfl, rfl, [], by simp, by simp⟩
  | noSlot hd hs => exact ⟨rfl, rfl, rfl, rfl, [], by simp, by simp⟩
  | replayed hd hs hw => exact hslot _ hs rfl
  | short hd hs hw hlen => exact hslot _ hs rfl
  | forged hd hs hw hlen hopen => exact hslot _ hs rfl
  | @authentic op kid peerId packetId payload ref slot plaintext hd hs hw hlen hopen =>
      have hkeys := hslot { checkedSlot slot packetId with
        bytesReceived := slot.bytesReceived + UInt64.ofNat plaintext.length } hs rfl
      refine ⟨rfl, hkeys.sender, hkeys.installed, hkeys.suite, tunActions plaintext, rfl, ?_⟩
      intro p hmem
      unfold tunActions at hmem
      split at hmem
      · simp at hmem
      · split at hmem <;> simp at hmem

/-! ## Sending data -/

/-- One packet id is taken from the primary slot, and a frame is sealed with it unless the
encryption fails. -/
inductive Sends (env : Env Conn) (e : ProtocolEngine Conn) : ProtocolEngine Conn → Prop where
  | failed {slot : KeySlot} {plaintext : Bytes} {err : CryptoError}
      (hs : e.keyManager.primary = some slot)
      (hseal : sealPayload env e slot plaintext = .error err) :
      Sends env e (e.withSlot .primary slot.nextTxPacketId.2)
  | sealed {slot : KeySlot} {plaintext ciphertext : Bytes} {tag : FixedBytes 16}
      (hs : e.keyManager.primary = some slot)
      (hseal : sealPayload env e slot plaintext = .ok (ciphertext, tag)) :
      Sends env e (e.sent slot ciphertext tag)

theorem Sends.exists_slot (h : Sends env e e') :
    ∃ slot bytesSent, e.keyManager.primary = some slot ∧
      e'.keyManager.primary = some { slot.nextTxPacketId.2 with bytesSent } := by
  cases h with
  | @failed slot plaintext err hs hseal => exact ⟨slot, slot.bytesSent, hs, rfl⟩
  | @sealed slot plaintext ciphertext tag hs hseal => exact ⟨slot, _, hs, rfl⟩

theorem sends_of_sealAndSend {slot : KeySlot} {plaintext : Bytes} {r : Except ProtocolError Unit}
    (hs : e.keyManager.primary = some slot)
    (hrun : (sealAndSend env slot plaintext).run e = some (r, e')) : Sends env e e' := by
  cases hseal : sealPayload env e slot plaintext with
  | error err =>
      rw [run_sealAndSend_of_error hseal] at hrun
      obtain ⟨-, rfl⟩ : _ ∧ _ = e' := by simpa using hrun
      exact .failed hs hseal
  | ok out =>
      obtain ⟨ciphertext, tag⟩ := out
      rw [run_sealAndSend_of_ok hseal] at hrun
      obtain ⟨-, rfl⟩ : _ ∧ _ = e' := by simpa using hrun
      exact .sealed hs hseal

/-- The states in which data is sent. -/
def IsUp (e : ProtocolEngine Conn) : Prop := e.state = .connected ∨ e.state = .rekeying

theorem not_isUp_iff : ¬ IsUp e ↔ e.state ≠ .connected ∧ e.state ≠ .rekeying := by
  simp [IsUp]

theorem clampBuffer_keeps (mssFix : Option UInt16) (packet : Bytes) :
    Prog.Keeps Eq (clampBuffer mssFix packet : EngineM Conn Bytes) := by
  unfold clampBuffer
  cases mssFix with
  | none => exact Prog.Keeps.pure (fun _ => rfl) packet
  | some maxMss =>
      cases h : MssFix.clampTcpMss packet maxMss with
      | ok out => simpa [h] using Prog.Keeps.pure (fun _ => rfl) out.2
      | error fault => simpa [h] using Prog.Keeps.stuck

/-- A packet from the TUN device is dropped, or finds no slot, or is sent. -/
theorem processTunPacket_cases (now : Instant) {packet : Bytes} {r : Except ProtocolError Unit}
    (hrun : (processTunPacket env now packet).run e = some (r, e')) :
    e' = e ∨ IsUp e ∧ Sends env e e' := by
  simp only [processTunPacket, Prog.run_get_bind] at hrun
  by_cases hup : e.state ≠ .connected ∧ e.state ≠ .rekeying
  · rw [if_pos hup] at hrun
    obtain ⟨-, rfl⟩ : _ ∧ e = e' := by simpa using hrun
    exact .inl rfl
  · rw [if_neg hup] at hrun
    have hkeep : Prog.Keeps Eq (clampBuffer e.mssFix packet : EngineM Conn Bytes) :=
      clampBuffer_keeps e.mssFix packet
    rcases Prog.exists_of_run_bind hrun with ⟨buf, e₁, hbuf, hrun⟩ | ⟨err, hbuf, -⟩
    · obtain rfl : e = e₁ := hkeep.of_run hbuf
      cases hslot : e.keyManager.getTxSlot with
      | none =>
          rw [hslot] at hrun
          obtain ⟨-, rfl⟩ : _ ∧ e = e' := by simpa using hrun
          exact .inl rfl
      | some slot =>
          rw [hslot] at hrun
          exact .inr ⟨by_contra fun h => hup (not_isUp_iff.mp h), sends_of_sealAndSend hslot hrun⟩
    · exact .inl (hkeep.of_run hbuf).symm

/-- The same for a ping, which also sets the time of the last ping when it is sent. -/
theorem sendKeepalivePing_cases {now : Instant} {r : Except ProtocolError Unit}
    (hrun : (sendKeepalivePing env now).run e = some (r, e')) :
    e' = e ∨ IsUp e ∧ ∃ e₁, Sends env e e₁ ∧ (e' = e₁ ∨ e' = { e₁ with lastPingSent := now }) := by
  simp only [sendKeepalivePing, Prog.run_get_bind] at hrun
  by_cases hup : e.state ≠ .connected ∧ e.state ≠ .rekeying
  · rw [if_pos hup] at hrun
    obtain ⟨-, rfl⟩ : _ ∧ e = e' := by simpa using hrun
    exact .inl rfl
  · rw [if_neg hup] at hrun
    have hisUp : IsUp e := by_contra fun h => hup (not_isUp_iff.mp h)
    cases hslot : e.keyManager.getTxSlot with
    | none =>
        rw [hslot] at hrun
        obtain ⟨-, rfl⟩ : _ ∧ e = e' := by simpa using hrun
        exact .inl rfl
    | some slot =>
        rw [hslot] at hrun
        refine .inr ⟨hisUp, ?_⟩
        rcases Prog.exists_of_run_bind hrun with ⟨_, e₁, hseal, hrun⟩ | ⟨err, hseal, -⟩
        · obtain ⟨-, rfl⟩ : _ ∧ _ = e' := by simpa using hrun
          exact ⟨e₁, sends_of_sealAndSend hslot hseal, .inr rfl⟩
        · exact ⟨e', sends_of_sealAndSend hslot hseal, .inl rfl⟩

/-! ## Timers -/

/-- Retransmissions change the reliable queues, the `tls-auth` counter, the outbox and the
record only. -/
def Quiet (e e' : ProtocolEngine Conn) : Prop :=
  e' = { e with
    sendQueue := e'.sendQueue
    recvQueue := e'.recvQueue
    tlsAuth := e'.tlsAuth
    clockReads := e'.clockReads
    outbox := e'.outbox
    trace := e'.trace }

theorem Quiet.refl (e : ProtocolEngine Conn) : Quiet e e := rfl

theorem Quiet.trans (e₁ e₂ e₃ : ProtocolEngine Conn) (h : Quiet e₁ e₂) (h' : Quiet e₂ e₃) :
    Quiet e₁ e₃ := by
  unfold Quiet at h h' ⊢
  rw [h'] at *
  rw [h]

theorem quiet_emitControlPacket (cp : ControlPacket) :
    Prog.Keeps Quiet (emitControlPacket env cp) := by
  intro e r e' hrun
  rw [run_emitControlPacket] at hrun
  obtain ⟨-, rfl⟩ : _ ∧ e.emit env cp = e' := by simpa using hrun
  rfl

theorem quiet_enqueue (opcode : Opcode) (payload : Bytes) (now : Instant) :
    Prog.Keeps Quiet (enqueue opcode payload now : EngineM Conn UInt32) :=
  Prog.Keeps.bind Quiet.trans (Prog.Keeps.ofFun fun _ => rfl) fun _ =>
    Prog.Keeps.bind Quiet.trans (Prog.Keeps.modify fun _ => rfl) fun _ =>
      Prog.Keeps.pure Quiet.refl _

theorem quiet_drainAcks : Prog.Keeps Quiet (drainAcks : EngineM Conn (List UInt32)) :=
  Prog.Keeps.ofFun fun _ => rfl

theorem quiet_resend (cp : ControlPacket) : Prog.Keeps Quiet (resend env cp) :=
  Prog.Keeps.bind Quiet.trans quiet_drainAcks fun _ => quiet_emitControlPacket _

/-- Whether a timeout at the given time sends a ping. -/
def PingDue (e : ProtocolEngine Conn) (now : Instant) : Prop :=
  e.state = .connected ∧ now - e.lastPingSent ≥ e.config.pingInterval.getD 10000000000

theorem flushes_expire (pingRestart : Duration) (late : Prop) [Decidable late] :
    Flushes env (Prog.when late do
      transitionState .error
      pushAction (.closeSession (inactivityMessage pingRestart))
      throw (.handshakeTimeout pingRestart) : EngineM Conn Unit) :=
  flushes_when (flushes_bind (flushes_transitionState _) fun _ =>
    flushes_bind (flushes_pushAction (by simp)) fun _ => flushes_throw _)

theorem checkKeepalive_cases {now : Instant} {r : Except ProtocolError Unit}
    (hrun : (checkKeepalive env e now).run e = some (r, e')) :
    ControlFrame env e e' ∨ now - e.lastPingSent ≥ e.config.pingInterval.getD 10000000000 ∧
      ∃ e₁, Sends env e e₁ ∧ ControlFrame env e₁ e' := by
  have hpinged (e₁ : ProtocolEngine Conn) : ControlFrame env e₁ { e₁ with lastPingSent := now } :=
    ⟨.refl, rfl, rfl, rfl, rfl, rfl, [], by simp, by simp⟩
  unfold checkKeepalive at hrun
  by_cases hdue : now - e.lastPingSent ≥ e.config.pingInterval.getD 10000000000
  · simp only [Prog.when, hdue, if_true] at hrun
    rcases Prog.exists_of_run_bind hrun with ⟨_, e₁, hping, hrun⟩ | ⟨err, hping, -⟩
    · have hlast : ControlFrame env e₁ e' := ((flushes_expire _ _).of_run hrun).toControlFrame
      rcases sendKeepalivePing_cases hping with rfl | ⟨-, e₂, hsends, rfl | rfl⟩
      · exact .inl hlast
      · exact .inr ⟨hdue, e₁, hsends, hlast⟩
      · exact .inr ⟨hdue, e₂, hsends, ControlFrame.trans _ _ _ (hpinged e₂) hlast⟩
    · rcases sendKeepalivePing_cases hping with rfl | ⟨-, e₂, hsends, rfl | rfl⟩
      · exact .inl (.refl _)
      · exact .inr ⟨hdue, e', hsends, .refl _⟩
      · exact .inr ⟨hdue, e₂, hsends, hpinged e₂⟩
  · simp only [Prog.when, hdue, if_false, Prog.run_pure_bind] at hrun
    exact .inl (((flushes_expire _ _).of_run hrun).toControlFrame)

/-- Retransmissions, a ping when it is due, and control channel code after it. -/
theorem handleTimeout_cases {now : Instant} {r : Except ProtocolError Unit}
    (hrun : (handleTimeout env now).run e = some (r, e')) :
    ControlFrame env e e' ∨ PingDue e now ∧ ∃ e₁ e₂, ControlFrame env e e₁ ∧
      e₁.keyManager = e.keyManager ∧ Sends env e₁ e₂ ∧ ControlFrame env e₂ e' := by
  have hpoll (sendQueue : ReliableSendQueue) : ControlFrame env e { e with sendQueue } :=
    ⟨.refl, rfl, rfl, rfl, rfl, rfl, [], by simp, by simp⟩
  rcases Prog.exists_of_run_bind hrun with ⟨resends, e₁, hfirst, hrun⟩ | ⟨err, hfirst, -⟩
  · have he₁ : _ = e₁ := (Prod.ext_iff.mp (Option.some.inj hfirst)).2
    have hframe₁ : ControlFrame env e e₁ := he₁ ▸ hpoll _
    have hquiet₁ : Quiet e e₁ := he₁ ▸ rfl
    have hresends : Flushes env (resends.forM (resend env)) :=
      Prog.Keeps.forM FlushFrame.refl FlushFrame.trans flushes_resend resends
    have hquiet : Prog.Keeps Quiet (resends.forM (resend env)) :=
      Prog.Keeps.forM Quiet.refl Quiet.trans quiet_resend resends
    rcases Prog.exists_of_run_bind hrun with ⟨_, e₂, hloop, hrun⟩ | ⟨err, hloop, -⟩
    · have hframe₂ := ControlFrame.trans _ _ _ hframe₁ (hresends.of_run hloop).toControlFrame
      have hquiet₂ : Quiet e e₂ := Quiet.trans _ _ _ hquiet₁ (hquiet.of_run hloop)
      rw [Prog.run_get_bind] at hrun
      by_cases hup : e₂.state = .connected
      · rw [Prog.when, if_pos hup] at hrun
        rcases checkKeepalive_cases hrun with hframe | ⟨hdue, e₃, hsends, hframe⟩
        · exact .inl (ControlFrame.trans _ _ _ hframe₂ hframe)
        · -- the retransmissions before the ping leave alone what decides whether it is due
          have hstate : e₂.state = e.state := by rw [hquiet₂]
          have hlast : e₂.lastPingSent = e.lastPingSent := by rw [hquiet₂]
          have hconfig : e₂.config = e.config := by rw [hquiet₂]
          have hkeys : e₂.keyManager = e.keyManager := by rw [hquiet₂]
          rw [hstate] at hup
          rw [hlast, hconfig] at hdue
          exact .inr ⟨⟨hup, hdue⟩, e₂, e₃, hframe₂, hkeys, hsends, hframe⟩
      · rw [Prog.when, if_neg hup] at hrun
        obtain ⟨-, rfl⟩ : _ ∧ e₂ = e' := by simpa using hrun
        exact .inl hframe₂
    · exact .inl (ControlFrame.trans _ _ _ hframe₁ (hresends.of_run hloop).toControlFrame)
  · have he' : _ = e' := (Prod.ext_iff.mp (Option.some.inj hfirst)).2
    exact .inl (he' ▸ hpoll _)

/-! ## Connecting -/

/-- The hard reset goes out whether or not the TLS connection can then be made. -/
theorem startConnect_cases {now : Instant} {r : Except ProtocolError Unit}
    (hrun : (startConnect env now).run e = some (r, e')) :
    ControlFrame env e e' ∨ ∃ e₁ tls, ControlFrame env e e₁ ∧
      TlsStreamAdapter.new env.tls e₁.randomReads (serverHost e₁.config) e₁.config.ca
        e₁.config.cert e₁.config.key = some (.ok tls) ∧
      e' = { e₁ with tlsAdapter := some tls, randomReads := e₁.randomReads + 1 } := by
  rcases Prog.exists_of_run_bind hrun with ⟨_, e₁, h₁, hrun⟩ | ⟨err, h₁, -⟩
  · have hframe₁ : ControlFrame env e e₁ := ((flushes_transitionState _).of_run h₁).toControlFrame
    rcases Prog.exists_of_run_bind hrun with ⟨pid, e₂, h₂, hrun⟩ | ⟨err, h₂, -⟩
    · have hframe₂ := ControlFrame.trans _ _ _ hframe₁
        (((flushes_enqueue _ _ _).of_run h₂).toControlFrame)
      rw [Prog.run_get_bind] at hrun
      rcases Prog.exists_of_run_bind hrun with ⟨_, e₃, h₃, hrun⟩ | ⟨err, h₃, -⟩
      · have hframe₃ := ControlFrame.trans _ _ _ hframe₂
          (((flushes_emitControlPacket _).of_run h₃).toControlFrame)
        rw [Prog.run_get_bind] at hrun
        cases hnew : TlsStreamAdapter.new env.tls e₃.randomReads (serverHost e₃.config)
            e₃.config.ca e₃.config.cert e₃.config.key with
        | none => simp [hnew] at hrun
        | some result =>
            cases result with
            | error err =>
                obtain ⟨-, rfl⟩ : _ ∧ e₃ = e' := by simpa [hnew] using hrun
                exact .inl hframe₃
            | ok tls =>
                obtain ⟨-, rfl⟩ : _ ∧ _ = e' := by simpa [hnew] using hrun
                exact .inr ⟨e₃, tls, hframe₃, hnew, rfl⟩
      · exact .inl (ControlFrame.trans _ _ _ hframe₂
          (((flushes_emitControlPacket _).of_run h₃).toControlFrame))
    · exact .inl (ControlFrame.trans _ _ _ hframe₁
        (((flushes_enqueue _ _ _).of_run h₂).toControlFrame))
  · exact .inl (((flushes_transitionState _).of_run h₁).toControlFrame)

/-! ## Every operation -/

/-- Whether an operation takes a packet id from the primary slot, if there is one. -/
def Allocates (e : ProtocolEngine Conn) : Op → Prop
  | .processTunPacket _ _ => IsUp e
  | .sendKeepalivePing _ => IsUp e
  | .handleTimeout now => PingDue e now
  | _ => False

/-- What an operation can do: run control channel code, set up the TLS connection, receive a
data packet, send one between parts of control channel code, or hand out an action. -/
inductive StepShape (env : Env Conn) (e : ProtocolEngine Conn) : Op → ProtocolEngine Conn → Prop
    where
  | control {op : Op} {e' : ProtocolEngine Conn} (h : ControlFrame env e e') :
      StepShape env e op e'
  | connect {now : Instant} {e₁ : ProtocolEngine Conn} {tls : TlsStreamAdapter Conn}
      (h : ControlFrame env e e₁)
      (hnew : TlsStreamAdapter.new env.tls e₁.randomReads (serverHost e₁.config) e₁.config.ca
        e₁.config.cert e₁.config.key = some (.ok tls)) :
      StepShape env e (.startConnect now)
        { e₁ with tlsAdapter := some tls, randomReads := e₁.randomReads + 1 }
  | receive {now : Instant} {packet : Bytes} {e' : ProtocolEngine Conn} (h : DataFrame e e') :
      StepShape env e (.processNetworkPacket now packet) e'
  | send {op : Op} {e₁ e₂ e' : ProtocolEngine Conn} (hop : Allocates e op)
      (h : ControlFrame env e e₁) (hkeys : e₁.keyManager = e.keyManager) (hsends : Sends env e₁ e₂)
      (h' : ControlFrame env e₂ e') :
      StepShape env e op e'
  | poll : StepShape env e .pollOutputAction e.pollOutputAction.2

theorem step_cases {op : Op} (h : step env e op = some e') : StepShape env e op e' := by
  obtain ⟨r, hrun⟩ := step_eq_some.mp h
  cases op with
  | startConnect now =>
      rcases startConnect_cases hrun with hframe | ⟨e₁, tls, hframe, hnew, rfl⟩
      · exact .control hframe
      · exact .connect hframe hnew
  | processNetworkPacket now packet =>
      have hnow : ControlFrame env e { e with lastPacketRecv := now } :=
        ⟨.refl, rfl, rfl, rfl, rfl, rfl, [], by simp, by simp⟩
      rcases processNetworkPacket_cases hrun with ⟨keyId, hout⟩ | ⟨-, hcontrol⟩ | rfl
      · exact .receive (.of_outcome hout)
      · exact .control (ControlFrame.trans _ _ _ hnow
          ((framed_processIncomingControlPacket now packet).of_run hcontrol))
      · exact .control hnow
  | processTunPacket now packet =>
      rcases processTunPacket_cases now hrun with rfl | ⟨hup, hsends⟩
      · exact .control (.refl _)
      · exact .send hup (.refl e) rfl hsends (.refl e')
  | sendKeepalivePing now =>
      rcases sendKeepalivePing_cases hrun with rfl | ⟨hup, e₁, hsends, rfl | rfl⟩
      · exact .control (.refl _)
      · exact .send hup (.refl e) rfl hsends (.refl _)
      · refine .send hup (.refl e) rfl hsends ?_
        exact ⟨.refl, rfl, rfl, rfl, rfl, rfl, [], by simp, by simp⟩
  | submitChallengeResponse now stateId response =>
      exact .control ((flushes_submitChallengeResponse now stateId response).of_run hrun).toControlFrame
  | handleTimeout now =>
      rcases handleTimeout_cases hrun with hframe | ⟨hdue, e₁, e₂, hframe, hkeys, hsends, hframe'⟩
      · exact .control hframe
      · exact .send hdue hframe hkeys hsends hframe'
  | pollOutputAction =>
      obtain ⟨-, rfl⟩ : _ ∧ _ = e' := by simpa [exec] using hrun
      exact .poll

end ProtocolEngine

end VpnHub.Protocol
