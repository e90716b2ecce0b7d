import VpnHub.Model.Loopback
import VpnHub.Verification.Engine.DataChannel
import VpnHub.Verification.Engine.Flush
import VpnHub.Verification.Reliable.Queues

/-! Control packets of other sessions. -/

namespace VpnHub.Protocol

open Config Crypto

/-! ## The queues -/

theorem ReliableRecvQueue.drainContiguous_cases (turns : ℕ) (q : ReliableRecvQueue) :
    drainContiguous turns q = q ∨ (drainContiguous turns q).outOfOrder.size < q.outOfOrder.size := by
  induction turns generalizing q with
  | zero => exact .inl rfl
  | succ turns ih =>
      cases hfind : q.outOfOrder.find? q.nextExpectedId.toNat with
      | none => exact .inl (by simp only [drainContiguous, hfind])
      | some payload =>
          have herase := OrdMap.size_erase_lt hfind
          simp only [drainContiguous, hfind]
          right
          rcases ih { q with
              outOfOrder := q.outOfOrder.erase q.nextExpectedId.toNat
              readyStream := q.readyStream ++ [payload]
              nextExpectedId := q.nextExpectedId + 1 } with h | h
          · rw [h]
            exact herase
          · exact h.trans herase

/-- The expected packet moves the queue, whatever follows it: the next expected id is one
further, or the reorder buffer has lost an entry. -/
theorem ReliableRecvQueue.processPacket_expected (q : ReliableRecvQueue) (payload : Bytes) :
    ∃ q', q.processPacket q.nextExpectedId payload = (.ok (), q') ∧
      (q'.nextExpectedId ≠ q.nextExpectedId ∨ q'.outOfOrder ≠ q.outOfOrder) := by
  have hirrefl : ¬ q.nextExpectedId < q.nextExpectedId := UInt32.lt_irrefl _
  obtain ⟨acks, hack, -, -⟩ := q.recordAck_eq q.nextExpectedId
  rcases q.processPacket_cases q.nextExpectedId payload with h | ⟨-, h⟩ | h | h
  · exact absurd h.1 hirrefl
  · refine ⟨_, h, ?_⟩
    rcases drainContiguous_cases q.outOfOrder.size { q.recordAck q.nextExpectedId with
        readyStream := q.readyStream ++ [payload]
        nextExpectedId := q.nextExpectedId + 1 } with heq | hlt
    · left
      rw [heq]
      simp
    · right
      intro heq
      rw [heq, hack] at hlt
      exact Nat.lt_irrefl _ hlt
  · exact absurd h.1 hirrefl
  · exact absurd h.1 hirrefl

/-- Draining a queue in which only acknowledgements were pending. -/
theorem ReliableRecvQueue.drain_eq_self {q : ReliableRecvQueue} (hpending : q.pendingAcks = [])
    (hready : q.readyStream = []) (acks : List UInt32) :
    ({ q with pendingAcks := acks } : ReliableRecvQueue).drainReady.2.drainAcks.2 = q := by
  cases q
  simp_all [drainReady, drainAcks]

theorem ReliableSendQueue.unacked_processAcks_eq_iff (q : ReliableSendQueue) (acks : List UInt32) :
    (q.processAcks acks).2.unacked = q.unacked ↔ ∀ pkt ∈ q.unacked, pkt.packetId ∉ acks := by
  simp [processAcks, List.filter_eq_self]

namespace ProtocolEngine

variable {Conn : Type} {env : Env Conn} {e e' : ProtocolEngine Conn} {now : Instant}

/-! ## Engines at rest -/

/-- Nothing is waiting in the receive queue, and the TLS connection is idle: an engine between
two calls that have both done all their work. -/
structure AtRest (env : Env Conn) (e : ProtocolEngine Conn) : Prop where
  pendingAcks : e.recvQueue.pendingAcks = []
  readyStream : e.recvQueue.readyStream = []
  tlsIdle : TlsIdle env e

theorem exists_run_flush_atRest (e₁ : ProtocolEngine Conn) {acks : List UInt32}
    (h : AtRest env e) (hqueue : e₁.recvQueue = { e.recvQueue with pendingAcks := acks })
    (hadapter : e₁.tlsAdapter = e.tlsAdapter) (hstate : e₁.state = e.state) (now : Instant) :
    ∃ e', (flushControlChannel env now).run e₁ = some (.ok (), e') ∧
      e'.sendQueue = e₁.sendQueue ∧ e'.recvQueue = e.recvQueue ∧ e'.tlsAdapter = e.tlsAdapter ∧
      e'.state = e.state := by
  have hready : e₁.recvQueue.readyStream = [] := by
    rw [hqueue]
    exact h.readyStream
  have hidle : TlsIdle env e₁ := by
    intro tls htls
    rw [hadapter] at htls
    rw [hstate]
    exact h.tlsIdle tls htls
  have hrun := run_flushWith_idle (handleTlsHandshakeCompletion env now) now (.inr ⟨hready, hidle⟩)
  obtain ⟨e', hack, heq⟩ := exists_run_sendStandaloneAck env
    { e₁ with recvQueue := e₁.recvQueue.drainReady.2 }
  refine ⟨e', hrun.trans hack, by rw [heq], ?_, ?_, ?_⟩
  · rw [heq]
    change e₁.recvQueue.drainReady.2.drainAcks.2 = _
    rw [hqueue]
    exact ReliableRecvQueue.drain_eq_self h.pendingAcks h.readyStream acks
  · rw [heq]
    exact hadapter
  · rw [heq]
    exact hstate

/-! ## Packets of other sessions -/

/-- A packet that is not from the peer's session, or that acknowledges packets of a session
that is not this one. -/
def Foreign (e : ProtocolEngine Conn) (cp : ControlPacket) : Prop :=
  (∃ s, e.remoteSessionId = some s ∧ cp.sessionId ≠ s) ∨
    cp.ackArray ≠ [] ∧ cp.remoteSessionId ≠ some e.localSessionId

/-- Send queue, receive queue, TLS adapter and state are as before. -/
structure Unmoved (e e' : ProtocolEngine Conn) : Prop where
  unacked : e'.sendQueue.unacked = e.sendQueue.unacked
  recvQueue : e'.recvQueue = e.recvQueue
  tlsAdapter : e'.tlsAdapter = e.tlsAdapter
  state : e'.state = e.state

/-- The datagram is processed without moving the engine. -/
def LeavesAlone (env : Env Conn) (e : ProtocolEngine Conn) (now : Instant) (packet : Bytes) : Prop :=
  ∃ r e', (processNetworkPacket env now packet).run e = some (r, e') ∧ Unmoved e e'

/-- The packet acknowledges nothing that is in flight, and carries nothing new: no packet id,
an id that has been received already, or a packet that is in the reorder buffer as it is. -/
def Harmless (e : ProtocolEngine Conn) (cp : ControlPacket) : Prop :=
  (∀ pkt ∈ e.sendQueue.unacked, pkt.packetId ∉ cp.ackArray) ∧
    ∀ packetId, cp.packetId = some packetId →
      packetId < e.recvQueue.nextExpectedId ∨
      e.recvQueue.nextExpectedId < packetId ∧ e.recvQueue.outOfOrder.size ≤ 64 ∧
        e.recvQueue.outOfOrder.find? packetId.toNat = some cp.payload

variable {packet : Bytes} {cp : ControlPacket}

/-- Once the peer's session is known, a control packet is processed without regard to its
session ids. -/
theorem run_control_of_known {s : UInt64} (hremote : e.remoteSessionId = some s)
    (hc : startsControl packet = true) (hd : decodeControl env e.tlsAuth packet = .ok cp)
    (now : Instant) :
    (processNetworkPacket env now packet).run e =
      ((do
        receiveReliable cp
        flushControlChannel env now) : EngineM Conn Unit).run { e with
          lastPacketRecv := now, sendQueue := (e.sendQueue.processAcks cp.ackArray).2 } := by
  have hknown : ({ e with lastPacketRecv := now } : ProtocolEngine Conn).acknowledged cp = { e with
      lastPacketRecv := now, sendQueue := (e.sendQueue.processAcks cp.ackArray).2 } := by
    simp only [acknowledged, learnRemoteSession, hremote]
  rw [run_processNetworkPacket_control hc,
    run_processIncomingControlPacket_of_ok (e := { e with lastPacketRecv := now }) hd, hknown]

/-- A flush does not undo a change of the next expected id or of the reorder buffer. -/
theorem not_unmoved_of_flush {e₁ : ProtocolEngine Conn} {r : Except ProtocolError Unit}
    (hrun : (flushControlChannel env now).run e₁ = some (r, e'))
    (h : e₁.recvQueue.nextExpectedId ≠ e.recvQueue.nextExpectedId ∨
      e₁.recvQueue.outOfOrder ≠ e.recvQueue.outOfOrder) : ¬ Unmoved e e' := by
  have hframe := (flushes_flushControlChannel now).of_run hrun
  intro hunmoved
  rcases h with h | h
  · exact h (by rw [← hframe.nextExpectedId, hunmoved.recvQueue])
  · exact h (by rw [← hframe.outOfOrder, hunmoved.recvQueue])

/-- The packet that is expected next moves the engine in every state. -/
theorem not_leavesAlone_of_expected {s : UInt64} (hremote : e.remoteSessionId = some s)
    (hc : startsControl packet = true) (hd : decodeControl env e.tlsAuth packet = .ok cp)
    (hid : cp.packetId = some e.recvQueue.nextExpectedId) : ¬ LeavesAlone env e now packet := by
  intro hleaves
  obtain ⟨r, e', hrun, hunmoved⟩ := hleaves
  obtain ⟨q, hq, hmoved⟩ := e.recvQueue.processPacket_expected cp.payload
  rw [run_control_of_known hremote hc hd] at hrun
  simp only [receiveReliable, hid] at hrun
  rw [Prog.run_bind_of_ok (a := ()) (t := { e with
    lastPacketRecv := now
    sendQueue := (e.sendQueue.processAcks cp.ackArray).2
    recvQueue := q }) (by rw [Prog.run_ofFun]; simp only [hq])] at hrun
  exact not_unmoved_of_flush hrun hmoved hunmoved

/-- The engine when the acknowledgements of a packet have been taken in. -/
def ackedAt (e : ProtocolEngine Conn) (cp : ControlPacket) (now : Instant) : ProtocolEngine Conn :=
  { e with lastPacketRecv := now, sendQueue := (e.sendQueue.processAcks cp.ackArray).2 }

/-- A packet after which only acknowledgements are pending: they are sent, and all that may
have changed is what the packet acknowledges. -/
theorem leavesAlone_iff_of_received {s : UInt64} {acks : List UInt32}
    (hremote : e.remoteSessionId = some s) (hc : startsControl packet = true)
    (hd : decodeControl env e.tlsAuth packet = .ok cp) (hrest : AtRest env e)
    (hrecv : (receiveReliable cp : EngineM Conn Unit).run (e.ackedAt cp now) =
      some (.ok (), { e.ackedAt cp now with
        recvQueue := { e.recvQueue with pendingAcks := acks } })) :
    LeavesAlone env e now packet ↔ ∀ pkt ∈ e.sendQueue.unacked, pkt.packetId ∉ cp.ackArray := by
  obtain ⟨e', hflush, hsend, hqueue, hadapter, hstate⟩ := exists_run_flush_atRest
    { e.ackedAt cp now with recvQueue := { e.recvQueue with pendingAcks := acks } }
    hrest rfl rfl rfl now
  have hrun : (processNetworkPacket env now packet).run e = some (.ok (), e') := by
    rw [run_control_of_known hremote hc hd]
    exact (Prog.run_bind_of_ok hrecv).trans hflush
  rw [← ReliableSendQueue.unacked_processAcks_eq_iff]
  constructor
  · intro hleaves
    obtain ⟨r, e'', hrun', hunmoved⟩ := hleaves
    obtain ⟨-, rfl⟩ : _ ∧ e' = e'' := by simpa using hrun.symm.trans hrun'
    rw [← hunmoved.unacked, hsend]
    rfl
  · intro hacks
    refine ⟨_, e', hrun, ?_, hqueue, hadapter, hstate⟩
    rw [hsend]
    exact hacks

theorem leavesAlone_iff_harmless {s : UInt64} (hremote : e.remoteSessionId = some s)
    (hc : startsControl packet = true) (hd : decodeControl env e.tlsAuth packet = .ok cp)
    (hrest : AtRest env e) : LeavesAlone env e now packet ↔ Harmless e cp := by
  cases hid : cp.packetId with
  | none =>
      have hrecv : (receiveReliable cp : EngineM Conn Unit).run (e.ackedAt cp now) =
          some (.ok (), { e.ackedAt cp now with
            recvQueue := { e.recvQueue with pendingAcks := e.recvQueue.pendingAcks } }) := by
        simp only [receiveReliable, hid]
        rfl
      rw [leavesAlone_iff_of_received hremote hc hd hrest hrecv]
      simp [Harmless, hid]
  | some packetId =>
      have hrecv : (receiveReliable cp : EngineM Conn Unit).run (e.ackedAt cp now) =
          some ((e.recvQueue.processPacket packetId cp.payload).1, { e.ackedAt cp now with
            recvQueue := (e.recvQueue.processPacket packetId cp.payload).2 }) := by
        simp only [receiveReliable, hid]
        rfl
      obtain ⟨acks, hack, hmem, -⟩ := e.recvQueue.recordAck_eq packetId
      rcases e.recvQueue.processPacket_cases packetId cp.payload with
        ⟨hlt, hcase⟩ | ⟨heq, hcase⟩ | ⟨hgt, hfull, hcase⟩ | ⟨hgt, hroom, hcase⟩
      · rw [hcase, hack] at hrecv
        rw [leavesAlone_iff_of_received hremote hc hd hrest hrecv]
        simp [Harmless, hid, hlt]
      · refine iff_of_false (not_leavesAlone_of_expected hremote hc hd (heq ▸ hid)) ?_
        intro hharmless
        rcases hharmless.2 packetId hid with h | h
        · exact absurd (heq ▸ h) (UInt32.lt_irrefl _)
        · exact absurd (heq ▸ h.1) (UInt32.lt_irrefl _)
      · refine iff_of_false ?_ ?_
        · intro hleaves
          obtain ⟨r, e', hrun, hunmoved⟩ := hleaves
          rw [hcase] at hrecv
          rw [run_control_of_known hremote hc hd] at hrun
          have hstop := Prog.run_bind_of_error (f := fun _ => flushControlChannel env now) hrecv
          obtain ⟨-, rfl⟩ : _ ∧ _ = e' := by simpa using hstop.symm.trans hrun
          have hpending := congrArg ReliableRecvQueue.pendingAcks hunmoved.recvQueue
          rw [hrest.pendingAcks] at hpending
          simp only [hack] at hpending
          simp [hpending] at hmem
        · intro hharmless
          rcases hharmless.2 packetId hid with h | h
          · exact absurd (UInt32.lt_trans h hgt) (UInt32.lt_irrefl _)
          · omega
      · by_cases hbuffered : e.recvQueue.outOfOrder.find? packetId.toNat = some cp.payload
        · rw [hcase, OrdMap.insert_eq_self_iff.mpr hbuffered, hack] at hrecv
          rw [leavesAlone_iff_of_received hremote hc hd hrest hrecv]
          simp [Harmless, hid, hgt, hroom, hbuffered]
        · refine iff_of_false ?_ ?_
          · intro hleaves
            obtain ⟨r, e', hrun, hunmoved⟩ := hleaves
            rw [hcase] at hrecv
            rw [run_control_of_known hremote hc hd] at hrun
            have hflush := (Prog.run_bind_of_ok
              (f := fun _ => flushControlChannel env now) hrecv).symm.trans hrun
            refine not_unmoved_of_flush hflush (.inr ?_) hunmoved
            exact fun heq => hbuffered (OrdMap.insert_eq_self_iff.mp heq)
          · intro hharmless
            rcases hharmless.2 packetId hid with h | h
            · exact absurd (UInt32.lt_trans h hgt) (UInt32.lt_irrefl _)
            · exact hbuffered h.2.2

/-- A control packet of another session is processed like any other. An engine at rest is left
alone exactly by those that acknowledge nothing in flight and carry nothing new, and one that
is expected next moves every engine. -/
theorem foreign_packet_leaves_alone_iff {s : UInt64} (hremote : e.remoteSessionId = some s)
    (hc : startsControl packet = true) (hd : decodeControl env e.tlsAuth packet = .ok cp)
    (_hforeign : Foreign e cp) :
    (AtRest env e → (LeavesAlone env e now packet ↔ Harmless e cp)) ∧
      (cp.packetId = some e.recvQueue.nextExpectedId → ¬ LeavesAlone env e now packet) :=
  ⟨leavesAlone_iff_harmless hremote hc hd, not_leavesAlone_of_expected hremote hc hd⟩

/-- A packet of a session that neither side has ever heard of. -/
def strangerPacket (opcode : Opcode) (ackArray : List UInt32) (packetId : Option UInt32) :
    ControlPacket :=
  { opcode, keyId := 0, sessionId := 7777, ackArray, remoteSessionId := some 7778, packetId,
    payload := [] }

theorem atRest_loopback {e : ProtocolEngine Loopback.Conn}
    (hpending : e.recvQueue.pendingAcks = []) (hready : e.recvQueue.readyStream = [])
    (hup : e.state = .connected)
    (htls : (e.tlsAdapter.all fun tls => tls.conn.outgoing.isEmpty && tls.conn.appData.isEmpty) =
      true) : AtRest Loopback.env e := by
  refine ⟨hpending, hready, ?_⟩
  intro tls hadapter
  obtain ⟨hout, happ⟩ : tls.conn.outgoing = [] ∧ tls.conn.appData = [] := by
    simpa [hadapter] using htls
  refine ⟨by decide, ?_, ?_, by simp [hup]⟩
  · simp [Loopback.env, Loopback.tls, hout]
  · simp [Loopback.env, Loopback.tls, happ]

/-- A stray acknowledgement does no harm. -/
theorem foreign_packet_leaves_alone_iff_ack :
    ∃ e, Reachable Loopback.env {} e ∧ e.remoteSessionId = some Loopback.serverId ∧
      Foreign e (strangerPacket .ackV1 [77] none) ∧
      LeavesAlone Loopback.env e 0 (strangerPacket .ackV1 [77] none).encode := by
  obtain ⟨e, hreach, hcheck⟩ := Loopback.exists_connected (p := fun e =>
    e.remoteSessionId = some Loopback.serverId && e.tlsAuth = none && e.state = .connected &&
      e.recvQueue.pendingAcks.isEmpty && e.recvQueue.readyStream.isEmpty &&
      (e.tlsAdapter.all fun tls => tls.conn.outgoing.isEmpty && tls.conn.appData.isEmpty) &&
      e.sendQueue.unacked.all (·.packetId ≠ 77)) {} (by decide +kernel)
  simp only [Bool.and_eq_true, decide_eq_true_eq, List.isEmpty_iff, List.all_eq_true] at hcheck
  obtain ⟨⟨⟨⟨⟨⟨hremote, hauth⟩, hup⟩, hpending⟩, hready⟩, htls⟩, hunacked⟩ := hcheck
  have hd : decodeControl Loopback.env e.tlsAuth (strangerPacket .ackV1 [77] none).encode =
      .ok (strangerPacket .ackV1 [77] none) := by
    rw [hauth]
    rfl
  have hforeign : Foreign e (strangerPacket .ackV1 [77] none) :=
    .inl ⟨_, hremote, by decide⟩
  have hharmless : Harmless e (strangerPacket .ackV1 [77] none) := by
    refine ⟨?_, by simp [strangerPacket]⟩
    intro pkt hpkt
    simpa [strangerPacket] using hunacked pkt hpkt
  refine ⟨e, hreach, hremote, hforeign, ?_⟩
  exact ((foreign_packet_leaves_alone_iff hremote (by decide) hd hforeign).1
    (atRest_loopback hpending hready hup htls)).mpr hharmless

/-- A stray packet with the id that is expected next is taken into the stream. -/
theorem stranger_moves_receive_queue :
    ∃ e, Reachable Loopback.env {} e ∧ e.remoteSessionId = some Loopback.serverId ∧
      decodeControl Loopback.env e.tlsAuth (strangerPacket .controlV1 [] (some 3)).encode =
        .ok { strangerPacket .controlV1 [] (some 3) with remoteSessionId := none } ∧
      Foreign e { strangerPacket .controlV1 [] (some 3) with remoteSessionId := none } ∧
      ¬ LeavesAlone Loopback.env e 0 (strangerPacket .controlV1 [] (some 3)).encode := by
  obtain ⟨e, hreach, hcheck⟩ := Loopback.exists_connected (p := fun e =>
    e.remoteSessionId = some Loopback.serverId && e.tlsAuth = none &&
      e.recvQueue.nextExpectedId = 3) {} (by decide +kernel)
  simp only [Bool.and_eq_true, decide_eq_true_eq] at hcheck
  obtain ⟨⟨hremote, hauth⟩, hnext⟩ := hcheck
  have hd : decodeControl Loopback.env e.tlsAuth (strangerPacket .controlV1 [] (some 3)).encode =
      .ok { strangerPacket .controlV1 [] (some 3) with remoteSessionId := none } := by
    rw [hauth]
    rfl
  refine ⟨e, hreach, hremote, hd, .inl ⟨_, hremote, by decide⟩, ?_⟩
  refine not_leavesAlone_of_expected hremote (by decide) hd ?_
  rw [hnext]
  rfl

end ProtocolEngine

end VpnHub.Protocol
