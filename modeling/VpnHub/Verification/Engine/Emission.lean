import VpnHub.Model.Loopback
import VpnHub.Verification.Engine.Moves
import VpnHub.Verification.StaticKey

/-! # Emitted control packets

The peer reads an emitted control packet as it was meant iff the count of its acknowledgements
fits into a byte. -/

namespace VpnHub.Protocol.ProtocolEngine

open Config Crypto

variable {Conn : Type} {env : Env Conn} {e e' : ProtocolEngine Conn} {config : OpenVpnConfig}
  {cp : ControlPacket} {packet : Bytes} {tlsAuth peer : Option TlsAuthContext}

/-- The emitted packets on record. -/
def emissions (trace : List TraceEvent) : List (ControlPacket × Bytes) :=
  trace.filterMap fun
    | .emitted cp packet => some (cp, packet)
    | _ => none

theorem mem_emissions {trace : List TraceEvent} :
    (cp, packet) ∈ emissions trace ↔ .emitted cp packet ∈ trace := by
  rw [emissions, List.mem_filterMap]
  constructor
  · rintro ⟨event, hmem, hsome⟩
    split at hsome
    · obtain ⟨rfl, rfl⟩ := Prod.mk.inj (Option.some.inj hsome)
      exact hmem
    · cases hsome
  · intro hmem
    exact ⟨_, hmem, rfl⟩

/-! ## Reading an emitted packet -/

/-- The peer has the same key, or both have none. -/
def Matching : Option TlsAuthContext → Option TlsAuthContext → Prop
  | some ta, some peer => ∃ key digest, TlsAuthContext.Complementary key digest ta peer
  | none, none => True
  | _, _ => False

/-- Two packets that differ in the remote session id at most. -/
def SameContent (cp cp' : ControlPacket) : Prop :=
  cp' = { cp with remoteSessionId := cp'.remoteSessionId }

/-- Every peer with the matching key reads the packet as it was meant. -/
def Decodable (env : Env Conn) (tlsAuth : Option TlsAuthContext) (cp : ControlPacket)
    (packet : Bytes) : Prop :=
  ∀ peer, Matching tlsAuth peer →
    ∃ cp', decodeControl env peer packet = .ok cp' ∧ SameContent cp cp'

/-- A control packet as it is emitted, for some counter and time. -/
def Framed (env : Env Conn) (tlsAuth : Option TlsAuthContext) (cp : ControlPacket)
    (packet : Bytes) : Prop :=
  match tlsAuth with
  | some ta => ∃ packetId timestamp,
      packet = ta.wrapped env.hmac packetId timestamp (encodeHeaderByte cp.opcode cp.keyId)
        cp.sessionId cp.encodeBody
  | none => packet = cp.encode

theorem framed_authKeys : Framed env (authKeys tlsAuth) cp packet ↔ Framed env tlsAuth cp packet := by
  cases tlsAuth <;> rfl

theorem framed_wire (e : ProtocolEngine Conn) (cp : ControlPacket) :
    Framed env e.tlsAuth cp (e.wire env cp) := by
  unfold wire
  cases e.tlsAuth with
  | some ta => exact ⟨ta.sendPacketId, _, rfl⟩
  | none => rfl

/-- The peer gets to the body of the packet. -/
theorem decodeControl_framed (hframed : Framed env tlsAuth cp packet) (hkey : cp.keyId = 0)
    (hpeer : Matching tlsAuth peer) :
    decodeControl env peer packet =
      ControlPacket.decodeBody cp.opcode cp.keyId cp.sessionId cp.encodeBody := by
  have hheader : parseHeaderByte (encodeHeaderByte cp.opcode cp.keyId) =
      .ok (cp.opcode, cp.keyId) := by
    rw [parseHeaderByte_encodeHeaderByte, hkey]
    rfl
  cases tlsAuth with
  | some ta =>
      cases peer with
      | some ctx =>
          obtain ⟨key, digest, hends⟩ := hpeer
          obtain ⟨packetId, timestamp, rfl⟩ := hframed
          rw [decodeControl, TlsAuthContext.unwrapPacket_wrapped hends]
          change (parseHeaderByte _).bind _ = _
          rw [hheader]
          rfl
      | none => exact hpeer.elim
  | none =>
      cases peer with
      | some ctx => exact hpeer.elim
      | none =>
          obtain rfl : packet = cp.encode := hframed
          simp only [decodeControl, ControlPacket.encode, List.cons_append, List.nil_append]
          rw [ControlPacket.decode_cons (by simp), hheader, getU64_putU64_append]
          rfl

/-- The packet that the decoder makes of the body: a remote session id stands beside
acknowledgements only. -/
def readBack (cp : ControlPacket) : ControlPacket :=
  { cp with remoteSessionId :=
      if cp.ackArray = [] then none else some (cp.remoteSessionId.getD 0) }

theorem encodeBody_readBack (cp : ControlPacket) :
    (readBack cp).encodeBody = cp.encodeBody := by
  rw [ControlPacket.encodeBody_eq, ControlPacket.encodeBody_eq]
  by_cases hacks : cp.ackArray = []
  · simp [readBack, hacks]
  · simp [readBack, hacks]

/-- The body can be read back iff the count of the acknowledgements fits into its byte. -/
theorem exists_decodeBody_iff (hid : cp.packetId.isSome = cp.opcode.isReliable) :
    (∃ cp', ControlPacket.decodeBody cp.opcode cp.keyId cp.sessionId cp.encodeBody = .ok cp' ∧
      SameContent cp cp') ↔ cp.ackArray.length ≤ 255 := by
  constructor
  · rintro ⟨cp', hdecode, hsame⟩
    obtain ⟨-, -, -, hbody, -⟩ := ControlPacket.encodeBody_of_decodeBody hdecode
    have hacks := hbody.acks
    rw [hsame] at hacks
    exact hacks
  · intro hacks
    have hbody : (readBack cp).BodyWellFormed := by
      refine ⟨hacks, ?_, hid⟩
      by_cases hnil : cp.ackArray = [] <;> simp [readBack, hnil]
    have hdecode := ControlPacket.decodeBody_encodeBody hbody
    rw [encodeBody_readBack] at hdecode
    exact ⟨readBack cp, hdecode, rfl⟩

/-! ## What is emitted -/

/-- Packets are emitted and queued with key id 0 and a packet id where the opcode is reliable,
and the `tls-auth` keys stay. -/
structure Emissions (env : Env Conn) (config : OpenVpnConfig) (e : ProtocolEngine Conn) : Prop where
  keys : authKeys e.tlsAuth = authKeys (tlsAuthOf env.hexDecode config)
  queued : ∀ pkt ∈ e.sendQueue.unacked.map ReliableSendQueue.form,
    pkt.2.2.isSome = pkt.1.isReliable ∧ pkt.2.1 = 0
  emitted : ∀ cp packet, .emitted cp packet ∈ e.trace →
    cp.packetId.isSome = cp.opcode.isReliable ∧ cp.keyId = 0 ∧
      Framed env (authKeys (tlsAuthOf env.hexDecode config)) cp packet

theorem Emissions.initial (env : Env Conn) (config : OpenVpnConfig) (now : Instant)
    (sessionId : UInt64) : Emissions env config (initial env config now sessionId) := by
  refine ⟨rfl, ?_, ?_⟩
  · intro pkt hpkt
    cases hpkt
  · intro cp packet hmem
    cases hmem

/-- The queue with a packet that was just queued. -/
theorem Emissions.enqueue (h : Emissions env config e) {opcode : Opcode} {payload : Bytes}
    {now : Instant} {pid : UInt32} {sendQueue : ReliableSendQueue} (hop : opcode.isReliable = true)
    (henqueue : e.sendQueue.enqueue opcode 0 payload now = (.ok pid, sendQueue)) :
    ∀ pkt ∈ sendQueue.unacked.map ReliableSendQueue.form,
      pkt.2.2.isSome = pkt.1.isReliable ∧ pkt.2.1 = 0 := by
  intro pkt hpkt
  unfold ReliableSendQueue.enqueue at henqueue
  split at henqueue
  · cases henqueue
  · obtain ⟨-, rfl⟩ := Prod.mk.inj henqueue
    rw [List.map_append] at hpkt
    rcases List.mem_append.mp hpkt with hpkt | hpkt
    · exact h.queued pkt hpkt
    · obtain rfl := List.mem_singleton.mp hpkt
      exact ⟨hop.symm, rfl⟩

theorem Emissions.move (h : Emissions env config e) (hmove : Move env e e') :
    Emissions env config e' := by
  cases hmove.traced with
  | silent hsilent =>
      refine ⟨?_, ?_, ?_⟩
      · rw [hsilent.tlsAuth, h.keys]
      · intro pkt hpkt
        exact h.queued pkt (hsilent.queued hpkt)
      · rw [hsilent.trace]
        exact h.emitted
  | configured opts announced hauth hqueue htrace =>
      refine ⟨by rw [hauth, h.keys], by rw [hqueue]; exact h.queued, ?_⟩
      intro cp packet hmem
      rw [htrace] at hmem
      rcases List.mem_append.mp hmem with hmem | hmem
      · exact h.emitted cp packet hmem
      · cases List.mem_singleton.mp hmem
  | enqueued hop hauth hqueue htrace =>
      refine ⟨by rw [hauth, h.keys], h.enqueue hop hqueue, ?_⟩
      intro cp packet hmem
      rw [htrace] at hmem
      rcases List.mem_append.mp hmem with hmem | hmem
      · exact h.emitted cp packet hmem
      · cases List.mem_singleton.mp hmem
  | @emitted cp packet acks hcp hauth hqueue hpacket htrace =>
      have hform : cp.packetId.isSome = cp.opcode.isReliable ∧ cp.keyId = 0 := by
        cases hcp with
        | fresh hid hkey => exact ⟨hid, hkey⟩
        | again hmem => exact h.queued _ hmem
      refine ⟨by rw [hauth, h.keys], by rw [hqueue]; exact h.queued, ?_⟩
      intro cp' packet' hmem
      rw [htrace] at hmem
      rcases List.mem_append.mp hmem with hmem | hmem
      · exact h.emitted cp' packet' hmem
      · obtain ⟨rfl, rfl⟩ : cp' = { cp with ackArray := acks } ∧ packet' = packet := by
          simpa using hmem
        refine ⟨hform.1, hform.2, ?_⟩
        rw [← h.keys, framed_authKeys, hpacket]
        exact framed_wire e _

theorem emissions_of_reachable (h : Reachable env config e) : Emissions env config e :=
  h.of_moves (Emissions.initial env config) fun _ _ hmove he => he.move hmove

/-! ## When it is read as it was meant -/

/-- Every key that the engine works with has another end. -/
theorem exists_matching (h : authKeys tlsAuth = authKeys (tlsAuthOf env.hexDecode config)) :
    ∃ peer, Matching tlsAuth peer := by
  cases tlsAuth with
  | none => exact ⟨none, trivial⟩
  | some ta =>
      obtain ⟨key, isClient, bidirectional, digest, hnew⟩ : ∃ key isClient bidirectional digest,
          tlsAuthOf env.hexDecode config =
            some (TlsAuthContext.new key isClient bidirectional digest) := by
        unfold tlsAuthOf at h ⊢
        split at h
        · split at h
          · exact ⟨_, _, _, _, rfl⟩
          · cases h
        · cases h
      rw [hnew] at h
      have hta : ta = { TlsAuthContext.new key isClient bidirectional digest with
          sendPacketId := ta.sendPacketId } := by
        obtain ⟨sendHmacKey, recvHmacKey, sendPacketId, digest'⟩ := ta
        simpa [authKeys] using h
      rw [hta]
      cases bidirectional with
      | true => exact ⟨some _, key, digest, .bidirectional isClient isClient ta.sendPacketId 1⟩
      | false => exact ⟨some _, key, digest, .directed isClient ta.sendPacketId 1⟩

/-- An emitted packet is read as it was meant iff its acknowledgements can be counted. -/
theorem decodable_iff (h : Reachable env config e) (hmem : .emitted cp packet ∈ e.trace) :
    Decodable env e.tlsAuth cp packet ↔ cp.ackArray.length ≤ 255 := by
  have hinv := emissions_of_reachable h
  obtain ⟨hid, hkey, hframed⟩ := hinv.emitted cp packet hmem
  rw [← hinv.keys, framed_authKeys] at hframed
  rw [← exists_decodeBody_iff hid]
  constructor
  · intro hdecodable
    obtain ⟨peer, hpeer⟩ := exists_matching hinv.keys
    obtain ⟨cp', hdecode, hsame⟩ := hdecodable peer hpeer
    rw [decodeControl_framed hframed hkey hpeer] at hdecode
    exact ⟨cp', hdecode, hsame⟩
  · rintro ⟨cp', hdecode, hsame⟩ peer hpeer
    refine ⟨cp', ?_, hsame⟩
    rw [decodeControl_framed hframed hkey hpeer, hdecode]

/-! ## Acknowledgements that are sent together -/

/-- How many acknowledgements a call takes along when it sends: none unless it comes to flush
the control channel or to retransmit. -/
def ackLoad (env : Env Conn) (e : ProtocolEngine Conn) : Op → ℕ
  | .processNetworkPacket _ packet =>
    if startsControl packet then
      match decodeControl env e.tlsAuth packet with
      | .ok cp =>
        match cp.packetId with
        | some packetId =>
          match e.recvQueue.processPacket packetId cp.payload with
          | (.ok _, recvQueue) => recvQueue.pendingAcks.length
          | (.error _, _) => 0
        | none => e.recvQueue.pendingAcks.length
      | .error _ => 0
    else 0
  | .submitChallengeResponse _ _ _ => e.recvQueue.pendingAcks.length
  | .handleTimeout now =>
    match (e.sendQueue.pollRetransmissions now).1 with
    | .ok (_ :: _) => e.recvQueue.pendingAcks.length
    | _ => 0
  | _ => 0

/-- The acknowledgements of every emitted packet can be counted. -/
def AcksFit (e : ProtocolEngine Conn) : Prop :=
  ∀ cp packet, .emitted cp packet ∈ e.trace → cp.ackArray.length ≤ 255

theorem AcksFit.silent (h : AcksFit e) (hsilent : Silent e e') : AcksFit e' := by
  unfold AcksFit
  rw [hsilent.trace]
  exact h

theorem AcksFit.emit (h : AcksFit e) (hacks : cp.ackArray.length ≤ 255) :
    AcksFit (e.emit env cp) := by
  intro cp' packet hmem
  rcases List.mem_append.mp hmem with hmem | hmem
  · exact h cp' packet hmem
  · obtain ⟨rfl, -⟩ : cp' = cp ∧ packet = e.wire env cp := by simpa using hmem
    exact hacks

theorem AcksFit.enqueued (h : AcksFit e) (pid : UInt32) (opcode : Opcode) (payload : Bytes)
    (sendQueue : ReliableSendQueue) :
    AcksFit { e with sendQueue, trace := e.trace ++ [.enqueued pid opcode payload] } := by
  intro cp packet hmem
  rcases List.mem_append.mp hmem with hmem | hmem
  · exact h cp packet hmem
  · cases List.mem_singleton.mp hmem

theorem AcksFit.provision (h : AcksFit e) (acc : Text) : AcksFit (e.provision acc) := by
  intro cp packet hmem
  rw [(provisioned_provision e acc).trace] at hmem
  rcases List.mem_append.mp hmem with hmem | hmem
  · exact h cp packet hmem
  · cases List.mem_singleton.mp hmem

/-- Also the acknowledgements that are still pending can be counted. -/
structure Light (e : ProtocolEngine Conn) : Prop where
  pending : e.recvQueue.pendingAcks.length ≤ 255
  sent : AcksFit e

/-- A flush does not add acknowledgements to those that are pending. -/
theorem Light.flushMove (h : Light e) (hmove : FlushMove env e e') : Light e' := by
  cases hmove with
  | become state =>
      refine ⟨?_, h.sent.silent (silent_become e state)⟩
      unfold become
      split <;> exact h.pending
  | queue action hne => exact ⟨h.pending, h.sent⟩
  | tls tls => exact ⟨h.pending, h.sent⟩
  | random => exact ⟨h.pending, h.sent⟩
  | ready => exact ⟨h.pending, h.sent⟩
  | enqueue opcode payload now pid sendQueue hop henqueue =>
      exact ⟨h.pending, h.sent.enqueued pid opcode payload sendQueue⟩
  | send cp hcp =>
      have hdrained : AcksFit e.drained := h.sent
      exact ⟨Nat.zero_le _, hdrained.emit h.pending⟩
  | accumulate acc => exact ⟨h.pending, h.sent⟩
  | provision acc =>
      refine ⟨?_, h.sent.provision acc⟩
      rw [(provisioned_provision e acc).recvQueue]
      exact h.pending
  | install material now => exact ⟨h.pending, h.sent⟩

theorem FlushMoves.acksFit (h : FlushMoves env e e') (he : AcksFit e)
    (hpending : e.recvQueue.pendingAcks.length ≤ 255) : AcksFit e' :=
  (h.invariant (fun _ _ hmove hlight => hlight.flushMove hmove) (Light.mk hpending he)).sent

/-! ### Calls -/

/-- Every outcome keeps what has been sent countable. -/
abbrev KeepsAcks {α : Type} (p : EngineM Conn α) : Prop :=
  Prog.Keeps (fun e e' => AcksFit e → AcksFit e') p

theorem keepsAcks_bind {α β : Type} {p : EngineM Conn α} {f : α → EngineM Conn β}
    (hp : KeepsAcks p) (hf : ∀ a, KeepsAcks (f a)) : KeepsAcks (p >>= f) :=
  Prog.Keeps.bind (fun _ _ _ h h' he => h' (h he)) hp hf

theorem keepsAcks_get : KeepsAcks (get : EngineM Conn (ProtocolEngine Conn)) :=
  Prog.Keeps.get fun _ => id

theorem keepsAcks_transitionState (state : EngineState) :
    KeepsAcks (transitionState state : EngineM Conn Unit) := by
  intro e r e' hrun he
  rw [run_transitionState] at hrun
  obtain ⟨-, rfl⟩ : _ ∧ e.become state = e' := by simpa using hrun
  exact he.silent (silent_become e state)

theorem keepsAcks_enqueue (opcode : Opcode) (payload : Bytes) (now : Instant) :
    KeepsAcks (enqueue opcode payload now : EngineM Conn UInt32) := by
  intro e r e' hrun he
  rw [run_enqueue] at hrun
  split at hrun
  · obtain ⟨-, rfl⟩ : _ ∧ _ = e' := by simpa using hrun
    exact he.enqueued _ _ _ _
  · obtain ⟨-, rfl⟩ : _ ∧ e = e' := by simpa using hrun
    exact he

/-- A hard reset acknowledges nothing. -/
theorem keepsAcks_startConnect (now : Instant) : KeepsAcks (startConnect env now) := by
  refine keepsAcks_bind (keepsAcks_transitionState _) fun _ =>
    keepsAcks_bind (keepsAcks_enqueue _ _ _) fun _ => keepsAcks_bind keepsAcks_get fun _ =>
      keepsAcks_bind ?_ fun _ => ?_
  · intro e r e' hrun he
    rw [run_emitControlPacket] at hrun
    obtain ⟨-, rfl⟩ : _ ∧ e.emit env _ = e' := by simpa using hrun
    exact he.emit (Nat.zero_le _)
  · intro e r e' hrun he
    rw [Prog.run_get_bind] at hrun
    split at hrun
    · cases hrun
    · obtain ⟨-, rfl⟩ : _ ∧ e = e' := by simpa using hrun
      exact he
    · obtain ⟨-, rfl⟩ : _ ∧ _ = e' := by simpa using hrun
      exact he

theorem keepsAcks_sendKeepalivePing (now : Instant) : KeepsAcks (sendKeepalivePing env now) := by
  intro e r e' hrun he
  rcases sendKeepalivePing_cases hrun with rfl | ⟨-, e₁, hsends, rfl | rfl⟩
  · exact he
  · exact he.silent (silent_sends hsends)
  · have hsent : AcksFit e₁ := he.silent (silent_sends hsends)
    exact hsent

theorem keepsAcks_checkKeepalive (e : ProtocolEngine Conn) (now : Instant) :
    KeepsAcks (checkKeepalive env e now) :=
  keepsAcks_bind (Prog.Keeps.when (fun _ => id) (keepsAcks_sendKeepalivePing now)) fun _ =>
    Prog.Keeps.when (fun _ => id) (keepsAcks_bind (keepsAcks_transitionState _) fun _ =>
      keepsAcks_bind (Prog.Keeps.modify fun _ => id) fun _ => Prog.Keeps.throw (fun _ => id) _)

/-- A control packet whose acknowledgement is recorded with at most 254 others. -/
theorem AcksFit.control (h : AcksFit e) {now : Instant} {r : Except ProtocolError Unit}
    (hload : ackLoad env e (.processNetworkPacket now packet) ≤ 255)
    (hc : startsControl packet = true)
    (hrun : (processIncomingControlPacket env now packet).run { e with lastPacketRecv := now } =
      some (r, e')) : AcksFit e' := by
  simp only [ackLoad, if_pos hc] at hload
  cases hdecode : decodeControl env e.tlsAuth packet with
  | error err =>
      rw [run_processIncomingControlPacket_of_error (by exact hdecode)] at hrun
      obtain ⟨-, rfl⟩ : _ ∧ _ = e' := by simpa using hrun
      exact h
  | ok cp =>
      rw [run_processIncomingControlPacket_of_ok (by exact hdecode)] at hrun
      rw [hdecode] at hload
      have hrecv : (({ e with lastPacketRecv := now } : ProtocolEngine Conn).acknowledged
          cp).recvQueue = e.recvQueue := by
        unfold acknowledged learnRemoteSession
        dsimp only
        split <;> rfl
      have hheard : AcksFit { e with lastPacketRecv := now } := h
      have hack := hheard.silent (silent_acknowledged _ cp)
      generalize ({ e with lastPacketRecv := now } : ProtocolEngine Conn).acknowledged cp = e₁
        at hrun hrecv hack
      have hflush : ∀ {e₂ : ProtocolEngine Conn} {r : Except ProtocolError Unit}, AcksFit e₂ →
          e₂.recvQueue.pendingAcks.length ≤ 255 →
          (flushControlChannel env now).run e₂ = some (r, e') → AcksFit e' :=
        fun hfit hpending hrun =>
          ((flushesBy_flushControlChannel now).of_run hrun).acksFit hfit hpending
      cases hid : cp.packetId with
      | none =>
          simp only [receiveReliable, hid, Prog.run_pure_bind] at hrun
          simp only [hid] at hload
          exact hflush hack (by rw [hrecv]; exact hload) hrun
      | some packetId =>
          simp only [receiveReliable, hid] at hrun
          simp only [hid] at hload
          rcases Prog.exists_of_run_bind hrun with ⟨_, e₂, hprocess, hrun⟩ | ⟨err, hprocess, -⟩
          · rw [Prog.run_ofFun, hrecv] at hprocess
            obtain ⟨hok, rfl⟩ : (e.recvQueue.processPacket packetId cp.payload).1 = .ok _ ∧
                { e₁ with recvQueue := (e.recvQueue.processPacket packetId cp.payload).2 } = e₂ := by
              simpa [Prod.ext_iff] using hprocess
            have hstored : AcksFit { e₁ with
                recvQueue := (e.recvQueue.processPacket packetId cp.payload).2 } := hack
            refine hflush hstored ?_ hrun
            rw [← Prod.mk.eta (p := e.recvQueue.processPacket packetId cp.payload), hok] at hload
            exact hload
          · obtain ⟨-, rfl⟩ : _ ∧ _ = e' := by simpa [Prod.ext_iff] using hprocess
            exact hack

theorem AcksFit.timeout (h : AcksFit e) {now : Instant} {r : Except ProtocolError Unit}
    (hload : ackLoad env e (.handleTimeout now) ≤ 255)
    (hrun : (handleTimeout env now).run e = some (r, e')) : AcksFit e' := by
  have hpolled : AcksFit { e with sendQueue := (e.sendQueue.pollRetransmissions now).2 } :=
    h.silent (silent_retransmit e now)
  have hrest : KeepsAcks (do
      let e ← get
      Prog.when (e.state = .connected) (checkKeepalive env e now) : EngineM Conn Unit) :=
    keepsAcks_bind keepsAcks_get fun e => Prog.Keeps.when (fun _ => id)
      (keepsAcks_checkKeepalive e now)
  rcases Prog.exists_of_run_bind hrun with ⟨resends, e₁, hpoll, hrun⟩ | ⟨err, hpoll, -⟩
  · obtain ⟨hresends, rfl⟩ : (e.sendQueue.pollRetransmissions now).1 = .ok resends ∧
        { e with sendQueue := (e.sendQueue.pollRetransmissions now).2 } = e₁ := by
      simpa [Prod.ext_iff] using hpoll
    cases resends with
    | nil => exact hrest.of_run (by simpa using hrun) hpolled
    | cons cp resends =>
        simp only [ackLoad, hresends] at hload
        have hsendable := sendable_of_polled hresends
        rcases Prog.exists_of_run_bind hrun with ⟨_, e₂, hloop, hrun⟩ | ⟨err, hloop, -⟩
        · exact hrest.of_run hrun ((flushMoves_resends hsendable hloop).acksFit hpolled hload)
        · exact (flushMoves_resends hsendable hloop).acksFit hpolled hload
  · obtain ⟨-, rfl⟩ : (e.sendQueue.pollRetransmissions now).1 = .error err ∧
        { e with sendQueue := (e.sendQueue.pollRetransmissions now).2 } = e' := by
      simpa [Prod.ext_iff] using hpoll
    exact hpolled

/-- A call that takes at most 255 acknowledgements along. -/
theorem AcksFit.step (h : AcksFit e) {op : Op} (hload : ackLoad env e op ≤ 255)
    (hstep : step env e op = some e') : AcksFit e' := by
  obtain ⟨r, hrun⟩ := step_eq_some.mp hstep
  cases op with
  | startConnect now => exact (keepsAcks_startConnect now).of_run hrun h
  | processNetworkPacket now packet =>
      rcases processNetworkPacket_cases hrun with ⟨keyId, hout⟩ | ⟨hc, hcontrol⟩ | rfl
      · exact h.silent (silent_data (.of_outcome hout))
      · exact h.control hload hc hcontrol
      · exact h
  | processTunPacket now packet =>
      rcases processTunPacket_cases now hrun with rfl | ⟨-, hsends⟩
      · exact h
      · exact h.silent (silent_sends hsends)
  | sendKeepalivePing now => exact (keepsAcks_sendKeepalivePing now).of_run hrun h
  | submitChallengeResponse now stateId response =>
      have hmoves : FlushMoves env e e' := (flushesBy_bind (flushesBy_withTls _ _) fun _ =>
        flushesBy_flushControlChannel now).of_run hrun
      exact hmoves.acksFit h hload
  | handleTimeout now => exact h.timeout hload hrun
  | pollOutputAction =>
      obtain ⟨-, rfl⟩ : _ ∧ _ = e' := by simpa [exec] using hrun
      exact h.silent (silent_poll e)

/-- In every run each emitted control packet is read as it was meant iff it carries at most 255
acknowledgements, and all of them are where no call takes more along. -/
theorem emitted_decodable_iff (env : Env Conn) (config : OpenVpnConfig) :
    (∀ e, Reachable env config e → ∀ cp packet, .emitted cp packet ∈ e.trace →
      (Decodable env e.tlsAuth cp packet ↔ cp.ackArray.length ≤ 255)) ∧
    ∀ ops now sessionId e, Transition.Run (step env) (fun e op => ackLoad env e op ≤ 255)
      (initial env config now sessionId) ops e →
      ∀ cp packet, .emitted cp packet ∈ e.trace → Decodable env e.tlsAuth cp packet := by
  constructor
  · intro e h cp packet hmem
    exact decodable_iff h hmem
  · intro ops now sessionId e run cp packet hmem
    have hreach : Reachable env config e := ⟨ops, now, sessionId, run.mono fun _ _ _ => trivial⟩
    have hstart : AcksFit (initial env config now sessionId) := by
      intro cp packet hmem
      cases hmem
    have hfit : AcksFit e :=
      run.invariant (fun _ _ _ hload hstep h => h.step hload hstep) hstart
    exact (decodable_iff hreach hmem).mpr (hfit cp packet hmem)

/-- The run that connects emits packets with acknowledgements, all of which can be read. -/
theorem emitted_decodable_connect :
    ∃ e : ProtocolEngine Loopback.Conn, Reachable Loopback.env {} e ∧
      (∃ cp packet, .emitted cp packet ∈ e.trace ∧ cp.ackArray ≠ []) ∧
      ∀ cp packet, .emitted cp packet ∈ e.trace → Decodable Loopback.env e.tlsAuth cp packet := by
  have hrun : (Transition.runList (step Loopback.env)
      (fun e op => ackLoad Loopback.env e op ≤ 255) (Loopback.newEngine {})
      Loopback.connectOps).any (fun e => (emissions e.trace).any fun sent =>
        !sent.1.ackArray.isEmpty) = true := by decide +kernel
  obtain ⟨e, run, hcheck⟩ := Transition.exists_run_of_any hrun
  obtain ⟨⟨cp, packet⟩, hsent, hacks⟩ := List.any_eq_true.mp hcheck
  refine ⟨e, ⟨_, 0, 42, run.mono fun _ _ _ => trivial⟩, ⟨cp, packet, mem_emissions.mp hsent, ?_⟩,
    (emitted_decodable_iff Loopback.env {}).2 _ 0 42 e run⟩
  simpa using hacks

/-! ## Acknowledgements of refused packets -/

/-- Whether a timeout two seconds after the start retransmits a packet. -/
def resendDue (e : ProtocolEngine Conn) : Bool :=
  match (e.sendQueue.pollRetransmissions 2000000000).1 with
  | .ok (_ :: _) => true
  | _ => false

/-- An engine that waits for the first packet of the server: its reorder buffer is full, and
`n` acknowledgements are pending, of packets before the given one. -/
structure Waiting (n packetId : ℕ) (e : ProtocolEngine Conn) : Prop where
  tlsAuth : e.tlsAuth = none
  remote : e.remoteSessionId = some Loopback.serverId
  state : e.state = .connecting
  due : e.resendDue = true
  full : 64 < e.recvQueue.outOfOrder.size
  next : e.recvQueue.nextExpectedId = 0
  acks : e.recvQueue.pendingAcks.length = n
  before : ∀ id ∈ e.recvQueue.pendingAcks, id.toNat < packetId

/-- The next packet of the server. -/
def nextPacket (packetId : ℕ) : Op :=
  .processNetworkPacket 0 (Loopback.fromServer .controlV1 (UInt32.ofNat packetId) [])

theorem startsControl_encode (h : cp.opcode.isData = false) : startsControl cp.encode = true := by
  simp [startsControl, ControlPacket.encode, parseHeaderByte_encodeHeaderByte, h]

/-- The next packet is refused, and its acknowledgement stays pending. -/
theorem Waiting.step (env : Env Conn) {n packetId : ℕ} (h : Waiting n packetId e)
    (hpos : 0 < packetId) (hlt : packetId < 2 ^ 32) :
    ∃ e', ProtocolEngine.step env e (nextPacket packetId) = some e' ∧
      Waiting (n + 1) (packetId + 1) e' := by
  have hid : (UInt32.ofNat packetId).toNat = packetId := UInt32.toNat_ofNat_of_lt' hlt
  have hnew : UInt32.ofNat packetId ∉ e.recvQueue.pendingAcks := by
    intro hmem
    have hbefore := h.before _ hmem
    omega
  have hahead : e.recvQueue.nextExpectedId < UInt32.ofNat packetId := by
    rw [h.next, UInt32.lt_iff_toNat_lt, hid]
    exact hpos
  let cp : ControlPacket := ⟨.controlV1, 0, Loopback.serverId, [], none,
    some (UInt32.ofNat packetId), []⟩
  have hwell : cp.WellFormed := by
    refine ⟨⟨Nat.zero_le _, by simp [cp], rfl⟩, ?_⟩
    exact UInt8.lt_iff_toNat_lt.mpr (by simp [cp])
  have hdecode : decodeControl env e.tlsAuth cp.encode = .ok cp := by
    rw [h.tlsAuth]
    exact ControlPacket.decode_encode hwell
  have hknown : ({ e with lastPacketRecv := 0 } : ProtocolEngine Conn).acknowledged cp =
      { e with lastPacketRecv := 0 } := by
    have hall : (e.sendQueue.processAcks []).2 = e.sendQueue := by
      simp [ReliableSendQueue.processAcks]
    simp only [acknowledged, learnRemoteSession, h.remote]
    rw [show cp.ackArray = [] from rfl, hall]
  have hrun : (processNetworkPacket env 0 cp.encode).run e = some (.error .reliableWindowOverflow,
      { e with
        lastPacketRecv := 0
        recvQueue := { e.recvQueue with
          pendingAcks := e.recvQueue.pendingAcks ++ [UInt32.ofNat packetId] } }) := by
    rw [run_processNetworkPacket_control (startsControl_encode rfl),
      run_processIncomingControlPacket_of_ok (by exact hdecode), hknown]
    refine Prog.run_bind_of_error ?_
    simp only [receiveReliable, cp, Prog.run_ofFun,
      ReliableRecvQueue.processPacket_refused hahead h.full hnew]
  refine ⟨_, step_eq_some.mpr ⟨_, hrun⟩, h.tlsAuth, h.remote, h.state, h.due, h.full, h.next, ?_, ?_⟩
  · rw [List.length_append, h.acks]
    rfl
  · intro id hmem
    rcases List.mem_append.mp hmem with hmem | hmem
    · exact Nat.lt_succ_of_lt (h.before id hmem)
    · rw [List.mem_singleton.mp hmem, hid]
      exact Nat.lt_succ_self packetId

/-- The acknowledgements of refused packets accumulate. -/
theorem Waiting.run (env : Env Conn) {n packetId : ℕ} (h : Waiting n packetId e)
    (hpos : 0 < packetId) (count : ℕ) (hlt : packetId + count < 2 ^ 32) :
    ∃ ops e', Transition.Run (ProtocolEngine.step env) (fun _ _ => True) e ops e' ∧
      Waiting (n + count) (packetId + count) e' := by
  induction count with
  | zero => exact ⟨[], e, .nil e, h⟩
  | succ count ih =>
      obtain ⟨ops, e₁, run, hwaiting⟩ := ih (by omega)
      obtain ⟨e₂, hstep, hwaiting'⟩ := hwaiting.step env (by omega) (by omega)
      exact ⟨_, e₂, run.snoc trivial hstep, hwaiting'⟩

theorem run_resends (env : Env Conn) (resends : List ControlPacket) (e : ProtocolEngine Conn) :
    ∃ e', (resends.forM (resend env)).run e = some (.ok ⟨⟩, e') ∧ e.trace ⊆ e'.trace ∧
      e'.state = e.state := by
  induction resends generalizing e with
  | nil => exact ⟨e, rfl, List.Subset.refl _, rfl⟩
  | cons cp resends ih =>
      obtain ⟨e', hrun, htrace, hstate⟩ := ih (e.sendAcks env cp)
      refine ⟨e', ?_, ?_, hstate⟩
      · change ((resend env cp) >>= fun _ => resends.forM (resend env)).run e = _
        rw [Prog.run_bind_of_ok (run_resend e cp), hrun]
      · exact List.Subset.trans (List.subset_append_left e.trace _) htrace

/-- A retransmission takes all of them along. -/
theorem Waiting.timeout (env : Env Conn) {n packetId : ℕ} (h : Waiting n packetId e) :
    ∃ e', ProtocolEngine.step env e (.handleTimeout 2000000000) = some e' ∧
      ∃ cp packet, .emitted cp packet ∈ e'.trace ∧ cp.ackArray.length = n := by
  have hdue := h.due
  unfold resendDue at hdue
  split at hdue
  · rename_i cp resends hpoll
    obtain ⟨e', hrun, htrace, hstate⟩ := run_resends env resends
      (({ e with sendQueue := (e.sendQueue.pollRetransmissions 2000000000).2 } :
        ProtocolEngine Conn).sendAcks env cp)
    have hconnecting : e'.state ≠ .connected := by
      rw [hstate]
      change e.state ≠ .connected
      rw [h.state]
      decide
    obtain ⟨packet, hsent⟩ : ∃ packet,
        .emitted { cp with ackArray := e.recvQueue.pendingAcks } packet ∈ e'.trace :=
      ⟨_, htrace (List.mem_append_right _ (List.mem_singleton_self _))⟩
    refine ⟨e', step_eq_some.mpr ⟨.ok (), ?_⟩, _, packet, hsent, h.acks⟩
    change (handleTimeout env 2000000000).run e = _
    rw [handleTimeout, Prog.run_bind_of_ok (a := cp :: resends)
      (t := { e with sendQueue := (e.sendQueue.pollRetransmissions 2000000000).2 })]
    · change ((resend env cp >>= fun _ => resends.forM (resend env)) >>= _).run _ = _
      rw [bind_assoc, Prog.run_bind_of_ok (run_resend _ cp), Prog.run_bind_of_ok hrun,
        Prog.run_get_bind, Prog.when, if_neg hconnecting]
      rfl
    · rw [Prog.run_ofFun, ← hpoll]
  · cases hdue

/-- A connection whose server is heard without its first packet: 65 packets fill the reorder
buffer. -/
def lateFirstPacket : List Op := .startConnect 0 :: (List.range 65).map fun n => nextPacket (n + 1)

/-- The acknowledgements of 256 more packets, which are refused, go out together, and their
count does not fit into its byte. -/
theorem emitted_not_decodable :
    ¬ ∀ (Conn : Type) (env : Env Conn) (config : OpenVpnConfig) (e : ProtocolEngine Conn),
      Reachable env config e → ∀ cp packet, .emitted cp packet ∈ e.trace →
        Decodable env e.tlsAuth cp packet := by
  intro hclaim
  have hfilled : (Transition.runList (ProtocolEngine.step Loopback.env) (fun _ _ => True)
      (Loopback.newEngine {}) lateFirstPacket).any (fun e => decide (e.tlsAuth = none ∧
        e.remoteSessionId = some Loopback.serverId ∧ e.state = .connecting ∧ e.resendDue = true ∧
        64 < e.recvQueue.outOfOrder.size ∧ e.recvQueue.nextExpectedId = 0 ∧
        e.recvQueue.pendingAcks = [])) = true := by decide +kernel
  obtain ⟨e, filled, hcheck⟩ := Transition.exists_run_of_any hfilled
  obtain ⟨hauth, hremote, hstate, hdue, hfull, hnext, hacks⟩ := of_decide_eq_true hcheck
  have hwaiting : Waiting 0 66 e :=
    ⟨hauth, hremote, hstate, hdue, hfull, hnext, by rw [hacks]; rfl, by rw [hacks]; simp⟩
  obtain ⟨ops, e₁, refused, hwaiting₁⟩ :=
    hwaiting.run Loopback.env (by decide) 256 (by decide)
  obtain ⟨e₂, hstep, cp, packet, hmem, hcount⟩ := hwaiting₁.timeout Loopback.env
  have hreach : Reachable Loopback.env {} e₂ :=
    ⟨_, 0, 42, (filled.append refused).snoc trivial hstep⟩
  have hfit := (decodable_iff hreach hmem).mp (hclaim _ _ {} e₂ hreach cp packet hmem)
  omega

end VpnHub.Protocol.ProtocolEngine
