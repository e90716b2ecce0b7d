import VpnHub.Model.Loopback
import VpnHub.Verification.Engine.Flush
import VpnHub.Verification.Engine.Moves

/-! A control packet that is accepted leaves no acknowledgement pending: the packets that go out
while it is processed carry each one once. -/

namespace VpnHub.Protocol.ProtocolEngine

open Config Crypto

variable {Conn : Type} {env : Env Conn} {config : OpenVpnConfig} {e e' : ProtocolEngine Conn}

/-- The acknowledgements that an event on record sends. -/
def acksOf : TraceEvent → List UInt32
  | .emitted cp _ => cp.ackArray
  | _ => []

/-- What has been acknowledged, then what is still to be: the same list before and after. -/
def CarriesAcks (e e' : ProtocolEngine Conn) : Prop :=
  ∃ added, e'.trace = e.trace ++ added ∧
    added.flatMap acksOf ++ e'.recvQueue.pendingAcks = e.recvQueue.pendingAcks

namespace CarriesAcks

theorem of_eq (htrace : e'.trace = e.trace)
    (hacks : e'.recvQueue.pendingAcks = e.recvQueue.pendingAcks) : CarriesAcks e e' :=
  ⟨[], by simpa using htrace, by simpa using hacks⟩

theorem refl (e : ProtocolEngine Conn) : CarriesAcks e e := of_eq rfl rfl

theorem trans {e₁ e₂ e₃ : ProtocolEngine Conn} (h : CarriesAcks e₁ e₂) (h' : CarriesAcks e₂ e₃) :
    CarriesAcks e₁ e₃ := by
  obtain ⟨added, htrace, hacks⟩ := h
  obtain ⟨added', htrace', hacks'⟩ := h'
  refine ⟨added ++ added', by rw [htrace', htrace, List.append_assoc], ?_⟩
  rw [List.flatMap_append, List.append_assoc, hacks', hacks]

end CarriesAcks

theorem FlushMove.carriesAcks (h : FlushMove env e e') : CarriesAcks e e' := by
  have hbecome : ∀ state, CarriesAcks e (e.become state) := by
    intro state
    unfold ProtocolEngine.become
    split <;> exact .of_eq rfl rfl
  cases h with
  | become state => exact hbecome state
  | queue action hne => exact .of_eq rfl rfl
  | tls tls => exact .of_eq rfl rfl
  | random => exact .of_eq rfl rfl
  | ready => exact .of_eq rfl rfl
  | enqueue opcode payload now pid sendQueue hop henqueue =>
      exact ⟨[.enqueued pid opcode payload], rfl, rfl⟩
  | send cp hcp =>
      exact ⟨[.emitted { cp with ackArray := e.recvQueue.pendingAcks } (e.drained.wire env _)], rfl,
        by simp [acksOf, sendAcks, drained, emit, ReliableRecvQueue.drainAcks]⟩
  | accumulate acc => exact .of_eq rfl rfl
  | provision acc =>
      have hprov := provisioned_provision e acc
      exact ⟨[.configured _ _], hprov.trace, by rw [hprov.recvQueue]; rfl⟩
  | install material now => exact .of_eq rfl rfl

theorem FlushMoves.carriesAcks (h : FlushMoves env e e') : CarriesAcks e e' := by
  induction h with
  | refl => exact .refl e
  | tail _ hmove ih => exact ih.trans hmove.carriesAcks

/-! ## The end of a flush -/

/-- A flush that goes through ends with the acknowledgements on their way. -/
theorem pendingAcks_of_flushControlChannel {now : Instant}
    (h : (flushControlChannel env now).run e = some (.ok (), e')) :
    e'.recvQueue.pendingAcks = [] := by
  have hstandalone : Prog.OkKeeps (fun _ e' => e'.recvQueue.pendingAcks = [])
      (sendStandaloneAck env : EngineM Conn Unit) := by
    intro e₁ _ e₂ hrun
    obtain ⟨e₃, hrun₃, heq⟩ := exists_run_sendStandaloneAck env e₁
    obtain rfl : e₃ = e₂ := by simpa using hrun₃.symm.trans hrun
    rw [heq]
    rfl
  have hflush : Prog.OkKeeps (fun _ e' => e'.recvQueue.pendingAcks = [])
      (flushControlChannel env now) := by
    refine Prog.OkKeeps.bind_right fun _ => Prog.OkKeeps.bind_right fun _ => ?_
    refine Prog.OkKeeps.bind_right fun _ => Prog.OkKeeps.bind_right fun _ => ?_
    exact Prog.OkKeeps.bind_right fun _ => Prog.OkKeeps.bind_right fun _ => hstandalone
  exact hflush e () e' h

/-! ## What is pending -/

theorem pendingAcks_drainContiguous (turns : ℕ) (q : ReliableRecvQueue) :
    (ReliableRecvQueue.drainContiguous turns q).pendingAcks = q.pendingAcks := by
  induction turns generalizing q with
  | zero => rfl
  | succ turns ih =>
      unfold ReliableRecvQueue.drainContiguous
      split
      · rfl
      · rw [ih]

theorem pendingAcks_processPacket (q : ReliableRecvQueue) (packetId : UInt32) (payload : Bytes) :
    (q.processPacket packetId payload).2.pendingAcks = (q.recordAck packetId).pendingAcks := by
  rcases q.processPacket_cases packetId payload with ⟨-, h⟩ | ⟨-, h⟩ | ⟨-, -, h⟩ | ⟨-, -, h⟩
  · rw [h]
  · rw [h, pendingAcks_drainContiguous]
  · rw [h]
  · rw [h]

theorem nodup_recordAck {q : ReliableRecvQueue} (h : q.pendingAcks.Nodup) (packetId : UInt32) :
    (q.recordAck packetId).pendingAcks.Nodup := by
  unfold ReliableRecvQueue.recordAck
  by_cases hmem : packetId ∈ q.pendingAcks
  · simpa [hmem] using h
  · simpa [hmem] using h.append (List.nodup_singleton packetId) (by simpa using hmem)

theorem recvQueue_acknowledged (e : ProtocolEngine Conn) (cp : ControlPacket) :
    (e.acknowledged cp).recvQueue = e.recvQueue := by
  unfold acknowledged learnRemoteSession
  split <;> rfl

theorem trace_acknowledged (e : ProtocolEngine Conn) (cp : ControlPacket) :
    (e.acknowledged cp).trace = e.trace := by
  unfold acknowledged learnRemoteSession
  split <;> rfl

/-- No id is pending twice. -/
theorem Move.nodup_pendingAcks (h : Move env e e') (he : e.recvQueue.pendingAcks.Nodup) :
    e'.recvQueue.pendingAcks.Nodup := by
  cases h with
  | flush hmove =>
      obtain ⟨added, -, hacks⟩ := hmove.carriesAcks
      rw [← hacks] at he
      exact he.of_append_right
  | reset cp hacks hcp => exact he
  | heard now => exact he
  | pinged now => exact he
  | acknowledged cp =>
      rw [recvQueue_acknowledged]
      exact he
  | receive packetId payload =>
      change (e.recvQueue.processPacket packetId payload).2.pendingAcks.Nodup
      rw [pendingAcks_processPacket]
      exact nodup_recordAck he packetId
  | retransmit now => exact he
  | data hframe =>
      rw [hframe.rest]
      exact he
  | sends hsends =>
      cases hsends with
      | failed hs hseal => exact he
      | sealed hs hseal => exact he
  | poll =>
      unfold pollOutputAction
      split <;> exact he

theorem Reachable.nodup_pendingAcks (h : Reachable env config e) :
    e.recvQueue.pendingAcks.Nodup :=
  h.of_moves (fun _ _ => List.nodup_nil) fun _ _ hmove he => hmove.nodup_pendingAcks he

/-! ## A control packet -/

/-- The packet's own id joins the pending ones. -/
theorem run_receiveReliable_ok {cp : ControlPacket}
    (h : (receiveReliable cp : EngineM Conn Unit).run e = some (.ok (), e')) :
    e'.trace = e.trace ∧ (e.recvQueue.pendingAcks.Nodup → e'.recvQueue.pendingAcks.Nodup) ∧
      ∀ id, id ∈ e'.recvQueue.pendingAcks ↔
        id ∈ e.recvQueue.pendingAcks ∨ cp.packetId = some id := by
  unfold receiveReliable at h
  cases hid : cp.packetId with
  | none =>
      rw [hid] at h
      obtain rfl : e = e' := by simpa using h
      exact ⟨rfl, fun hnodup => hnodup, by simp⟩
  | some packetId =>
      rw [hid] at h
      obtain ⟨-, rfl⟩ : (e.recvQueue.processPacket packetId cp.payload).1 = .ok () ∧
          { e with recvQueue := (e.recvQueue.processPacket packetId cp.payload).2 } = e' := by
        simpa [Prod.ext_iff] using h
      simp only [pendingAcks_processPacket]
      refine ⟨trivial, fun hnodup => nodup_recordAck hnodup packetId, fun id => ?_⟩
      obtain ⟨acks, hacks, -, hmem⟩ := e.recvQueue.recordAck_eq packetId
      rw [hacks, hmem, Option.some.injEq, eq_comm]

theorem acknowledged_of_run {now : Instant} {packet : Bytes}
    (hnodup : e.recvQueue.pendingAcks.Nodup)
    (hrun : (processIncomingControlPacket env now packet).run e = some (.ok (), e')) :
    ∃ cp added, decodeControl env e.tlsAuth packet = .ok cp ∧
      e'.recvQueue.pendingAcks = [] ∧ e'.trace = e.trace ++ added ∧
      (added.flatMap acksOf).Nodup ∧
      ∀ id, id ∈ added.flatMap acksOf ↔
        id ∈ e.recvQueue.pendingAcks ∨ cp.packetId = some id := by
  cases hdecode : decodeControl env e.tlsAuth packet with
  | error err =>
      rw [run_processIncomingControlPacket_of_error hdecode] at hrun
      simp at hrun
  | ok cp =>
      rw [run_processIncomingControlPacket_of_ok hdecode] at hrun
      rcases Prog.exists_of_run_bind hrun with ⟨_, e₁, hreceive, hflush⟩ | ⟨err, -, herr⟩
      · obtain ⟨htrace, hnodup', hmem⟩ := run_receiveReliable_ok hreceive
        rw [recvQueue_acknowledged] at hnodup' hmem
        have hempty := pendingAcks_of_flushControlChannel hflush
        obtain ⟨added, htrace', hacks⟩ :=
          FlushMoves.carriesAcks ((flushesBy_flushControlChannel now).of_run hflush)
        rw [hempty, List.append_nil] at hacks
        refine ⟨cp, added, rfl, hempty, ?_, ?_, ?_⟩
        · rw [htrace', htrace, trace_acknowledged]
        · rw [hacks]
          exact hnodup' hnodup
        · intro id
          rw [hacks]
          exact hmem id
      · cases herr

/-- A control packet that is accepted leaves no acknowledgement pending, and what is sent meanwhile
acknowledges everything that was pending and the packet itself, each once. -/
theorem acknowledges_all (hreach : Reachable env config e) (now : Instant) (packet : Bytes)
    (hcontrol : startsControl packet = true)
    (hrun : (processNetworkPacket env now packet).run e = some (.ok (), e')) :
    ∃ cp added, decodeControl env e.tlsAuth packet = .ok cp ∧
      e'.recvQueue.pendingAcks = [] ∧ e'.trace = e.trace ++ added ∧
      (added.flatMap acksOf).Nodup ∧
      ∀ id, id ∈ added.flatMap acksOf ↔
        id ∈ e.recvQueue.pendingAcks ∨ cp.packetId = some id := by
  rw [run_processNetworkPacket_control hcontrol] at hrun
  have hnodup := hreach.nodup_pendingAcks
  exact acknowledged_of_run (e := { e with lastPacketRecv := now }) hnodup hrun

/-- The server's reset reaches a new engine. -/
theorem acknowledges_all_reset :
    ∃ e' : ProtocolEngine Loopback.Conn,
      (processNetworkPacket Loopback.env 0
        (Loopback.fromServer .controlHardResetServerV2 0 [])).run (Loopback.newEngine {}) =
          some (.ok (), e') ∧
      e'.recvQueue.pendingAcks = [] ∧ ∃ added : List TraceEvent, e'.trace = added ∧
        ∀ id, id ∈ added.flatMap acksOf ↔ id = 0 := by
  obtain ⟨_, e', hrun⟩ := Prog.exists_of_succeeds
    (p := processNetworkPacket Loopback.env 0 (Loopback.fromServer .controlHardResetServerV2 0 []))
    (s := Loopback.newEngine {}) (by decide +kernel)
  obtain ⟨cp, added, hdecode, hempty, htrace, -, hmem⟩ :=
    acknowledges_all (e := Loopback.newEngine {}) (Reachable.initial Loopback.env {} 0 42) 0
      (Loopback.fromServer .controlHardResetServerV2 0 []) (by decide +kernel) hrun
  have hid : cp.packetId = some 0 := by
    have h : (decodeControl Loopback.env (Loopback.newEngine {}).tlsAuth
        (Loopback.fromServer .controlHardResetServerV2 0 [])).map (·.packetId) = .ok (some 0) := by
      decide +kernel
    rw [hdecode] at h
    exact Except.ok.inj h
  refine ⟨e', hrun, hempty, added, htrace, fun id => ?_⟩
  rw [hmem id, hid]
  simp [Loopback.newEngine, ProtocolEngine.initial, ReliableRecvQueue.new, eq_comm]

end VpnHub.Protocol.ProtocolEngine
