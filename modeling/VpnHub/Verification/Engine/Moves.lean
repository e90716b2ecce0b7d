import VpnHub.Verification.Push.Messages
import VpnHub.Verification.Reliable.Queues

/-! # Moves of the engine

Every operation is a sequence of moves, each a state of the engine written as a function of
the one before. What every move keeps is kept by every operation. -/

namespace VpnHub.Protocol.ProtocolEngine

open Config Crypto

variable {Conn : Type} {env : Env Conn} {e e' : ProtocolEngine Conn} {cp : ControlPacket}

/-! ## Moves -/

/-- A control packet that is sent for the first time, or again for a packet in the queue. -/
inductive Sendable (e : ProtocolEngine Conn) (cp : ControlPacket) : Prop where
  | fresh (hid : cp.packetId.isSome = cp.opcode.isReliable) (hkey : cp.keyId = 0)
  | again (hmem : (cp.opcode, cp.keyId, cp.packetId) ∈
      e.sendQueue.unacked.map ReliableSendQueue.form)

/-- The engine without its pending acknowledgements. -/
def drained (e : ProtocolEngine Conn) : ProtocolEngine Conn :=
  { e with recvQueue := e.recvQueue.drainAcks.2 }

/-- The engine after it has emitted a packet that takes the pending acknowledgements along. -/
def sendAcks (env : Env Conn) (e : ProtocolEngine Conn) (cp : ControlPacket) :
    ProtocolEngine Conn :=
  e.drained.emit env { cp with ackArray := e.recvQueue.pendingAcks }

/-- What a flush of the control channel is made of. -/
inductive FlushMove (env : Env Conn) : ProtocolEngine Conn → ProtocolEngine Conn → Prop where
  | become (e : ProtocolEngine Conn) (state : EngineState) : FlushMove env e (e.become state)
  | queue (e : ProtocolEngine Conn) (action : OutputAction)
      (h : ∀ packet, action ≠ .sendToNetwork packet) : FlushMove env e (e.queue action)
  | tls (e : ProtocolEngine Conn) (tls : TlsStreamAdapter Conn) :
      FlushMove env e { e with tlsAdapter := some tls }
  | random (e : ProtocolEngine Conn) :
      FlushMove env e { e with randomReads := e.randomReads + 1 }
  | ready (e : ProtocolEngine Conn) :
      FlushMove env e { e with recvQueue := e.recvQueue.drainReady.2 }
  | enqueue (e : ProtocolEngine Conn) (opcode : Opcode) (payload : Bytes) (now : Instant)
      (pid : UInt32) (sendQueue : ReliableSendQueue) (hop : opcode.isReliable = true)
      (h : e.sendQueue.enqueue opcode 0 payload now = (.ok pid, sendQueue)) :
      FlushMove env e
        { e with sendQueue, trace := e.trace ++ [.enqueued pid opcode payload] }
  | send (e : ProtocolEngine Conn) (cp : ControlPacket) (h : e.Sendable cp) :
      FlushMove env e (e.sendAcks env cp)
  | accumulate (e : ProtocolEngine Conn) (acc : Text) :
      FlushMove env e { e with pushedOptionsAccumulator := acc }
  | provision (e : ProtocolEngine Conn) (acc : Text) : FlushMove env e (e.provision acc)
  | install (e : ProtocolEngine Conn) (material : FixedBytes 256) (now : Instant) :
      FlushMove env e { e with
        keyManager :=
          (e.keyManager.installNewKey (sessionKeysOf e.cipherSuite material) now).2 }

/-- What an operation is made of. -/
inductive Move (env : Env Conn) : ProtocolEngine Conn → ProtocolEngine Conn → Prop where
  | flush {e e' : ProtocolEngine Conn} (h : FlushMove env e e') : Move env e e'
  | reset (e : ProtocolEngine Conn) (cp : ControlPacket) (hacks : cp.ackArray = [])
      (h : e.Sendable cp) : Move env e (e.emit env cp)
  | heard (e : ProtocolEngine Conn) (now : Instant) : Move env e { e with lastPacketRecv := now }
  | pinged (e : ProtocolEngine Conn) (now : Instant) : Move env e { e with lastPingSent := now }
  | acknowledged (e : ProtocolEngine Conn) (cp : ControlPacket) : Move env e (e.acknowledged cp)
  | receive (e : ProtocolEngine Conn) (packetId : UInt32) (payload : Bytes) :
      Move env e { e with recvQueue := (e.recvQueue.processPacket packetId payload).2 }
  | retransmit (e : ProtocolEngine Conn) (now : Instant) :
      Move env e { e with sendQueue := (e.sendQueue.pollRetransmissions now).2 }
  | data {e e' : ProtocolEngine Conn} (h : DataFrame e e') : Move env e e'
  | sends {e e' : ProtocolEngine Conn} (h : Sends env e e') : Move env e e'
  | poll (e : ProtocolEngine Conn) : Move env e e.pollOutputAction.2

def FlushMoves (env : Env Conn) : ProtocolEngine Conn → ProtocolEngine Conn → Prop :=
  Relation.ReflTransGen (FlushMove env)

def Moves (env : Env Conn) : ProtocolEngine Conn → ProtocolEngine Conn → Prop :=
  Relation.ReflTransGen (Move env)

theorem FlushMoves.refl (e : ProtocolEngine Conn) : FlushMoves env e e := Relation.ReflTransGen.refl

theorem FlushMoves.trans (e₁ e₂ e₃ : ProtocolEngine Conn) (h : FlushMoves env e₁ e₂)
    (h' : FlushMoves env e₂ e₃) : FlushMoves env e₁ e₃ := Relation.ReflTransGen.trans h h'

theorem Moves.refl (e : ProtocolEngine Conn) : Moves env e e := Relation.ReflTransGen.refl

theorem Moves.trans (e₁ e₂ e₃ : ProtocolEngine Conn) (h : Moves env e₁ e₂)
    (h' : Moves env e₂ e₃) : Moves env e₁ e₃ := Relation.ReflTransGen.trans h h'

theorem FlushMoves.moves (h : FlushMoves env e e') : Moves env e e' := by
  induction h with
  | refl => exact Moves.refl _
  | tail _ hmove ih => exact ih.tail (.flush hmove)

/-- What every move of a flush keeps. -/
theorem FlushMoves.invariant {I : ProtocolEngine Conn → Prop}
    (preserved : ∀ e e', FlushMove env e e' → I e → I e') (h : FlushMoves env e e') (he : I e) :
    I e' := by
  induction h with
  | refl => exact he
  | tail _ hmove ih => exact preserved _ _ hmove ih

/-- What every move keeps. -/
theorem Moves.invariant {I : ProtocolEngine Conn → Prop}
    (preserved : ∀ e e', Move env e e' → I e → I e') (h : Moves env e e') (he : I e) : I e' := by
  induction h with
  | refl => exact he
  | tail _ hmove ih => exact preserved _ _ hmove ih

/-! ## A flush -/

section Flush

variable {α : Type}

/-- The program makes moves of a flush only. -/
abbrev FlushesBy (env : Env Conn) (p : EngineM Conn α) : Prop := Prog.Keeps (FlushMoves env) p

theorem flushesBy_bind {β : Type} {p : EngineM Conn α} {f : α → EngineM Conn β}
    (hp : FlushesBy env p) (hf : ∀ a, FlushesBy env (f a)) : FlushesBy env (p >>= f) :=
  Prog.Keeps.bind FlushMoves.trans hp hf

theorem flushesBy_pure (a : α) : FlushesBy env (pure a : EngineM Conn α) :=
  Prog.Keeps.pure FlushMoves.refl a

theorem flushesBy_get : FlushesBy env (get : EngineM Conn (ProtocolEngine Conn)) :=
  Prog.Keeps.get FlushMoves.refl

theorem flushesBy_throw (err : ProtocolError) : FlushesBy env (throw err : EngineM Conn α) :=
  Prog.Keeps.throw FlushMoves.refl err

theorem flushesBy_when {c : Prop} [Decidable c] {p : EngineM Conn Unit} (hp : FlushesBy env p) :
    FlushesBy env (Prog.when c p) :=
  Prog.Keeps.when FlushMoves.refl hp

theorem flushesBy_transitionState (state : EngineState) :
    FlushesBy env (transitionState state : EngineM Conn Unit) := by
  intro e r e' hrun
  rw [run_transitionState] at hrun
  obtain ⟨-, rfl⟩ : _ ∧ e.become state = e' := by simpa using hrun
  exact .single (.become e state)

theorem flushesBy_pushAction {action : OutputAction}
    (h : ∀ packet, action ≠ .sendToNetwork packet) :
    FlushesBy env (pushAction action : EngineM Conn Unit) :=
  Prog.Keeps.modify fun e => .single (.queue e action h)

theorem flushesBy_withTls (default : α) (method : TlsStreamAdapter.Method Conn α) :
    FlushesBy env (withTls default method) := by
  refine flushesBy_bind flushesBy_get fun e => ?_
  cases e.tlsAdapter with
  | some tls => exact Prog.Keeps.within fun e tls => .single (.tls e tls)
  | none => exact flushesBy_pure default

/-- A packet that finds no room in the queue leaves no trace. -/
theorem run_enqueue (e : ProtocolEngine Conn) (opcode : Opcode) (payload : Bytes)
    (now : Instant) :
    (enqueue opcode payload now : EngineM Conn UInt32).run e =
      match e.sendQueue.enqueue opcode 0 payload now with
      | (.ok pid, sendQueue) => some (.ok pid,
          { e with sendQueue, trace := e.trace ++ [.enqueued pid opcode payload] })
      | (.error err, _) => some (.error err, e) := by
  by_cases hfull : e.sendQueue.unacked.length ≥ e.sendQueue.windowSize
  · have henqueue : e.sendQueue.enqueue opcode 0 payload now =
        (.error .reliableWindowOverflow, e.sendQueue) := by
      simp only [ReliableSendQueue.enqueue, if_pos hfull]
    rw [henqueue]
    refine Prog.run_bind_of_error ?_
    rw [Prog.run_ofFun, henqueue]
  · obtain ⟨pid, sendQueue, henqueue⟩ : ∃ pid sendQueue,
        e.sendQueue.enqueue opcode 0 payload now = (.ok pid, sendQueue) := by
      simp only [ReliableSendQueue.enqueue, if_neg hfull]
      exact ⟨_, _, rfl⟩
    rw [henqueue]
    refine (Prog.run_bind_of_ok (a := pid) (t := { e with sendQueue }) ?_).trans rfl
    rw [Prog.run_ofFun, henqueue]

theorem flushesBy_enqueue {opcode : Opcode} (hop : opcode.isReliable = true) (payload : Bytes)
    (now : Instant) : FlushesBy env (enqueue opcode payload now : EngineM Conn UInt32) := by
  intro e r e' hrun
  rw [run_enqueue] at hrun
  split at hrun
  · rename_i pid sendQueue henqueue
    obtain ⟨-, rfl⟩ : _ ∧ _ = e' := by simpa using hrun
    exact .single (.enqueue e opcode payload now pid sendQueue hop henqueue)
  · obtain ⟨-, rfl⟩ : _ ∧ e = e' := by simpa using hrun
    exact FlushMoves.refl e

theorem run_drainAcks (e : ProtocolEngine Conn) :
    (drainAcks : EngineM Conn (List UInt32)).run e =
      some (.ok e.recvQueue.pendingAcks, e.drained) := rfl

theorem drained_of_nil (h : e.recvQueue.pendingAcks = []) : e.drained = e := by
  have hsame : e.recvQueue.drainAcks.2 = e.recvQueue := by
    rw [ReliableRecvQueue.drainAcks, ← h]
  rw [drained, hsame]

theorem flushesBy_sendControl (outgoing : Bytes) (now : Instant) :
    FlushesBy env (sendControl env outgoing now) := by
  refine flushesBy_bind (flushesBy_enqueue rfl _ _) fun pid => ?_
  intro e r e' hrun
  rw [Prog.run_bind_of_ok (run_drainAcks e), Prog.run_get_bind, run_emitControlPacket] at hrun
  obtain ⟨-, rfl⟩ : _ ∧ e.drained.emit env _ = e' := by simpa using hrun
  exact .single (.send e {
    opcode := .controlV1
    keyId := 0
    sessionId := e.localSessionId
    ackArray := []
    remoteSessionId := e.remoteSessionId
    packetId := some pid
    payload := outgoing } (.fresh rfl rfl))

theorem flushesBy_sendStandaloneAck : FlushesBy env (sendStandaloneAck env) := by
  intro e r e' hrun
  rw [sendStandaloneAck, Prog.run_bind_of_ok (run_drainAcks e), Prog.run_get_bind] at hrun
  by_cases hacks : e.recvQueue.pendingAcks = []
  · rw [Prog.when, if_neg (not_not.mpr hacks), drained_of_nil hacks] at hrun
    obtain ⟨-, rfl⟩ : _ ∧ e = e' := by simpa using hrun
    exact FlushMoves.refl e
  · rw [Prog.when, if_pos hacks, run_emitControlPacket] at hrun
    obtain ⟨-, rfl⟩ : _ ∧ e.drained.emit env _ = e' := by simpa using hrun
    exact .single (.send e {
      opcode := .ackV1
      keyId := 0
      sessionId := e.localSessionId
      ackArray := []
      remoteSessionId := e.remoteSessionId
      packetId := none
      payload := [] } (.fresh rfl rfl))

theorem flushesBy_handleAppMessage (message : Text) :
    FlushesBy env (handleAppMessage message : EngineM Conn Unit) := by
  intro e r e' hrun
  rw [← receive_of_run hrun]
  rcases receive_cases e message with ⟨-, -, heq⟩ | ⟨-, -, heq⟩ | ⟨-, challenge, -, heq⟩ |
    ⟨-, -, -, heq⟩ | ⟨-, -, -, heq⟩
  · rw [heq]
    exact .single (.accumulate e _)
  · rw [heq]
    exact .single (.provision e _)
  · rw [heq]
    exact FlushMoves.trans _ _ _ (.single (.become e _)) (.single (.queue _ _ (by simp)))
  · rw [heq]
    exact FlushMoves.trans _ _ _ (.single (.become e _)) (.single (.queue _ _ (by simp)))
  · rw [heq]
    exact FlushMoves.refl e

theorem flushesBy_exportKeys (now : Instant) : FlushesBy env (exportKeys env now) := by
  refine flushesBy_bind (flushesBy_bind flushesBy_get fun e => ?_) fun material => ?_
  · cases e.tlsAdapter with
    | some tls => exact Prog.Keeps.ofExcept FlushMoves.refl _
    | none => exact flushesBy_pure _
  · exact Prog.Keeps.ofFun fun e => .single (.install e material now)

theorem flushesBy_flushWith {onHandshake : EngineM Conn Unit} (h : FlushesBy env onHandshake)
    (now : Instant) : FlushesBy env (flushWith env onHandshake now) := by
  refine flushesBy_bind (Prog.Keeps.ofFun fun e => .single (.ready e)) fun _ =>
    flushesBy_bind flushesBy_get fun _ => flushesBy_bind (flushesBy_withTls _ _) fun _ => ?_
  refine flushesBy_bind (flushesBy_when (flushesBy_sendControl _ _)) fun _ => ?_
  refine flushesBy_bind (flushesBy_when (flushesBy_bind (flushesBy_transitionState _) fun _ => h))
    fun _ => ?_
  exact flushesBy_bind (flushesBy_when (flushesBy_handleAppMessage _)) fun _ =>
    flushesBy_sendStandaloneAck

theorem flushesBy_handleTlsHandshakeCompletion (now : Instant) :
    FlushesBy env (handleTlsHandshakeCompletion env now) := by
  have hflush : FlushesBy env (flushWith env Prog.stuck now) :=
    flushesBy_flushWith Prog.Keeps.stuck now
  refine flushesBy_bind (flushesBy_exportKeys now) fun _ => flushesBy_bind flushesBy_get fun e => ?_
  cases e.authCredentials with
  | some creds =>
      refine flushesBy_bind (flushesBy_transitionState _) fun _ =>
        flushesBy_bind (Prog.Keeps.modify fun e => .single (.random e)) fun _ => ?_
      exact flushesBy_bind (flushesBy_withTls _ _) fun _ => hflush
  | none =>
      exact flushesBy_bind (flushesBy_transitionState _) fun _ =>
        flushesBy_bind (flushesBy_withTls _ _) fun _ => hflush

theorem flushesBy_flushControlChannel (now : Instant) :
    FlushesBy env (flushControlChannel env now) :=
  flushesBy_flushWith (flushesBy_handleTlsHandshakeCompletion now) now

end Flush

/-! ## Every operation -/

section Operations

variable {α : Type}

/-- The program makes moves only. -/
abbrev MovesBy (env : Env Conn) (p : EngineM Conn α) : Prop := Prog.Keeps (Moves env) p

theorem movesBy_bind {β : Type} {p : EngineM Conn α} {f : α → EngineM Conn β}
    (hp : MovesBy env p) (hf : ∀ a, MovesBy env (f a)) : MovesBy env (p >>= f) :=
  Prog.Keeps.bind Moves.trans hp hf

theorem movesBy_of_flushesBy {p : EngineM Conn α} (h : FlushesBy env p) : MovesBy env p :=
  h.mono fun _ _ h => h.moves

theorem movesBy_get : MovesBy env (get : EngineM Conn (ProtocolEngine Conn)) :=
  Prog.Keeps.get Moves.refl

theorem movesBy_startConnect (now : Instant) : MovesBy env (startConnect env now) := by
  refine movesBy_bind (movesBy_of_flushesBy (flushesBy_transitionState _)) fun _ =>
    movesBy_bind (movesBy_of_flushesBy (flushesBy_enqueue rfl _ _)) fun _ =>
      movesBy_bind movesBy_get fun _ => movesBy_bind ?_ fun _ => ?_
  · intro e r e' hrun
    rw [run_emitControlPacket] at hrun
    obtain ⟨-, rfl⟩ : _ ∧ e.emit env _ = e' := by simpa using hrun
    exact .single (.reset e _ rfl (.fresh rfl rfl))
  · intro e r e' hrun
    rw [Prog.run_get_bind] at hrun
    split at hrun
    · cases hrun
    · obtain ⟨-, rfl⟩ : _ ∧ e = e' := by simpa using hrun
      exact Moves.refl e
    · rename_i tls _
      obtain ⟨-, rfl⟩ : _ ∧ _ = e' := by simpa using hrun
      exact Moves.trans _ _ _ (.single (.flush (.tls e tls))) (.single (.flush (.random _)))

theorem movesBy_receiveReliable (cp : ControlPacket) :
    MovesBy env (receiveReliable cp : EngineM Conn Unit) := by
  unfold receiveReliable
  cases cp.packetId with
  | some packetId => exact Prog.Keeps.ofFun fun e => .single (.receive e packetId cp.payload)
  | none => exact Prog.Keeps.pure Moves.refl ()

theorem movesBy_processIncomingControlPacket (now : Instant) (packet : Bytes) :
    MovesBy env (processIncomingControlPacket env now packet) := by
  intro e r e' hrun
  cases h : decodeControl env e.tlsAuth packet with
  | error err =>
      rw [run_processIncomingControlPacket_of_error h] at hrun
      obtain ⟨-, rfl⟩ : _ ∧ e = e' := by simpa using hrun
      exact Moves.refl e
  | ok cp =>
      rw [run_processIncomingControlPacket_of_ok h] at hrun
      have hrest : MovesBy env (do
          receiveReliable cp
          flushControlChannel env now) :=
        movesBy_bind (movesBy_receiveReliable cp) fun _ =>
          movesBy_of_flushesBy (flushesBy_flushControlChannel now)
      exact Moves.trans _ _ _ (.single (.acknowledged e cp)) (hrest.of_run hrun)

theorem run_resend (e : ProtocolEngine Conn) (cp : ControlPacket) :
    (resend env cp).run e = some (.ok (), e.sendAcks env cp) := by
  rw [resend, Prog.run_bind_of_ok (run_drainAcks e), run_emitControlPacket]
  rfl

/-- Retransmissions of queued packets. -/
theorem flushMoves_resends {resends : List ControlPacket} {e e' : ProtocolEngine Conn}
    {r : Except ProtocolError PUnit} (h : ∀ cp ∈ resends, e.Sendable cp)
    (hrun : (resends.forM (resend env)).run e = some (r, e')) : FlushMoves env e e' := by
  induction resends generalizing e with
  | nil =>
      obtain ⟨-, rfl⟩ : _ ∧ e = e' := by simpa using hrun
      exact FlushMoves.refl e
  | cons cp resends ih =>
      change ((resend env cp) >>= fun _ => resends.forM (resend env)).run e = _ at hrun
      rw [Prog.run_bind_of_ok (run_resend e cp)] at hrun
      have hrest : ∀ cp' ∈ resends, (e.sendAcks env cp).Sendable cp' := by
        intro cp' hcp'
        cases h cp' (by simp [hcp']) with
        | fresh hid hkey => exact .fresh hid hkey
        | again hmem => exact .again hmem
      exact FlushMoves.trans _ _ _ (.single (.send e cp (h cp (by simp)))) (ih hrest hrun)

/-- What is due is in the queue. -/
theorem sendable_of_polled {now : Instant} {resends : List ControlPacket}
    (h : (e.sendQueue.pollRetransmissions now).1 = .ok resends) : ∀ cp ∈ resends,
      ({ e with sendQueue := (e.sendQueue.pollRetransmissions now).2 } :
        ProtocolEngine Conn).Sendable cp := by
  intro cp hcp
  obtain ⟨pkt, hpkt, hform, -⟩ := e.sendQueue.pollLoop_resent now _ h cp hcp
  refine .again ?_
  change _ ∈ (e.sendQueue.pollLoop now e.sendQueue.unacked).2.map _
  rw [hform, ReliableSendQueue.pollLoop_form]
  exact List.mem_map_of_mem hpkt

theorem moves_sendKeepalivePing (now : Instant) : MovesBy env (sendKeepalivePing env now) := by
  intro e r e' hrun
  rcases sendKeepalivePing_cases hrun with rfl | ⟨-, e₁, hsends, rfl | rfl⟩
  · exact Moves.refl _
  · exact .single (.sends hsends)
  · exact Moves.trans _ _ _ (.single (.sends hsends)) (.single (.pinged e₁ now))

theorem movesBy_checkKeepalive (e : ProtocolEngine Conn) (now : Instant) :
    MovesBy env (checkKeepalive env e now) :=
  movesBy_bind (Prog.Keeps.when Moves.refl (moves_sendKeepalivePing now)) fun _ =>
    movesBy_of_flushesBy (flushesBy_when (flushesBy_bind (flushesBy_transitionState _) fun _ =>
      flushesBy_bind (flushesBy_pushAction (by simp)) fun _ => flushesBy_throw _))

theorem movesBy_handleTimeout (now : Instant) : MovesBy env (handleTimeout env now) := by
  intro e r e' hrun
  rcases Prog.exists_of_run_bind hrun with ⟨resends, e₁, hpoll, hrun⟩ | ⟨err, hpoll, -⟩
  · obtain ⟨hresends, rfl⟩ : (e.sendQueue.pollRetransmissions now).1 = .ok resends ∧
        { e with sendQueue := (e.sendQueue.pollRetransmissions now).2 } = e₁ := by
      simpa [Prod.ext_iff] using hpoll
    have hsendable := sendable_of_polled hresends
    refine Moves.trans _ _ _ (.single (.retransmit e now)) ?_
    rcases Prog.exists_of_run_bind hrun with ⟨_, e₂, hloop, hrun⟩ | ⟨err, hloop, -⟩
    · refine Moves.trans _ _ _ (flushMoves_resends hsendable hloop).moves ?_
      exact (movesBy_bind movesBy_get fun e => Prog.Keeps.when Moves.refl
        (movesBy_checkKeepalive e now)).of_run hrun
    · exact (flushMoves_resends hsendable hloop).moves
  · obtain ⟨-, rfl⟩ : (e.sendQueue.pollRetransmissions now).1 = .error err ∧
        { e with sendQueue := (e.sendQueue.pollRetransmissions now).2 } = e' := by
      simpa [Prod.ext_iff] using hpoll
    exact .single (.retransmit e now)

end Operations

/-- Every operation of the engine is a sequence of moves. -/
theorem step_moves {op : Op} (h : step env e op = some e') : Moves env e e' := by
  obtain ⟨r, hrun⟩ := step_eq_some.mp h
  cases op with
  | startConnect now => exact (movesBy_startConnect now).of_run hrun
  | processNetworkPacket now packet =>
      rcases processNetworkPacket_cases hrun with ⟨keyId, hout⟩ | ⟨-, hcontrol⟩ | rfl
      · exact .single (.data (.of_outcome hout))
      · exact Moves.trans _ _ _ (.single (.heard e now))
          ((movesBy_processIncomingControlPacket now packet).of_run hcontrol)
      · exact .single (.heard e now)
  | processTunPacket now packet =>
      rcases processTunPacket_cases now hrun with rfl | ⟨-, hsends⟩
      · exact Moves.refl _
      · exact .single (.sends hsends)
  | sendKeepalivePing now => exact (moves_sendKeepalivePing now).of_run hrun
  | submitChallengeResponse now stateId response =>
      exact (flushesBy_bind (flushesBy_withTls _ _) fun _ =>
        flushesBy_flushControlChannel now).of_run hrun |>.moves
  | handleTimeout now => exact (movesBy_handleTimeout now).of_run hrun
  | pollOutputAction =>
      obtain ⟨-, rfl⟩ : _ ∧ _ = e' := by simpa [exec] using hrun
      exact .single (.poll e)

/-! ## What is recorded -/

/-- Nothing is recorded, and the send queue loses packets at most. -/
structure Silent (e e' : ProtocolEngine Conn) : Prop where
  tlsAuth : e'.tlsAuth = e.tlsAuth
  nextPacketId : e'.sendQueue.nextPacketId = e.sendQueue.nextPacketId
  queued : e'.sendQueue.unacked.map ReliableSendQueue.form ⊆
    e.sendQueue.unacked.map ReliableSendQueue.form
  trace : e'.trace = e.trace

theorem Silent.of_eq (hauth : e'.tlsAuth = e.tlsAuth) (hqueue : e'.sendQueue = e.sendQueue)
    (htrace : e'.trace = e.trace) : Silent e e' := by
  refine ⟨hauth, by rw [hqueue], ?_, htrace⟩
  rw [hqueue]
  exact List.Subset.refl _

theorem silent_become (e : ProtocolEngine Conn) (state : EngineState) :
    Silent e (e.become state) := by
  unfold become
  split <;> exact .of_eq rfl rfl rfl

theorem silent_acknowledged (e : ProtocolEngine Conn) (cp : ControlPacket) :
    Silent e (e.acknowledged cp) := by
  have hfilter : ∀ q : ReliableSendQueue, (q.processAcks cp.ackArray).2.unacked.map
      ReliableSendQueue.form ⊆ q.unacked.map ReliableSendQueue.form :=
    fun q => List.map_subset _ (List.filter_subset_self _)
  unfold acknowledged learnRemoteSession
  cases e.remoteSessionId with
  | some sessionId => exact ⟨rfl, rfl, hfilter e.sendQueue, rfl⟩
  | none =>
      exact ⟨rfl, rfl, hfilter { e.sendQueue with remoteSessionId := some cp.sessionId }, rfl⟩

theorem silent_retransmit (e : ProtocolEngine Conn) (now : Instant) :
    Silent e { e with sendQueue := (e.sendQueue.pollRetransmissions now).2 } := by
  refine ⟨rfl, rfl, ?_, rfl⟩
  change (e.sendQueue.pollLoop now e.sendQueue.unacked).2.map _ ⊆ _
  rw [ReliableSendQueue.pollLoop_form]
  exact List.Subset.refl _

theorem silent_data (h : DataFrame e e') : Silent e e' := by
  rw [h.rest]
  exact .of_eq rfl rfl rfl

theorem silent_sends (h : Sends env e e') : Silent e e' := by
  cases h with
  | failed hs hseal => exact .of_eq rfl rfl rfl
  | sealed hs hseal => exact .of_eq rfl rfl rfl

theorem silent_poll (e : ProtocolEngine Conn) : Silent e e.pollOutputAction.2 := by
  unfold pollOutputAction
  split <;> exact .of_eq rfl rfl rfl

/-- What a move does to the send queue, the `tls-auth` context and the record. -/
inductive Traced (env : Env Conn) (e e' : ProtocolEngine Conn) : Prop where
  | silent (h : Silent e e')
  | configured (opts : PushOptions) (config : NetworkProvisioningConfig)
      (hauth : e'.tlsAuth = e.tlsAuth) (hqueue : e'.sendQueue = e.sendQueue)
      (htrace : e'.trace = e.trace ++ [.configured opts config])
  | enqueued {opcode : Opcode} {payload : Bytes} {now : Instant} {pid : UInt32}
      (hop : opcode.isReliable = true) (hauth : e'.tlsAuth = e.tlsAuth)
      (hqueue : e.sendQueue.enqueue opcode 0 payload now = (.ok pid, e'.sendQueue))
      (htrace : e'.trace = e.trace ++ [.enqueued pid opcode payload])
  | emitted {cp : ControlPacket} {packet : Bytes} {acks : List UInt32} (hcp : e.Sendable cp)
      (hauth : authKeys e'.tlsAuth = authKeys e.tlsAuth) (hqueue : e'.sendQueue = e.sendQueue)
      (hpacket : packet = e.wire env { cp with ackArray := acks })
      (htrace : e'.trace = e.trace ++ [.emitted { cp with ackArray := acks } packet])

theorem authKeys_emit (e : ProtocolEngine Conn) (cp : ControlPacket) :
    authKeys (e.emit env cp).tlsAuth = authKeys e.tlsAuth := by
  change authKeys (e.tlsAuth.map _) = authKeys e.tlsAuth
  cases e.tlsAuth <;> rfl

theorem FlushMove.traced (h : FlushMove env e e') : Traced env e e' := by
  cases h with
  | become state => exact .silent (silent_become e state)
  | queue action hne => exact .silent (.of_eq rfl rfl rfl)
  | tls tls => exact .silent (.of_eq rfl rfl rfl)
  | random => exact .silent (.of_eq rfl rfl rfl)
  | ready => exact .silent (.of_eq rfl rfl rfl)
  | enqueue opcode payload now pid sendQueue hop henqueue => exact .enqueued hop rfl henqueue rfl
  | send cp hcp => exact .emitted hcp (authKeys_emit e _) rfl rfl rfl
  | accumulate acc => exact .silent (.of_eq rfl rfl rfl)
  | provision acc =>
      have hprov := provisioned_provision e acc
      exact .configured _ _ hprov.tlsAuth hprov.sendQueue hprov.trace
  | install material now => exact .silent (.of_eq rfl rfl rfl)

theorem Move.traced (h : Move env e e') : Traced env e e' := by
  cases h with
  | flush hmove => exact hmove.traced
  | reset cp hacks hcp => exact .emitted hcp (authKeys_emit e cp) rfl rfl rfl
  | heard now => exact .silent (.of_eq rfl rfl rfl)
  | pinged now => exact .silent (.of_eq rfl rfl rfl)
  | acknowledged cp => exact .silent (silent_acknowledged e cp)
  | receive packetId payload => exact .silent (.of_eq rfl rfl rfl)
  | retransmit now => exact .silent (silent_retransmit e now)
  | data hframe => exact .silent (silent_data hframe)
  | sends hsends => exact .silent (silent_sends hsends)
  | poll => exact .silent (silent_poll e)

/-- What every move keeps holds in every reachable state, if it does in a new engine. -/
theorem Reachable.of_moves {config : OpenVpnConfig} {I : ProtocolEngine Conn → Prop}
    (start : ∀ now sessionId, I (ProtocolEngine.initial env config now sessionId))
    (preserved : ∀ e e', Move env e e' → I e → I e') (h : Reachable env config e) : I e :=
  h.invariant start fun _ _ _ hstep he => (step_moves hstep).invariant preserved he

end VpnHub.Protocol.ProtocolEngine
