import VpnHub.Model.TlsOutput
import VpnHub.Verification.Engine.Flush
import VpnHub.Verification.Engine.Moves

/-! # No byte of the TLS stream is lost

A flush takes bytes out of the TLS connection before it knows whether the send window has room
for them. This is about the runs in which it has. -/

namespace VpnHub.Protocol.ProtocolEngine

open Config Crypto

variable {Conn : Type} {env : Env Conn} {out : env.tls.Output} {e e' : ProtocolEngine Conn}

/-! ## Room in the send window -/

/-- Whether the TLS connection wants to write when it has been fed what is ready. -/
def wantsSend (env : Env Conn) (e : ProtocolEngine Conn) : Bool :=
  match e.tlsAdapter with
  | some tls =>
    match (e.recvQueue.readyStream.forM (TlsStreamAdapter.feedLoop env.tls env.loopTurns)).run
        tls with
    | some (.ok _, fed) => env.tls.wantsWrite fed.conn
    | _ => false
  | none => false

/-- The send window has room for what a flush may queue: a packet if the connection wants to
write, and one more where the handshake may be completed. -/
def roomToFlush (env : Env Conn) (e : ProtocolEngine Conn) : Bool :=
  decide (e.sendQueue.unacked.length + (if wantsSend env e then 1 else 0) +
    (if e.state = .connecting then 1 else 0) ≤ e.sendQueue.windowSize)

/-- The engine when a call comes to flush the control channel. -/
def flushState (env : Env Conn) (e : ProtocolEngine Conn) : Op → Option (ProtocolEngine Conn)
  | .processNetworkPacket now packet =>
    if startsControl packet then
      match decodeControl env e.tlsAuth packet with
      | .ok cp =>
        match (receiveReliable cp).run
            (({ e with lastPacketRecv := now } : ProtocolEngine Conn).acknowledged cp) with
        | some (.ok _, received) => some received
        | _ => none
      | .error _ => none
    else none
  | .submitChallengeResponse _ stateId response =>
    match (withTls () (TlsStreamAdapter.sendPlaintextAppData env.tls
        (AuthHandler.encodeCrv1Response stateId response))).run e with
    | some (.ok _, written) => some written
    | _ => none
  | _ => none

/-- A call that finds room for what it may queue, and does not replace a TLS connection whose
bytes have been queued. -/
def findsRoom (env : Env Conn) (e : ProtocolEngine Conn) (op : Op) : Bool :=
  (match op with
    | .startConnect _ => decide (streamed e.trace = [])
    | _ => true) && (flushState env e op).all (roomToFlush env)

/-! ## Packet ids -/

theorem queuedIds_append (trace : List TraceEvent) (event : TraceEvent) :
    queuedIds (trace ++ [event]) = queuedIds trace ++ event.queuedId.toList := by
  cases hid : event.queuedId with
  | none => simp [queuedIds, hid]
  | some packetId => simp [queuedIds, hid]

/-- The ids on record count up to the next one. -/
structure InOrder (e : ProtocolEngine Conn) : Prop where
  next : e.sendQueue.nextPacketId = UInt32.ofNat (queuedIds e.trace).length
  ids : queuedIds e.trace = (List.range (queuedIds e.trace).length).map UInt32.ofNat

theorem InOrder.of_eq (h : InOrder e) (hnext : e'.sendQueue.nextPacketId = e.sendQueue.nextPacketId)
    (hids : queuedIds e'.trace = queuedIds e.trace) : InOrder e' := by
  refine ⟨?_, ?_⟩
  · rw [hnext, hids, h.next]
  · rw [hids]
    exact h.ids

theorem InOrder.enqueue (h : InOrder e) {opcode : Opcode} {payload : Bytes} {now : Instant}
    {pid : UInt32} {sendQueue : ReliableSendQueue}
    (henqueue : e.sendQueue.enqueue opcode 0 payload now = (.ok pid, sendQueue)) :
    InOrder { e with sendQueue, trace := e.trace ++ [.enqueued pid opcode payload] } := by
  unfold ReliableSendQueue.enqueue at henqueue
  split at henqueue
  · cases henqueue
  · obtain ⟨hpid, rfl⟩ := Prod.mk.inj henqueue
    obtain rfl := Except.ok.inj hpid
    have hids : queuedIds (e.trace ++ [.enqueued e.sendQueue.nextPacketId opcode payload]) =
        queuedIds e.trace ++ [e.sendQueue.nextPacketId] := queuedIds_append _ _
    refine ⟨?_, ?_⟩
    · rw [hids, List.length_append, h.next]
      simp
    · rw [hids, List.length_append, h.next]
      change _ = (List.range (_ + 1)).map _
      rw [List.range_succ, List.map_append, ← h.ids]
      rfl

theorem InOrder.move (h : InOrder e) (hmove : Move env e e') : InOrder e' := by
  cases hmove.traced with
  | silent hsilent => exact h.of_eq hsilent.nextPacketId (by rw [hsilent.trace])
  | configured opts announced hauth hqueue htrace =>
      refine h.of_eq (by rw [hqueue]) ?_
      rw [htrace, queuedIds_append]
      exact List.append_nil _
  | enqueued hop hauth hqueue htrace =>
      have henqueued := h.enqueue hqueue
      refine ⟨?_, ?_⟩
      · rw [htrace]
        exact henqueued.next
      · rw [htrace]
        exact henqueued.ids
  | emitted hcp hauth hqueue hpacket htrace =>
      refine h.of_eq (by rw [hqueue]) ?_
      rw [htrace, queuedIds_append]
      exact List.append_nil _

theorem inOrder_of_reachable {config : OpenVpnConfig} (h : Reachable env config e) : InOrder e :=
  h.of_moves (fun _ _ => ⟨rfl, rfl⟩) fun _ _ hmove he => he.move hmove

/-! ## The TLS adapter -/

section Adapter

variable {α : Type} {pre : Bytes} {a a' : TlsStreamAdapter Conn}

/-- What was taken from a connection, followed by what it holds, is what it has produced. -/
def Balanced (out : env.tls.Output) (pre : Bytes) (a : TlsStreamAdapter Conn) : Prop :=
  pre ++ out.held a.conn = out.produced a.conn

/-- A method that takes nothing from the connection. -/
abbrev KeepsBalance (out : env.tls.Output) (method : TlsStreamAdapter.Method Conn α) : Prop :=
  Prog.Keeps (fun a a' => ∀ pre, Balanced out pre a → Balanced out pre a') method

theorem keepsBalance_bind {β : Type} {p : TlsStreamAdapter.Method Conn α}
    {f : α → TlsStreamAdapter.Method Conn β} (hp : KeepsBalance out p)
    (hf : ∀ a, KeepsBalance out (f a)) : KeepsBalance out (p >>= f) :=
  Prog.Keeps.bind (fun _ _ _ h h' pre hpre => h' pre (h pre hpre)) hp hf

theorem keepsBalance_pure (x : α) :
    KeepsBalance out (pure x : TlsStreamAdapter.Method Conn α) :=
  Prog.Keeps.pure (fun _ _ => id) x

theorem balanced_of_adds (h : Balanced out pre a)
    (hadds : Adds out.produced out.held a.conn a'.conn) : Balanced out pre a' := by
  obtain ⟨new, hproduced, hheld⟩ := hadds
  rw [Balanced, hproduced, hheld, ← List.append_assoc, h]

theorem keepsBalance_call {ε : Type} {method : Conn → Except ε α × Conn}
    (h : ∀ conn, Adds out.produced out.held conn (method conn).2) (onError : ε → ProtocolError) :
    KeepsBalance out (TlsStreamAdapter.call method onError) :=
  Prog.Keeps.ofFun fun a _ hpre => balanced_of_adds hpre (h a.conn)

theorem keepsBalance_feedLoop (turns : ℕ) (data : Bytes) :
    KeepsBalance out (TlsStreamAdapter.feedLoop env.tls turns data) := by
  induction turns generalizing data with
  | zero => exact Prog.Keeps.ite (keepsBalance_pure ()) Prog.Keeps.stuck
  | succ turns ih =>
      refine Prog.Keeps.ite (keepsBalance_pure ()) ?_
      refine keepsBalance_bind (keepsBalance_call (fun conn => out.readTls conn data) _) fun n => ?_
      exact keepsBalance_bind (keepsBalance_call out.processNewPackets _) fun _ => ih _

/-- Reading does not fail, and takes nothing. -/
theorem wp_readLoop_balanced (turns : ℕ) (total : Bytes) (h : Balanced out pre a) :
    (TlsStreamAdapter.readLoop env.tls turns total).wp
      (fun r a' => (∃ appData, r = .ok appData) ∧ Balanced out pre a') a := by
  induction turns generalizing total a with
  | zero => exact Prog.wp_stuck.mpr trivial
  | succ turns ih =>
      refine Prog.wp_bind.mpr (Prog.wp_get.mpr ?_)
      refine Prog.wp_bind.mpr ?_
      intro r a₁ hset
      obtain ⟨rfl, rfl⟩ : Except.ok ⟨⟩ = r ∧ _ = a₁ := by simpa using hset
      have hread : Balanced out pre { a with conn := (env.tls.read a.conn).2 } :=
        balanced_of_adds h (out.read a.conn)
      cases hres : (env.tls.read a.conn).1 with
      | ok bytes =>
          cases bytes with
          | nil => exact Prog.wp_pure.mpr ⟨⟨total, rfl⟩, hread⟩
          | cons b bytes => exact ih _ hread
      | error err =>
          obtain rfl := out.readError a.conn err hres
          exact Prog.wp_pure.mpr ⟨⟨total, rfl⟩, hread⟩

/-- What is extracted is taken from what is held. -/
theorem wp_extractLoop_balanced (turns : ℕ) (output : Bytes) (h : Balanced out pre a) :
    (TlsStreamAdapter.extractLoop env.tls turns output).wp
      (fun r a' => ∃ written, r = .ok (output ++ written) ∧ Balanced out (pre ++ written) a' ∧
        (env.tls.wantsWrite a.conn = false → written = [])) a := by
  induction turns generalizing output pre a with
  | zero =>
      refine Prog.wp_bind.mpr (Prog.wp_get.mpr ?_)
      change Prog.wp (if _ then _ else _) _ _
      cases hwants : env.tls.wantsWrite a.conn with
      | true => exact Prog.wp_stuck.mpr trivial
      | false =>
          refine Prog.wp_pure.mpr ⟨[], by simp, ?_, fun _ => rfl⟩
          rwa [List.append_nil]
  | succ turns ih =>
      refine Prog.wp_bind.mpr (Prog.wp_get.mpr ?_)
      change Prog.wp (if _ then _ else _) _ _
      cases hwants : env.tls.wantsWrite a.conn with
      | true =>
          obtain ⟨written, conn', hwrite, hproduced, hheld⟩ := out.writeTls a.conn
          have hwritten : Balanced out (pre ++ written) { a with conn := conn' } := by
            rw [Balanced, hproduced, List.append_assoc, ← hheld, h]
          refine Prog.wp_bind.mpr (Prog.wp_ofFun.mpr ?_)
          rw [hwrite]
          refine (ih (output ++ written) hwritten).mono ?_
          rintro r a' ⟨more, rfl, hbalanced, -⟩
          refine ⟨written ++ more, by rw [List.append_assoc], ?_, by simp⟩
          rwa [← List.append_assoc]
      | false =>
          refine Prog.wp_pure.mpr ⟨[], by simp, ?_, fun _ => rfl⟩
          rwa [List.append_nil]

/-- The outgoing bytes of a pump are taken from what is held; without any the pump has taken
nothing, nor has one that fails. -/
theorem wp_pumpTls_balanced (chunks : List Bytes) (connecting : Bool) (h : Balanced out pre a) :
    (pumpTls env chunks connecting).wp (fun r a' =>
      match r with
      | .ok (outgoing, _, _) => Balanced out (pre ++ outgoing) a' ∧
          ∃ fed, (chunks.forM (TlsStreamAdapter.feedLoop env.tls env.loopTurns)).run a =
            some (.ok ⟨⟩, fed) ∧ (env.tls.wantsWrite fed.conn = false → outgoing = [])
      | .error _ => Balanced out pre a') a := by
  have hfeed : KeepsBalance out
      (chunks.forM (TlsStreamAdapter.feedLoop env.tls env.loopTurns)) :=
    Prog.Keeps.forM (fun _ _ => id) (fun _ _ _ h h' pre hpre => h' pre (h pre hpre))
      (keepsBalance_feedLoop env.loopTurns) chunks
  refine Prog.wp_bind.mpr fun r a₁ hrun => ?_
  have hfed : Balanced out pre a₁ := hfeed.of_run hrun pre h
  cases r with
  | error err => exact hfed
  | ok =>
      refine Prog.wp_bind.mpr ((wp_extractLoop_balanced env.loopTurns [] hfed).mono ?_)
      rintro r a₂ ⟨outgoing, rfl, hbalanced, hnone⟩
      refine Prog.wp_bind.mpr (Prog.wp_get.mpr ?_)
      refine Prog.wp_bind.mpr ((wp_readLoop_balanced env.loopTurns [] hbalanced).mono ?_)
      rintro r a₃ ⟨⟨appData, rfl⟩, hread⟩
      exact Prog.wp_pure.mpr ⟨hread, a₁, hrun, hnone⟩

end Adapter

/-! ## A flush -/

/-- What was queued, followed by what is held, is what was produced. -/
def Kept (out : env.tls.Output) (e : ProtocolEngine Conn) : Prop :=
  streamed e.trace ++ e.held out = e.produced out

theorem Kept.of_eq (h : Kept out e) (hadapter : e'.tlsAdapter = e.tlsAdapter)
    (hstream : streamed e'.trace = streamed e.trace) : Kept out e' := by
  unfold Kept held produced
  rw [hadapter, hstream]
  exact h

theorem Kept.drained (h : Kept out e) : Kept out e.drained := h.of_eq rfl rfl

theorem streamed_append (trace : List TraceEvent) (event : TraceEvent) :
    streamed (trace ++ [event]) = streamed trace ++ event.controlPayload.getD [] := by
  cases hpayload : event.controlPayload with
  | none => simp [streamed, hpayload]
  | some payload => simp [streamed, hpayload]

/-- Neither the TLS connection nor the send queue change. -/
structure SameStream (e e' : ProtocolEngine Conn) : Prop where
  tlsAdapter : e'.tlsAdapter = e.tlsAdapter
  sendQueue : e'.sendQueue = e.sendQueue
  streamed : streamed e'.trace = streamed e.trace

theorem SameStream.refl (e : ProtocolEngine Conn) : SameStream e e := ⟨rfl, rfl, rfl⟩

theorem SameStream.trans (e₁ e₂ e₃ : ProtocolEngine Conn) (h : SameStream e₁ e₂)
    (h' : SameStream e₂ e₃) : SameStream e₁ e₃ :=
  ⟨h'.tlsAdapter.trans h.tlsAdapter, h'.sendQueue.trans h.sendQueue, h'.streamed.trans h.streamed⟩

theorem Kept.of_same (h : Kept out e) (hsame : SameStream e e') : Kept out e' :=
  h.of_eq hsame.tlsAdapter hsame.streamed

section Same

variable {α : Type}

abbrev KeepsStream (p : EngineM Conn α) : Prop := Prog.Keeps SameStream p

theorem keepsStream_bind {β : Type} {p : EngineM Conn α} {f : α → EngineM Conn β}
    (hp : KeepsStream p) (hf : ∀ a, KeepsStream (f a)) : KeepsStream (p >>= f) :=
  Prog.Keeps.bind SameStream.trans hp hf

theorem keepsStream_get : KeepsStream (get : EngineM Conn (ProtocolEngine Conn)) :=
  Prog.Keeps.get SameStream.refl

theorem keepsStream_when {c : Prop} [Decidable c] {p : EngineM Conn Unit} (hp : KeepsStream p) :
    KeepsStream (Prog.when c p) :=
  Prog.Keeps.when SameStream.refl hp

theorem sameStream_become (e : ProtocolEngine Conn) (state : EngineState) :
    SameStream e (e.become state) := by
  unfold become
  split <;> exact ⟨rfl, rfl, rfl⟩

theorem SameStream.queue (h : SameStream e e') (action : OutputAction) :
    SameStream e (e'.queue action) :=
  ⟨h.tlsAdapter, h.sendQueue, h.streamed⟩

theorem sameStream_emit (e : ProtocolEngine Conn) (cp : ControlPacket) :
    SameStream e (e.emit env cp) := by
  refine ⟨rfl, rfl, ?_⟩
  change streamed (e.trace ++ [_]) = _
  rw [streamed_append]
  exact List.append_nil _

theorem sameStream_provision (e : ProtocolEngine Conn) (acc : Text) :
    SameStream e (e.provision acc) := by
  have hprov := provisioned_provision e acc
  refine ⟨hprov.tlsAdapter, hprov.sendQueue, ?_⟩
  rw [hprov.trace, streamed_append]
  exact List.append_nil _

theorem keepsStream_transitionState (state : EngineState) :
    KeepsStream (transitionState state : EngineM Conn Unit) := by
  intro e r e' hrun
  rw [run_transitionState] at hrun
  obtain ⟨-, rfl⟩ : _ ∧ e.become state = e' := by simpa using hrun
  exact sameStream_become e state

theorem keepsStream_emitControlPacket (cp : ControlPacket) :
    KeepsStream (emitControlPacket env cp) := by
  intro e r e' hrun
  rw [run_emitControlPacket] at hrun
  obtain ⟨-, rfl⟩ : _ ∧ e.emit env cp = e' := by simpa using hrun
  exact sameStream_emit e cp

theorem keepsStream_drainAcks : KeepsStream (drainAcks : EngineM Conn (List UInt32)) :=
  Prog.Keeps.ofFun fun _ => ⟨rfl, rfl, rfl⟩

theorem keepsStream_sendStandaloneAck : KeepsStream (sendStandaloneAck env) :=
  keepsStream_bind keepsStream_drainAcks fun _ => keepsStream_bind keepsStream_get fun _ =>
    keepsStream_when (keepsStream_emitControlPacket _)

theorem keepsStream_handleAppMessage (message : Text) :
    KeepsStream (handleAppMessage message : EngineM Conn Unit) := by
  intro e r e' hrun
  rw [← receive_of_run hrun]
  rcases receive_cases e message with ⟨-, -, heq⟩ | ⟨-, -, heq⟩ | ⟨-, challenge, -, heq⟩ |
    ⟨-, -, -, heq⟩ | ⟨-, -, -, heq⟩
  · rw [heq]
    exact ⟨rfl, rfl, rfl⟩
  · rw [heq]
    exact sameStream_provision e _
  · rw [heq]
    exact (sameStream_become e _).queue _
  · rw [heq]
    exact (sameStream_become e _).queue _
  · rw [heq]
    exact SameStream.refl e

theorem keepsStream_exportKeys (now : Instant) : KeepsStream (exportKeys env now) := by
  refine keepsStream_bind (keepsStream_bind keepsStream_get fun e => ?_) fun material => ?_
  · cases e.tlsAdapter with
    | some tls => exact Prog.Keeps.ofExcept SameStream.refl _
    | none => exact Prog.Keeps.pure SameStream.refl _
  · exact Prog.Keeps.ofFun fun _ => ⟨rfl, rfl, rfl⟩

end Same

/-- Bytes that were taken out are queued, where the window has room. -/
theorem wp_sendControl_kept {outgoing : Bytes}
    (h : streamed e.trace ++ outgoing ++ e.held out = e.produced out)
    (hroom : e.sendQueue.unacked.length < e.sendQueue.windowSize) (now : Instant) :
    (sendControl env outgoing now).wp (fun r e' => r = .ok () ∧ Kept out e' ∧
      e'.sendQueue.unacked.length = e.sendQueue.unacked.length + 1 ∧
      e'.sendQueue.windowSize = e.sendQueue.windowSize) e := by
  obtain ⟨pid, sendQueue, henqueue, hlength, hsize⟩ : ∃ pid sendQueue,
      e.sendQueue.enqueue .controlV1 0 outgoing now = (.ok pid, sendQueue) ∧
        sendQueue.unacked.length = e.sendQueue.unacked.length + 1 ∧
        sendQueue.windowSize = e.sendQueue.windowSize := by
    simp only [ReliableSendQueue.enqueue, if_neg (Nat.not_le.mpr hroom)]
    exact ⟨_, _, rfl, by simp, rfl⟩
  have hqueued : Kept out { e with
      sendQueue, trace := e.trace ++ [.enqueued pid .controlV1 outgoing] } := by
    unfold Kept
    rw [streamed_append]
    exact h
  have hrun := run_enqueue e .controlV1 outgoing now
  rw [henqueue] at hrun
  intro r e' hsend
  rw [sendControl, Prog.run_bind_of_ok hrun, Prog.run_bind_of_ok (run_drainAcks _),
    Prog.run_get_bind, run_emitControlPacket] at hsend
  obtain ⟨rfl, rfl⟩ : Except.ok () = r ∧ _ = e' := by simpa using hsend
  refine ⟨rfl, ?_, hlength, hsize⟩
  exact hqueued.drained.of_same (sameStream_emit _ _)

/-- What a flush does with what the TLS connection has given. -/
theorem wp_afterPump {onHandshake : EngineM Conn Unit} {outgoing appData : Bytes} {completed : Bool}
    (h : streamed e.trace ++ outgoing ++ e.held out = e.produced out)
    (hroom : outgoing ≠ [] → e.sendQueue.unacked.length < e.sendQueue.windowSize)
    (hhandshake : completed = true → ∀ e₁, Kept out e₁ →
      e₁.sendQueue.unacked.length ≤
        e.sendQueue.unacked.length + (if outgoing = [] then 0 else 1) →
      e₁.sendQueue.windowSize = e.sendQueue.windowSize →
      onHandshake.wp (fun _ e' => Kept out e') e₁) (now : Instant) :
    (do
      Prog.when (outgoing ≠ []) (sendControl env outgoing now)
      Prog.when (completed = true) do
        transitionState .tlsHandshake
        onHandshake
      Prog.when (appData ≠ []) (handleAppMessage (Text.fromUtf8Lossy appData))
      sendStandaloneAck env : EngineM Conn Unit).wp (fun _ e' => Kept out e') e := by
  have hsent : (Prog.when (outgoing ≠ []) (sendControl env outgoing now)).wp (fun r e₁ =>
      r = .ok () ∧ Kept out e₁ ∧ e₁.sendQueue.unacked.length ≤
        e.sendQueue.unacked.length + (if outgoing = [] then 0 else 1) ∧
      e₁.sendQueue.windowSize = e.sendQueue.windowSize) e := by
    by_cases hnone : outgoing = []
    · rw [Prog.when, if_neg (not_not.mpr hnone)]
      rw [hnone, List.append_nil] at h
      exact Prog.wp_pure.mpr ⟨rfl, h, Nat.le_add_right _ _, rfl⟩
    · rw [Prog.when, if_pos hnone]
      refine (wp_sendControl_kept h (hroom hnone) now).mono ?_
      rintro r e₁ ⟨hr, hkept, hlength, hsize⟩
      refine ⟨hr, hkept, ?_, hsize⟩
      rw [hlength, if_neg hnone]
  refine Prog.wp_bind.mpr (hsent.mono ?_)
  rintro r e₁ ⟨rfl, hkept, hlength, hsize⟩
  have hdone : (Prog.when (completed = true) do
      transitionState .tlsHandshake
      onHandshake : EngineM Conn Unit).wp (fun _ e₂ => Kept out e₂) e₁ := by
    by_cases hcompleted : completed = true
    · rw [Prog.when, if_pos hcompleted]
      have hsame := sameStream_become e₁ .tlsHandshake
      refine Prog.wp_bind.mpr fun r e₂ hrun => ?_
      rw [run_transitionState] at hrun
      obtain ⟨rfl, rfl⟩ : Except.ok () = r ∧ e₁.become .tlsHandshake = e₂ := by simpa using hrun
      refine hhandshake hcompleted _ (hkept.of_same hsame) ?_ ?_
      · rw [hsame.sendQueue]
        exact hlength
      · rw [hsame.sendQueue, hsize]
    · rw [Prog.when, if_neg hcompleted]
      exact Prog.wp_pure.mpr hkept
  refine Prog.wp_bind.mpr (hdone.mono fun r e₂ hkept₂ => ?_)
  cases r with
  | error err => exact hkept₂
  | ok =>
      have hrest : KeepsStream (do
          Prog.when (appData ≠ []) (handleAppMessage (Text.fromUtf8Lossy appData))
          sendStandaloneAck env : EngineM Conn Unit) :=
        keepsStream_bind (keepsStream_when (keepsStream_handleAppMessage _)) fun _ =>
          keepsStream_sendStandaloneAck
      exact fun r e' hrun => hkept₂.of_same (hrest.of_run hrun)

/-- A flush loses nothing where the window has room for what it may send, and where the end of
the handshake loses nothing. -/
theorem wp_flushWith_kept {onHandshake : EngineM Conn Unit} (h : Kept out e)
    (hroom : e.sendQueue.unacked.length + (if wantsSend env e then 1 else 0) ≤
      e.sendQueue.windowSize)
    (hhandshake : e.state = .connecting → ∀ e₁, Kept out e₁ →
      e₁.sendQueue.unacked.length ≤
        e.sendQueue.unacked.length + (if wantsSend env e then 1 else 0) →
      e₁.sendQueue.windowSize = e.sendQueue.windowSize →
      onHandshake.wp (fun _ e' => Kept out e') e₁) (now : Instant) :
    (flushWith env onHandshake now).wp (fun _ e' => Kept out e') e := by
  unfold flushWith
  refine Prog.wp_bind.mpr (Prog.wp_ofFun.mpr ?_)
  refine Prog.wp_bind.mpr (Prog.wp_get.mpr ?_)
  refine Prog.wp_bind.mpr (wp_withTls ?_ ?_)
  · intro hnone
    refine wp_afterPump ?_ ?_ ?_ now
    · rw [List.append_nil]
      exact h
    · intro hne
      exact absurd rfl hne
    · intro hfalse
      cases hfalse
  · intro tls hadapter
    have hadapter' : e.tlsAdapter = some tls := hadapter
    have hbalanced : Balanced out (streamed e.trace) tls := by
      have hkept := h
      unfold Kept held produced at hkept
      rw [hadapter'] at hkept
      exact hkept
    have hpump := wp_pumpTls_balanced e.recvQueue.readyStream (decide (e.state = .connecting)) hbalanced
    intro r tls' hrun
    have hpumped := hpump.of_run hrun
    cases r with
    | error err => exact hpumped
    | ok result =>
        obtain ⟨outgoing, completed, appData⟩ := result
        obtain ⟨htaken, fed, hfed, hnone⟩ := hpumped
        have hwants : wantsSend env e = env.tls.wantsWrite fed.conn := by
          unfold wantsSend
          rw [hadapter']
          simp only [hfed]
        have hsends : outgoing ≠ [] → wantsSend env e = true := by
          intro hne
          rw [hwants]
          by_contra hfalse
          exact hne (hnone (by simpa using hfalse))
        refine wp_afterPump ?_ ?_ ?_ now
        · exact htaken
        · intro hne
          rw [if_pos (hsends hne)] at hroom
          exact hroom
        · intro hcompleted e₁ hkept hlength hsize
          have hconnecting : e.state = .connecting := by
            by_contra hne
            rw [decide_eq_false hne] at hrun
            have hfalse := (pumpTls_not_connecting _ _).of_run hrun _ rfl
            exact Bool.false_ne_true (hfalse.symm.trans hcompleted)
          refine hhandshake hconnecting e₁ hkept (hlength.trans ?_) hsize
          refine Nat.add_le_add_left ?_ _
          split
          · exact Nat.zero_le _
          · rename_i hne
            rw [if_pos (hsends hne)]

/-- A method of the TLS connection that takes nothing from it. -/
theorem wp_withTls_kept {α : Type} {default : α} {method : TlsStreamAdapter.Method Conn α}
    (hmethod : KeepsBalance out method) (h : Kept out e) :
    (withTls default method).wp (fun _ e' => Kept out e' ∧ e'.sendQueue = e.sendQueue) e := by
  refine wp_withTls (fun _ => ⟨h, rfl⟩) ?_
  intro tls hadapter r tls' hrun
  have hbalanced : Balanced out (streamed e.trace) tls := by
    unfold Kept held produced at h
    rw [hadapter] at h
    exact h
  exact ⟨hmethod.of_run hrun _ hbalanced, rfl⟩

theorem keepsBalance_sendPlaintextAppData (data : Bytes) :
    KeepsBalance out (TlsStreamAdapter.sendPlaintextAppData env.tls data) :=
  keepsBalance_call (fun conn => out.writeAll conn data) _

/-- The end of the handshake loses nothing where the window has room for one packet. -/
theorem wp_handleTlsHandshakeCompletion_kept (h : Kept out e)
    (hroom : e.sendQueue.unacked.length + 1 ≤ e.sendQueue.windowSize) (now : Instant) :
    (handleTlsHandshakeCompletion env now).wp (fun _ e' => Kept out e') e := by
  have hflush (data : Bytes) {e₁ : ProtocolEngine Conn} (h₁ : Kept out e₁)
      (hqueue : e₁.sendQueue = e.sendQueue) :
      (do
        withTls () (TlsStreamAdapter.sendPlaintextAppData env.tls data)
        flushWith env Prog.stuck now : EngineM Conn Unit).wp (fun _ e' => Kept out e') e₁ := by
    refine Prog.wp_bind.mpr
      ((wp_withTls_kept (keepsBalance_sendPlaintextAppData data) h₁).mono ?_)
    rintro r e₂ ⟨hkept, hqueue₂⟩
    cases r with
    | error err => exact hkept
    | ok =>
        refine wp_flushWith_kept hkept ?_ (fun _ _ _ _ _ => Prog.wp_stuck.mpr trivial) now
        rw [hqueue₂, hqueue]
        refine le_trans (Nat.add_le_add_left ?_ _) hroom
        split <;> simp
  refine Prog.wp_bind.mpr fun r e₁ hrun => ?_
  have hexported := (keepsStream_exportKeys now).of_run hrun
  cases r with
  | error err => exact h.of_same hexported
  | ok =>
      have hkept := h.of_same hexported
      refine Prog.wp_bind.mpr (Prog.wp_get.mpr ?_)
      have hnext (state : EngineState) := sameStream_become e₁ state
      cases hcreds : e₁.authCredentials with
      | some creds =>
          simp only [hcreds]
          refine Prog.wp_bind.mpr fun r e₂ hrun => ?_
          rw [run_transitionState] at hrun
          obtain ⟨rfl, rfl⟩ : Except.ok () = r ∧ _ = e₂ := by simpa using hrun
          refine Prog.wp_bind.mpr (Prog.wp_modify.mpr ?_)
          refine hflush _ ((hkept.of_same (hnext _)).of_eq rfl rfl) ?_
          exact (hnext _).sendQueue.trans hexported.sendQueue
      | none =>
          simp only [hcreds]
          refine Prog.wp_bind.mpr fun r e₂ hrun => ?_
          rw [run_transitionState] at hrun
          obtain ⟨rfl, rfl⟩ : Except.ok () = r ∧ _ = e₂ := by simpa using hrun
          refine hflush _ (hkept.of_same (hnext _)) ?_
          exact (hnext _).sendQueue.trans hexported.sendQueue

theorem wp_flushControlChannel_kept (h : Kept out e) (hroom : roomToFlush env e = true)
    (now : Instant) : (flushControlChannel env now).wp (fun _ e' => Kept out e') e := by
  have hroom' := of_decide_eq_true hroom
  refine wp_flushWith_kept h (le_trans (Nat.le_add_right _ _) hroom') ?_ now
  intro hconnecting e₁ hkept hlength hsize
  rw [if_pos hconnecting] at hroom'
  refine wp_handleTlsHandshakeCompletion_kept hkept ?_ now
  omega

/-! ## Calls -/

/-- A new connection holds all that it has produced. -/
theorem held_of_new {draw : ℕ} {name : Text} {ca cert key : Option Text}
    {tls : TlsStreamAdapter Conn} (out : env.tls.Output)
    (h : TlsStreamAdapter.new env.tls draw name ca cert key = some (.ok tls)) :
    out.held tls.conn = out.produced tls.conn := by
  unfold TlsStreamAdapter.new at h
  split at h
  · cases h
  · split at h
    · cases h
    · split at h
      · cases h
      · split at h
        · cases h
        · split at h
          · cases h
          · rename_i conn hconnect
            obtain rfl := Except.ok.inj (Option.some.inj h)
            exact out.connect _ _ _ conn hconnect

/-- The same TLS connection, and no more of it queued. -/
def SameBytes (e e' : ProtocolEngine Conn) : Prop :=
  e'.tlsAdapter = e.tlsAdapter ∧ streamed e'.trace = streamed e.trace

theorem SameStream.sameBytes (h : SameStream e e') : SameBytes e e' := ⟨h.tlsAdapter, h.streamed⟩

theorem keepsBytes_of_keepsStream {α : Type} {p : EngineM Conn α} (h : KeepsStream p) :
    Prog.Keeps SameBytes p :=
  h.mono fun _ _ hsame => hsame.sameBytes

/-- A packet that carries no TLS bytes. -/
theorem keepsBytes_enqueue {opcode : Opcode} (hop : opcode ≠ .controlV1) (payload : Bytes)
    (now : Instant) :
    Prog.Keeps SameBytes (enqueue opcode payload now : EngineM Conn UInt32) := by
  intro e r e' hrun
  rw [run_enqueue] at hrun
  split at hrun
  · obtain ⟨-, rfl⟩ : _ ∧ _ = e' := by simpa using hrun
    refine ⟨rfl, ?_⟩
    rw [streamed_append, show TraceEvent.controlPayload (.enqueued _ opcode payload) = none by
      unfold TraceEvent.controlPayload
      split
      · rename_i heq
        exact absurd (TraceEvent.enqueued.inj heq).2.1 hop
      · rfl]
    exact List.append_nil _
  · obtain ⟨-, rfl⟩ : _ ∧ e = e' := by simpa using hrun
    exact ⟨rfl, rfl⟩

theorem wp_startConnect_kept (h : Kept out e) (hnone : streamed e.trace = []) (now : Instant) :
    (startConnect env now).wp (fun _ e' => Kept out e') e := by
  refine (keepsBytes_of_keepsStream (keepsStream_transitionState _)).bind_wp
    (fun _ _ hsame => h.of_eq hsame.1 hsame.2) fun _ e₁ h₁ => ?_
  have hkept₁ := h.of_eq h₁.1 h₁.2
  refine (keepsBytes_enqueue (by decide) _ _).bind_wp
    (fun _ _ hsame => hkept₁.of_eq hsame.1 hsame.2) fun pid e₂ h₂ => ?_
  have hkept₂ := hkept₁.of_eq h₂.1 h₂.2
  refine Prog.wp_bind.mpr (Prog.wp_get.mpr ?_)
  refine (keepsBytes_of_keepsStream (keepsStream_emitControlPacket _)).bind_wp
    (fun _ _ hsame => hkept₂.of_eq hsame.1 hsame.2) fun _ e₃ h₃ => ?_
  have hkept₃ := hkept₂.of_eq h₃.1 h₃.2
  have hnone₃ : streamed e₃.trace = [] := by rw [h₃.2, h₂.2, h₁.2, hnone]
  refine Prog.wp_bind.mpr (Prog.wp_get.mpr ?_)
  dsimp only
  split
  · exact Prog.wp_stuck.mpr trivial
  · exact Prog.wp_throw.mpr hkept₃
  · rename_i tls hnew
    intro r e' hrun
    obtain ⟨-, rfl⟩ : _ ∧ _ = e' := by simpa using hrun
    change streamed e₃.trace ++ out.held tls.conn = out.produced tls.conn
    rw [hnone₃, List.nil_append]
    exact held_of_new out hnew

theorem Kept.control (h : Kept out e) {packet : Bytes} {now : Instant}
    {r : Except ProtocolError Unit} (hc : startsControl packet = true)
    (hroom : (flushState env e (.processNetworkPacket now packet)).all (roomToFlush env) = true)
    (hrun : (processIncomingControlPacket env now packet).run { e with lastPacketRecv := now } =
      some (r, e')) : Kept out e' := by
  simp only [flushState, if_pos hc] at hroom
  cases hdecode : decodeControl env e.tlsAuth packet with
  | error err =>
      rw [run_processIncomingControlPacket_of_error (by exact hdecode)] at hrun
      obtain ⟨-, rfl⟩ : _ ∧ _ = e' := by simpa using hrun
      exact h.of_eq rfl rfl
  | ok cp =>
      rw [run_processIncomingControlPacket_of_ok (by exact hdecode)] at hrun
      simp only [hdecode] at hroom
      have hack : Kept out
          (({ e with lastPacketRecv := now } : ProtocolEngine Conn).acknowledged cp) := by
        refine h.of_eq ?_ (congrArg streamed (silent_acknowledged _ cp).trace)
        unfold acknowledged learnRemoteSession
        dsimp only
        split <;> rfl
      generalize ({ e with lastPacketRecv := now } : ProtocolEngine Conn).acknowledged cp = e₁
        at hrun hroom hack
      have hreceive : Prog.Keeps SameBytes (receiveReliable cp : EngineM Conn Unit) := by
        unfold receiveReliable
        cases cp.packetId with
        | some packetId => exact Prog.Keeps.ofFun fun _ => ⟨rfl, rfl⟩
        | none => exact Prog.Keeps.pure (fun _ => ⟨rfl, rfl⟩) ()
      rcases Prog.exists_of_run_bind hrun with ⟨_, e₂, hreceived, hrun⟩ | ⟨err, hreceived, -⟩
      · have hsame := hreceive.of_run hreceived
        simp only [hreceived, Option.all_some] at hroom
        exact (wp_flushControlChannel_kept (hack.of_eq hsame.1 hsame.2) hroom now).of_run hrun
      · have hsame := hreceive.of_run hreceived
        exact hack.of_eq hsame.1 hsame.2

theorem sameStream_sends (h : Sends env e e') : SameStream e e' := by
  cases h with
  | failed hs hseal => exact ⟨rfl, rfl, rfl⟩
  | sealed hs hseal => exact ⟨rfl, rfl, rfl⟩

theorem keepsStream_sendKeepalivePing (now : Instant) :
    KeepsStream (sendKeepalivePing env now) := by
  intro e r e' hrun
  rcases sendKeepalivePing_cases hrun with rfl | ⟨-, e₁, hsends, rfl | rfl⟩
  · exact SameStream.refl _
  · exact sameStream_sends hsends
  · exact SameStream.trans _ _ _ (sameStream_sends hsends) ⟨rfl, rfl, rfl⟩

theorem keepsStream_checkKeepalive (e : ProtocolEngine Conn) (now : Instant) :
    KeepsStream (checkKeepalive env e now) :=
  keepsStream_bind (keepsStream_when (keepsStream_sendKeepalivePing now)) fun _ =>
    keepsStream_when (keepsStream_bind (keepsStream_transitionState _) fun _ =>
      keepsStream_bind (Prog.Keeps.modify fun _ => ⟨rfl, rfl, rfl⟩) fun _ =>
        Prog.Keeps.throw SameStream.refl _)

theorem keepsBytes_handleTimeout (now : Instant) :
    Prog.Keeps SameBytes (handleTimeout env now) := by
  have htrans : ∀ e₁ e₂ e₃ : ProtocolEngine Conn, SameBytes e₁ e₂ → SameBytes e₂ e₃ →
      SameBytes e₁ e₃ := fun _ _ _ h h' => ⟨h'.1.trans h.1, h'.2.trans h.2⟩
  refine Prog.Keeps.bind htrans (Prog.Keeps.ofFun fun _ => ⟨rfl, rfl⟩) fun resends => ?_
  refine keepsBytes_of_keepsStream (keepsStream_bind ?_ fun _ => keepsStream_bind keepsStream_get
    fun e => keepsStream_when (keepsStream_checkKeepalive e now))
  exact Prog.Keeps.forM SameStream.refl SameStream.trans
    (fun cp => keepsStream_bind keepsStream_drainAcks fun _ => keepsStream_emitControlPacket _) _

/-- A call that finds room loses nothing. -/
theorem Kept.step (h : Kept out e) {op : Op} (hroom : findsRoom env e op = true)
    (hstep : step env e op = some e') : Kept out e' := by
  obtain ⟨hstart, hflush⟩ := Bool.and_eq_true_iff.mp hroom
  obtain ⟨r, hrun⟩ := step_eq_some.mp hstep
  cases op with
  | startConnect now =>
      exact (wp_startConnect_kept h (of_decide_eq_true hstart) now).of_run hrun
  | processNetworkPacket now packet =>
      rcases processNetworkPacket_cases hrun with ⟨keyId, hout⟩ | ⟨hc, hcontrol⟩ | rfl
      · rw [(DataFrame.of_outcome hout).rest]
        exact h.of_eq rfl rfl
      · exact h.control hc hflush hcontrol
      · exact h.of_eq rfl rfl
  | processTunPacket now packet =>
      rcases processTunPacket_cases now hrun with rfl | ⟨-, hsends⟩
      · exact h
      · exact h.of_same (sameStream_sends hsends)
  | sendKeepalivePing now => exact h.of_same ((keepsStream_sendKeepalivePing now).of_run hrun)
  | submitChallengeResponse now stateId response =>
      rcases Prog.exists_of_run_bind hrun with ⟨_, e₁, hwritten, hrun⟩ | ⟨err, hwritten, -⟩
      · have hkept := ((wp_withTls_kept (keepsBalance_sendPlaintextAppData _) h).of_run hwritten).1
        simp only [flushState, hwritten, Option.all_some] at hflush
        exact (wp_flushControlChannel_kept hkept hflush now).of_run hrun
      · exact ((wp_withTls_kept (keepsBalance_sendPlaintextAppData _) h).of_run hwritten).1
  | handleTimeout now =>
      have hsame := (keepsBytes_handleTimeout now).of_run hrun
      exact h.of_eq hsame.1 hsame.2
  | pollOutputAction =>
      obtain ⟨-, rfl⟩ : _ ∧ _ = e' := by simpa [exec] using hrun
      refine h.of_eq ?_ (congrArg streamed (silent_poll e).trace)
      unfold pollOutputAction
      split <;> rfl

/-- In every run in which every call finds room for what it may queue, every byte that the TLS
adapter has produced is in a packet or still held, and the packets are in the order of their
ids. -/
theorem no_tls_byte_lost (env : Env Conn) (out : env.tls.Output) (config : OpenVpnConfig) :
    ∀ ops now sessionId e,
      Transition.Run (step env) (fun e op => findsRoom env e op = true)
        (initial env config now sessionId) ops e → e.Retains out := by
  intro ops now sessionId e run
  have hreach : Reachable env config e := ⟨ops, now, sessionId, run.mono fun _ _ _ => trivial⟩
  have hstart : Kept out (initial env config now sessionId) := rfl
  exact ⟨(inOrder_of_reachable hreach).ids,
    run.invariant (fun _ _ _ hroom hstep h => h.step hroom hstep) hstart⟩

/-- A new engine that keeps record of its TLS stream. -/
def recordedEngine : ProtocolEngine Loopback.Recorded :=
  initial Loopback.recordedEnv {} 0 42

/-- The run that connects streams the greeting, the end of the handshake and the request. -/
theorem no_tls_byte_lost_connect :
    ∃ e : ProtocolEngine Loopback.Recorded, Reachable Loopback.recordedEnv {} e ∧
      streamed e.trace = [0x16, 0x14] ++ Text.utf8Encode "PUSH_REQUEST\x00".toList ∧
      e.Retains Loopback.recordedOutput := by
  have hrun : (Transition.runList (step Loopback.recordedEnv)
      (fun e op => findsRoom Loopback.recordedEnv e op = true) recordedEngine
      Loopback.connectOps).any (fun e => decide (streamed e.trace =
        [0x16, 0x14] ++ Text.utf8Encode "PUSH_REQUEST\x00".toList)) = true := by decide +kernel
  obtain ⟨e, run, hcheck⟩ := Transition.exists_run_of_any hrun
  exact ⟨e, ⟨_, 0, 42, run.mono fun _ _ _ => trivial⟩, of_decide_eq_true hcheck,
    no_tls_byte_lost Loopback.recordedEnv Loopback.recordedOutput {} _ 0 42 e run⟩

/-- A connection over which a challenge is answered until the window is full. -/
def overflowOps : List Op :=
  Loopback.connectOps ++ List.replicate 13 (.submitChallengeResponse 0 [] [])

/-- The answer that finds the window full is taken from the connection and not queued. -/
theorem tls_bytes_lost :
    ¬ ∀ (Conn : Type) (env : Env Conn) (out : env.tls.Output) (config : OpenVpnConfig)
      (e : ProtocolEngine Conn), Reachable env config e → e.Retains out := by
  intro hclaim
  have hrun : (Transition.runList (step Loopback.recordedEnv) (fun _ _ => True) recordedEngine
      overflowOps).any (fun e => decide (streamed e.trace ++ e.held Loopback.recordedOutput ≠
        e.produced Loopback.recordedOutput)) = true := by decide +kernel
  obtain ⟨e, run, hcheck⟩ := Transition.exists_run_of_any hrun
  have hretains := hclaim _ _ Loopback.recordedOutput {} e ⟨overflowOps, 0, 42, run⟩
  exact of_decide_eq_true hcheck hretains.bytes

end VpnHub.Protocol.ProtocolEngine
