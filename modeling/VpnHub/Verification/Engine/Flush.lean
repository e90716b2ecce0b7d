import VpnHub.Verification.Engine.Footprint

/-! What a flush of the control channel does: after a handshake, and when there is nothing to
do. -/

namespace VpnHub.Protocol.ProtocolEngine

open Config Crypto

variable {Conn : Type} {env : Env Conn} {e : ProtocolEngine Conn}

/-! ## The flush after a handshake -/

/-- No handshake is completed outside the state `Connecting`. -/
theorem pumpTls_not_connecting (chunks : List Bytes) (a : TlsStreamAdapter Conn) :
    (pumpTls env chunks false).wp (fun r _ => ∀ out, r = .ok out → out.2.1 = false) a := by
  unfold pumpTls
  refine Prog.wp_bind.mpr fun r a₁ _ => ?_
  cases r with
  | error err => simp
  | ok =>
      refine Prog.wp_bind.mpr fun r a₂ _ => ?_
      cases r with
      | error err => simp
      | ok outgoing =>
          refine Prog.wp_bind.mpr (Prog.wp_get.mpr ?_)
          refine Prog.wp_bind.mpr fun r a₃ _ => ?_
          cases r with
          | error err => simp
          | ok appData => simp

theorem wp_withTls {α : Type} {default : α} {method : TlsStreamAdapter.Method Conn α}
    {Q : Except ProtocolError α → ProtocolEngine Conn → Prop} {e : ProtocolEngine Conn}
    (hnone : e.tlsAdapter = none → Q (.ok default) e)
    (hsome : ∀ tls, e.tlsAdapter = some tls →
      method.wp (fun r tls' => Q r { e with tlsAdapter := some tls' }) tls) :
    (withTls default method).wp Q e := by
  refine Prog.wp_bind.mpr (Prog.wp_get.mpr ?_)
  cases hadapter : e.tlsAdapter with
  | none => simpa [hadapter] using hnone hadapter
  | some tls => simpa [hadapter, Prog.wp_within] using hsome tls hadapter

/-- Outside the state `Connecting` a flush completes no handshake. -/
theorem flushWith_congr {e : ProtocolEngine Conn} (h : e.state ≠ .connecting)
    (p q : EngineM Conn Unit) (now : Instant) :
    (flushWith env p now).run e = (flushWith env q now).run e := by
  unfold flushWith
  refine Prog.run_bind_congr (Prog.wp_ofFun.mpr fun chunks _ => ?_)
  rw [Prog.run_get_bind, Prog.run_get_bind]
  refine Prog.run_bind_congr (wp_withTls ?_ fun tls _ => ?_)
  · intro _ out hout
    obtain rfl : ([], false, []) = out := by simpa using hout
    rfl
  · have hstate : decide (e.state = .connecting) = false := by simp [h]
    rw [hstate]
    refine (pumpTls_not_connecting _ tls).mono fun r tls' hr out hout => ?_
    obtain ⟨outgoing, completed, appData⟩ := out
    obtain rfl : completed = false := hr _ hout
    rfl

/-- The flush after a handshake completes no further handshake. -/
theorem handshakeCompletionWith_congr (p q : EngineM Conn Unit) (now : Instant) :
    handshakeCompletionWith env (flushWith env p now) now =
      handshakeCompletionWith env (flushWith env q now) now := by
  have hflush (t : ProtocolEngine Conn) (data : Bytes) (ht : t.state ≠ .connecting) :
      ((do
        withTls () (TlsStreamAdapter.sendPlaintextAppData env.tls data)
        flushWith env p now) : EngineM Conn Unit).run t =
      ((do
        withTls () (TlsStreamAdapter.sendPlaintextAppData env.tls data)
        flushWith env q now) : EngineM Conn Unit).run t := by
    refine Prog.run_bind_congr (wp_withTls ?_ fun tls _ => ?_)
    · intro _ _ _
      exact flushWith_congr ht _ _ now
    · intro _ tls' _ _ _
      have ht' : ({ t with tlsAdapter := some tls' } : ProtocolEngine Conn).state ≠ .connecting :=
        ht
      exact flushWith_congr ht' _ _ now
  have htransition (s : EngineState) (hs : s ≠ .connecting) (t : ProtocolEngine Conn) :
      (transitionState s : EngineM Conn Unit).wp (fun _ t' => t'.state ≠ .connecting) t := by
    intro r t' hrun
    simp only [transitionState, Prog.run_get_bind] at hrun
    split at hrun
    · obtain ⟨-, rfl⟩ : _ ∧ _ = t' := by simpa using hrun
      exact hs
    · obtain ⟨-, rfl⟩ : _ ∧ t = t' := by simpa using hrun
      simp_all
  refine Prog.ext fun e => ?_
  unfold handshakeCompletionWith
  refine Prog.run_bind_congr fun _ t _ _ _ => ?_
  rw [Prog.run_get_bind, Prog.run_get_bind]
  cases t.authCredentials with
  | some creds =>
      refine Prog.run_bind_congr ((htransition _ (by simp) t).mono fun _ t' ht' _ _ => ?_)
      exact hflush _ _ ht'
  | none =>
      refine Prog.run_bind_congr ((htransition _ (by simp) t).mono fun _ t' ht' _ _ => ?_)
      exact hflush _ _ ht'

/-- The flush at the end may as well be `flushControlChannel`, as in the source. -/
theorem handleTlsHandshakeCompletion_eq (now : Instant) :
    handleTlsHandshakeCompletion env now =
      handshakeCompletionWith env (flushControlChannel env now) now :=
  handshakeCompletionWith_congr _ _ now

/-! ## A flush with nothing to do -/

/-- Nothing to write, nothing to read, and no handshake about to be completed. -/
def TlsIdle (env : Env Conn) (e : ProtocolEngine Conn) : Prop :=
  ∀ tls, e.tlsAdapter = some tls →
    0 < env.loopTurns ∧ env.tls.wantsWrite tls.conn = false ∧
      env.tls.read tls.conn = (.error .wouldBlock, tls.conn) ∧
      (e.state = .connecting → env.tls.isHandshaking tls.conn = true)

theorem run_pumpTls_idle {tls : TlsStreamAdapter Conn} (connecting : Bool)
    (hturns : 0 < env.loopTurns) (hwrite : env.tls.wantsWrite tls.conn = false)
    (hread : env.tls.read tls.conn = (.error .wouldBlock, tls.conn))
    (hhandshake : connecting = true → env.tls.isHandshaking tls.conn = true) :
    (pumpTls env [] connecting).run tls = some (.ok ([], false, []), tls) := by
  have hextract : (TlsStreamAdapter.extractLoop env.tls env.loopTurns []).run tls =
      some (.ok [], tls) := by
    cases env.loopTurns with
    | zero => simp [TlsStreamAdapter.extractLoop, hwrite]
    | succ turns => simp [TlsStreamAdapter.extractLoop, hwrite]
  have hloop : (TlsStreamAdapter.readLoop env.tls env.loopTurns []).run tls =
      some (.ok [], tls) := by
    obtain ⟨turns, hturns⟩ := Nat.exists_eq_succ_of_ne_zero hturns.ne'
    rw [hturns]
    simp only [TlsStreamAdapter.readLoop, Prog.run_get_bind, hread]
    rfl
  have hdone : (!env.tls.isHandshaking tls.conn && connecting) = false := by
    cases connecting with
    | false => simp
    | true => simp [hhandshake rfl]
  change ((pure ⟨⟩ : TlsStreamAdapter.Method Conn PUnit) >>= fun _ => _).run tls = _
  rw [Prog.run_pure_bind, Prog.run_bind_of_ok hextract, Prog.run_get_bind,
    Prog.run_bind_of_ok hloop, hdone]
  rfl

/-- Without a TLS connection, or with an idle one that gets no data, a flush only sends the
pending acknowledgements. -/
theorem run_flushWith_idle (onHandshake : EngineM Conn Unit) (now : Instant)
    (h : e.tlsAdapter = none ∨ e.recvQueue.readyStream = [] ∧ TlsIdle env e) :
    (flushWith env onHandshake now).run e =
      (sendStandaloneAck env).run { e with recvQueue := e.recvQueue.drainReady.2 } := by
  have hpump : (withTls ([], false, [])
      (pumpTls env e.recvQueue.drainReady.1 (e.state = .connecting))).run
        { e with recvQueue := e.recvQueue.drainReady.2 } =
      some (.ok ([], false, []), { e with recvQueue := e.recvQueue.drainReady.2 }) := by
    rw [withTls, Prog.run_get_bind]
    cases hadapter : e.tlsAdapter with
    | none => simp
    | some tls =>
        obtain ⟨hready, hidle⟩ := h.resolve_left (by simp [hadapter])
        obtain ⟨hturns, hwrite, hread, hhandshake⟩ := hidle tls hadapter
        have hrun := run_pumpTls_idle (decide (e.state = .connecting)) hturns hwrite
          hread (by simpa using hhandshake)
        simp only [ReliableRecvQueue.drainReady, hready, Prog.run_within, hrun]
        simp
  refine (Prog.run_bind_of_ok (a := e.recvQueue.drainReady.1)
    (t := { e with recvQueue := e.recvQueue.drainReady.2 }) rfl).trans ?_
  rw [Prog.run_get_bind]
  refine (Prog.run_bind_of_ok hpump).trans ?_
  simp [Prog.when]

theorem exists_run_sendStandaloneAck (env : Env Conn) (e : ProtocolEngine Conn) :
    ∃ e', (sendStandaloneAck env).run e = some (.ok (), e') ∧
      e' = { e with
        recvQueue := e.recvQueue.drainAcks.2
        tlsAuth := e'.tlsAuth
        clockReads := e'.clockReads
        outbox := e'.outbox
        trace := e'.trace } := by
  have hdrain : (drainAcks : EngineM Conn (List UInt32)).run e =
      some (.ok e.recvQueue.drainAcks.1, { e with recvQueue := e.recvQueue.drainAcks.2 }) := rfl
  rw [sendStandaloneAck, Prog.run_bind_of_ok hdrain, Prog.run_get_bind]
  by_cases hacks : e.recvQueue.drainAcks.1 ≠ []
  · simp only [Prog.when, if_pos hacks]
    exact ⟨_, run_emitControlPacket _ _, rfl⟩
  · simp only [Prog.when, if_neg hacks]
    exact ⟨_, rfl, rfl⟩

end VpnHub.Protocol.ProtocolEngine
