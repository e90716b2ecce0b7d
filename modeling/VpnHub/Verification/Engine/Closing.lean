import VpnHub.Verification.Engine.Moves

/-! The engine reports the end of a session twice: whenever a call queues `CloseSession`, it
also returns an error. -/

namespace VpnHub.Protocol.ProtocolEngine

open Config Crypto

variable {Conn : Type} {env : Env Conn} {e e' : ProtocolEngine Conn}

/-- The reasons of the closings in an outbox. -/
def closings (outbox : List OutputAction) : List Text :=
  outbox.filterMap fun
    | .closeSession reason => some reason
    | _ => none

theorem closings_append (outbox queued : List OutputAction) :
    closings (outbox ++ queued) = closings outbox ++ closings queued := by
  simp [closings]

/-- No closing is queued. -/
def SameClosings (e e' : ProtocolEngine Conn) : Prop := closings e'.outbox = closings e.outbox

theorem SameClosings.refl (e : ProtocolEngine Conn) : SameClosings e e := rfl

theorem SameClosings.trans (e₁ e₂ e₃ : ProtocolEngine Conn) (h : SameClosings e₁ e₂)
    (h' : SameClosings e₂ e₃) : SameClosings e₁ e₃ :=
  Eq.trans h' h

theorem sameClosings_of_append {queued : List OutputAction} (h : e'.outbox = e.outbox ++ queued)
    (hnone : closings queued = []) : SameClosings e e' := by
  rw [SameClosings, h, closings_append, hnone, List.append_nil]

theorem sameClosings_become (e : ProtocolEngine Conn) (state : EngineState) :
    SameClosings e (e.become state) := by
  unfold become
  split
  · exact sameClosings_of_append rfl rfl
  · exact SameClosings.refl e

/-! ## Parts of a call -/

section Parts

variable {α β : Type}

/-- A program that queues no closing when it returns `Ok`. -/
abbrev OpenOnOk (p : EngineM Conn α) : Prop := Prog.OkKeeps SameClosings p

theorem openOnOk_bind {p : EngineM Conn α} {f : α → EngineM Conn β} (hp : OpenOnOk p)
    (hf : ∀ a, OpenOnOk (f a)) : OpenOnOk (p >>= f) :=
  Prog.OkKeeps.bind SameClosings.trans hp hf

theorem openOnOk_of_keeps {p : EngineM Conn α} (h : Prog.Keeps SameClosings p) : OpenOnOk p :=
  h.okKeeps

theorem openOnOk_pure (a : α) : OpenOnOk (pure a : EngineM Conn α) :=
  openOnOk_of_keeps (Prog.Keeps.pure SameClosings.refl a)

theorem openOnOk_modify {f : ProtocolEngine Conn → ProtocolEngine Conn}
    (h : ∀ e, (f e).outbox = e.outbox) : OpenOnOk (modify f : EngineM Conn PUnit) :=
  openOnOk_of_keeps (Prog.Keeps.modify fun e => congrArg closings (h e))

theorem openOnOk_get : OpenOnOk (get : EngineM Conn (ProtocolEngine Conn)) :=
  (Prog.Keeps.get SameClosings.refl).okKeeps

theorem openOnOk_when {c : Prop} [Decidable c] {p : EngineM Conn Unit} (hp : OpenOnOk p) :
    OpenOnOk (Prog.when c p) :=
  Prog.OkKeeps.when SameClosings.refl hp

theorem openOnOk_ofFun {f : ProtocolEngine Conn → Except ProtocolError α × ProtocolEngine Conn}
    (h : ∀ e, (f e).2.outbox = e.outbox) : OpenOnOk (Prog.ofFun f : EngineM Conn α) :=
  (Prog.Keeps.ofFun fun e => congrArg closings (h e)).okKeeps

theorem openOnOk_transitionState (state : EngineState) :
    OpenOnOk (transitionState state : EngineM Conn Unit) := by
  intro e a e' hrun
  rw [run_transitionState] at hrun
  obtain rfl : e.become state = e' := by simpa using hrun
  exact sameClosings_become e state

theorem openOnOk_emitControlPacket (cp : ControlPacket) :
    OpenOnOk (emitControlPacket env cp) := by
  intro e a e' hrun
  rw [run_emitControlPacket] at hrun
  obtain rfl : e.emit env cp = e' := by simpa using hrun
  exact sameClosings_of_append rfl rfl

theorem openOnOk_enqueue (opcode : Opcode) (payload : Bytes) (now : Instant) :
    OpenOnOk (enqueue opcode payload now : EngineM Conn UInt32) :=
  openOnOk_bind (openOnOk_ofFun fun _ => rfl) fun _ =>
    openOnOk_bind (openOnOk_modify fun _ => rfl) fun _ => openOnOk_pure _

theorem openOnOk_drainAcks : OpenOnOk (drainAcks : EngineM Conn (List UInt32)) :=
  openOnOk_ofFun fun _ => rfl

theorem openOnOk_withTls (default : α) (method : TlsStreamAdapter.Method Conn α) :
    OpenOnOk (withTls default method) := by
  refine openOnOk_bind openOnOk_get fun e => ?_
  cases e.tlsAdapter with
  | some tls => exact openOnOk_of_keeps (Prog.Keeps.within fun _ _ => rfl)
  | none => exact openOnOk_pure default

theorem openOnOk_sendControl (outgoing : Bytes) (now : Instant) :
    OpenOnOk (sendControl env outgoing now) :=
  openOnOk_bind (openOnOk_enqueue _ _ _) fun _ => openOnOk_bind openOnOk_drainAcks fun _ =>
    openOnOk_bind openOnOk_get fun _ => openOnOk_emitControlPacket _

theorem openOnOk_sendStandaloneAck : OpenOnOk (sendStandaloneAck env) :=
  openOnOk_bind openOnOk_drainAcks fun _ => openOnOk_bind openOnOk_get fun _ =>
    openOnOk_when (openOnOk_emitControlPacket _)

/-- A message closes the session with an error only. -/
theorem openOnOk_handleAppMessage (message : Text) :
    OpenOnOk (handleAppMessage message : EngineM Conn Unit) := by
  intro e a e' hrun
  rcases receive_cases e message with ⟨-, -, heq⟩ | ⟨-, -, heq⟩ | ⟨-, challenge, -, heq⟩ |
    ⟨hpush, hch, hfailed, -⟩ | ⟨-, -, -, heq⟩
  · rw [← receive_of_run hrun, heq]
    rfl
  · rw [← receive_of_run hrun, heq]
    unfold provision
    generalize pushedOptions _ = opts
    generalize accumulate e.pushedOptionsAccumulator message = acc
    have hbecome := sameClosings_become
      ({ e with pushedOptionsAccumulator := acc }.applyPushed opts) .connected
    exact SameClosings.trans _ _ _ hbecome (sameClosings_of_append rfl rfl)
  · rw [← receive_of_run hrun, heq]
    exact SameClosings.trans _ _ _ (sameClosings_become e _) (sameClosings_of_append rfl rfl)
  · rw [run_handleAppMessage_failed hpush hch hfailed] at hrun
    cases hrun
  · rw [← receive_of_run hrun, heq]
    rfl

theorem openOnOk_exportKeys (now : Instant) : OpenOnOk (exportKeys env now) := by
  refine openOnOk_bind (openOnOk_bind openOnOk_get fun e => ?_) fun _ => openOnOk_ofFun fun _ => rfl
  cases e.tlsAdapter with
  | some tls => exact openOnOk_of_keeps (Prog.Keeps.ofExcept SameClosings.refl _)
  | none => exact openOnOk_pure _

theorem openOnOk_flushWith {onHandshake : EngineM Conn Unit} (h : OpenOnOk onHandshake)
    (now : Instant) : OpenOnOk (flushWith env onHandshake now) := by
  refine openOnOk_bind (openOnOk_ofFun fun _ => rfl) fun _ => openOnOk_bind openOnOk_get fun _ =>
    openOnOk_bind (openOnOk_withTls _ _) fun _ => ?_
  refine openOnOk_bind (openOnOk_when (openOnOk_sendControl _ _)) fun _ => ?_
  refine openOnOk_bind (openOnOk_when (openOnOk_bind (openOnOk_transitionState _) fun _ => h))
    fun _ => ?_
  exact openOnOk_bind (openOnOk_when (openOnOk_handleAppMessage _)) fun _ =>
    openOnOk_sendStandaloneAck

theorem openOnOk_handleTlsHandshakeCompletion (now : Instant) :
    OpenOnOk (handleTlsHandshakeCompletion env now) := by
  have hflush : OpenOnOk (flushWith env Prog.stuck now) :=
    openOnOk_flushWith (openOnOk_of_keeps Prog.Keeps.stuck) now
  refine openOnOk_bind (openOnOk_exportKeys now) fun _ => openOnOk_bind openOnOk_get fun e => ?_
  cases e.authCredentials with
  | some creds =>
      refine openOnOk_bind (openOnOk_transitionState _) fun _ =>
        openOnOk_bind (openOnOk_modify fun _ => rfl) fun _ => ?_
      exact openOnOk_bind (openOnOk_withTls _ _) fun _ => hflush
  | none =>
      exact openOnOk_bind (openOnOk_transitionState _) fun _ =>
        openOnOk_bind (openOnOk_withTls _ _) fun _ => hflush

theorem openOnOk_flushControlChannel (now : Instant) : OpenOnOk (flushControlChannel env now) :=
  openOnOk_flushWith (openOnOk_handleTlsHandshakeCompletion now) now

end Parts

/-! ## Calls -/

theorem openOnOk_submitChallengeResponse (now : Instant) (stateId response : Text) :
    OpenOnOk (submitChallengeResponse env now stateId response) :=
  openOnOk_bind (openOnOk_withTls _ _) fun _ => openOnOk_flushControlChannel now

theorem openOnOk_processIncomingControlPacket (now : Instant) (packet : Bytes) :
    OpenOnOk (processIncomingControlPacket env now packet) := by
  refine openOnOk_bind openOnOk_get fun _ =>
    openOnOk_bind (openOnOk_of_keeps (Prog.Keeps.ofExcept SameClosings.refl _)) fun cp => ?_
  refine openOnOk_bind (openOnOk_modify fun e => ?_) fun _ =>
    openOnOk_bind (openOnOk_modify fun _ => rfl) fun _ => openOnOk_bind ?_ fun _ =>
      openOnOk_flushControlChannel now
  · unfold learnRemoteSession
    cases e.remoteSessionId <;> rfl
  · unfold receiveReliable
    cases cp.packetId with
    | some packetId => exact openOnOk_ofFun fun _ => rfl
    | none => exact openOnOk_pure ()

theorem closings_tunActions (plaintext : Bytes) : closings (tunActions plaintext) = [] := by
  unfold tunActions
  split
  · rfl
  · split <;> rfl

theorem openOnOk_processNetworkPacket (now : Instant) (packet : Bytes) :
    OpenOnOk (processNetworkPacket env now packet) := by
  intro e a e' hrun
  rcases processNetworkPacket_cases hrun with ⟨keyId, hout⟩ | ⟨-, hcontrol⟩ | rfl
  · cases hout with
    | authentic hd hs hw hlen hopen => exact sameClosings_of_append rfl (closings_tunActions _)
  · have hclosings := openOnOk_processIncomingControlPacket now packet _ a e' hcontrol
    exact hclosings
  · rfl

theorem sameClosings_sends (h : Sends env e e') : SameClosings e e' := by
  cases h with
  | failed hs hseal => rfl
  | sealed hs hseal => exact sameClosings_of_append rfl rfl

theorem openOnOk_processTunPacket (now : Instant) (packet : Bytes) :
    OpenOnOk (processTunPacket env now packet) := by
  intro e a e' hrun
  rcases processTunPacket_cases now hrun with rfl | ⟨-, hsends⟩
  · rfl
  · exact sameClosings_sends hsends

theorem openOnOk_sendKeepalivePing (now : Instant) : OpenOnOk (sendKeepalivePing env now) := by
  intro e a e' hrun
  rcases sendKeepalivePing_cases hrun with rfl | ⟨-, e₁, hsends, rfl | rfl⟩
  · rfl
  · exact sameClosings_sends hsends
  · exact SameClosings.trans _ _ _ (sameClosings_sends hsends) rfl

/-- A timeout closes the session with an error only. -/
theorem openOnOk_handleTimeout (now : Instant) : OpenOnOk (handleTimeout env now) := by
  refine openOnOk_bind (openOnOk_ofFun fun _ => rfl) fun resends => openOnOk_bind ?_ fun _ =>
    openOnOk_bind openOnOk_get fun e => openOnOk_when (openOnOk_bind
      (openOnOk_when (openOnOk_sendKeepalivePing now)) fun _ => openOnOk_when ?_)
  · refine (Prog.Keeps.forM SameClosings.refl SameClosings.trans (fun cp => ?_) resends).okKeeps
    intro e r e' hrun
    rw [run_resend] at hrun
    obtain ⟨-, rfl⟩ : _ ∧ e.sendAcks env cp = e' := by simpa using hrun
    exact sameClosings_of_append rfl rfl
  · exact openOnOk_bind (openOnOk_transitionState _) fun _ => Prog.OkKeeps.bind_throw _ _

end VpnHub.Protocol.ProtocolEngine
