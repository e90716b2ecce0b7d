import Mathlib.Logic.Relation
import VpnHub.Model.Runs

/-! What the control channel code of the engine can change. Every part of it relates the
engine before to the engine after by `ControlFrame`, whatever it returns, and every part of a
flush by the narrower `FlushFrame`. -/

namespace VpnHub.Protocol

open Config Crypto

/-- Any number of installations of new keys, all with key id 0. -/
def KeySlotManager.Installs : KeySlotManager → KeySlotManager → Prop :=
  Relation.ReflTransGen fun m m' =>
    ∃ keys now, keys.keyId = 0 ∧ m.installNewKey keys now = (.ok (), m')

/-- A failed installation changes nothing. -/
theorem KeySlotManager.installs_installNewKey (m : KeySlotManager) {keys : SessionKeySet}
    (hid : keys.keyId = 0) (now : Instant) : m.Installs (m.installNewKey keys now).2 := by
  cases hres : KeySlot.new keys m.cipherSuite now m.installed with
  | ok slot =>
      refine .single ⟨keys, now, hid, ?_⟩
      simp only [installNewKey, hres]
  | error err =>
      simp only [installNewKey, hres]
      exact .refl

/-- A new slot has the key id of its keys and has handed out no packet id. -/
theorem KeySlot.fresh_of_new {keys : SessionKeySet} {suite : CipherSuite} {now : Instant}
    {serial : ℕ} {slot : KeySlot} (h : KeySlot.new keys suite now serial = .ok slot) :
    slot.keyId = keys.keyId ∧ slot.serial = serial ∧ slot.txPacketId = 1 ∧ slot.allocated = 0 := by
  unfold KeySlot.new at h
  split at h
  · cases h
  · split at h
    · cases h
    · obtain rfl := Except.ok.inj h
      exact ⟨rfl, rfl, rfl, rfl⟩

/-- What every installation of a fresh slot keeps. -/
theorem KeySlotManager.Installs.invariant {P : KeySlotManager → Prop} {m m' : KeySlotManager}
    (h : m.Installs m') (start : P m)
    (preserved : ∀ m slot, slot.keyId = 0 → slot.serial = m.installed → slot.txPacketId = 1 →
      slot.allocated = 0 → P m → P { m with
        secondary := m.primary.or m.secondary, primary := some slot,
        installed := m.installed + 1 }) : P m' := by
  induction h with
  | refl => exact start
  | @tail m m' _ hinstall ih =>
      obtain ⟨keys, now, hid, hres⟩ := hinstall
      cases hnew : KeySlot.new keys m.cipherSuite now m.installed with
      | error err => simp [KeySlotManager.installNewKey, hnew] at hres
      | ok slot =>
          obtain rfl : _ = m' := by
            simpa [KeySlotManager.installNewKey, hnew] using hres
          obtain ⟨hkeyId, hserial, htx, hcount⟩ := KeySlot.fresh_of_new hnew
          exact preserved m slot (hkeyId.trans hid) hserial htx hcount ih

namespace ProtocolEngine

variable {Conn : Type} {env : Env Conn}

/-- Profiles that differ in the keepalive times only. -/
def SameProfile (c c' : OpenVpnConfig) : Prop :=
  c' = { c with pingInterval := c'.pingInterval, pingRestart := c'.pingRestart }

/-- The keys and the digest of a `tls-auth` context, without its counter. -/
def authKeys (tlsAuth : Option TlsAuthContext) : Option TlsAuthContext :=
  tlsAuth.map fun ta => { ta with sendPacketId := 0 }

/-- A control packet on the wire: wrapped if there is a `tls-auth` context, plain if not. -/
def ControlWire (env : Env Conn) (tlsAuth : Option TlsAuthContext) (packet : Bytes) : Prop :=
  match tlsAuth with
  | some ta => ∃ packetId timestamp, ∃ cp : ControlPacket,
      packet = ta.wrapped env.hmac packetId timestamp (encodeHeaderByte cp.opcode cp.keyId)
        cp.sessionId cp.encodeBody
  | none => ∃ cp : ControlPacket, packet = cp.encode

theorem controlWire_authKeys (tlsAuth : Option TlsAuthContext) (packet : Bytes) :
    ControlWire env (authKeys tlsAuth) packet ↔ ControlWire env tlsAuth packet := by
  cases tlsAuth <;> rfl

theorem ControlWire.congr {ta ta' : Option TlsAuthContext} {packet : Bytes}
    (h : authKeys ta' = authKeys ta) (hw : ControlWire env ta' packet) :
    ControlWire env ta packet := by
  rw [← controlWire_authKeys] at hw ⊢
  rwa [h] at hw

/-- The bytes that a control packet is emitted as. -/
def wire (env : Env Conn) (e : ProtocolEngine Conn) (cp : ControlPacket) : Bytes :=
  match e.tlsAuth with
  | some ta => (ta.wrapPacket env.hmac (env.unixSeconds e.clockReads)
      (encodeHeaderByte cp.opcode cp.keyId) cp.sessionId cp.encodeBody).1
  | none => cp.encode

/-- The engine after it has emitted a control packet. -/
def emit (env : Env Conn) (e : ProtocolEngine Conn) (cp : ControlPacket) : ProtocolEngine Conn :=
  { e with
    tlsAuth := e.tlsAuth.map fun ta => (ta.wrapPacket env.hmac (env.unixSeconds e.clockReads)
      (encodeHeaderByte cp.opcode cp.keyId) cp.sessionId cp.encodeBody).2
    clockReads := if e.tlsAuth.isSome then e.clockReads + 1 else e.clockReads
    outbox := e.outbox ++ [.sendToNetwork (e.wire env cp)]
    trace := e.trace ++ [.emitted cp (e.wire env cp)] }

theorem run_emitControlPacket (e : ProtocolEngine Conn) (cp : ControlPacket) :
    (emitControlPacket env cp).run e = some (.ok (), e.emit env cp) := by
  simp only [emitControlPacket, Prog.run_get_bind, emit, wire]
  cases hta : e.tlsAuth with
  | some ta => rfl
  | none =>
      cases e
      subst hta
      rfl

theorem controlWire_wire (e : ProtocolEngine Conn) (cp : ControlPacket) :
    ControlWire env e.tlsAuth (e.wire env cp) := by
  unfold wire
  cases e.tlsAuth with
  | some ta => exact ⟨ta.sendPacketId, _, cp, rfl⟩
  | none => exact ⟨cp, rfl⟩

/-- What control channel code may do: install keys, queue actions whose network packets are
control packets, and move the rest of the state without touching keys in use, session id,
profile or the configuration of the TLS connection. -/
structure ControlFrame (env : Env Conn) (e e' : ProtocolEngine Conn) : Prop where
  keys : e.keyManager.Installs e'.keyManager
  seals : e'.seals = e.seals
  localSessionId : e'.localSessionId = e.localSessionId
  tlsAuth : authKeys e'.tlsAuth = authKeys e.tlsAuth
  adapter : e'.tlsAdapter.map (·.config) = e.tlsAdapter.map (·.config)
  profile : SameProfile e.config e'.config
  outbox : ∃ queued, e'.outbox = e.outbox ++ queued ∧
    ∀ packet, .sendToNetwork packet ∈ queued → ControlWire env e.tlsAuth packet

theorem ControlFrame.refl (e : ProtocolEngine Conn) : ControlFrame env e e :=
  ⟨.refl, rfl, rfl, rfl, rfl, rfl, [], by simp, by simp⟩

theorem ControlFrame.trans (e₁ e₂ e₃ : ProtocolEngine Conn) (h : ControlFrame env e₁ e₂)
    (h' : ControlFrame env e₂ e₃) : ControlFrame env e₁ e₃ := by
  obtain ⟨queued, hq, hwire⟩ := h.outbox
  obtain ⟨queued', hq', hwire'⟩ := h'.outbox
  refine ⟨h.keys.trans h'.keys, h'.seals.trans h.seals, h'.localSessionId.trans h.localSessionId,
    h'.tlsAuth.trans h.tlsAuth, h'.adapter.trans h.adapter, ?_, queued ++ queued', ?_, ?_⟩
  · have hp := h.profile
    have hp' := h'.profile
    simp only [SameProfile] at hp hp' ⊢
    rw [hp'] at *
    rw [hp]
  · rw [hq', hq, List.append_assoc]
  · intro packet hmem
    rcases List.mem_append.mp hmem with hmem | hmem
    · exact hwire packet hmem
    · exact (hwire' packet hmem).congr h.tlsAuth

/-- What a flush may do besides: it takes packets out of the receive queue, but leaves the next
expected id and the reorder buffer alone. -/
structure FlushFrame (env : Env Conn) (e e' : ProtocolEngine Conn) : Prop
    extends ControlFrame env e e' where
  nextExpectedId : e'.recvQueue.nextExpectedId = e.recvQueue.nextExpectedId
  outOfOrder : e'.recvQueue.outOfOrder = e.recvQueue.outOfOrder

theorem FlushFrame.refl (e : ProtocolEngine Conn) : FlushFrame env e e :=
  ⟨.refl e, rfl, rfl⟩

theorem FlushFrame.trans (e₁ e₂ e₃ : ProtocolEngine Conn) (h : FlushFrame env e₁ e₂)
    (h' : FlushFrame env e₂ e₃) : FlushFrame env e₁ e₃ :=
  ⟨ControlFrame.trans _ _ _ h.toControlFrame h'.toControlFrame,
    h'.nextExpectedId.trans h.nextExpectedId, h'.outOfOrder.trans h.outOfOrder⟩

/-! ## Single steps -/

section Steps

variable {α : Type}

/-- Every outcome of `p` is within the frame. -/
abbrev Flushes (env : Env Conn) (p : EngineM Conn α) : Prop :=
  Prog.Keeps (FlushFrame env) p

theorem flushes_bind {β : Type} {p : EngineM Conn α} {f : α → EngineM Conn β}
    (hp : Flushes env p) (hf : ∀ a, Flushes env (f a)) : Flushes env (p >>= f) :=
  Prog.Keeps.bind FlushFrame.trans hp hf

theorem flushes_pure (a : α) : Flushes env (pure a) := Prog.Keeps.pure FlushFrame.refl a

theorem flushes_get : Flushes env get := Prog.Keeps.get FlushFrame.refl

theorem flushes_throw (err : ProtocolError) : Flushes env (throw err : EngineM Conn α) :=
  Prog.Keeps.throw FlushFrame.refl err

theorem flushes_ofExcept (r : Except ProtocolError α) :
    Flushes env (Prog.ofExcept r : EngineM Conn α) :=
  Prog.Keeps.ofExcept FlushFrame.refl r

theorem flushes_when {c : Prop} [Decidable c] {p : EngineM Conn Unit} (hp : Flushes env p) :
    Flushes env (Prog.when c p) :=
  Prog.Keeps.when FlushFrame.refl hp

theorem flushes_pushAction {action : OutputAction} (h : ∀ packet, action ≠ .sendToNetwork packet) :
    Flushes env (pushAction action : EngineM Conn Unit) := by
  refine Prog.Keeps.modify fun e =>
    ⟨⟨.refl, rfl, rfl, rfl, rfl, rfl, [action], rfl, ?_⟩, rfl, rfl⟩
  intro packet hmem
  exact absurd (List.mem_singleton.mp hmem).symm (h packet)

theorem flushes_transitionState (state : EngineState) :
    Flushes env (transitionState state : EngineM Conn Unit) := by
  intro e r e' hrun
  simp only [transitionState, Prog.run_get_bind] at hrun
  split at hrun
  · obtain ⟨-, rfl⟩ : _ ∧ _ = e' := by simpa using hrun
    exact ⟨⟨.refl, rfl, rfl, rfl, rfl, rfl, [.stateChange state], rfl, by simp⟩, rfl, rfl⟩
  · obtain ⟨-, rfl⟩ : _ ∧ e = e' := by simpa using hrun
    exact .refl e

theorem flushes_record (event : TraceEvent) : Flushes env (record event : EngineM Conn Unit) :=
  Prog.Keeps.modify fun _ => ⟨⟨.refl, rfl, rfl, rfl, rfl, rfl, [], by simp, by simp⟩, rfl, rfl⟩

theorem flushes_emitControlPacket (cp : ControlPacket) :
    Flushes env (emitControlPacket env cp) := by
  intro e r e' hrun
  rw [run_emitControlPacket] at hrun
  obtain ⟨-, rfl⟩ : _ ∧ e.emit env cp = e' := by simpa using hrun
  refine ⟨⟨.refl, rfl, rfl, ?_, rfl, rfl, [.sendToNetwork _], rfl, ?_⟩, rfl, rfl⟩
  · cases hta : e.tlsAuth <;> simp only [emit, hta] <;> rfl
  · intro packet hmem
    obtain rfl : packet = _ := by simpa using hmem
    exact controlWire_wire e cp

theorem flushes_enqueue (opcode : Opcode) (payload : Bytes) (now : Instant) :
    Flushes env (enqueue opcode payload now : EngineM Conn UInt32) := by
  refine flushes_bind (Prog.Keeps.ofFun fun _ => ?_) fun _ =>
    flushes_bind (flushes_record _) fun _ => flushes_pure _
  exact ⟨⟨.refl, rfl, rfl, rfl, rfl, rfl, [], by simp, by simp⟩, rfl, rfl⟩

theorem flushes_drainAcks : Flushes env (drainAcks : EngineM Conn (List UInt32)) :=
  Prog.Keeps.ofFun fun _ => ⟨⟨.refl, rfl, rfl, rfl, rfl, rfl, [], by simp, by simp⟩, rfl, rfl⟩

theorem flushes_sendControl (outgoing : Bytes) (now : Instant) :
    Flushes env (sendControl env outgoing now) :=
  flushes_bind (flushes_enqueue _ _ _) fun _ => flushes_bind flushes_drainAcks fun _ =>
    flushes_bind flushes_get fun _ => flushes_emitControlPacket _

theorem flushes_sendStandaloneAck : Flushes env (sendStandaloneAck env) :=
  flushes_bind flushes_drainAcks fun _ => flushes_bind flushes_get fun _ =>
    flushes_when (flushes_emitControlPacket _)

theorem flushes_resend (cp : ControlPacket) : Flushes env (resend env cp) :=
  flushes_bind flushes_drainAcks fun _ => flushes_emitControlPacket _

end Steps

/-! ## The TLS adapter -/

section Tls

variable {α : Type} {tls : Rustls Conn}

def SameConfig (a a' : TlsStreamAdapter Conn) : Prop := a'.config = a.config

theorem SameConfig.refl (a : TlsStreamAdapter Conn) : SameConfig a a := rfl

theorem SameConfig.trans (a₁ a₂ a₃ : TlsStreamAdapter Conn) (h : SameConfig a₁ a₂)
    (h' : SameConfig a₂ a₃) : SameConfig a₁ a₃ :=
  Eq.trans h' h

/-- Methods of the adapter never change the configuration of its connection. -/
abbrev KeepsConfig (method : TlsStreamAdapter.Method Conn α) : Prop :=
  Prog.Keeps SameConfig method

theorem keepsConfig_bind {β : Type} {p : TlsStreamAdapter.Method Conn α}
    {f : α → TlsStreamAdapter.Method Conn β} (hp : KeepsConfig p) (hf : ∀ a, KeepsConfig (f a)) :
    KeepsConfig (p >>= f) :=
  Prog.Keeps.bind SameConfig.trans hp hf

theorem keepsConfig_pure (a : α) : KeepsConfig (pure a : TlsStreamAdapter.Method Conn α) :=
  Prog.Keeps.pure SameConfig.refl a

theorem keepsConfig_get :
    KeepsConfig (get : TlsStreamAdapter.Method Conn (TlsStreamAdapter Conn)) :=
  Prog.Keeps.get SameConfig.refl

theorem keepsConfig_call {ε : Type} (method : Conn → Except ε α × Conn)
    (onError : ε → ProtocolError) : KeepsConfig (TlsStreamAdapter.call method onError) :=
  Prog.Keeps.ofFun fun a => SameConfig.refl a

theorem keepsConfig_feedLoop (turns : ℕ) (data : Bytes) :
    KeepsConfig (TlsStreamAdapter.feedLoop tls turns data) := by
  induction turns generalizing data with
  | zero => exact Prog.Keeps.ite (keepsConfig_pure ()) Prog.Keeps.stuck
  | succ turns ih =>
      refine Prog.Keeps.ite (keepsConfig_pure ()) ?_
      exact keepsConfig_bind (keepsConfig_call _ _) fun n =>
        keepsConfig_bind (keepsConfig_call _ _) fun _ => ih _

theorem keepsConfig_extractLoop (turns : ℕ) (output : Bytes) :
    KeepsConfig (TlsStreamAdapter.extractLoop tls turns output) := by
  induction turns generalizing output with
  | zero =>
      exact keepsConfig_bind keepsConfig_get fun _ =>
        Prog.Keeps.ite Prog.Keeps.stuck (keepsConfig_pure output)
  | succ turns ih =>
      refine keepsConfig_bind keepsConfig_get fun _ => ?_
      refine Prog.Keeps.ite ?_ (keepsConfig_pure output)
      exact keepsConfig_bind (keepsConfig_call _ _) fun _ => ih _

theorem keepsConfig_readLoop (turns : ℕ) (total : Bytes) :
    KeepsConfig (TlsStreamAdapter.readLoop tls turns total) := by
  induction turns generalizing total with
  | zero => exact Prog.Keeps.stuck
  | succ turns ih =>
      intro a
      refine Prog.wp_bind.mpr (Prog.wp_get.mpr ?_)
      refine Prog.wp_bind.mpr ?_
      intro r a' hset
      obtain ⟨rfl, rfl⟩ : Except.ok ⟨⟩ = r ∧ _ = a' := by simpa using hset
      cases (tls.read a.conn).1 with
      | ok bytes =>
          cases bytes with
          | nil => exact Prog.wp_pure.mpr rfl
          | cons b bytes => exact ih _ _
      | error err =>
          cases err with
          | wouldBlock => exact Prog.wp_pure.mpr rfl
          | other text => exact Prog.wp_throw.mpr rfl

theorem keepsConfig_pumpTls (chunks : List Bytes) (connecting : Bool) :
    KeepsConfig (pumpTls env chunks connecting) := by
  refine keepsConfig_bind ?_ fun _ => ?_
  · exact Prog.Keeps.forM SameConfig.refl SameConfig.trans
      (keepsConfig_feedLoop env.loopTurns) chunks
  · exact keepsConfig_bind (keepsConfig_extractLoop _ _) fun _ =>
      keepsConfig_bind keepsConfig_get fun _ =>
        keepsConfig_bind (keepsConfig_readLoop _ _) fun _ => keepsConfig_pure _

theorem flushes_withTls {default : α} {method : TlsStreamAdapter.Method Conn α}
    (hm : KeepsConfig method) : Flushes env (withTls default method) := by
  intro e r e' hrun
  simp only [withTls, Prog.run_get_bind] at hrun
  cases hadapter : e.tlsAdapter with
  | none =>
      rw [hadapter] at hrun
      obtain ⟨-, rfl⟩ : _ ∧ e = e' := by simpa using hrun
      exact .refl e
  | some tls =>
      rw [hadapter] at hrun
      obtain ⟨⟨r, tls'⟩, hmethod, heq⟩ := Option.map_eq_some_iff.mp hrun
      have hconfig : tls'.config = tls.config := hm.of_run hmethod
      obtain ⟨-, rfl⟩ : _ ∧ _ = e' := by simpa using heq
      exact ⟨⟨.refl, rfl, rfl, rfl, by simp [hadapter, hconfig], rfl, [], by simp, by simp⟩,
        rfl, rfl⟩

end Tls

/-! ## The control channel -/

theorem flushes_handleAppMessage (message : Text) :
    Flushes env (handleAppMessage message : EngineM Conn Unit) := by
  refine Prog.Keeps.ite ?_ ?_
  · refine flushes_bind (Prog.Keeps.modify fun _ => ?_) fun _ => Prog.Keeps.ite (flushes_pure ()) ?_
    · exact ⟨⟨.refl, rfl, rfl, rfl, rfl, rfl, [], by simp, by simp⟩, rfl, rfl⟩
    · refine flushes_bind flushes_get fun _ => flushes_bind (flushes_ofExcept _) fun _ => ?_
      refine flushes_bind (Prog.Keeps.modify fun _ => ?_) fun _ => flushes_bind flushes_get fun _ => ?_
      · exact ⟨⟨.refl, rfl, rfl, rfl, rfl, rfl, [], by simp [applyPushed], by simp⟩, rfl, rfl⟩
      · exact flushes_bind (flushes_transitionState _) fun _ =>
          flushes_bind (flushes_pushAction (by simp)) fun _ => flushes_record _
  · cases AuthHandler.parseChallenge message with
    | some challenge =>
        exact flushes_bind (flushes_transitionState _) fun _ => flushes_pushAction (by simp)
    | none =>
        refine Prog.Keeps.ite ?_ (flushes_pure ())
        exact flushes_bind (flushes_transitionState _) fun _ =>
          flushes_bind (flushes_pushAction (by simp)) fun _ => flushes_throw _

theorem flushes_keyMaterial : Flushes env (keyMaterial env) := by
  refine flushes_bind flushes_get fun e => ?_
  cases e.tlsAdapter with
  | some tls => exact flushes_ofExcept _
  | none => exact flushes_pure _

theorem flushes_exportKeys (now : Instant) : Flushes env (exportKeys env now) := by
  refine flushes_bind flushes_keyMaterial fun material => ?_
  refine Prog.Keeps.ofFun fun e => ?_
  exact ⟨⟨KeySlotManager.installs_installNewKey _ rfl now, rfl, rfl, rfl, rfl, rfl, [], by simp,
    by simp⟩, rfl, rfl⟩

theorem flushes_flushWith {onHandshake : EngineM Conn Unit} (h : Flushes env onHandshake)
    (now : Instant) : Flushes env (flushWith env onHandshake now) := by
  refine flushes_bind (Prog.Keeps.ofFun fun _ => ?_) fun _ => flushes_bind flushes_get fun _ => ?_
  · exact ⟨⟨.refl, rfl, rfl, rfl, rfl, rfl, [], by simp, by simp⟩, rfl, rfl⟩
  · refine flushes_bind (flushes_withTls (keepsConfig_pumpTls _ _)) fun _ => ?_
    refine flushes_bind (flushes_when (flushes_sendControl _ _)) fun _ => ?_
    refine flushes_bind (flushes_when (flushes_bind (flushes_transitionState _) fun _ => h)) fun _ => ?_
    exact flushes_bind (flushes_when (flushes_handleAppMessage _)) fun _ => flushes_sendStandaloneAck

theorem flushes_handleTlsHandshakeCompletion (now : Instant) :
    Flushes env (handleTlsHandshakeCompletion env now) := by
  have hflush : Flushes env (flushWith env Prog.stuck now) := flushes_flushWith Prog.Keeps.stuck now
  refine flushes_bind (flushes_exportKeys now) fun _ => flushes_bind flushes_get fun e => ?_
  cases e.authCredentials with
  | some creds =>
      refine flushes_bind (flushes_transitionState _) fun _ => ?_
      refine flushes_bind (Prog.Keeps.modify fun _ => ?_) fun _ => ?_
      · exact ⟨⟨.refl, rfl, rfl, rfl, rfl, rfl, [], by simp, by simp⟩, rfl, rfl⟩
      · exact flushes_bind (flushes_withTls (keepsConfig_call _ _)) fun _ => hflush
  | none =>
      exact flushes_bind (flushes_transitionState _) fun _ =>
        flushes_bind (flushes_withTls (keepsConfig_call _ _)) fun _ => hflush

theorem flushes_flushControlChannel (now : Instant) : Flushes env (flushControlChannel env now) :=
  flushes_flushWith (flushes_handleTlsHandshakeCompletion now) now

theorem flushes_submitChallengeResponse (now : Instant) (stateId response : Text) :
    Flushes env (submitChallengeResponse env now stateId response) :=
  flushes_bind (flushes_withTls (keepsConfig_call _ _)) fun _ => flushes_flushControlChannel now

/-! ## Receiving -/

theorem framed_receiveReliable (cp : ControlPacket) :
    Prog.Keeps (ControlFrame env) (receiveReliable cp : EngineM Conn Unit) := by
  unfold receiveReliable
  cases cp.packetId with
  | some packetId =>
      exact Prog.Keeps.ofFun fun _ => ⟨.refl, rfl, rfl, rfl, rfl, rfl, [], by simp, by simp⟩
  | none => exact Prog.Keeps.pure ControlFrame.refl ()

/-- The engine after the session id and the acknowledgements of a control packet. -/
def acknowledged (e : ProtocolEngine Conn) (cp : ControlPacket) : ProtocolEngine Conn :=
  { e.learnRemoteSession cp.sessionId with
    sendQueue := ((e.learnRemoteSession cp.sessionId).sendQueue.processAcks cp.ackArray).2 }

theorem controlFrame_acknowledged (e : ProtocolEngine Conn) (cp : ControlPacket) :
    ControlFrame env e (e.acknowledged cp) := by
  unfold acknowledged learnRemoteSession
  cases e.remoteSessionId with
  | some _ => exact ⟨.refl, rfl, rfl, rfl, rfl, rfl, [], by simp, by simp⟩
  | none => exact ⟨.refl, rfl, rfl, rfl, rfl, rfl, [], by simp, by simp⟩

theorem run_processIncomingControlPacket_of_error {e : ProtocolEngine Conn} {packet : Bytes}
    {err : ProtocolError} (h : decodeControl env e.tlsAuth packet = .error err) (now : Instant) :
    (processIncomingControlPacket env now packet).run e = some (.error err, e) := by
  simp only [processIncomingControlPacket, Prog.run_get_bind, h, Prog.run_ofExcept_error_bind]

theorem run_processIncomingControlPacket_of_ok {e : ProtocolEngine Conn} {packet : Bytes}
    {cp : ControlPacket} (h : decodeControl env e.tlsAuth packet = .ok cp) (now : Instant) :
    (processIncomingControlPacket env now packet).run e =
      ((do
        receiveReliable cp
        flushControlChannel env now) : EngineM Conn Unit).run (e.acknowledged cp) := by
  simp only [processIncomingControlPacket, Prog.run_get_bind, h, Prog.run_ofExcept_ok_bind,
    Prog.run_modify_bind]
  rfl

theorem framed_processIncomingControlPacket (now : Instant) (packet : Bytes) :
    Prog.Keeps (ControlFrame env) (processIncomingControlPacket env now packet) := by
  have hflush : Prog.Keeps (ControlFrame env) (flushControlChannel env now) :=
    (flushes_flushControlChannel now).mono fun _ _ h => h.toControlFrame
  intro e r e' hrun
  cases h : decodeControl env e.tlsAuth packet with
  | error err =>
      rw [run_processIncomingControlPacket_of_error h] at hrun
      obtain ⟨-, rfl⟩ : _ ∧ e = e' := by simpa using hrun
      exact .refl e
  | ok cp =>
      rw [run_processIncomingControlPacket_of_ok h] at hrun
      have hrest := Prog.Keeps.bind ControlFrame.trans (framed_receiveReliable cp)
        fun _ => hflush
      exact ControlFrame.trans _ _ _ (controlFrame_acknowledged e cp) (hrest.of_run hrun)

end ProtocolEngine

end VpnHub.Protocol
