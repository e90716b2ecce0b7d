import VpnHub.Model.Loopback
import VpnHub.Verification.Engine.Flush
import VpnHub.Verification.Engine.Steps

/-! Keys are installed before the engine reports that it is connected, and once for each
connection attempt. -/

namespace VpnHub.Protocol

open Config Crypto

/-- What the engine relies on in the TLS library: application data comes from completed
handshakes only, a completed handshake stays completed, and key material can be exported
from then on. -/
structure TlsContract {Conn : Type} (tls : Rustls Conn) : Prop where
  readAfter : ∀ conn bytes conn', tls.read conn = (.ok bytes, conn') → bytes ≠ [] →
    tls.isHandshaking conn = false
  read : ∀ conn, tls.isHandshaking conn = false → tls.isHandshaking (tls.read conn).2 = false
  readTls : ∀ conn data, tls.isHandshaking conn = false →
    tls.isHandshaking (tls.readTls conn data).2 = false
  processNewPackets : ∀ conn, tls.isHandshaking conn = false →
    tls.isHandshaking (tls.processNewPackets conn).2 = false
  writeTls : ∀ conn, tls.isHandshaking conn = false →
    tls.isHandshaking (tls.writeTls conn).2 = false
  writeAll : ∀ conn data, tls.isHandshaking conn = false →
    tls.isHandshaking (tls.writeAll conn data).2 = false
  exporter : ∀ conn label context n, tls.isHandshaking conn = false →
    ∃ material, tls.exportKeyingMaterial conn label context n = .ok material

namespace ProtocolEngine

variable {Conn : Type} {env : Env Conn} {e e' : ProtocolEngine Conn}

/-! ## Reading from the connection -/

/-- Data comes out of the loop only if the handshake was complete when it began. -/
theorem wp_readLoop (htls : TlsContract env.tls) (turns : ℕ) (total : Bytes)
    (a : TlsStreamAdapter Conn) :
    (TlsStreamAdapter.readLoop env.tls turns total).wp (fun r a' =>
      (∀ data, r = .ok data → data = total ∨ env.tls.isHandshaking a.conn = false) ∧
      (env.tls.isHandshaking a.conn = false → env.tls.isHandshaking a'.conn = false)) a := by
  induction turns generalizing total a with
  | zero => exact Prog.wp_stuck.mpr trivial
  | succ turns ih =>
      have hkeep := htls.read a.conn
      refine Prog.wp_bind.mpr (Prog.wp_get.mpr ?_)
      refine Prog.wp_bind.mpr ?_
      intro r a₁ hset
      obtain ⟨rfl, rfl⟩ : Except.ok ⟨⟩ = r ∧ _ = a₁ := by simpa using hset
      cases hread : (env.tls.read a.conn).1 with
      | ok bytes =>
          cases bytes with
          | nil => exact Prog.wp_pure.mpr ⟨by simp, hkeep⟩
          | cons b bytes =>
              have hdone : env.tls.isHandshaking a.conn = false :=
                htls.readAfter a.conn (b :: bytes) _ (Prod.ext hread rfl) (by simp)
              refine (ih _ _).mono fun r a' h => ⟨fun _ _ => .inr hdone, fun _ => ?_⟩
              exact h.2 (hkeep hdone)
      | error err =>
          cases err with
          | wouldBlock => exact Prog.wp_pure.mpr ⟨by simp, hkeep⟩
          | other text => exact Prog.wp_throw.mpr ⟨by simp, hkeep⟩

/-- The handshake counts as just completed only if it is complete, and, in the state
`Connecting`, whenever there is data. -/
theorem wp_pumpTls (htls : TlsContract env.tls) (chunks : List Bytes) (connecting : Bool)
    (a : TlsStreamAdapter Conn) :
    (pumpTls env chunks connecting).wp (fun r a' => ∀ out, r = .ok out →
      (out.2.1 = true → connecting = true ∧ env.tls.isHandshaking a'.conn = false) ∧
      (out.2.2 ≠ [] → connecting = true → out.2.1 = true)) a := by
  unfold pumpTls
  refine Prog.wp_bind.mpr fun r a₁ _ => ?_
  cases r with
  | error err => simp
  | ok =>
      refine Prog.wp_bind.mpr fun r a₂ _ => ?_
      cases r with
      | error err => simp
      | ok outgoing =>
          refine Prog.wp_bind.mpr (Prog.wp_get.mpr ?_)
          refine Prog.wp_bind.mpr ((wp_readLoop htls _ _ a₂).mono fun r a₃ h => ?_)
          obtain ⟨hdata, hkeep⟩ := h
          cases r with
          | error err => simp
          | ok appData =>
              refine Prog.wp_pure.mpr fun out hout => ?_
              obtain rfl := Except.ok.inj hout
              constructor
              · intro hcompleted
                obtain ⟨hdone, hconnecting⟩ : env.tls.isHandshaking a₂.conn = false ∧
                    connecting = true := by simpa using hcompleted
                exact ⟨hconnecting, hkeep hdone⟩
              · intro hne hconnecting
                have hdone := (hdata appData rfl).resolve_left hne
                simp [hdone, hconnecting]

/-! ## Steps that install no keys -/

/-- Keys and cipher suite stay, no TLS connection appears, and the state is left alone or
moves on to one past `Connecting`. -/
structure Handles (e e' : ProtocolEngine Conn) : Prop where
  keyManager : e'.keyManager = e.keyManager
  cipherSuite : e'.cipherSuite = e.cipherSuite
  adapter : e.tlsAdapter = none → e'.tlsAdapter = none
  state : e'.state = e.state ∨ e'.state ≠ .disconnected ∧ e'.state ≠ .connecting

theorem Handles.refl (e : ProtocolEngine Conn) : Handles e e := ⟨rfl, rfl, id, .inl rfl⟩

theorem Handles.trans (e₁ e₂ e₃ : ProtocolEngine Conn) (h : Handles e₁ e₂) (h' : Handles e₂ e₃) :
    Handles e₁ e₃ := by
  refine ⟨h'.keyManager.trans h.keyManager, h'.cipherSuite.trans h.cipherSuite,
    h'.adapter ∘ h.adapter, ?_⟩
  rcases h'.state with hstate | hpast
  · rw [hstate]
    exact h.state
  · exact .inr hpast

theorem Handles.of_quiet (e e' : ProtocolEngine Conn) (h : Quiet e e') : Handles e e' := by
  rw [h]
  exact ⟨rfl, rfl, id, .inl rfl⟩

theorem handles_transitionState {state : EngineState} (hd : state ≠ .disconnected)
    (hc : state ≠ .connecting) :
    Prog.Keeps Handles (transitionState state : EngineM Conn Unit) := by
  intro e r e' hrun
  simp only [transitionState, Prog.run_get_bind] at hrun
  split at hrun
  · obtain ⟨-, rfl⟩ : _ ∧ _ = e' := by simpa using hrun
    exact ⟨rfl, rfl, id, .inr ⟨hd, hc⟩⟩
  · obtain ⟨-, rfl⟩ : _ ∧ e = e' := by simpa using hrun
    exact .refl e

theorem handles_pushAction (action : OutputAction) :
    Prog.Keeps Handles (pushAction action : EngineM Conn Unit) :=
  Prog.Keeps.modify fun _ => ⟨rfl, rfl, id, .inl rfl⟩

theorem wp_withTls_handles {α : Type} (default : α) (method : TlsStreamAdapter.Method Conn α) :
    (withTls default method).wp (fun _ e' => Handles e e' ∧ e'.state = e.state) e := by
  refine wp_withTls (fun _ => ⟨.refl e, rfl⟩) fun tls hadapter => ?_
  intro r tls' _
  exact ⟨⟨rfl, rfl, by simp [hadapter], .inl rfl⟩, rfl⟩

theorem handles_withTls {α : Type} (default : α) (method : TlsStreamAdapter.Method Conn α) :
    Prog.Keeps Handles (withTls default method) :=
  fun _ => (wp_withTls_handles default method).mono fun _ _ h => h.1

theorem handles_handleAppMessage (message : Text) :
    Prog.Keeps Handles (handleAppMessage message : EngineM Conn Unit) := by
  have hreport {state : EngineState} (hd : state ≠ .disconnected) (hc : state ≠ .connecting)
      (action : OutputAction) : Prog.Keeps Handles (do
        transitionState state
        pushAction action : EngineM Conn Unit) :=
    Prog.Keeps.bind Handles.trans (handles_transitionState hd hc) fun _ => handles_pushAction action
  refine Prog.Keeps.ite ?_ ?_
  · refine Prog.Keeps.bind Handles.trans (Prog.Keeps.modify fun _ => ⟨rfl, rfl, id, .inl rfl⟩)
      fun _ => Prog.Keeps.ite (Prog.Keeps.pure Handles.refl _) ?_
    refine Prog.Keeps.bind Handles.trans (Prog.Keeps.get Handles.refl) fun _ => ?_
    refine Prog.Keeps.bind Handles.trans (Prog.Keeps.ofExcept Handles.refl _) fun _ => ?_
    refine Prog.Keeps.bind Handles.trans (Prog.Keeps.modify fun _ => ⟨rfl, rfl, id, .inl rfl⟩)
      fun _ => ?_
    refine Prog.Keeps.bind Handles.trans (Prog.Keeps.get Handles.refl) fun _ => ?_
    refine Prog.Keeps.bind Handles.trans (handles_transitionState (by simp) (by simp)) fun _ => ?_
    exact Prog.Keeps.bind Handles.trans (handles_pushAction _) fun _ =>
      Prog.Keeps.modify fun _ => ⟨rfl, rfl, id, .inl rfl⟩
  · cases AuthHandler.parseChallenge message with
    | some challenge => exact hreport (by simp) (by simp) _
    | none =>
        refine Prog.Keeps.ite ?_ (Prog.Keeps.pure Handles.refl ())
        exact Prog.Keeps.bind Handles.trans (handles_transitionState (by simp) (by simp)) fun _ =>
          Prog.Keeps.bind Handles.trans (handles_pushAction _) fun _ =>
            Prog.Keeps.throw Handles.refl _

theorem quiet_sendControl (outgoing : Bytes) (now : Instant) :
    Prog.Keeps Quiet (sendControl env outgoing now) :=
  Prog.Keeps.bind Quiet.trans (quiet_enqueue _ _ _) fun _ =>
    Prog.Keeps.bind Quiet.trans quiet_drainAcks fun _ =>
      Prog.Keeps.bind Quiet.trans (Prog.Keeps.get Quiet.refl) fun _ => quiet_emitControlPacket _

theorem quiet_sendStandaloneAck : Prog.Keeps Quiet (sendStandaloneAck env) :=
  Prog.Keeps.bind Quiet.trans quiet_drainAcks fun _ =>
    Prog.Keeps.bind Quiet.trans (Prog.Keeps.get Quiet.refl) fun _ =>
      Prog.Keeps.when Quiet.refl (quiet_emitControlPacket _)

/-- A flush that completes no handshake. -/
theorem handles_flushWith_stuck (now : Instant) :
    Prog.Keeps Handles (flushWith env Prog.stuck now) := by
  refine Prog.Keeps.bind Handles.trans (Prog.Keeps.ofFun fun _ => ⟨rfl, rfl, id, .inl rfl⟩)
    fun _ => ?_
  refine Prog.Keeps.bind Handles.trans (Prog.Keeps.get Handles.refl) fun _ => ?_
  refine Prog.Keeps.bind Handles.trans (handles_withTls _ _) fun _ => ?_
  refine Prog.Keeps.bind Handles.trans
    (Prog.Keeps.when Handles.refl ((quiet_sendControl _ _).mono Handles.of_quiet)) fun _ => ?_
  refine Prog.Keeps.bind Handles.trans (Prog.Keeps.when Handles.refl ?_) fun _ => ?_
  · exact Prog.Keeps.bind Handles.trans (handles_transitionState (by simp) (by simp)) fun _ =>
      Prog.Keeps.stuck
  · exact Prog.Keeps.bind Handles.trans
      (Prog.Keeps.when Handles.refl (handles_handleAppMessage _)) fun _ =>
        quiet_sendStandaloneAck.mono Handles.of_quiet

/-! ## The invariant -/

/-- Without keys the engine has not got past `Connecting`, and before the first attempt there
is no TLS connection. -/
structure Keyed (e : ProtocolEngine Conn) : Prop where
  suite : e.keyManager.cipherSuite = e.cipherSuite
  keys : e.keyManager.primary = none → e.state = .disconnected ∨ e.state = .connecting
  adapter : e.state = .disconnected → e.tlsAdapter = none

/-- Keys installed, and those that the state `Connecting` still has to bring. -/
def owed (e : ProtocolEngine Conn) : ℕ :=
  e.keyManager.installed + if e.state = .connecting then 1 else 0

/-- What every operation but `start_connect` does. -/
structure Advances (e e' : ProtocolEngine Conn) : Prop where
  keyed : Keyed e'
  owed : e'.owed ≤ e.owed

theorem Advances.trans {e₁ : ProtocolEngine Conn} (h : Advances e e₁) (h' : Advances e₁ e') :
    Advances e e' :=
  ⟨h'.keyed, h'.owed.trans h.owed⟩

theorem Handles.owed_le (h : Handles e e') : e'.owed ≤ e.owed := by
  simp only [owed, h.keyManager]
  rcases h.state with hstate | ⟨-, hpast⟩
  · simp [hstate]
  · simp [hpast]

/-- Such a step keeps the invariant unless it moves an engine without keys. -/
theorem Handles.advances (h : Handles e e') (he : Keyed e)
    (hkeys : e.keyManager.primary = none → e'.state = e.state) : Advances e e' := by
  refine ⟨⟨?_, ?_, ?_⟩, h.owed_le⟩
  · rw [h.keyManager, h.cipherSuite]
    exact he.suite
  · intro hnone
    rw [h.keyManager] at hnone
    rw [hkeys hnone]
    exact he.keys hnone
  · intro hdisconnected
    rcases h.state with hstate | ⟨hpast, -⟩
    · exact h.adapter (he.adapter (hstate ▸ hdisconnected))
    · exact absurd hdisconnected hpast

theorem Quiet.advances (h : Quiet e e') (he : Keyed e) : Advances e e' :=
  (Handles.of_quiet e e' h).advances he fun _ => by rw [h]

/-! ## Completing the handshake -/

/-- The key material is cut to the size the cipher asks for, so the keys are installed. -/
theorem installNewKey_sessionKeysOf (m : KeySlotManager) (material : FixedBytes 256)
    (now : Instant) :
    ∃ m', m.installNewKey (sessionKeysOf m.cipherSuite material) now = (.ok (), m') ∧
      m'.cipherSuite = m.cipherSuite ∧ m'.primary ≠ none ∧ m'.installed = m.installed + 1 := by
  have hsize : m.cipherSuite.keySize ≤ 32 := by cases m.cipherSuite <;> decide
  have hlen := material.property
  have htx : (material.val.take m.cipherSuite.keySize).length = m.cipherSuite.keySize := by
    rw [List.length_take]
    omega
  have hrx : ((material.val.drop 128).take m.cipherSuite.keySize).length =
      m.cipherSuite.keySize := by
    rw [List.length_take, List.length_drop]
    omega
  have htxCipher : m.cipherSuite.createCipher (sessionKeysOf m.cipherSuite material).txKey.cipherKey =
      .ok ⟨m.cipherSuite, _, htx⟩ := dif_pos htx
  have hrxCipher : m.cipherSuite.createCipher (sessionKeysOf m.cipherSuite material).rxKey.cipherKey =
      .ok ⟨m.cipherSuite, _, hrx⟩ := dif_pos hrx
  simp only [KeySlotManager.installNewKey, KeySlot.new, htxCipher, hrxCipher]
  exact ⟨_, rfl, rfl, by simp, rfl⟩

/-- Past the handshake, with keys. -/
structure Established (installed : ℕ) (e : ProtocolEngine Conn) : Prop where
  suite : e.keyManager.cipherSuite = e.cipherSuite
  keys : e.keyManager.primary ≠ none
  installed : e.keyManager.installed = installed
  state : e.state ≠ .disconnected ∧ e.state ≠ .connecting

theorem Handles.established {n : ℕ} (h : Handles e e') (he : Established n e) :
    Established n e' := by
  refine ⟨?_, ?_, ?_, ?_⟩
  · rw [h.keyManager, h.cipherSuite]
    exact he.suite
  · rw [h.keyManager]
    exact he.keys
  · rw [h.keyManager]
    exact he.installed
  · rcases h.state with hstate | hpast
    · rw [hstate]
      exact he.state
    · exact hpast

theorem Established.advances {n : ℕ} (h : Established n e') (hn : n ≤ e.owed) : Advances e e' := by
  refine ⟨⟨h.suite, fun hnone => absurd hnone h.keys, fun hd => absurd hd h.state.1⟩, ?_⟩
  simp only [owed, h.installed, h.state.2, if_false]
  exact hn

theorem wp_exportKeys (htls : TlsContract env.tls) {a : TlsStreamAdapter Conn}
    (hadapter : e.tlsAdapter = some a) (hdone : env.tls.isHandshaking a.conn = false)
    (hsuite : e.keyManager.cipherSuite = e.cipherSuite)
    (hstate : e.state ≠ .disconnected ∧ e.state ≠ .connecting) (now : Instant) :
    (exportKeys env now).wp
      (fun _ e' => Established (e.keyManager.installed + 1) e') e := by
  obtain ⟨material, hmaterial⟩ := htls.exporter a.conn
    (Text.utf8Encode "EXPORTER-OpenVPN-datakeys".toList) none 256 hdone
  have hrun : (keyMaterial env).run e = some (.ok material, e) := by
    simp only [keyMaterial, Prog.run_get_bind, hadapter, hmaterial]
    rfl
  obtain ⟨m', hinstall, hsuite', hkeys, hcount⟩ :=
    installNewKey_sessionKeysOf e.keyManager material now
  rw [hsuite] at hinstall
  intro r e' hexport
  rw [exportKeys, Prog.run_bind_of_ok hrun, Prog.run_ofFun, hinstall] at hexport
  obtain ⟨-, rfl⟩ : _ ∧ _ = e' := by simpa using hexport
  exact ⟨hsuite'.trans hsuite, hkeys, hcount, hstate⟩

theorem wp_handleTlsHandshakeCompletion (htls : TlsContract env.tls) {a : TlsStreamAdapter Conn}
    (hadapter : e.tlsAdapter = some a) (hdone : env.tls.isHandshaking a.conn = false)
    (hsuite : e.keyManager.cipherSuite = e.cipherSuite)
    (hstate : e.state ≠ .disconnected ∧ e.state ≠ .connecting) (now : Instant) :
    (handleTlsHandshakeCompletion env now).wp
      (fun _ e' => Established (e.keyManager.installed + 1) e') e := by
  refine Prog.wp_bind.mpr ((wp_exportKeys htls hadapter hdone hsuite hstate now).mono ?_)
  intro r e₁ he₁
  cases r with
  | error err => exact he₁
  | ok =>
      have hrest {p : EngineM Conn Unit} (h : Prog.Keeps Handles p) :
          p.wp (fun _ e' => Established (e.keyManager.installed + 1) e') e₁ :=
        fun r e' hrun => (h.of_run hrun).established he₁
      have hsend (data : Bytes) : Prog.Keeps Handles (do
          withTls () (TlsStreamAdapter.sendPlaintextAppData env.tls data)
          flushWith env Prog.stuck now : EngineM Conn Unit) :=
        Prog.Keeps.bind Handles.trans (handles_withTls _ _) fun _ => handles_flushWith_stuck now
      refine hrest (Prog.Keeps.bind Handles.trans (Prog.Keeps.get Handles.refl) fun e₂ => ?_)
      cases e₂.authCredentials with
      | some creds =>
          refine Prog.Keeps.bind Handles.trans (handles_transitionState (by simp) (by simp))
            fun _ => ?_
          exact Prog.Keeps.bind Handles.trans
            (Prog.Keeps.modify fun _ => ⟨rfl, rfl, id, .inl rfl⟩) fun _ => hsend _
      | none =>
          exact Prog.Keeps.bind Handles.trans (handles_transitionState (by simp) (by simp))
            fun _ => hsend _

/-! ## Operations -/

/-- The messages of the server are handled after a handshake that has just been completed. -/
theorem wp_flush_rest (htls : TlsContract env.tls) {e₁ : ProtocolEngine Conn} (he : Keyed e)
    (h₁ : Handles e e₁) (hstate : e₁.state = e.state) {outgoing appData : Bytes}
    {completed : Bool}
    (hdone : completed = true → e.state = .connecting ∧
      ∃ a, e₁.tlsAdapter = some a ∧ env.tls.isHandshaking a.conn = false)
    (hdata : appData ≠ [] → e.tlsAdapter ≠ none ∧ (e.state = .connecting → completed = true))
    (now : Instant) :
    (do
      Prog.when (outgoing ≠ []) (sendControl env outgoing now)
      Prog.when (completed = true) do
        transitionState .tlsHandshake
        handleTlsHandshakeCompletion env now
      Prog.when (appData ≠ []) (handleAppMessage (Text.fromUtf8Lossy appData))
      sendStandaloneAck env : EngineM Conn Unit).wp (fun _ e' => Advances e e') e₁ := by
  have hlast : Prog.Keeps Handles (do
      Prog.when (appData ≠ []) (handleAppMessage (Text.fromUtf8Lossy appData))
      sendStandaloneAck env : EngineM Conn Unit) :=
    Prog.Keeps.bind Handles.trans (Prog.Keeps.when Handles.refl (handles_handleAppMessage _))
      fun _ => quiet_sendStandaloneAck.mono Handles.of_quiet
  refine Prog.wp_bind.mpr fun r e₂ hsend => ?_
  have hquiet : Quiet e₁ e₂ := (Prog.Keeps.when Quiet.refl (quiet_sendControl _ _)).of_run hsend
  have h₂ : Handles e e₂ := Handles.trans _ _ _ h₁ (.of_quiet _ _ hquiet)
  have hstate₂ : e₂.state = e.state := by
    rw [hquiet]
    exact hstate
  cases r with
  | error err => exact h₂.advances he fun _ => hstate₂
  | ok =>
      cases completed with
      | false =>
          refine Prog.wp_bind.mpr (Prog.wp_pure.mpr fun r e' hrun => ?_)
          by_cases hne : appData ≠ []
          · -- a connection with data that is not `Connecting` has its keys
            obtain ⟨hadapter, hconnecting⟩ := hdata hne
            have h₃ := Handles.trans _ _ _ h₂ (hlast.of_run hrun)
            refine h₃.advances he fun hnone => ?_
            rcases he.keys hnone with hstate | hstate
            · exact absurd (he.adapter hstate) hadapter
            · exact absurd (hconnecting hstate) (by simp)
          · rw [Prog.when, if_neg hne, Prog.run_pure_bind] at hrun
            have hquiet' : Quiet e₂ e' := quiet_sendStandaloneAck.of_run hrun
            have h₃ := Handles.trans _ _ _ h₂ (.of_quiet _ _ hquiet')
            refine h₃.advances he fun _ => ?_
            rw [hquiet']
            exact hstate₂
      | true =>
          obtain ⟨hconnecting, a, hadapter, hhandshake⟩ := hdone rfl
          refine Prog.wp_bind.mpr (Prog.wp_bind.mpr fun r e₃ htransition => ?_)
          obtain ⟨rfl, heq⟩ : Except.ok ⟨⟩ = r ∧ { e₂ with
              state := .tlsHandshake
              outbox := e₂.outbox ++ [.stateChange .tlsHandshake] } = e₃ := by
            simpa [transitionState, hstate₂, hconnecting] using htransition
          have hadapter₃ : e₃.tlsAdapter = some a := by
            rw [← heq, hquiet]
            exact hadapter
          have hsuite : e₃.keyManager.cipherSuite = e₃.cipherSuite := by
            rw [← heq, h₂.keyManager, h₂.cipherSuite]
            exact he.suite
          have howed : e₃.keyManager.installed + 1 ≤ e.owed := by
            rw [← heq, h₂.keyManager, owed, if_pos hconnecting]
          refine (wp_handleTlsHandshakeCompletion htls hadapter₃ hhandshake hsuite
            (by simp [← heq]) now).mono fun r e₄ he₄ => ?_
          cases r with
          | error err => exact he₄.advances howed
          | ok => exact fun r e' hrun => ((hlast.of_run hrun).established he₄).advances howed

theorem wp_flushControlChannel (htls : TlsContract env.tls) (he : Keyed e) (now : Instant) :
    (flushControlChannel env now).wp (fun _ e' => Advances e e') e := by
  refine Prog.wp_bind.mpr (Prog.wp_ofFun.mpr ?_)
  refine Prog.wp_bind.mpr (Prog.wp_get.mpr ?_)
  refine Prog.wp_bind.mpr (wp_withTls ?_ ?_)
  · intro _
    have h₁ : Handles e { e with recvQueue := e.recvQueue.drainReady.2 } :=
      ⟨rfl, rfl, id, .inl rfl⟩
    refine wp_flush_rest htls he h₁ rfl ?_ ?_ now
    · simp
    · simp
  · intro tls hadapter
    refine (wp_pumpTls htls _ _ tls).mono fun r tls' hout => ?_
    have hsome : e.tlsAdapter ≠ none := fun hnone => by simp [hnone] at hadapter
    have h₁ : Handles e { e with
        recvQueue := e.recvQueue.drainReady.2, tlsAdapter := some tls' } :=
      ⟨rfl, rfl, fun hnone => absurd hnone hsome, .inl rfl⟩
    cases r with
    | error err => exact h₁.advances he fun _ => rfl
    | ok out =>
        obtain ⟨hcompleted, hdata⟩ := hout out rfl
        refine wp_flush_rest htls he h₁ rfl ?_ ?_ now
        · intro hdone
          obtain ⟨hconnecting, hhandshake⟩ := hcompleted hdone
          exact ⟨by simpa using hconnecting, tls', rfl, hhandshake⟩
        · intro hne
          exact ⟨hsome, fun hconnecting => hdata hne (by simpa using hconnecting)⟩

/-- What data channel code does to what the invariant is about: nothing. -/
structure SlotFrame (e e' : ProtocolEngine Conn) : Prop where
  state : e'.state = e.state
  cipherSuite : e'.cipherSuite = e.cipherSuite
  adapter : e'.tlsAdapter = e.tlsAdapter
  suite : e'.keyManager.cipherSuite = e.keyManager.cipherSuite
  installed : e'.keyManager.installed = e.keyManager.installed
  primary : e'.keyManager.primary = none → e.keyManager.primary = none

theorem SlotFrame.advances (h : SlotFrame e e') (he : Keyed e) : Advances e e' := by
  refine ⟨⟨?_, ?_, ?_⟩, ?_⟩
  · rw [h.suite, h.cipherSuite]
    exact he.suite
  · intro hnone
    rw [h.state]
    exact he.keys (h.primary hnone)
  · intro hstate
    rw [h.adapter]
    exact he.adapter (h.state ▸ hstate)
  · simp only [owed, h.installed, h.state, le_refl]

theorem slotFrame_withSlot (e : ProtocolEngine Conn) (ref : SlotRef) (slot : KeySlot) :
    SlotFrame e (e.withSlot ref slot) := by
  cases ref with
  | primary => exact ⟨rfl, rfl, rfl, rfl, rfl, by simp [withSlot, KeySlotManager.setSlot]⟩
  | secondary => exact ⟨rfl, rfl, rfl, rfl, rfl, id⟩

theorem DataOutcome.slotFrame {keyId : UInt8} {packet : Bytes} {r : Except ProtocolError Unit}
    (h : DataOutcome env e keyId packet r e') : SlotFrame e e' := by
  cases h with
  | badHeader hd => exact ⟨rfl, rfl, rfl, rfl, rfl, id⟩
  | noSlot hd hs => exact ⟨rfl, rfl, rfl, rfl, rfl, id⟩
  | replayed hd hs hw => exact slotFrame_withSlot _ _ _
  | short hd hs hw hlen => exact slotFrame_withSlot _ _ _
  | forged hd hs hw hlen hopen => exact slotFrame_withSlot _ _ _
  | @authentic op kid peerId packetId payload ref slot plaintext hd hs hw hlen hopen =>
      have h := slotFrame_withSlot e ref { checkedSlot slot packetId with
        bytesReceived := slot.bytesReceived + UInt64.ofNat plaintext.length }
      exact ⟨rfl, rfl, rfl, h.suite, h.installed, h.primary⟩

theorem Sends.slotFrame (h : Sends env e e') : SlotFrame e e' := by
  cases h with
  | failed hs hseal => exact slotFrame_withSlot e _ _
  | sealed hs hseal =>
      exact ⟨rfl, rfl, rfl, rfl, rfl, by simp [sent, withSlot, KeySlotManager.setSlot]⟩

theorem slotFrame_acknowledged (e : ProtocolEngine Conn) (cp : ControlPacket) :
    SlotFrame e (e.acknowledged cp) := by
  unfold acknowledged learnRemoteSession
  cases e.remoteSessionId with
  | some _ => exact ⟨rfl, rfl, rfl, rfl, rfl, id⟩
  | none => exact ⟨rfl, rfl, rfl, rfl, rfl, id⟩

theorem slotFrame_receiveReliable (cp : ControlPacket) :
    (receiveReliable cp : EngineM Conn Unit).wp (fun _ e' => SlotFrame e e') e := by
  unfold receiveReliable
  cases cp.packetId with
  | some packetId => exact Prog.wp_ofFun.mpr ⟨rfl, rfl, rfl, rfl, rfl, id⟩
  | none => exact Prog.wp_pure.mpr ⟨rfl, rfl, rfl, rfl, rfl, id⟩

theorem wp_processIncomingControlPacket (htls : TlsContract env.tls) (he : Keyed e)
    (now : Instant) (packet : Bytes) :
    (processIncomingControlPacket env now packet).wp (fun _ e' => Advances e e') e := by
  intro r e' hrun
  cases hdecode : decodeControl env e.tlsAuth packet with
  | error err =>
      rw [run_processIncomingControlPacket_of_error hdecode] at hrun
      obtain ⟨-, rfl⟩ : _ ∧ e = e' := by simpa using hrun
      exact ⟨he, le_rfl⟩
  | ok cp =>
      rw [run_processIncomingControlPacket_of_ok hdecode] at hrun
      have h₁ := (slotFrame_acknowledged e cp).advances he
      rcases Prog.exists_of_run_bind hrun with ⟨_, e₂, hreceive, hrun⟩ | ⟨err, hreceive, -⟩
      · have h₂ := ((slotFrame_receiveReliable cp).of_run hreceive).advances h₁.keyed
        have h₃ := (wp_flushControlChannel htls h₂.keyed now).of_run hrun
        exact h₁.trans (h₂.trans h₃)
      · exact h₁.trans (((slotFrame_receiveReliable cp).of_run hreceive).advances h₁.keyed)

theorem wp_processNetworkPacket (htls : TlsContract env.tls) (he : Keyed e) (now : Instant)
    (packet : Bytes) :
    (processNetworkPacket env now packet).wp (fun _ e' => Advances e e') e := by
  have hnow : Advances e { e with lastPacketRecv := now } :=
    ⟨⟨he.suite, he.keys, he.adapter⟩, le_rfl⟩
  intro r e' hrun
  refine hnow.trans ?_
  rcases processNetworkPacket_cases hrun with ⟨keyId, hout⟩ | ⟨-, hcontrol⟩ | rfl
  · exact hout.slotFrame.advances hnow.keyed
  · exact (wp_processIncomingControlPacket htls hnow.keyed now packet).of_run hcontrol
  · exact ⟨hnow.keyed, le_rfl⟩

theorem sendKeepalivePing_slotFrame {now : Instant} {r : Except ProtocolError Unit}
    (hrun : (sendKeepalivePing env now).run e = some (r, e')) : SlotFrame e e' := by
  rcases sendKeepalivePing_cases hrun with rfl | ⟨-, e₁, hsends, rfl | rfl⟩
  · exact ⟨rfl, rfl, rfl, rfl, rfl, id⟩
  · exact hsends.slotFrame
  · have h := hsends.slotFrame
    exact ⟨h.state, h.cipherSuite, h.adapter, h.suite, h.installed, h.primary⟩

/-- The inactivity timeout leaves the state `Connected`, which has keys. -/
theorem wp_checkKeepalive (he : Keyed e) (hup : e.state = .connected) (now : Instant) :
    (checkKeepalive env e now).wp (fun _ e' => Advances e e') e := by
  refine Prog.wp_bind.mpr fun r e₁ hping => ?_
  have hframe : SlotFrame e e₁ := by
    by_cases hdue : now - e.lastPingSent ≥ e.config.pingInterval.getD 10000000000
    · rw [Prog.when, if_pos hdue] at hping
      exact sendKeepalivePing_slotFrame hping
    · rw [Prog.when, if_neg hdue] at hping
      obtain ⟨-, rfl⟩ : _ ∧ e = e₁ := by simpa using hping
      exact ⟨rfl, rfl, rfl, rfl, rfl, id⟩
  have h₁ := hframe.advances he
  cases r with
  | error err => exact h₁
  | ok =>
      intro r e' hrun
      have hexpire : Handles e₁ e' := by
        refine (Prog.Keeps.when Handles.refl ?_).of_run hrun
        exact Prog.Keeps.bind Handles.trans (handles_transitionState (by simp) (by simp)) fun _ =>
          Prog.Keeps.bind Handles.trans (handles_pushAction _) fun _ =>
            Prog.Keeps.throw Handles.refl _
      refine h₁.trans (hexpire.advances h₁.keyed fun hnone => ?_)
      rcases h₁.keyed.keys hnone with hstate | hstate <;> simp [hframe.state, hup] at hstate

theorem wp_handleTimeout (he : Keyed e) (now : Instant) :
    (handleTimeout env now).wp (fun _ e' => Advances e e') e := by
  refine Prog.wp_bind.mpr (Prog.wp_ofFun.mpr ?_)
  have hpoll (sendQueue : ReliableSendQueue) : Advances e { e with sendQueue } :=
    ⟨⟨he.suite, he.keys, he.adapter⟩, le_rfl⟩
  have h₁ := hpoll (e.sendQueue.pollRetransmissions now).2
  cases hres : (e.sendQueue.pollRetransmissions now).1 with
  | error err => simpa [hres] using h₁
  | ok resends =>
      simp only
      refine Prog.wp_bind.mpr fun r e₂ hresend => ?_
      have hquiet : Quiet _ e₂ :=
        (Prog.Keeps.forM Quiet.refl Quiet.trans quiet_resend resends).of_run hresend
      have h₂ := h₁.trans (hquiet.advances h₁.keyed)
      cases r with
      | error err => exact h₂
      | ok =>
          refine Prog.wp_bind.mpr (Prog.wp_get.mpr ?_)
          by_cases hup : e₂.state = .connected
          · simp only [Prog.when, if_pos hup]
            exact (wp_checkKeepalive h₂.keyed hup now).mono fun _ _ h => h₂.trans h
          · simp only [Prog.when, if_neg hup]
            exact Prog.wp_pure.mpr h₂

/-- In every outcome a connection attempt is under way, and no keys have been installed. -/
theorem wp_startConnect (he : Keyed e) (now : Instant) :
    (startConnect env now).wp (fun _ e' => Keyed e' ∧ e'.state = .connecting ∧
      e'.keyManager = e.keyManager) e := by
  have hconnecting (t : ProtocolEngine Conn) (hkeys : t.keyManager = e.keyManager)
      (hsuite : t.cipherSuite = e.cipherSuite) (hstate : t.state = .connecting) :
      Keyed t ∧ t.state = .connecting ∧ t.keyManager = e.keyManager := by
    refine ⟨⟨?_, fun _ => .inr hstate, ?_⟩, hstate, hkeys⟩
    · rw [hkeys, hsuite]
      exact he.suite
    · intro hdisconnected
      rw [hstate] at hdisconnected
      cases hdisconnected
  refine Prog.wp_bind.mpr fun r e₁ htransition => ?_
  have h₁ : r = .ok () ∧ e₁.keyManager = e.keyManager ∧ e₁.cipherSuite = e.cipherSuite ∧
      e₁.state = .connecting := by
    simp only [transitionState, Prog.run_get_bind] at htransition
    split at htransition
    · obtain ⟨rfl, rfl⟩ : _ = r ∧ _ = e₁ := by simpa using htransition
      exact ⟨rfl, rfl, rfl, rfl⟩
    · obtain ⟨rfl, rfl⟩ : _ = r ∧ e = e₁ := by simpa using htransition
      exact ⟨rfl, rfl, rfl, by simp_all⟩
  obtain ⟨rfl, hkeys, hsuite, hstate⟩ := h₁
  refine Prog.wp_bind.mpr fun r t henqueue => ?_
  have ht : Quiet e₁ t := (quiet_enqueue _ _ _).of_run henqueue
  cases r with
  | error err =>
      exact hconnecting t (by rw [ht]; exact hkeys) (by rw [ht]; exact hsuite)
        (by rw [ht]; exact hstate)
  | ok pid =>
      simp only
      refine Prog.wp_bind.mpr (Prog.wp_get.mpr (Prog.wp_bind.mpr fun r e₂ hemit => ?_))
      have hquiet : Quiet e₁ e₂ :=
        Quiet.trans _ _ _ ht ((quiet_emitControlPacket _).of_run hemit)
      have hkeys₂ : e₂.keyManager = e.keyManager := by rw [hquiet]; exact hkeys
      have hsuite₂ : e₂.cipherSuite = e.cipherSuite := by rw [hquiet]; exact hsuite
      have hstate₂ : e₂.state = .connecting := by rw [hquiet]; exact hstate
      cases r with
      | error err => exact hconnecting e₂ hkeys₂ hsuite₂ hstate₂
      | ok =>
          refine Prog.wp_bind.mpr (Prog.wp_get.mpr ?_)
          simp only
          cases TlsStreamAdapter.new env.tls e₂.randomReads (serverHost e₂.config) e₂.config.ca
              e₂.config.cert e₂.config.key with
          | none => exact Prog.wp_stuck.mpr trivial
          | some result =>
              cases result with
              | error err => exact Prog.wp_throw.mpr (hconnecting e₂ hkeys₂ hsuite₂ hstate₂)
              | ok tls =>
                  intro r e' hset
                  obtain ⟨-, rfl⟩ : _ ∧ _ = e' := by simpa using hset
                  exact hconnecting _ hkeys₂ hsuite₂ hstate₂

/-- Whether an operation begins a connection attempt. -/
def Op.IsConnect : Op → Prop
  | .startConnect _ => True
  | _ => False

theorem step_advances (htls : TlsContract env.tls) {op : Op} (hop : ¬ op.IsConnect)
    (hstep : step env e op = some e') (he : Keyed e) : Advances e e' := by
  obtain ⟨r, hrun⟩ := step_eq_some.mp hstep
  cases op with
  | startConnect now => exact absurd trivial hop
  | processNetworkPacket now packet =>
      exact (wp_processNetworkPacket htls he now packet).of_run hrun
  | processTunPacket now packet =>
      rcases processTunPacket_cases now hrun with rfl | ⟨-, hsends⟩
      · exact ⟨he, le_rfl⟩
      · exact hsends.slotFrame.advances he
  | sendKeepalivePing now => exact (sendKeepalivePing_slotFrame hrun).advances he
  | submitChallengeResponse now stateId response =>
      have hsend {r : Except ProtocolError Unit} {e₁ : ProtocolEngine Conn}
          (h : (withTls () (TlsStreamAdapter.sendPlaintextAppData env.tls
            (AuthHandler.encodeCrv1Response stateId response))).run e = some (r, e₁)) :
          Advances e e₁ := by
        obtain ⟨hhandles, hstate⟩ := (wp_withTls_handles _ _).of_run h
        exact hhandles.advances he fun _ => hstate
      rcases Prog.exists_of_run_bind hrun with ⟨_, e₁, h, hrun⟩ | ⟨err, h, -⟩
      · exact (hsend h).trans ((wp_flushControlChannel htls (hsend h).keyed now).of_run hrun)
      · exact hsend h
  | handleTimeout now => exact (wp_handleTimeout he now).of_run hrun
  | pollOutputAction =>
      obtain ⟨-, rfl⟩ : _ ∧ _ = e' := by simpa [exec] using hrun
      unfold pollOutputAction
      split <;> exact ⟨⟨he.suite, he.keys, he.adapter⟩, le_rfl⟩

theorem keyed_initial (config : OpenVpnConfig) (now : Instant) (sessionId : UInt64) :
    Keyed (initial env config now sessionId) :=
  ⟨rfl, fun _ => .inl rfl, fun _ => rfl⟩

theorem keyed_of_reachable (htls : TlsContract env.tls) {config : OpenVpnConfig}
    (h : Reachable env config e) : Keyed e := by
  refine h.invariant (keyed_initial config) fun e op e' hstep he => ?_
  by_cases hop : op.IsConnect
  · cases op with
    | startConnect now =>
        obtain ⟨r, hrun⟩ := step_eq_some.mp hstep
        exact ((wp_startConnect he now).of_run hrun).1
    | _ => exact absurd hop id
  · exact (step_advances htls hop hstep he).keyed

/-- Without a further `start_connect`, no more keys are installed than are owed. -/
theorem run_advances (htls : TlsContract env.tls) {ops : List Op}
    (run : Transition.Run (step env) (fun _ op => ¬ op.IsConnect) e ops e') (he : Keyed e) :
    Advances e e' := by
  refine run.invariant ?_ ⟨he, le_rfl⟩
  intro e₁ op e₂ hop hstep h₁
  exact h₁.trans (step_advances htls hop hstep h₁.keyed)

/-- With a key in place a packet from the TUN device is dropped, sent, or refused by the
cipher. -/
theorem wp_processTunPacket (hkeys : IsUp e → e.keyManager.primary ≠ none) (now : Instant)
    (packet : Bytes) :
    (processTunPacket env now packet).wp
      (fun r _ => r = .ok () ∨ ∃ err, r = .error (.crypto err)) e := by
  refine Prog.wp_bind.mpr (Prog.wp_get.mpr ?_)
  by_cases hup : e.state ≠ .connected ∧ e.state ≠ .rekeying
  · simp only [if_pos hup]
    exact Prog.wp_pure.mpr (.inl rfl)
  · simp only [if_neg hup]
    have hsome := hkeys (by_contra fun h => hup (not_isUp_iff.mp h))
    obtain ⟨slot, hslot⟩ := Option.ne_none_iff_exists'.mp hsome
    refine Prog.wp_bind.mpr fun r e₁ hclamp => ?_
    obtain rfl : e = e₁ := (clampBuffer_keeps e.mssFix packet).of_run hclamp
    cases r with
    | error err =>
        unfold clampBuffer at hclamp
        split at hclamp
        · split at hclamp <;> simp at hclamp
        · simp at hclamp
    | ok buf =>
        simp only [KeySlotManager.getTxSlot, hslot]
        intro r e₂ hseal
        cases hresult : sealPayload env e slot buf with
        | error err =>
            rw [run_sealAndSend_of_error hresult] at hseal
            obtain ⟨rfl, -⟩ : _ = r ∧ _ = e₂ := by simpa using hseal
            exact .inr ⟨err, rfl⟩
        | ok out =>
            rw [run_sealAndSend_of_ok hresult] at hseal
            obtain ⟨rfl, -⟩ : _ = r ∧ _ = e₂ := by simpa using hseal
            exact .inl rfl

/-! ## Connected engines have keys -/

/-- In a reachable state that counts as up there is a key to send with, so no packet from the
TUN device is refused for the lack of one. Whatever a second completion of the handshake
inside the first would do, it is never run. No keys are installed before the first
`start_connect`, and after each one at most one set of keys before the next. -/
theorem connected_keyed (htls : TlsContract env.tls) {config : OpenVpnConfig}
    (hreach : Reachable env config e) :
    (IsUp e → e.keyManager.primary ≠ none) ∧
    (∀ now packet e', (processTunPacket env now packet).run e ≠
      some (.error (.invalidFraming "No active TX key slot".toList), e')) ∧
    (∀ (nested : EngineM Conn Unit) now, flushControlChannel env now =
      flushWith env (handshakeCompletionWith env (flushWith env nested now) now) now) ∧
    (∀ now sessionId ops e₁, Transition.Run (step env) (fun _ op => ¬ op.IsConnect)
      (initial env config now sessionId) ops e₁ → e₁.keyManager.installed = 0) ∧
    (∀ now e₁ ops e₂, step env e (.startConnect now) = some e₁ →
      Transition.Run (step env) (fun _ op => ¬ op.IsConnect) e₁ ops e₂ →
      e₂.keyManager.installed ≤ e.keyManager.installed + 1) := by
  have hkeyed := keyed_of_reachable htls hreach
  have hprimary : IsUp e → e.keyManager.primary ≠ none := by
    intro hup hnone
    rcases hkeyed.keys hnone with hstate | hstate <;> simp [IsUp, hstate] at hup
  refine ⟨hprimary, ?_, ?_, ?_, ?_⟩
  · intro now packet e' hrun
    rcases (wp_processTunPacket hprimary now packet).of_run hrun with hok | ⟨err, herr⟩
    · cases hok
    · cases herr
  · intro nested now
    rw [flushControlChannel, handleTlsHandshakeCompletion,
      handshakeCompletionWith_congr Prog.stuck nested]
  · intro now sessionId ops e₁ run
    have howed := (run_advances htls run (keyed_initial config now sessionId)).owed
    have hnone : (initial env config now sessionId).owed = 0 := rfl
    exact Nat.le_zero.mp ((Nat.le_add_right _ _).trans (hnone ▸ howed))
  · intro now e₁ ops e₂ hstep run
    obtain ⟨r, hrun⟩ := step_eq_some.mp hstep
    obtain ⟨hkeyed₁, hstate, hkeys⟩ := (wp_startConnect hkeyed now).of_run hrun
    have howed : e₂.owed ≤ e.keyManager.installed + 1 := by
      simpa [owed, hstate, hkeys] using (run_advances htls run hkeyed₁).owed
    exact (Nat.le_add_right _ _).trans howed

/-- The loopback connection, which yields application data after its handshake only. -/
def strictTls : Rustls Loopback.Conn :=
  { Loopback.tls with
    read conn :=
      if conn.complete then Loopback.tls.read conn else (.error .wouldBlock, conn) }

theorem strictTls_contract : TlsContract strictTls := by
  refine ⟨?_, ?_, ?_, ?_, ?_, ?_, ?_⟩
  · intro conn bytes conn' hread _
    by_cases hcomplete : conn.complete = true
    · simp [strictTls, Loopback.tls, hcomplete]
    · simp [strictTls, hcomplete] at hread
  · intro conn hdone
    simp only [strictTls, Loopback.tls, Bool.not_eq_false'] at hdone ⊢
    rw [if_pos hdone]
    split <;> exact hdone
  · intro conn data hdone
    exact hdone
  · intro conn hdone
    simp only [strictTls, Loopback.tls, Loopback.Conn.process, Bool.not_eq_false'] at hdone ⊢
    rw [if_pos hdone]
    split <;> exact hdone
  · intro conn hdone
    exact hdone
  · intro conn data hdone
    exact hdone
  · intro conn label context n _
    exact ⟨_, rfl⟩

theorem connected_keyed_loopback :
    ∃ (env : Env Loopback.Conn) (config : OpenVpnConfig) (e : ProtocolEngine Loopback.Conn),
      Reachable env config e ∧ IsUp e ∧ e.keyManager.primary ≠ none := by
  have hrun : (Transition.runList (step { Loopback.env with tls := strictTls }) (fun _ _ => True)
      (initial { Loopback.env with tls := strictTls } {} 0 42) Loopback.connectOps).any
        (fun e => decide (e.state = .connected)) = true := by decide +kernel
  obtain ⟨e, run, hstate⟩ := Transition.exists_run_of_any hrun
  have hreach : Reachable { Loopback.env with tls := strictTls } {} e := ⟨_, 0, 42, run⟩
  have hup : IsUp e := .inl (of_decide_eq_true hstate)
  exact ⟨_, _, e, hreach, hup, (connected_keyed strictTls_contract hreach).1 hup⟩

end ProtocolEngine

end VpnHub.Protocol
