import VpnHub.Model.Loopback
import VpnHub.Verification.Engine.Flush
import VpnHub.Verification.Engine.Steps
import VpnHub.Verification.Frame
import VpnHub.Verification.Reliable.Queues

/-! When a configured `tls-auth` key protects the control channel. -/

namespace VpnHub.Protocol.ProtocolEngine

open Config Crypto

variable {Conn : Type} {env : Env Conn} {config : OpenVpnConfig} {cfg : TlsAuthConfig}
  {e e' : ProtocolEngine Conn}

/-- A packet with an HMAC under one of the two HMAC keys of a static key. -/
def CarriesHmac (hmac : Hmac) (key : StaticKey) (packet : Bytes) : Prop :=
  ∃ ctx : TlsAuthContext, (ctx.sendHmacKey = key.hmacKey1 ∨ ctx.sendHmacKey = key.hmacKey2) ∧
    ∃ packetId timestamp opcodeKeyId sessionId payload,
      packet = ctx.wrapped hmac packetId timestamp opcodeKeyId sessionId payload

/-- In every run, all control packets sent carry an HMAC under a key parsed from the
configuration, and a control packet that changes a queue or the TLS adapter has been accepted
by `unwrapPacket`. -/
structure TlsAuthEnforced (env : Env Conn) (config : OpenVpnConfig) (cfg : TlsAuthConfig) : Prop
    where
  sent : ∀ ops e packet, RunFrom env config ops e → .sendToNetwork packet ∈ e.outbox →
    startsControl packet = true →
      ∃ key, StaticKey.parse env.hexDecode cfg.key = .ok key ∧ CarriesHmac env.hmac key packet
  received : ∀ ops e now packet r e', RunFrom env config ops e → startsControl packet = true →
    (processNetworkPacket env now packet).run e = some (r, e') →
    e'.sendQueue ≠ e.sendQueue ∨ e'.recvQueue ≠ e.recvQueue ∨ e'.tlsAdapter ≠ e.tlsAdapter →
      ∃ ta out, e.tlsAuth = some ta ∧ ta.unwrapPacket env.hmac packet = .ok out

/-! ## With a key that parses -/

/-- The context keeps its keys, and what is waiting to be sent is data or wrapped by it. -/
structure AuthInv (env : Env Conn) (config : OpenVpnConfig) (e : ProtocolEngine Conn) : Prop where
  keys : authKeys e.tlsAuth = authKeys (tlsAuthOf env.hexDecode config)
  outbox : ∀ packet, .sendToNetwork packet ∈ e.outbox →
    startsControl packet = true → ControlWire env (tlsAuthOf env.hexDecode config) packet

theorem startsControl_dataFrame (peerId : Option UInt32) (keyId : UInt8) (packetId : UInt32)
    (rest : Bytes) :
    startsControl (DataPacket.encodeHeader (if peerId.isSome then .dataV2 else .dataV1) keyId
      peerId packetId ++ rest) = false := by
  cases peerId with
  | none => simp [DataPacket.encodeHeader, startsControl, parseHeaderByte_encodeHeaderByte,
      Opcode.isData]
  | some pid => simp [DataPacket.encodeHeader, startsControl, parseHeaderByte_encodeHeaderByte,
      Opcode.isData]

theorem AuthInv.control (h : AuthInv env config e) (hframe : ControlFrame env e e') :
    AuthInv env config e' := by
  refine ⟨hframe.tlsAuth.trans h.keys, ?_⟩
  intro packet hmem hcontrol
  obtain ⟨queued, hout, hwire⟩ := hframe.outbox
  rw [hout] at hmem
  rcases List.mem_append.mp hmem with hmem | hmem
  · exact h.outbox packet hmem hcontrol
  · exact (hwire packet hmem).congr h.keys

theorem AuthInv.sends (h : AuthInv env config e) (hsends : Sends env e e') :
    AuthInv env config e' := by
  cases hsends with
  | failed hs hseal => exact ⟨h.keys, h.outbox⟩
  | @sealed slot plaintext ciphertext tag hs hseal =>
      refine ⟨h.keys, ?_⟩
      intro packet hmem hcontrol
      rcases List.mem_append.mp hmem with hmem | hmem
      · exact h.outbox packet hmem hcontrol
      · obtain rfl : packet = e.txHeader slot ++ tag.val ++ ciphertext := by simpa using hmem
        rw [List.append_assoc, txHeader, startsControl_dataFrame] at hcontrol
        cases hcontrol

theorem authInv_of_run {ops : List Op} (h : RunFrom env config ops e) : AuthInv env config e := by
  refine Reachable.invariant (I := AuthInv env config) ?_ ?_ ⟨ops, h⟩
  · intro now sessionId
    exact ⟨rfl, by simp [initial]⟩
  · intro e op e' hstep hinv
    cases step_cases hstep with
    | control hframe => exact hinv.control hframe
    | connect hframe hnew =>
        obtain ⟨hkeys, hout⟩ := hinv.control hframe
        exact ⟨hkeys, hout⟩
    | receive hframe =>
        obtain ⟨queued, hout, hnone⟩ := hframe.outbox
        refine ⟨?_, ?_⟩
        · rw [hframe.rest]
          exact hinv.keys
        · intro packet hmem hcontrol
          rw [hout] at hmem
          rcases List.mem_append.mp hmem with hmem | hmem
          · exact hinv.outbox packet hmem hcontrol
          · exact absurd hmem (hnone packet)
    | send hop hframe hkeys hsends hframe' =>
        exact ((hinv.control hframe).sends hsends).control hframe'
    | poll =>
        unfold pollOutputAction
        split
        · exact hinv
        · rename_i action rest hbox
          refine ⟨hinv.keys, ?_⟩
          intro packet hmem
          exact hinv.outbox packet (by rw [hbox]; exact List.mem_cons_of_mem action hmem)

/-- A control packet that does not decode changes nothing but the time of the last packet. -/
theorem run_control_of_undecodable {packet : Bytes} {err : ProtocolError} {now : Instant}
    (hc : startsControl packet = true) (hd : decodeControl env e.tlsAuth packet = .error err) :
    (processNetworkPacket env now packet).run e =
      some (.error err, { e with lastPacketRecv := now }) := by
  rw [run_processNetworkPacket_control hc]
  exact run_processIncomingControlPacket_of_error (e := { e with lastPacketRecv := now }) hd now

theorem sendHmacKey_new (key : StaticKey) (isClient bidirectional : Bool) (digest : AuthDigest) :
    (TlsAuthContext.new key isClient bidirectional digest).sendHmacKey = key.hmacKey1 ∨
      (TlsAuthContext.new key isClient bidirectional digest).sendHmacKey = key.hmacKey2 := by
  cases bidirectional with
  | true => exact .inl rfl
  | false =>
      cases isClient with
      | true => exact .inr rfl
      | false => exact .inl rfl

theorem tlsAuthOf_eq_some (env : Env Conn) {key : StaticKey} (hcfg : config.tlsAuth = some cfg)
    (hkey : StaticKey.parse env.hexDecode cfg.key = .ok key) :
    ∃ ta, tlsAuthOf env.hexDecode config = some ta ∧
      (ta.sendHmacKey = key.hmacKey1 ∨ ta.sendHmacKey = key.hmacKey2) := by
  simp only [tlsAuthOf, hcfg, hkey]
  exact ⟨_, rfl, sendHmacKey_new key _ _ _⟩

theorem tlsAuthEnforced_of_parses {key : StaticKey} (hcfg : config.tlsAuth = some cfg)
    (hkey : StaticKey.parse env.hexDecode cfg.key = .ok key) :
    TlsAuthEnforced env config cfg := by
  obtain ⟨ta₀, hta₀, hsendKey⟩ := tlsAuthOf_eq_some env hcfg hkey
  constructor
  · intro ops e packet hrun hmem hcontrol
    have hwire := (authInv_of_run hrun).outbox packet hmem hcontrol
    rw [hta₀] at hwire
    obtain ⟨packetId, timestamp, cp, rfl⟩ := hwire
    exact ⟨key, hkey, ta₀, hsendKey, _, _, _, _, _, rfl⟩
  · intro ops e now packet r e' hrun hcontrol hstep hchanged
    have hkeys := (authInv_of_run hrun).keys
    rw [hta₀] at hkeys
    cases hta : e.tlsAuth with
    | none => simp [authKeys, hta] at hkeys
    | some ta =>
        cases hunwrap : ta.unwrapPacket env.hmac packet with
        | ok out => exact ⟨ta, out, rfl, hunwrap⟩
        | error err =>
            -- a packet that is not accepted does not decode, so nothing has changed
            have hd : decodeControl env e.tlsAuth packet = .error (.crypto err) := by
              rw [hta, decodeControl, hunwrap]
              rfl
            rw [run_control_of_undecodable hcontrol hd] at hstep
            obtain ⟨-, rfl⟩ : _ ∧ _ = e' := by simpa using hstep
            simp at hchanged

/-! ## With a key that does not parse -/

/-- A plain control packet that a peer may send first. -/
def plainPacket : ControlPacket :=
  { opcode := .controlV1, keyId := 0, sessionId := 0, ackArray := [], remoteSessionId := none,
    packetId := some 0, payload := [] }

/-- A new engine without `tls-auth` takes a plain packet into its receive queue. -/
theorem exists_run_plainPacket (env : Env Conn) (config : OpenVpnConfig)
    (h : tlsAuthOf env.hexDecode config = none) :
    ∃ e', (processNetworkPacket env 0 plainPacket.encode).run (initial env config 0 0) =
        some (.ok (), e') ∧ e'.recvQueue ≠ ReliableRecvQueue.new := by
  let e := initial env config 0 0
  have hd : decodeControl env e.tlsAuth plainPacket.encode = .ok plainPacket := by
    rw [show e.tlsAuth = none from h]
    rfl
  have hrecv : (receiveReliable plainPacket : EngineM Conn Unit).run (e.acknowledged plainPacket) =
      some (.ok (), { e.acknowledged plainPacket with
        recvQueue := (ReliableRecvQueue.new.processPacket 0 []).2 }) := rfl
  have hflush : (flushWith env (handleTlsHandshakeCompletion env 0) 0).run
      { e.acknowledged plainPacket with
        recvQueue := (ReliableRecvQueue.new.processPacket 0 []).2 } =
      (sendStandaloneAck env).run { e.acknowledged plainPacket with
        recvQueue := (ReliableRecvQueue.new.processPacket 0 []).2.drainReady.2 } :=
    run_flushWith_idle _ 0 (.inl rfl)
  obtain ⟨e', hack, heq⟩ := exists_run_sendStandaloneAck env { e.acknowledged plainPacket with
    recvQueue := (ReliableRecvQueue.new.processPacket 0 []).2.drainReady.2 }
  refine ⟨e', ?_, ?_⟩
  · rw [run_processNetworkPacket_control (by decide)]
    refine (run_processIncomingControlPacket_of_ok hd 0).trans ?_
    exact (Prog.run_bind_of_ok hrecv).trans (hflush.trans hack)
  · rw [heq]
    change (ReliableRecvQueue.new.processPacket 0 []).2.drainReady.2.drainAcks.2 ≠ _
    decide

theorem parses_of_tlsAuthEnforced (hcfg : config.tlsAuth = some cfg)
    (henforced : TlsAuthEnforced env config cfg) :
    ∃ key, StaticKey.parse env.hexDecode cfg.key = .ok key := by
  cases hkey : StaticKey.parse env.hexDecode cfg.key with
  | ok key => exact ⟨key, rfl⟩
  | error err =>
      have hnone : tlsAuthOf env.hexDecode config = none := by
        simp only [tlsAuthOf, hcfg, hkey]
      obtain ⟨e', hrun, hchanged⟩ := exists_run_plainPacket env config hnone
      obtain ⟨ta, out, hta, -⟩ := henforced.received [] (initial env config 0 0) 0 _ _ e'
        ⟨0, 0, .nil _⟩ (by decide) hrun (.inr (.inl hchanged))
      rw [show (initial env config 0 0).tlsAuth = none from hnone] at hta
      cases hta

/-- `tls-auth` is in force in every run if and only if the configured key can be parsed;
otherwise the engine is built all the same and runs without it. -/
theorem tls_auth_enforced_iff_key_parses (env : Env Conn) {config : OpenVpnConfig}
    {cfg : TlsAuthConfig} (hcfg : config.tlsAuth = some cfg) :
    TlsAuthEnforced env config cfg ↔
      ∃ key, StaticKey.parse env.hexDecode cfg.key = .ok key := by
  constructor
  · exact parses_of_tlsAuthEnforced hcfg
  · intro hparses
    obtain ⟨key, hkey⟩ := hparses
    exact tlsAuthEnforced_of_parses hcfg hkey

/-- A profile with a key of 256 bytes. -/
def inlineKeyConfig : OpenVpnConfig :=
  { tlsAuth := some { key := List.replicate 512 'a', direction := none } }

theorem tls_auth_enforced_inline_key :
    TlsAuthEnforced Loopback.env inlineKeyConfig
      { key := List.replicate 512 'a', direction := none } := by
  have hok : (StaticKey.parse Loopback.hexDecode (List.replicate 512 'a')).isOk = true := by
    decide +kernel
  refine (tls_auth_enforced_iff_key_parses Loopback.env rfl).mpr ?_
  cases hkey : StaticKey.parse Loopback.hexDecode (List.replicate 512 'a') with
  | ok key => exact ⟨key, hkey⟩
  | error err =>
      rw [hkey] at hok
      cases hok

/-- A profile that names the key file instead of holding the key. -/
def keyFileProfile : Text := "tls-auth ta.key 1".toList

/-- The parser takes the file name for the key, and the engine runs without `tls-auth`. -/
theorem key_file_disables_tls_auth :
    ∃ config cfg, parseOvpnConfig Loopback.parserEnv keyFileProfile = some (.ok config) ∧
      config.tlsAuth = some cfg ∧ ¬ TlsAuthEnforced Loopback.env config cfg := by
  have hcheck : ((parseOvpnConfig Loopback.parserEnv keyFileProfile).any fun result =>
      result.toOption.any fun config => config.tlsAuth.any fun cfg =>
        !(StaticKey.parse Loopback.hexDecode cfg.key).isOk) = true := by decide +kernel
  obtain ⟨config, hparse, hcheck⟩ := Loopback.exists_parsed hcheck
  rw [Option.any_eq_true] at hcheck
  obtain ⟨cfg, hcfg, hcheck⟩ := hcheck
  refine ⟨config, cfg, hparse, hcfg, ?_⟩
  intro henforced
  obtain ⟨key, hkey⟩ := parses_of_tlsAuthEnforced hcfg henforced
  rw [show StaticKey.parse Loopback.hexDecode cfg.key = .ok key from hkey] at hcheck
  cases hcheck

end VpnHub.Protocol.ProtocolEngine
