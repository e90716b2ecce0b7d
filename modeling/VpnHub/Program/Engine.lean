import VpnHub.Program.Auth
import VpnHub.Program.KeySlots
import VpnHub.Program.MssFix
import VpnHub.Program.Push
import VpnHub.Program.Reliable
import VpnHub.Program.StaticKey
import VpnHub.Program.Tls

/-! The protocol engine of `ovpn-protocol/src/engine.rs`. -/

namespace VpnHub.Protocol

open Config Crypto

/-- Code and inputs outside the repository. The system clock and the random number generator
are read again and again; reading `n` is the `n`-th value. `loopTurns` bounds the loops around
the TLS connection: one that needs more turns has no outcome. -/
structure Env (Conn : Type) where
  aead : Aead
  hmac : Hmac
  hexDecode : HexDecode
  tls : Rustls Conn
  unixSeconds : ℕ → UInt32
  random : ℕ → FixedBytes 112
  loopTurns : ℕ

inductive EngineState where
  | disconnected
  | connecting
  | tlsHandshake
  | authenticating
  | pullingConfig
  | connected
  | rekeying
  | disconnecting
  | error
  deriving DecidableEq, Repr

inductive OutputAction where
  | sendToNetwork (packet : Bytes)
  | sendToTun (packet : Bytes)
  | configureNetwork (config : NetworkProvisioningConfig)
  | requestAuthChallenge (challenge : AuthChallenge)
  | stateChange (state : EngineState)
  | closeSession (reason : Text)
  deriving DecidableEq

def keepaliveMagic : Bytes :=
  [0x2a, 0x18, 0x7b, 0xf3, 0x64, 0x1e, 0xb4, 0xcb, 0x07, 0xed, 0x2d, 0x0a, 0x98, 0x1f, 0xc7, 0x48]

def explicitExitNotifyMagic : Bytes :=
  [0x28, 0x7f, 0x34, 0x6b, 0xd4, 0xef, 0x7a, 0x81, 0x2d, 0x56, 0xb8, 0xd3, 0xaf, 0xc5, 0x45, 0x9c]

/-- A successful encryption: the installation number of the key slot, and the nonce. -/
structure Seal where
  serial : ℕ
  nonce : Bytes
  deriving DecidableEq, Repr

/-- A ghost record of the control channel: a packet queued for reliable delivery, a control
packet with the bytes that are emitted for it, and a configuration announced with the options
it was built from. -/
inductive TraceEvent where
  | enqueued (packetId : UInt32) (opcode : Opcode) (payload : Bytes)
  | emitted (cp : ControlPacket) (packet : Bytes)
  | configured (options : PushOptions) (config : NetworkProvisioningConfig)

/-- The unused `client_random` is left out. The last four fields are not in the source: how
often the clock and the random number generator have been read, and ghost records of the
encryptions and of the control channel. -/
structure ProtocolEngine (Conn : Type) where
  config : OpenVpnConfig
  state : EngineState
  localSessionId : UInt64
  remoteSessionId : Option UInt64
  peerId : Option UInt32
  sendQueue : ReliableSendQueue
  recvQueue : ReliableRecvQueue
  tlsAdapter : Option (TlsStreamAdapter Conn)
  tlsAuth : Option TlsAuthContext
  keyManager : KeySlotManager
  outbox : List OutputAction
  lastPingSent : Instant
  lastPacketRecv : Instant
  cipherSuite : CipherSuite
  mssFix : Option UInt16
  pushedOptionsAccumulator : Text
  authToken : Option Text
  clockReads : ℕ
  randomReads : ℕ
  seals : List Seal
  trace : List TraceEvent

/-- A method of the engine. -/
abbrev EngineM (Conn : Type) := Prog (ProtocolEngine Conn) ProtocolError

namespace ProtocolEngine

variable {Conn : Type}

/-! ## Construction -/

def authDigestOf (name : Option Text) : AuthDigest :=
  match name with
  | some d =>
    if Text.eqIgnoreAsciiCase d "SHA256".toList || Text.eqIgnoreAsciiCase d "SHA-256".toList then
      .sha256
    else .sha1
  | none => .sha1

/-- A key that does not parse is logged, and the engine runs without `tls-auth`. -/
def tlsAuthOf (hexDecode : HexDecode) (config : OpenVpnConfig) : Option TlsAuthContext :=
  match config.tlsAuth with
  | some taCfg =>
    match StaticKey.parse hexDecode taCfg.key with
    | .ok staticKey =>
      let direction := taCfg.direction.or config.keyDirection
      let isClient := direction ≠ some .server
      let bidirectional := direction = none ∨ direction = some .bidirectional
      some (TlsAuthContext.new staticKey isClient bidirectional (authDigestOf config.authDigest))
    | .error _ => none
  | none => none

/-- The engine that `new` builds; `sessionId` is the random local session id. -/
def initial (env : Env Conn) (config : OpenVpnConfig) (now : Instant) (sessionId : UInt64) :
    ProtocolEngine Conn :=
  let cipherSuite := (config.dataCiphers.head?.bind CipherSuite.fromName).getD .aes256Gcm
  { config
    state := .disconnected
    localSessionId := sessionId
    remoteSessionId := none
    peerId := none
    sendQueue := .new sessionId 16
    recvQueue := .new
    tlsAdapter := none
    tlsAuth := tlsAuthOf env.hexDecode config
    keyManager := .new cipherSuite
    outbox := []
    lastPingSent := now
    lastPacketRecv := now
    cipherSuite
    mssFix := config.mssFix
    pushedOptionsAccumulator := []
    authToken := none
    clockReads := 0
    randomReads := 0
    seals := []
    trace := [] }

def new (env : Env Conn) (config : OpenVpnConfig) (now : Instant) (sessionId : UInt64) :
    Except ProtocolError (ProtocolEngine Conn) :=
  .ok (initial env config now sessionId)

/-! ## Small steps -/

def pushAction (action : OutputAction) : EngineM Conn Unit :=
  modify fun e => { e with outbox := e.outbox ++ [action] }

def transitionState (newState : EngineState) : EngineM Conn Unit := do
  let e ← get
  if e.state ≠ newState then
    set { e with state := newState, outbox := e.outbox ++ [OutputAction.stateChange newState] }

/-- Adds to the ghost record. -/
def record (event : TraceEvent) : EngineM Conn Unit :=
  modify fun e => { e with trace := e.trace ++ [event] }

def emitControlPacket (env : Env Conn) (cp : ControlPacket) : EngineM Conn Unit := do
  let e ← get
  match e.tlsAuth with
  | some ta =>
    let (packet, ta) := ta.wrapPacket env.hmac (env.unixSeconds e.clockReads)
      (encodeHeaderByte cp.opcode cp.keyId) cp.sessionId cp.encodeBody
    set { e with
      tlsAuth := some ta
      clockReads := e.clockReads + 1
      outbox := e.outbox ++ [OutputAction.sendToNetwork packet] }
    record (.emitted cp packet)
  | none =>
    pushAction (.sendToNetwork cp.encode)
    record (.emitted cp cp.encode)

def enqueue (opcode : Opcode) (payload : Bytes) (now : Instant) : EngineM Conn UInt32 := do
  let pid ← Prog.ofFun fun e =>
    let (result, sendQueue) := e.sendQueue.enqueue opcode 0 payload now
    (result, { e with sendQueue })
  record (.enqueued pid opcode payload)
  return pid

def drainAcks : EngineM Conn (List UInt32) :=
  Prog.ofFun fun e =>
    let (acks, recvQueue) := e.recvQueue.drainAcks
    (.ok acks, { e with recvQueue })

/-- Runs a method of the TLS adapter, when there is one. -/
def withTls {α : Type} (default : α) (method : TlsStreamAdapter.Method Conn α) :
    EngineM Conn α := do
  let e ← get
  match e.tlsAdapter with
  | some tls => Prog.within tls (fun tls e => { e with tlsAdapter := some tls }) method
  | none => pure default

/-! ## Connecting -/

/-- The name the server's certificate is checked against. -/
def serverHost (config : OpenVpnConfig) : Text :=
  (config.remotes.head?.map (·.host)).getD "vpn.example.com".toList

def startConnect (env : Env Conn) (now : Instant) : EngineM Conn Unit := do
  transitionState .connecting
  let pid ← enqueue .controlHardResetClientV2 [] now
  let e ← get
  emitControlPacket env {
    opcode := .controlHardResetClientV2
    keyId := 0
    sessionId := e.localSessionId
    ackArray := []
    remoteSessionId := none
    packetId := some pid
    payload := [] }
  let e ← get
  match TlsStreamAdapter.new env.tls e.randomReads (serverHost e.config) e.config.ca e.config.cert
      e.config.key with
  | none => Prog.stuck
  | some (.error err) => throw err
  | some (.ok tls) => set { e with tlsAdapter := some tls, randomReads := e.randomReads + 1 }

/-! ## Server messages -/

/-- `PUSH_REPLY` parts are appended to the accumulator, separated by commas. -/
def accumulatePushed (acc : Text) (part : Text) : Text :=
  let trimmed := Text.trim (Text.trimMatches (· = ',') (Text.trim part))
  if trimmed.isEmpty then acc
  else (if acc.isEmpty then acc else acc ++ [',']) ++ trimmed

/-- What the engine takes over from the pushed options. -/
def applyPushed (e : ProtocolEngine Conn) (opts : PushOptions) : ProtocolEngine Conn :=
  { e with
    peerId := opts.peerId.or e.peerId
    config := { e.config with
      pingInterval := opts.pingInterval.or e.config.pingInterval
      pingRestart := opts.pingRestart.or e.config.pingRestart }
    authToken := opts.authToken.or e.authToken }

def handleAppMessage (message : Text) : EngineM Conn Unit := do
  if Text.contains message "PUSH_REPLY".toList then
    modify fun e => { e with
      pushedOptionsAccumulator :=
        (Text.split message "PUSH_REPLY".toList).foldl accumulatePushed
          e.pushedOptionsAccumulator }
    if Text.contains message "push-continuation 2".toList then return
    let e ← get
    let opts ← Prog.ofExcept
      ((parsePushReply ("PUSH_REPLY,".toList ++ e.pushedOptionsAccumulator)).mapError .config)
    modify (·.applyPushed opts)
    let e ← get
    let provConfig := opts.buildProvisioningConfig e.config
    transitionState .connected
    pushAction (.configureNetwork provConfig)
    record (.configured opts provConfig)
  else
    match AuthHandler.parseChallenge message with
    | some challenge =>
      transitionState .authenticating
      pushAction (.requestAuthChallenge challenge)
    | none =>
      if Text.contains message "AUTH_FAILED".toList then
        transitionState .error
        pushAction (.closeSession message)
        throw (.authenticationFailed message)

/-! ## Control channel -/

/-- The TLS part of `flush_control_channel`: feeds the ready chunks, and returns outgoing TLS
bytes, whether the handshake has just been completed, and decrypted application data. -/
def pumpTls (env : Env Conn) (readyChunks : List Bytes) (connecting : Bool) :
    TlsStreamAdapter.Method Conn (Bytes × Bool × Bytes) := do
  readyChunks.forM (TlsStreamAdapter.feedLoop env.tls env.loopTurns)
  let outgoing ← TlsStreamAdapter.extractLoop env.tls env.loopTurns []
  let a ← get
  let completed := !env.tls.isHandshaking a.conn && connecting
  let appData ← TlsStreamAdapter.readLoop env.tls env.loopTurns []
  return (outgoing, completed, appData)

/-- The reply with the outgoing TLS bytes, which takes the pending acknowledgements along. -/
def sendControl (env : Env Conn) (outgoing : Bytes) (now : Instant) : EngineM Conn Unit := do
  let pid ← enqueue .controlV1 outgoing now
  let acks ← drainAcks
  let e ← get
  emitControlPacket env {
    opcode := .controlV1
    keyId := 0
    sessionId := e.localSessionId
    ackArray := acks
    remoteSessionId := e.remoteSessionId
    packetId := some pid
    payload := outgoing }

/-- A packet of its own for acknowledgements still pending. -/
def sendStandaloneAck (env : Env Conn) : EngineM Conn Unit := do
  let acks ← drainAcks
  let e ← get
  Prog.when (acks ≠ [])
    (emitControlPacket env {
      opcode := .ackV1
      keyId := 0
      sessionId := e.localSessionId
      ackArray := acks
      remoteSessionId := e.remoteSessionId
      packetId := none
      payload := [] })

/-- `flush_control_channel` over what it does when the handshake has just been completed. -/
def flushWith (env : Env Conn) (onHandshake : EngineM Conn Unit) (now : Instant) :
    EngineM Conn Unit := do
  let readyChunks ← Prog.ofFun fun e =>
    let (chunks, recvQueue) := e.recvQueue.drainReady
    (.ok chunks, { e with recvQueue })
  let e ← get
  let (outgoing, completed, appData) ←
    withTls ([], false, []) (pumpTls env readyChunks (e.state = .connecting))
  Prog.when (outgoing ≠ []) (sendControl env outgoing now)
  Prog.when (completed = true) do
    transitionState .tlsHandshake
    onHandshake
  Prog.when (appData ≠ []) (handleAppMessage (Text.fromUtf8Lossy appData))
  sendStandaloneAck env

/-- User name and password: a pushed token stands in for the password. -/
def authCredentials (e : ProtocolEngine Conn) : Option (Text × Text) :=
  match e.authToken with
  | some token =>
    some ((e.config.authUserPass.bind (·.username)).getD "auth-token-user".toList, token)
  | none => e.config.authUserPass.bind fun auth =>
      match auth.username, auth.password with
      | some u, some p => some (u, p)
      | _, _ => none

/-- Exported key material as data channel keys: tx cipher and HMAC key, then rx. -/
def sessionKeysOf (cipherSuite : CipherSuite) (material : FixedBytes 256) : SessionKeySet where
  keyId := 0
  txKey := {
    cipherKey := material.val.take cipherSuite.keySize
    hmacKey := (material.val.drop 64).take 64 }
  rxKey := {
    cipherKey := (material.val.drop 128).take cipherSuite.keySize
    hmacKey := (material.val.drop 192).take 64 }

def keyMaterial (env : Env Conn) : EngineM Conn (FixedBytes 256) := do
  let e ← get
  match e.tlsAdapter with
  | some tls =>
    Prog.ofExcept ((env.tls.exportKeyingMaterial tls.conn
      (Text.utf8Encode "EXPORTER-OpenVPN-datakeys".toList) none 256).mapError .tls)
  | none => pure (FixedBytes.zero 256)

def exportKeys (env : Env Conn) (now : Instant) : EngineM Conn Unit := do
  let material ← keyMaterial env
  Prog.ofFun fun e =>
    let (result, keyManager) :=
      e.keyManager.installNewKey (sessionKeysOf e.cipherSuite material) now
    (result, { e with keyManager })

/-- `handle_tls_handshake_completion` over the flush at its end. -/
def handshakeCompletionWith (env : Env Conn) (flush : EngineM Conn Unit) (now : Instant) :
    EngineM Conn Unit := do
  exportKeys env now
  let e ← get
  match e.authCredentials with
  | some (u, p) =>
    transitionState .authenticating
    modify fun e => { e with randomReads := e.randomReads + 1 }
    withTls () (TlsStreamAdapter.sendPlaintextAppData env.tls
      (AuthHandler.encodeCredentials (env.random e.randomReads) u p))
    flush
  | none =>
    transitionState .pullingConfig
    withTls () (TlsStreamAdapter.sendPlaintextAppData env.tls
      (Text.utf8Encode "PUSH_REQUEST\x00".toList))
    flush

/-- The flush at the end is `flush_control_channel` again. The state has left `Connecting`
by then, so it completes no further handshake: see `handleTlsHandshakeCompletion_eq`. -/
def handleTlsHandshakeCompletion (env : Env Conn) (now : Instant) : EngineM Conn Unit :=
  handshakeCompletionWith env (flushWith env Prog.stuck now) now

def flushControlChannel (env : Env Conn) (now : Instant) : EngineM Conn Unit :=
  flushWith env (handleTlsHandshakeCompletion env now) now

/-! ## Network packets -/

/-- The control packet in a datagram, authenticated when `tls-auth` is configured. -/
def decodeControl (env : Env Conn) (tlsAuth : Option TlsAuthContext) (packet : Bytes) :
    Except ProtocolError ControlPacket :=
  match tlsAuth with
  | some ta => do
    let (headerByte, sessionId, _, _, body) ← (ta.unwrapPacket env.hmac packet).mapError .crypto
    let (opcode, keyId) ← parseHeaderByte headerByte
    ControlPacket.decodeBody opcode keyId sessionId body
  | none => ControlPacket.decode packet

/-- The first control packet decides which session the peer is in. -/
def learnRemoteSession (e : ProtocolEngine Conn) (sessionId : UInt64) : ProtocolEngine Conn :=
  match e.remoteSessionId with
  | some _ => e
  | none =>
    { e with
      remoteSessionId := some sessionId
      sendQueue := { e.sendQueue with remoteSessionId := some sessionId } }

/-- Acknowledgements alone have no packet id. -/
def receiveReliable (cp : ControlPacket) : EngineM Conn Unit :=
  match cp.packetId with
  | some packetId =>
    Prog.ofFun fun e =>
      let (result, recvQueue) := e.recvQueue.processPacket packetId cp.payload
      (result, { e with recvQueue })
  | none => pure ()

def processIncomingControlPacket (env : Env Conn) (now : Instant) (packet : Bytes) :
    EngineM Conn Unit := do
  let e ← get
  let cp ← Prog.ofExcept (decodeControl env e.tlsAuth packet)
  modify (·.learnRemoteSession cp.sessionId)
  modify fun e => { e with sendQueue := (e.sendQueue.processAcks cp.ackArray).2 }
  receiveReliable cp
  flushControlChannel env now

def writeSlot (ref : SlotRef) (slot : KeySlot) : EngineM Conn Unit :=
  modify fun e => { e with keyManager := e.keyManager.setSlot ref slot }

/-- `&buf[..16] == magic` for a buffer that is long enough. -/
def startsWithMagic (buf magic : Bytes) : Bool := buf.length ≥ 16 && buf.take 16 == magic

/-- Whether a decrypted payload is an IP packet for the TUN device. -/
def isIpPacket : Bytes → Bool
  | [] => false
  | b :: rest => (b :: rest).length ≥ 20 && (b >>> 4 == 4 || b >>> 4 == 6)

/-- Pings, exit notifications, runts and frames that are not IP are dropped. -/
def deliverToTun (plaintext : Bytes) : EngineM Conn Unit :=
  if startsWithMagic plaintext keepaliveMagic then pure ()
  else if startsWithMagic plaintext explicitExitNotifyMagic then pure ()
  else if isIpPacket plaintext then pushAction (.sendToTun plaintext)
  else pure ()

/-- The 12-byte nonce. -/
def nonceOf (packetId : UInt32) (implicitIv : FixedBytes 8) : Bytes :=
  putU32 packetId ++ implicitIv.val

def processIncomingDataPacket (env : Env Conn) (keyId : UInt8) (packet : Bytes) :
    EngineM Conn Unit := do
  let (_, _, _, packetId, payloadWithTag) ← Prog.ofExcept (DataPacket.decode packet)
  let e ← get
  match e.keyManager.getRxSlot keyId with
  | none =>
    throw (.invalidFraming ("No key slot for key_id ".toList ++ Text.ofNat keyId.toNat))
  | some (ref, slot) =>
    let (replay, antiReplay) := slot.antiReplay.checkAndUpdate packetId.toUInt64
    let slot := { slot with antiReplay }
    writeSlot ref slot
    Prog.ofExcept (replay.mapError .crypto)
    if payloadWithTag.length < 16 then
      throw (.invalidFraming "Data packet payload too short for AEAD tag".toList)
    let headerLen := packet.length - payloadWithTag.length
    let plaintext ← Prog.ofExcept ((slot.rxCipher.decryptInPlace env.aead
      (nonceOf packetId slot.rxImplicitIv) (packet.take headerLen) (payloadWithTag.drop 16)
      (payloadWithTag.take 16)).mapError .crypto)
    writeSlot ref
      { slot with bytesReceived := slot.bytesReceived + UInt64.ofNat plaintext.length }
    deliverToTun plaintext

def processNetworkPacket (env : Env Conn) (now : Instant) (packet : Bytes) :
    EngineM Conn Unit := do
  modify fun e => { e with lastPacketRecv := now }
  match packet with
  | [] => pure ()
  | headerByte :: _ =>
    let (opcode, keyId) ← Prog.ofExcept (parseHeaderByte headerByte)
    if opcode.isData then processIncomingDataPacket env keyId packet
    else processIncomingControlPacket env now packet

/-! ## Data channel output -/

/-- The part `process_tun_packet` and `send_keepalive_ping` have in common: takes the next
packet id of the slot, encrypts, and queues the frame. -/
def sealAndSend (env : Env Conn) (slot : KeySlot) (plaintext : Bytes) : EngineM Conn Unit := do
  let e ← get
  let opcode : Opcode := if e.peerId.isSome then .dataV2 else .dataV1
  let (packetId, slot) := slot.nextTxPacketId
  writeSlot .primary slot
  let nonce := nonceOf packetId slot.txImplicitIv
  let header := DataPacket.encodeHeader opcode slot.keyId e.peerId packetId
  let (ciphertext, tag) ← Prog.ofExcept
    ((slot.txCipher.encryptInPlace env.aead nonce header plaintext).mapError .crypto)
  writeSlot .primary { slot with bytesSent := slot.bytesSent + UInt64.ofNat ciphertext.length }
  modify fun e => { e with seals := e.seals ++ [{ serial := slot.serial, nonce }] }
  pushAction (.sendToNetwork (header ++ tag.val ++ ciphertext))

/-- The packet with its TCP maximum segment size clamped; a panic has no outcome. -/
def clampBuffer (mssFix : Option UInt16) (packet : Bytes) : EngineM Conn Bytes :=
  match mssFix with
  | some maxMss =>
    match MssFix.clampTcpMss packet maxMss with
    | .ok (_, buf) => pure buf
    | .error _ => Prog.stuck
  | none => pure packet

def processTunPacket (env : Env Conn) (_now : Instant) (packet : Bytes) : EngineM Conn Unit := do
  let e ← get
  if e.state ≠ .connected ∧ e.state ≠ .rekeying then return
  let buf ← clampBuffer e.mssFix packet
  match e.keyManager.getTxSlot with
  | some slot => sealAndSend env slot buf
  | none => throw (.invalidFraming "No active TX key slot".toList)

def sendKeepalivePing (env : Env Conn) (now : Instant) : EngineM Conn Unit := do
  let e ← get
  if e.state ≠ .connected ∧ e.state ≠ .rekeying then return
  match e.keyManager.getTxSlot with
  | some slot =>
    sealAndSend env slot keepaliveMagic
    modify fun e => { e with lastPingSent := now }
  | none => pure ()

/-! ## Timers and commands -/

def submitChallengeResponse (env : Env Conn) (now : Instant) (stateId response : Text) :
    EngineM Conn Unit := do
  withTls () (TlsStreamAdapter.sendPlaintextAppData env.tls
    (AuthHandler.encodeCrv1Response stateId response))
  flushControlChannel env now

/-- A retransmission takes the pending acknowledgements along. -/
def resend (env : Env Conn) (cp : ControlPacket) : EngineM Conn Unit := do
  let acks ← drainAcks
  emitControlPacket env { cp with ackArray := acks }

def inactivityMessage (pingRestart : Duration) : Text :=
  "Inactivity timeout: no packets received from server in ".toList ++
    Text.ofNat (pingRestart / 1000000000) ++ "s (ping-restart)".toList

/-- The keepalive part of `handle_timeout`, in the state `Connected`. -/
def checkKeepalive (env : Env Conn) (e : ProtocolEngine Conn) (now : Instant) :
    EngineM Conn Unit := do
  let pingInterval := e.config.pingInterval.getD 10000000000
  let pingRestart := e.config.pingRestart.getD 120000000000
  Prog.when (now - e.lastPingSent ≥ pingInterval) (sendKeepalivePing env now)
  Prog.when (now - e.lastPacketRecv ≥ pingRestart) do
    transitionState .error
    pushAction (.closeSession (inactivityMessage pingRestart))
    throw (.handshakeTimeout pingRestart)

def handleTimeout (env : Env Conn) (now : Instant) : EngineM Conn Unit := do
  let resends ← Prog.ofFun fun e =>
    let (result, sendQueue) := e.sendQueue.pollRetransmissions now
    (result, { e with sendQueue })
  resends.forM (resend env)
  let e ← get
  Prog.when (e.state = .connected) (checkKeepalive env e now)

def pollOutputAction (e : ProtocolEngine Conn) : Option OutputAction × ProtocolEngine Conn :=
  match e.outbox with
  | [] => (none, e)
  | action :: rest => (some action, { e with outbox := rest })

def pollTimeout (e : ProtocolEngine Conn) : Option Instant := e.sendQueue.nearestDeadline

/-! ## Runs -/

/-- The public operations with their arguments. -/
inductive Op where
  | startConnect (now : Instant)
  | processNetworkPacket (now : Instant) (packet : Bytes)
  | processTunPacket (now : Instant) (packet : Bytes)
  | sendKeepalivePing (now : Instant)
  | submitChallengeResponse (now : Instant) (stateId response : Text)
  | handleTimeout (now : Instant)
  | pollOutputAction
  deriving DecidableEq, Repr

def exec (env : Env Conn) : Op → EngineM Conn Unit
  | .startConnect now => startConnect env now
  | .processNetworkPacket now packet => processNetworkPacket env now packet
  | .processTunPacket now packet => processTunPacket env now packet
  | .sendKeepalivePing now => sendKeepalivePing env now
  | .submitChallengeResponse now stateId response => submitChallengeResponse env now stateId response
  | .handleTimeout now => handleTimeout env now
  | .pollOutputAction => modify fun e => e.pollOutputAction.2

/-- The engine after an operation that has returned, with `Ok` or with an error. -/
def step (env : Env Conn) (e : ProtocolEngine Conn) (op : Op) : Option (ProtocolEngine Conn) :=
  ((exec env op).run e).map (·.2)

end ProtocolEngine

end VpnHub.Protocol
