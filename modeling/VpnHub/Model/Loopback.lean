import VpnHub.Model.Runs
import VpnHub.Program.Parser
import VpnHub.Program.Session

/-! A concrete environment in which the engine can be run. The ciphers and the HMAC attach a
checksum of all their inputs, and the TLS connection is reduced to what the engine sees of it:
a greeting, a reply that completes the handshake, and then application data in the clear. -/

namespace VpnHub.Protocol.Loopback

open Config Crypto

/-- A byte that depends on every byte of the input and its place. -/
def checksum (bytes : Bytes) : UInt8 := bytes.foldl (fun acc b => acc * 31 + b + 1) 7

def tagOf (n : ℕ) (bytes : Bytes) : FixedBytes n :=
  ⟨List.replicate n (checksum bytes), List.length_replicate⟩

def aead : Aead where
  encryptInPlaceDetached _ key nonce aad buffer :=
    .ok (buffer, tagOf 16 (key ++ nonce ++ aad ++ buffer))
  decryptInPlaceDetached _ key nonce aad buffer tag :=
    if tag = (tagOf 16 (key ++ nonce ++ aad ++ buffer)).val then some buffer else none

def hmac : Hmac := fun digest key message => tagOf digest.tagLen (key ++ message)

/-- The value of a hexadecimal digit. -/
def hexValue (b : UInt8) : Option UInt8 :=
  if 48 ≤ b ∧ b ≤ 57 then some (b - 48)
  else if 97 ≤ b ∧ b ≤ 102 then some (b - 87)
  else if 65 ≤ b ∧ b ≤ 70 then some (b - 55)
  else none

/-- Pairs of hexadecimal digits, as the `hex` crate reads them. -/
def hexDecode : HexDecode
  | [] => .ok []
  | [_] => .error "Odd number of digits".toList
  | hi :: lo :: rest =>
    match hexValue hi, hexValue lo, hexDecode rest with
    | some h, some l, .ok bytes => .ok ((h * 16 + l) :: bytes)
    | _, _, .error e => .error e
    | _, _, _ => .error "Invalid character".toList

/-- What has been received and not yet processed, what is to be sent, the application data to
be read, and whether the handshake is complete. -/
structure Conn where
  received : Bytes
  outgoing : Bytes
  appData : Bytes
  complete : Bool
  deriving DecidableEq, Repr

def Conn.process (conn : Conn) : Conn :=
  if conn.received.isEmpty then conn
  else if conn.complete then
    { conn with appData := conn.appData ++ conn.received, received := [] }
  else { conn with complete := true, outgoing := conn.outgoing ++ [0x14], received := [] }

/-- A certificate is the name it is issued to, and any root has signed it. -/
def tls : Rustls Conn where
  pemCerts pem := [some pem]
  pemPrivateKey pem := .ok (some pem)
  webpkiRoots := [[1]]
  addRoot _ := .ok ()
  clientAuthCert _ _ := .ok ()
  serverName name := .ok name
  webpkiVerify _ endEntity _ serverName _ _ :=
    if endEntity = Text.utf8Encode serverName then .ok ()
    else .error (.invalidCertificate .notValidForName)
  display
    | .invalidCertificate .notValidForName => "invalid peer certificate: NotValidForName".toList
    | .invalidCertificate (.notValidForNameContext expected _) =>
      "invalid peer certificate: certificate not valid for name ".toList ++ expected
    | .invalidCertificate (.other text) => "invalid peer certificate: ".toList ++ text
    | .other text => text
  connect _ _ _ := .ok { received := [], outgoing := [0x16], appData := [], complete := false }
  readTls conn data := (.ok data.length, { conn with received := conn.received ++ data })
  processNewPackets conn := (.ok (), conn.process)
  wantsWrite conn := !conn.outgoing.isEmpty
  writeTls conn := (.ok conn.outgoing, { conn with outgoing := [] })
  read conn :=
    if conn.appData.isEmpty then (.error .wouldBlock, conn)
    else (.ok (conn.appData.take 4096), { conn with appData := conn.appData.drop 4096 })
  writeAll conn data := (.ok (), { conn with outgoing := conn.outgoing ++ data })
  isHandshaking conn := !conn.complete
  exportKeyingMaterial _ _ _ n := .ok ⟨List.replicate n 7, List.length_replicate⟩

def env : Env Conn where
  aead
  hmac
  hexDecode
  tls
  unixSeconds n := UInt32.ofNat n
  random _ := .zero 112
  loopTurns := 8

def parserEnv : ParserEnv where
  toLowercase := Text.toAsciiLowercase
  base64Decode _ := .error "Invalid padding".toList

def sessionEnv : Core.SessionEnv Conn where
  toEnv := env
  writeError _ := none

/-! ## Talking to the engine -/

/-- The server's session id. -/
def serverId : UInt64 := 99

def fromServer (opcode : Opcode) (packetId : UInt32) (payload : Bytes) : Bytes :=
  ControlPacket.encode {
    opcode, keyId := 0, sessionId := serverId, ackArray := [], remoteSessionId := none,
    packetId := some packetId, payload }

/-- The server's side of a connection up to the `PUSH_REPLY`. -/
def serverFlight : List Bytes :=
  [fromServer .controlHardResetServerV2 0 [], fromServer .controlV1 1 [0x16],
    fromServer .controlV1 2 (Text.utf8Encode "PUSH_REPLY,peer-id 3".toList)]

/-- The operations that bring a new engine into the state `Connected`. -/
def connectOps : List ProtocolEngine.Op :=
  .startConnect 0 :: serverFlight.map (.processNetworkPacket 0)

/-- A new engine with local session id 42. -/
def newEngine (config : OpenVpnConfig) : ProtocolEngine Conn :=
  ProtocolEngine.initial env config 0 42

/-- The data frame with the given packet id that the peer of a connected engine sends: all
keys are made of the byte 7. -/
def peerFrame (packetId : UInt32) (plaintext : Bytes) : Bytes :=
  let header := DataPacket.encodeHeader .dataV1 0 none packetId
  let nonce := putU32 packetId ++ List.replicate 8 7
  header ++ (tagOf 16 (List.replicate 32 7 ++ nonce ++ header ++ plaintext)).val ++ plaintext

/-- The same frame with a tag of zeros. -/
def forgedFrame (packetId : UInt32) (plaintext : Bytes) : Bytes :=
  DataPacket.encodeHeader .dataV1 0 none packetId ++ List.replicate 16 0 ++ plaintext

/-- A minimal IPv4 packet. -/
def ipPacket : Bytes := 0x45 :: List.replicate 19 0

/-- A state that the connecting operations lead to, with a property that can be checked. -/
theorem exists_connected {p : ProtocolEngine Conn → Bool} (config : OpenVpnConfig)
    (h : (Transition.runList (ProtocolEngine.step env) (fun _ _ => True) (newEngine config)
      connectOps).any p = true) :
    ∃ e, ProtocolEngine.Reachable env config e ∧ p e = true := by
  obtain ⟨e, run, hp⟩ := Transition.exists_run_of_any h
  exact ⟨e, ⟨connectOps, 0, 42, run⟩, hp⟩

/-- A profile that parses, with a property that can be checked. -/
theorem exists_parsed {profile : Text} {p : OpenVpnConfig → Bool}
    (h : ((parseOvpnConfig parserEnv profile).any fun result => result.toOption.any p) = true) :
    ∃ config, parseOvpnConfig parserEnv profile = some (.ok config) ∧ p config = true := by
  rw [Option.any_eq_true] at h
  obtain ⟨result, hparse, hcheck⟩ := h
  cases result with
  | error err => cases hcheck
  | ok config => exact ⟨config, hparse, hcheck⟩

end VpnHub.Protocol.Loopback
