import VpnHub.Library.BigEndian
import VpnHub.Program.Aead

/-! Static keys and the `tls-auth` wrapping of `ovpn-crypto/src/static_key.rs`. -/

namespace VpnHub.Crypto

open BigEndian

/-- `hex::decode` of the `hex` crate; the error is its printed form. -/
abbrev HexDecode := Bytes → Except Text Bytes

structure StaticKey where
  cipherKey1 : FixedBytes 64
  cipherKey2 : FixedBytes 64
  hmacKey1 : FixedBytes 64
  hmacKey2 : FixedBytes 64
  deriving DecidableEq

namespace StaticKey

/-- Blank lines, comments and `-----` markers carry no key material. -/
def isSkipped (trimmed : Text) : Bool :=
  trimmed.isEmpty || Text.startsWith trimmed ['#'] || Text.startsWith trimmed [';'] ||
    Text.startsWith trimmed "-----".toList

def hexDigits (text : Text) : Text :=
  (((Text.lines text).map Text.trim).filter fun line => !isSkipped line).flatten

def parse (hexDecode : HexDecode) (text : Text) : Except CryptoError StaticKey :=
  match hexDecode (Text.utf8Encode (hexDigits text)) with
  | .error e => .error (.invalidKey ("Failed to parse static key hex: ".toList ++ e))
  | .ok raw =>
    if h : raw.length < 256 then
      .error (.invalidKey ("Static key must be at least 256 bytes (found ".toList ++
        Text.ofNat raw.length ++ ")".toList))
    else
      .ok {
        cipherKey1 := .copyFrom raw 0 (by omega)
        hmacKey1 := .copyFrom raw 64 (by omega)
        cipherKey2 := .copyFrom raw 128 (by omega)
        hmacKey2 := .copyFrom raw 192 (by omega) }

end StaticKey

inductive AuthDigest where
  | sha1
  | sha256
  deriving DecidableEq, Repr

/-- Also the number of key bytes the HMAC takes. -/
def AuthDigest.tagLen : AuthDigest → ℕ
  | sha1 => 20
  | sha256 => 32

/-- `Hmac<Sha1>` and `Hmac<Sha256>`: digest, key and message. -/
abbrev Hmac := (digest : AuthDigest) → Bytes → Bytes → FixedBytes digest.tagLen

structure TlsAuthContext where
  sendHmacKey : FixedBytes 64
  recvHmacKey : FixedBytes 64
  sendPacketId : UInt32
  digest : AuthDigest
  deriving DecidableEq

namespace TlsAuthContext

def new (staticKey : StaticKey) (isClient bidirectional : Bool) (digest : AuthDigest) :
    TlsAuthContext :=
  let (sendHmacKey, recvHmacKey) :=
    if bidirectional then (staticKey.hmacKey1, staticKey.hmacKey1)
    else if isClient then (staticKey.hmacKey2, staticKey.hmacKey1)
    else (staticKey.hmacKey1, staticKey.hmacKey2)
  { sendHmacKey, recvHmacKey, sendPacketId := 1, digest }

/-- The text the HMAC is computed over. -/
def authenticated (packetId timestamp : UInt32) (opcodeKeyId : UInt8) (sessionId : UInt64)
    (payload : Bytes) : Bytes :=
  toBE 4 packetId.toNat ++ toBE 4 timestamp.toNat ++ [opcodeKeyId] ++ toBE 8 sessionId.toNat ++
    payload

/-- The tag under the first `tag_len` bytes of a 64-byte key. -/
def tag (hmac : Hmac) (digest : AuthDigest) (key : FixedBytes 64) (message : Bytes) : Bytes :=
  (hmac digest (key.val.take digest.tagLen) message).val

/-- The packet on the wire, for given counter and clock values. -/
def wrapped (hmac : Hmac) (ctx : TlsAuthContext) (packetId timestamp : UInt32)
    (opcodeKeyId : UInt8) (sessionId : UInt64) (payload : Bytes) : Bytes :=
  [opcodeKeyId] ++ toBE 8 sessionId.toNat ++
    tag hmac ctx.digest ctx.sendHmacKey
      (authenticated packetId timestamp opcodeKeyId sessionId payload) ++
    toBE 4 packetId.toNat ++ toBE 4 timestamp.toNat ++ payload

/-- The counter is an atomic that `fetch_add` moves behind the shared reference; `timestamp`
is the reading of the system clock. -/
def wrapPacket (hmac : Hmac) (ctx : TlsAuthContext) (timestamp : UInt32) (opcodeKeyId : UInt8)
    (sessionId : UInt64) (payload : Bytes) : Bytes × TlsAuthContext :=
  (wrapped hmac ctx ctx.sendPacketId timestamp opcodeKeyId sessionId payload,
    { ctx with sendPacketId := ctx.sendPacketId + 1 })

/-- Header byte, session id, packet id, timestamp and payload of an authentic packet. -/
def unwrapPacket (hmac : Hmac) (ctx : TlsAuthContext) (packet : Bytes) :
    Except CryptoError (UInt8 × UInt64 × UInt32 × UInt32 × Bytes) :=
  let tagLen := ctx.digest.tagLen
  match packet with
  | [] => .error (.decryptionFailed "tls-auth packet too short".toList)
  | opcodeKeyId :: _ =>
    if packet.length < 1 + 8 + tagLen + 4 + 4 then
      .error (.decryptionFailed "tls-auth packet too short".toList)
    else
      let sessionId := UInt64.ofNat (ofBE ((packet.drop 1).take 8))
      let receivedTag := (packet.drop 9).take tagLen
      let packetId := UInt32.ofNat (ofBE ((packet.drop (9 + tagLen)).take 4))
      let timestamp := UInt32.ofNat (ofBE ((packet.drop (13 + tagLen)).take 4))
      let payload := packet.drop (17 + tagLen)
      if receivedTag = tag hmac ctx.digest ctx.recvHmacKey
          (authenticated packetId timestamp opcodeKeyId sessionId payload) then
        .ok (opcodeKeyId, sessionId, packetId, timestamp, payload)
      else .error (.decryptionFailed "tls-auth HMAC verification failed".toList)

end TlsAuthContext

end VpnHub.Crypto
