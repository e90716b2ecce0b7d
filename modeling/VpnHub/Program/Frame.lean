import VpnHub.Library.BigEndian
import VpnHub.Program.Errors

/-! Opcodes and packet framing of `ovpn-protocol/src/opcode.rs` and `frame.rs`. -/

namespace VpnHub.Protocol

open BigEndian

/-! ## Opcodes -/

inductive Opcode where
  | controlHardResetClientV1
  | controlHardResetServerV1
  | controlSoftResetV1
  | controlV1
  | ackV1
  | dataV1
  | controlHardResetClientV2
  | controlHardResetServerV2
  | dataV2
  | controlHardResetClientV3
  | controlWkcV1
  deriving DecidableEq, Repr

namespace Opcode

/-- `opcode as u8`. -/
def toU8 : Opcode → UInt8
  | controlHardResetClientV1 => 1
  | controlHardResetServerV1 => 2
  | controlSoftResetV1 => 3
  | controlV1 => 4
  | ackV1 => 5
  | dataV1 => 6
  | controlHardResetClientV2 => 7
  | controlHardResetServerV2 => 8
  | dataV2 => 9
  | controlHardResetClientV3 => 10
  | controlWkcV1 => 11

def fromU8 (val : UInt8) : Except ProtocolError Opcode :=
  match val.toNat with
  | 1 => .ok controlHardResetClientV1
  | 2 => .ok controlHardResetServerV1
  | 3 => .ok controlSoftResetV1
  | 4 => .ok controlV1
  | 5 => .ok ackV1
  | 6 => .ok dataV1
  | 7 => .ok controlHardResetClientV2
  | 8 => .ok controlHardResetServerV2
  | 9 => .ok dataV2
  | 10 => .ok controlHardResetClientV3
  | 11 => .ok controlWkcV1
  | _ => .error (.unknownOpcode val)

def isData : Opcode → Bool
  | dataV1 | dataV2 => true
  | _ => false

def isReliable : Opcode → Bool
  | controlHardResetClientV1 | controlHardResetServerV1 | controlSoftResetV1 | controlV1
  | controlHardResetClientV2 | controlHardResetServerV2 | controlHardResetClientV3
  | controlWkcV1 => true
  | ackV1 | dataV1 | dataV2 => false

/-- The `Display` text. -/
def display : Opcode → Text
  | controlHardResetClientV1 => "P_CONTROL_HARD_RESET_CLIENT_V1".toList
  | controlHardResetServerV1 => "P_CONTROL_HARD_RESET_SERVER_V1".toList
  | controlSoftResetV1 => "P_CONTROL_SOFT_RESET_V1".toList
  | controlV1 => "P_CONTROL_V1".toList
  | ackV1 => "P_ACK_V1".toList
  | dataV1 => "P_DATA_V1".toList
  | controlHardResetClientV2 => "P_CONTROL_HARD_RESET_CLIENT_V2".toList
  | controlHardResetServerV2 => "P_CONTROL_HARD_RESET_SERVER_V2".toList
  | dataV2 => "P_DATA_V2".toList
  | controlHardResetClientV3 => "P_CONTROL_HARD_RESET_CLIENT_V3".toList
  | controlWkcV1 => "P_CONTROL_WKC_V1".toList

end Opcode

def encodeHeaderByte (opcode : Opcode) (keyId : UInt8) : UInt8 :=
  (opcode.toU8 <<< 3) ||| (keyId &&& 0x07)

def parseHeaderByte (byte : UInt8) : Except ProtocolError (Opcode × UInt8) := do
  let opcode ← Opcode.fromU8 (byte >>> 3)
  return (opcode, byte &&& 0x07)

/-! ## Cursor reads

`bytes::Buf` on a slice: each read takes the leading bytes and leaves the rest. The
callers check the remaining length first. -/

def putU32 (x : UInt32) : Bytes := toBE 4 x.toNat
def putU64 (x : UInt64) : Bytes := toBE 8 x.toNat

def getU32 (src : Bytes) : UInt32 × Bytes := (UInt32.ofNat (ofBE (src.take 4)), src.drop 4)
def getU64 (src : Bytes) : UInt64 × Bytes := (UInt64.ofNat (ofBE (src.take 8)), src.drop 8)

/-- `n` successive `get_u32` reads. -/
def getU32s : ℕ → Bytes → List UInt32 × Bytes
  | 0, src => ([], src)
  | n + 1, src =>
    let (x, rest) := getU32 src
    let (xs, rest) := getU32s n rest
    (x :: xs, rest)

/-! ## Control packets -/

structure ControlPacket where
  opcode : Opcode
  keyId : UInt8
  sessionId : UInt64
  ackArray : List UInt32
  remoteSessionId : Option UInt64
  packetId : Option UInt32
  payload : Bytes
  deriving DecidableEq, Repr

namespace ControlPacket

/-- The ack count is cut to a byte; the remote session id follows unless that byte is 0. -/
def encodeBody (cp : ControlPacket) : Bytes :=
  let ackLen := UInt8.ofNat cp.ackArray.length
  [ackLen] ++ cp.ackArray.flatMap putU32 ++
    (if ackLen > 0 then putU64 (cp.remoteSessionId.getD 0) else []) ++
    (match cp.packetId with
      | some pid => putU32 pid
      | none => []) ++
    cp.payload

def encode (cp : ControlPacket) : Bytes :=
  [encodeHeaderByte cp.opcode cp.keyId] ++ putU64 cp.sessionId ++ cp.encodeBody

def decodeBody (opcode : Opcode) (keyId : UInt8) (sessionId : UInt64) (src : Bytes) :
    Except ProtocolError ControlPacket :=
  match src with
  | [] => .error (.packetTooShort 9)
  | ackByte :: src => do
    let ackLen := ackByte.toNat
    if src.length < ackLen * 4 then
      throw (.invalidFraming "Not enough bytes for ACK array".toList)
    let (ackArray, src) := getU32s ackLen src
    let (remoteSessionId, src) ←
      if ackLen > 0 then
        if src.length < 8 then
          throw (.invalidFraming "Missing remote session ID in ACK".toList)
        else pure (some (getU64 src).1, (getU64 src).2)
      else pure (none, src)
    let (packetId, src) ←
      if opcode.isReliable then
        if src.length < 4 then
          throw (.invalidFraming "Missing packet ID in reliable packet".toList)
        else pure (some (getU32 src).1, (getU32 src).2)
      else pure (none, src)
    return { opcode, keyId, sessionId, ackArray, remoteSessionId, packetId, payload := src }

def decode (src : Bytes) : Except ProtocolError ControlPacket :=
  match src with
  | [] => .error (.packetTooShort 0)
  | headerByte :: rest => do
    if src.length < 9 then throw (.packetTooShort src.length)
    let (opcode, keyId) ← parseHeaderByte headerByte
    let (sessionId, body) := getU64 rest
    decodeBody opcode keyId sessionId body

end ControlPacket

/-! ## Data packets -/

namespace DataPacket

def encodeHeader (opcode : Opcode) (keyId : UInt8) (peerId : Option UInt32)
    (packetId : UInt32) : Bytes :=
  [encodeHeaderByte opcode keyId] ++
    (if opcode = .dataV2 then
      let pid := peerId.getD 0
      [((pid >>> 16) &&& 0xFF).toUInt8, ((pid >>> 8) &&& 0xFF).toUInt8, (pid &&& 0xFF).toUInt8]
    else []) ++
    putU32 packetId

/-- Opcode, key id, peer id, packet id and the bytes after the header. -/
def decode (src : Bytes) :
    Except ProtocolError (Opcode × UInt8 × Option UInt32 × UInt32 × Bytes) :=
  match src with
  | [] => .error (.packetTooShort 0)
  | headerByte :: src => do
    let (opcode, keyId) ← parseHeaderByte headerByte
    match opcode with
    | .dataV2 =>
      match src with
      | p0 :: p1 :: p2 :: src' =>
        if src.length < 7 then throw (.packetTooShort (src.length + 1))
        else
          let peerId := (p0.toUInt32 <<< 16) ||| (p1.toUInt32 <<< 8) ||| p2.toUInt32
          return (opcode, keyId, some peerId, (getU32 src').1, (getU32 src').2)
      | _ => throw (.packetTooShort (src.length + 1))
    | .dataV1 =>
      if src.length < 4 then throw (.packetTooShort (src.length + 1))
      else return (opcode, keyId, none, (getU32 src).1, (getU32 src).2)
    | _ =>
      throw (.invalidFraming ("Expected data opcode, got ".toList ++ opcode.display))

end DataPacket

end VpnHub.Protocol
