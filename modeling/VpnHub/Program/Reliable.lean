import VpnHub.Library.OrdMap
import VpnHub.Program.Frame

/-! The reliable control channel of `ovpn-protocol/src/reliable.rs`. -/

namespace VpnHub.Protocol

/-! ## Sending -/

structure ReliablePacket where
  packetId : UInt32
  opcode : Opcode
  keyId : UInt8
  payload : Bytes
  firstSentAt : Instant
  lastSentAt : Instant
  retransmitCount : UInt32
  currentRto : Duration
  deriving DecidableEq, Repr

structure ReliableSendQueue where
  sessionId : UInt64
  remoteSessionId : Option UInt64
  nextPacketId : UInt32
  windowSize : ℕ
  initialRto : Duration
  maxRto : Duration
  maxRetransmits : UInt32
  unacked : List ReliablePacket
  deriving DecidableEq, Repr

namespace ReliableSendQueue

def new (sessionId : UInt64) (windowSize : ℕ) : ReliableSendQueue where
  sessionId := sessionId
  remoteSessionId := none
  nextPacketId := 0
  windowSize := windowSize
  initialRto := 1500000000
  maxRto := 10000000000
  maxRetransmits := 10
  unacked := []

/-- The assigned packet id, or an overflow error that leaves the queue as it was. -/
def enqueue (q : ReliableSendQueue) (opcode : Opcode) (keyId : UInt8) (payload : Bytes)
    (now : Instant) : Except ProtocolError UInt32 × ReliableSendQueue :=
  if q.unacked.length ≥ q.windowSize then (.error .reliableWindowOverflow, q)
  else
    let packet : ReliablePacket :=
      { packetId := q.nextPacketId, opcode, keyId, payload, firstSentAt := now,
        lastSentAt := now, retransmitCount := 0, currentRto := q.initialRto }
    (.ok q.nextPacketId,
      { q with nextPacketId := q.nextPacketId + 1, unacked := q.unacked ++ [packet] })

/-- The number of packets removed and the remaining queue. -/
def processAcks (q : ReliableSendQueue) (acks : List UInt32) : ℕ × ReliableSendQueue :=
  let unacked := q.unacked.filter fun pkt => !acks.contains pkt.packetId
  (q.unacked.length - unacked.length, { q with unacked })

/-- The loop of `poll_retransmissions` over the unacknowledged packets. A packet that has
used up its retransmissions ends the loop; the packets before it stay updated. -/
def pollLoop (q : ReliableSendQueue) (now : Instant) :
    List ReliablePacket → Except ProtocolError (List ControlPacket) × List ReliablePacket
  | [] => (.ok [], [])
  | pkt :: rest =>
    if now - pkt.lastSentAt ≥ pkt.currentRto then
      let pkt := { pkt with retransmitCount := pkt.retransmitCount + 1 }
      if pkt.retransmitCount > q.maxRetransmits then
        (.error (.handshakeTimeout (now - pkt.firstSentAt)), pkt :: rest)
      else
        let pkt := { pkt with currentRto := min (pkt.currentRto * 2) q.maxRto, lastSentAt := now }
        let resend : ControlPacket :=
          { opcode := pkt.opcode, keyId := pkt.keyId, sessionId := q.sessionId, ackArray := [],
            remoteSessionId := q.remoteSessionId, packetId := some pkt.packetId,
            payload := pkt.payload }
        let (result, rest) := q.pollLoop now rest
        (result.map (resend :: ·), pkt :: rest)
    else
      let (result, rest) := q.pollLoop now rest
      (result, pkt :: rest)

def pollRetransmissions (q : ReliableSendQueue) (now : Instant) :
    Except ProtocolError (List ControlPacket) × ReliableSendQueue :=
  let (result, unacked) := q.pollLoop now q.unacked
  (result, { q with unacked })

def nearestDeadline (q : ReliableSendQueue) : Option Instant :=
  (q.unacked.map fun pkt => pkt.lastSentAt + pkt.currentRto).min?

end ReliableSendQueue

/-! ## Receiving -/

/-- The reorder buffer `BTreeMap<u32, Bytes>` is keyed by the value of the packet id. -/
structure ReliableRecvQueue where
  nextExpectedId : UInt32
  pendingAcks : List UInt32
  outOfOrder : OrdMap ℕ Bytes
  readyStream : List Bytes
  deriving DecidableEq

namespace ReliableRecvQueue

def new : ReliableRecvQueue where
  nextExpectedId := 0
  pendingAcks := []
  outOfOrder := .empty
  readyStream := []

/-- The `while let Some(..) = out_of_order.remove(..)` loop. Every turn removes an entry,
so the number of entries bounds the number of turns. -/
def drainContiguous : ℕ → ReliableRecvQueue → ReliableRecvQueue
  | 0, q => q
  | turns + 1, q =>
    match q.outOfOrder.find? q.nextExpectedId.toNat with
    | none => q
    | some payload =>
      drainContiguous turns
        { q with
          outOfOrder := q.outOfOrder.erase q.nextExpectedId.toNat
          readyStream := q.readyStream ++ [payload]
          nextExpectedId := q.nextExpectedId + 1 }

/-- The acknowledgement is recorded first, whatever becomes of the payload. -/
def processPacket (q : ReliableRecvQueue) (packetId : UInt32) (payload : Bytes) :
    Except ProtocolError Unit × ReliableRecvQueue :=
  let q := if q.pendingAcks.contains packetId then q
    else { q with pendingAcks := q.pendingAcks ++ [packetId] }
  if packetId < q.nextExpectedId then (.ok (), q)
  else if packetId = q.nextExpectedId then
    let q := { q with
      readyStream := q.readyStream ++ [payload], nextExpectedId := q.nextExpectedId + 1 }
    (.ok (), drainContiguous q.outOfOrder.size q)
  else if q.outOfOrder.size > 64 then (.error .reliableWindowOverflow, q)
  else (.ok (), { q with outOfOrder := q.outOfOrder.insert packetId.toNat payload })

def drainReady (q : ReliableRecvQueue) : List Bytes × ReliableRecvQueue :=
  (q.readyStream, { q with readyStream := [] })

def drainAcks (q : ReliableRecvQueue) : List UInt32 × ReliableRecvQueue :=
  (q.pendingAcks, { q with pendingAcks := [] })

end ReliableRecvQueue

end VpnHub.Protocol
