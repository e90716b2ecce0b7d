import VpnHub.Library.Transition
import VpnHub.Program.Reliable

/-! A `ReliableSendQueue` along a run, with a record of what its packets were when they were queued
and how often they have been returned since. -/

namespace VpnHub.Protocol

inductive QueueOp where
  | enqueue (opcode : Opcode) (keyId : UInt8) (payload : Bytes) (now : Instant)
  | processAcks (acks : List UInt32)
  | pollRetransmissions (now : Instant)

/-- The deadline of a packet. -/
def ReliablePacket.deadline (pkt : ReliablePacket) : Instant := pkt.lastSentAt + pkt.currentRto

def ReliableSendQueue.step (q : ReliableSendQueue) : QueueOp → ReliableSendQueue
  | .enqueue opcode keyId payload now => (q.enqueue opcode keyId payload now).2
  | .processAcks acks => (q.processAcks acks).2
  | .pollRetransmissions now => (q.pollRetransmissions now).2

/-- What a packet was queued as, and how often a poll has returned it. -/
structure SentPacket where
  packetId : UInt32
  opcode : Opcode
  payload : Bytes
  returned : ℕ := 0
  deriving DecidableEq

/-- A queue with one record for each packet in it. -/
structure QueueHistory where
  queue : ReliableSendQueue
  sent : List SentPacket
  deriving DecidableEq

namespace QueueHistory

def new (sessionId : UInt64) (windowSize : ℕ) : QueueHistory where
  queue := .new sessionId windowSize
  sent := []

/-- A poll that goes through returns the packets that are due; one that fails returns none. -/
def returnDue (now : Instant) (packets : List ReliablePacket) (sent : List SentPacket) :
    List SentPacket :=
  List.zipWith
    (fun pkt record =>
      if pkt.deadline ≤ now then { record with returned := record.returned + 1 } else record)
    packets sent

def step (h : QueueHistory) (op : QueueOp) : Option QueueHistory :=
  some {
    queue := h.queue.step op
    sent := match op with
      | .enqueue opcode keyId payload now =>
        match (h.queue.enqueue opcode keyId payload now).1 with
        | .ok packetId => h.sent ++ [{ packetId, opcode, payload }]
        | .error _ => h.sent
      | .processAcks acks => h.sent.filter fun record => !acks.contains record.packetId
      | .pollRetransmissions now =>
        match (h.queue.pollRetransmissions now).1 with
        | .ok _ => returnDue now h.queue.unacked h.sent
        | .error _ => h.sent }

/-- No counter of a packet that is due stands at its largest value when the queue is polled. -/
def CountersFit (h : QueueHistory) : QueueOp → Prop
  | .pollRetransmissions now =>
    ∀ pkt ∈ h.queue.unacked, pkt.deadline ≤ now → pkt.retransmitCount.toNat + 1 < 2 ^ 32
  | _ => True

end QueueHistory

end VpnHub.Protocol
