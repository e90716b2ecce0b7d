import VpnHub.Library.Transition
import VpnHub.Program.Reliable

/-! A sender and a receiver of the reliable channel over a network that may drop, duplicate
and reorder whatever it was given. Dropping needs no action: a packet is simply never
delivered. -/

namespace VpnHub.Protocol

/-- `sent` holds every packet handed to the network and `acked` every id in an ack list the
receiver returned; both only grow. `enqueued` and `drained` record the payloads accepted
by `enqueue` and the chunks returned by `drain_ready`. -/
structure Channel where
  sender : ReliableSendQueue
  receiver : ReliableRecvQueue
  sent : List (UInt32 × Bytes)
  acked : List UInt32
  enqueued : List Bytes
  drained : List Bytes

namespace Channel

inductive Action where
  | enqueue (opcode : Opcode) (keyId : UInt8) (payload : Bytes) (now : Instant)
  | processAcks (acks : List UInt32)
  | pollRetransmissions (now : Instant)
  | deliver (packetId : UInt32) (payload : Bytes)
  | drainReady
  | drainAcks

def new (sessionId : UInt64) (windowSize : ℕ) : Channel where
  sender := .new sessionId windowSize
  receiver := .new
  sent := []
  acked := []
  enqueued := []
  drained := []

/-- The packets carried by a list of retransmissions. -/
def resent (packets : List ControlPacket) : List (UInt32 × Bytes) :=
  packets.filterMap fun cp => cp.packetId.map (·, cp.payload)

/-- A call that returns an error is followed by the next action, so `step` keeps the state
it left behind. Only packets the network was given can be delivered. -/
def step (c : Channel) : Action → Option Channel
  | .enqueue opcode keyId payload now =>
    match c.sender.enqueue opcode keyId payload now with
    | (.ok packetId, sender) =>
      some { c with
        sender, sent := c.sent ++ [(packetId, payload)], enqueued := c.enqueued ++ [payload] }
    | (.error _, sender) => some { c with sender }
  | .processAcks acks => some { c with sender := (c.sender.processAcks acks).2 }
  | .pollRetransmissions now =>
    match c.sender.pollRetransmissions now with
    | (.ok packets, sender) => some { c with sender, sent := c.sent ++ resent packets }
    | (.error _, sender) => some { c with sender }
  | .deliver packetId payload =>
    if (packetId, payload) ∈ c.sent then
      some { c with receiver := (c.receiver.processPacket packetId payload).2 }
    else none
  | .drainReady =>
    some { c with
      receiver := c.receiver.drainReady.2, drained := c.drained ++ c.receiver.drainReady.1 }
  | .drainAcks =>
    some { c with
      receiver := c.receiver.drainAcks.2, acked := c.acked ++ c.receiver.drainAcks.1 }

/-- The acknowledgements that reach the sender were sent by the receiver, and packet ids do
not run out. -/
def Genuine (c : Channel) : Action → Prop
  | .processAcks acks => ∀ packetId ∈ acks, packetId ∈ c.acked
  | .enqueue .. => c.enqueued.length + 1 < 2 ^ 32
  | _ => True

instance (c : Channel) (a : Action) : Decidable (c.Genuine a) :=
  match a with
  | .processAcks acks => List.decidableBAll (· ∈ c.acked) acks
  | .enqueue .. => inferInstanceAs (Decidable (_ < _))
  | .pollRetransmissions _ | .deliver .. | .drainReady | .drainAcks =>
    inferInstanceAs (Decidable True)

/-- The delivered packet does not hit the full reorder buffer: it is not ahead of the stream,
or the buffer has room, or the packet is buffered already. -/
def HasRoom (c : Channel) : Action → Prop
  | .deliver packetId _ =>
    packetId ≤ c.receiver.nextExpectedId ∨ c.receiver.outOfOrder.size ≤ 64 ∨
      c.receiver.outOfOrder.find? packetId.toNat ≠ none
  | _ => True

instance (c : Channel) (a : Action) : Decidable (c.HasRoom a) :=
  match a with
  | .deliver .. => inferInstanceAs (Decidable (_ ∨ _ ∨ _))
  | .enqueue .. | .processAcks _ | .pollRetransmissions _ | .drainReady | .drainAcks =>
    inferInstanceAs (Decidable True)

/-- The payload enqueued under an id has been moved to the ready stream or is buffered. -/
def Kept (c : Channel) (packetId : UInt32) : Prop :=
  c.enqueued[packetId.toNat]? ≠ none ∧
    ((c.drained ++ c.receiver.readyStream)[packetId.toNat]? = c.enqueued[packetId.toNat]? ∨
      c.receiver.outOfOrder.find? packetId.toNat = c.enqueued[packetId.toNat]?)

instance (c : Channel) (packetId : UInt32) : Decidable (c.Kept packetId) :=
  inferInstanceAs (Decidable (_ ∧ (_ ∨ _)))

end Channel

end VpnHub.Protocol
