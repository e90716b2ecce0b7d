import VpnHub.Model.Runs

/-! Two engines with mirrored key slots, and a network between them that may lose, repeat and
reorder data frames. -/

namespace VpnHub.Protocol.Tunnel

open Crypto ProtocolEngine

/-- A packet of IP version 4 or 6. -/
structure IpPacket where
  bytes : Bytes
  length_bytes : 20 ≤ bytes.length
  version : ∃ first rest, bytes = first :: rest ∧ (first >>> 4 = 4 ∨ first >>> 4 = 6)

/-- What the sending side is asked to send. -/
inductive Outgoing where
  | ip (now : Instant) (packet : IpPacket)
  | ping (now : Instant)

namespace Outgoing

def op : Outgoing → Op
  | ip now packet => .processTunPacket now packet.bytes
  | ping now => .sendKeepalivePing now

def plaintext : Outgoing → Bytes
  | ip _ packet => packet.bytes
  | ping _ => keepaliveMagic

/-- What the receiving side is to do with it: pings stay inside the engine. -/
def delivered : Outgoing → List OutputAction
  | ip _ packet => [.sendToTun packet.bytes]
  | ping _ => []

end Outgoing

/-- A frame on the wire, with what it was sent for. -/
structure Frame where
  outgoing : Outgoing
  bytes : Bytes

/-- The packet id in the header of a frame. -/
def Frame.packetId (frame : Frame) : ℕ :=
  match DataPacket.decode frame.bytes with
  | .ok (_, _, _, packetId, _) => packetId.toNat
  | .error _ => 0

/-- The actions an operation has queued. -/
def queued {Conn : Type} (e e' : ProtocolEngine Conn) : List OutputAction :=
  e'.outbox.drop e.outbox.length

def networkPackets (actions : List OutputAction) : List Bytes :=
  actions.filterMap fun
    | .sendToNetwork packet => some packet
    | _ => none

/-- The frames that the engine queues for the given packets and pings. -/
def sendAll {Conn : Type} (env : Env Conn) :
    ProtocolEngine Conn → List Outgoing → List Frame × ProtocolEngine Conn
  | e, [] => ([], e)
  | e, o :: rest =>
    match (exec env o.op).run e with
    | some (_, e') =>
      let (frames, e'') := sendAll env e' rest
      ((networkPackets (queued e e')).map (Frame.mk o) ++ frames, e'')
    | none => ([], e)

/-- A frame as it arrives. -/
structure Delivery where
  now : Instant
  frame : Frame

/-- The result of each delivery with the actions it queues, and the engine in the end. -/
def receiveEach {Conn : Type} (env : Env Conn) :
    ProtocolEngine Conn → List Delivery →
      List (Except ProtocolError Unit × List OutputAction) × ProtocolEngine Conn
  | e, [] => ([], e)
  | e, d :: rest =>
    match (processNetworkPacket env d.now d.frame.bytes).run e with
    | some (r, e') =>
      let (outcomes, e'') := receiveEach env e' rest
      ((r, queued e e') :: outcomes, e'')
    | none => ([], e)

/-- No frame is delivered for the first time after a frame whose packet id is larger by 128
or more; `seen` holds the frames delivered before. -/
def WithinWindow : (seen : List Frame) → List Delivery → Prop
  | _, [] => True
  | seen, d :: rest =>
    (d.frame ∉ seen → ∀ f ∈ seen, f.packetId < d.frame.packetId + 128) ∧
      WithinWindow (seen ++ [d.frame]) rest

/-- The first delivery of a frame succeeds and hands over exactly what it was sent for; every
later one is an error and does nothing. -/
def ExactlyOnce :
    (seen : List Frame) → List Delivery → List (Except ProtocolError Unit × List OutputAction) → Prop
  | _, [], [] => True
  | seen, d :: rest, out :: outcomes =>
    (d.frame ∉ seen → out = (.ok (), d.frame.outgoing.delivered)) ∧
      (d.frame ∈ seen → (∃ err, out.1 = .error err) ∧ out.2 = []) ∧
      ExactlyOnce (seen ++ [d.frame]) rest outcomes
  | _, _, _ => False

/-- The receiving half of one slot mirrors the sending half of the other: the same key id, key
and IV, and a window that has only accepted ids the sender has already used. -/
structure Mirrored (tx rx : KeySlot) : Prop where
  keyId : rx.keyId = tx.keyId
  cipher : rx.rxCipher = tx.txCipher
  implicitIv : rx.rxImplicitIv = tx.txImplicitIv
  window : ∃ history, rx.antiReplay = AntiReplayWindow.new.feed history ∧
    ∀ seq ∈ AntiReplayWindow.new.accepted history, seq.toNat < tx.txPacketId.toNat

/-- Decryption with the same key, nonce and associated data undoes encryption. -/
def Inverts (aead : Aead) : Prop :=
  ∀ suite key nonce aad plaintext ciphertext tag,
    aead.encryptInPlaceDetached suite key nonce aad plaintext = .ok (ciphertext, tag) →
      aead.decryptInPlaceDetached suite key nonce aad ciphertext tag.val = some plaintext

end VpnHub.Protocol.Tunnel
