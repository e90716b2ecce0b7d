import VpnHub.Library.BigEndian
import VpnHub.Library.Text
import VpnHub.Program.Errors

/-! OpenVPN packets over TCP (`ovpn-transport/src/tcp.rs`). -/

namespace VpnHub.Transport

open BigEndian

inductive TransportError where
  | io (message : Text)
  | framing (message : Text)
  | proxyHandshakeFailed (proxyType reason : Text)
  | dnsResolutionFailed (name : Text)
  | connectionClosed
  deriving DecidableEq, Repr

/-! ## The codec -/

namespace OpenVpnTcpCodec

/-- The answer and what is left of the buffer. -/
def decode (src : Bytes) : Except TransportError (Option Bytes) × Bytes :=
  if src.length < 2 then (.ok none, src)
  else
    let length := ofBE (src.take 2)
    if src.length < 2 + length then (.ok none, src)
    else (.ok (some ((src.drop 2).take length)), (src.drop 2).drop length)

/-- The buffer with the item at its end. -/
def encode (item dst : Bytes) : Except TransportError Unit × Bytes :=
  let len := item.length
  if len > 65535 then
    (.error (.framing ("Packet length ".toList ++ Text.ofNat len ++
      " exceeds u16::MAX for OpenVPN TCP framing".toList)), dst)
  else (.ok (), dst ++ toBE 2 (UInt16.ofNat len).toNat ++ item)

end OpenVpnTcpCodec

/-! ## The transport -/

/-- What ends the wait of `read_buf`: bytes (none of them at the end of the stream), an error,
or the future is dropped. -/
inductive Read where
  | ready (bytes : Bytes)
  | failed (message : Text)
  | dropped
  deriving DecidableEq, Repr

/-- What becomes of a `recv_packet` future; of a packet, the bytes copied into the caller's
buffer. -/
inductive Received where
  | packet (bytes : Bytes)
  | error (e : TransportError)
  | dropped
  | pending
  deriving DecidableEq, Repr

namespace TcpTransport

/-- Appends to what has been written to the stream. The writes succeed. -/
def sendPacket (packet written : Bytes) : Except TransportError Unit × Bytes :=
  let len := packet.length
  if len > 65535 then
    (.error (.framing ("Packet length ".toList ++ Text.ofNat len ++ " exceeds u16::MAX".toList)),
      written)
  else
    let lenBytes := toBE 2 (UInt16.ofNat len).toNat
    let written := written ++ lenBytes
    let written := written ++ packet
    (.ok (), written)

/-- `size` is the length of the caller's buffer. The second component is the `read_buffer` that
the transport keeps, the third what later reads meet. -/
def recvPacket (size : ℕ) (readBuffer : Bytes) (reads : List Read) :
    Received × Bytes × List Read :=
  if 2 ≤ readBuffer.length ∧ 2 + ofBE (readBuffer.take 2) ≤ readBuffer.length then
    let frameLen := ofBE (readBuffer.take 2)
    let frame := (readBuffer.drop 2).take frameLen
    let copyLen := min frameLen size
    (.packet (frame.take copyLen), (readBuffer.drop 2).drop frameLen, reads)
  else
    match reads with
    | [] => (.pending, readBuffer, [])
    | .failed message :: reads => (.error (.io message), readBuffer, reads)
    | .dropped :: reads => (.dropped, readBuffer, reads)
    | .ready bytes :: reads =>
      let n := bytes.length
      if n = 0 then (.error .connectionClosed, readBuffer, reads)
      else recvPacket size (readBuffer ++ bytes) reads

/-- As many calls of `recv_packet` one after the other. -/
def recvPackets (size : ℕ) : ℕ → Bytes → List Read → List Received × Bytes × List Read
  | 0, readBuffer, reads => ([], readBuffer, reads)
  | n + 1, readBuffer, reads =>
    let first := recvPacket size readBuffer reads
    let later := recvPackets size n first.2.1 first.2.2
    (first.1 :: later.1, later.2)

end TcpTransport

end VpnHub.Transport
