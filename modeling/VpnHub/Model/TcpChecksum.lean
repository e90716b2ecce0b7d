import VpnHub.Library.OnesComplement
import VpnHub.Model.TcpOptions

/-! The checksum of a TCP segment, and when rewriting an MSS option keeps it correct. -/

namespace VpnHub.Protocol.MssFix

/-- The source and destination addresses of an IP packet. -/
def addresses (packet : Bytes) : Bytes :=
  if packet.headD 0 >>> 4 = 4 then (packet.take 20).drop 12 else (packet.take 40).drop 8

/-- What the checksum covers: the pseudo-header, which has the protocol number and the length in
32 bits behind the addresses, and the segment. -/
def checksumWords (packet tcp : Bytes) : List ℕ :=
  OnesComplement.words (addresses packet) ++
    [6, tcp.length / 65536 % 65536, tcp.length % 65536] ++ OnesComplement.words tcp

/-- A TCP packet, behind an IP header of at least 20 bytes, in which all words add up to
`0xFFFF`. -/
def ChecksumCorrect (packet : Bytes) : Prop :=
  ∃ start, tcpStart packet = some start ∧ 20 ≤ start ∧
    OnesComplement.sum 0xFFFF (checksumWords packet (packet.drop start)) = 0xFFFF

/-- The high and the low byte of a number. -/
def highByte (x : UInt16) : ℤ := x.toNat / 256
def lowByte (x : UInt16) : ℤ := x.toNat % 256

/-- The MSS option that is clamped, if any, is at an even place, or both bytes of its value
change alike modulo 257. -/
def AlignedOption (packet : Bytes) (maxMss : UInt16) : Prop :=
  ∀ start tcp i mss, HasOptions packet start tcp → Reached maxMss tcp i → Announces tcp i mss →
    maxMss < mss →
      Even i ∨ (257 : ℤ) ∣ (highByte maxMss - highByte mss) - (lowByte maxMss - lowByte mss)

end VpnHub.Protocol.MssFix
