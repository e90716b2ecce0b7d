import Mathlib.Logic.Relation
import VpnHub.Program.MssFix

/-! TCP option lists: where a packet has one, and what is met on a walk over it. -/

namespace VpnHub.Protocol.MssFix

/-! ## Headers -/

/-- Where the TCP part of an IPv4 packet starts: behind the header, whose length is given in
words of four bytes. -/
def ipv4Start (packet : Bytes) : Option ℕ :=
  let ihl := ((packet.headD 0 &&& 0x0F) * 4).toNat
  if 20 ≤ packet.length ∧ packet[9]? = some 6 ∧ ihl + 20 ≤ packet.length then some ihl else none

def ipv6Start (packet : Bytes) : Option ℕ :=
  if packet[6]? = some 6 ∧ 40 + 20 ≤ packet.length then some 40 else none

/-- Where the TCP part of an IP packet starts. -/
def tcpStart (packet : Bytes) : Option ℕ :=
  if packet.headD 0 >>> 4 = 4 then ipv4Start packet
  else if packet.headD 0 >>> 4 = 6 then ipv6Start packet
  else none

def isSyn (tcp : Bytes) : Bool := (tcp[13]?.getD 0) &&& 0x02 ≠ 0

/-- Where the options of a TCP header end, the length of the header. -/
def dataOffset (tcp : Bytes) : ℕ := (((tcp[12]?.getD 0) >>> 4) * 4).toNat

/-- The TCP part of a SYN packet, with options that lie inside the packet. -/
structure HasOptions (packet : Bytes) (start : ℕ) (tcp : Bytes) : Prop where
  starts : tcpStart packet = some start
  rest : packet.drop start = tcp
  complete : 20 ≤ tcp.length
  syn : isSyn tcp = true
  some_options : 20 < dataOffset tcp
  options_inside : dataOffset tcp ≤ tcp.length

/-! ## Options -/

/-- A maximum segment size is announced at `i`. -/
def Announces (tcp : Bytes) (i : ℕ) (mss : UInt16) : Prop :=
  tcp[i]? = some 2 ∧ tcp[i + 1]? = some 4 ∧ wordAt tcp (i + 2) = .ok mss

/-- The option at `i` is followed by what is at `j`. -/
inductive Passes (tcp : Bytes) (i : ℕ) : ℕ → Prop where
  | nop (kind : tcp[i]? = some 1) : Passes tcp i (i + 1)
  | mss {len : UInt8} (kind : tcp[i]? = some 2) (length : tcp[i + 1]? = some len) :
      Passes tcp i (i + len.toNat)
  | other {k len : UInt8} (kind : tcp[i]? = some k) (other : 2 < k)
      (length : tcp[i + 1]? = some len) (long : 2 ≤ len) : Passes tcp i (i + len.toNat)

/-- The list ends at `i`: with its mark, or because an option has no valid length. -/
def Stops (tcp : Bytes) (i : ℕ) : Prop :=
  tcp[i]? = some 0 ∨ ∃ k, tcp[i]? = some k ∧ 2 < k ∧ ∀ len, tcp[i + 1]? = some len → len < 2

/-- The option at `i` announces more than `maxMss`. -/
def Exceeds (maxMss : UInt16) (tcp : Bytes) (i : ℕ) : Prop :=
  ∃ mss, Announces tcp i mss ∧ maxMss < mss

/-- The walk over the options goes on from `i` at `j`. -/
def Visits (maxMss : UInt16) (tcp : Bytes) (i j : ℕ) : Prop :=
  i < dataOffset tcp ∧ ¬ Exceeds maxMss tcp i ∧ Passes tcp i j

/-- The walk from the first option gets to `i`. -/
def Reached (maxMss : UInt16) (tcp : Bytes) (i : ℕ) : Prop :=
  Relation.ReflTransGen (Visits maxMss tcp) 20 i ∧ i < dataOffset tcp

/-- Every MSS option that the walk gets to has a length, which is not zero. -/
def LengthsGiven (maxMss : UInt16) (tcp : Bytes) : Prop :=
  ∀ i, Reached maxMss tcp i → tcp[i]? = some 2 → ∃ len, tcp[i + 1]? = some len ∧ len ≠ 0

/-- An MSS option that lies inside the header. -/
def WellFormed (tcp : Bytes) (i : ℕ) (mss : UInt16) : Prop :=
  Announces tcp i mss ∧ i + 4 ≤ dataOffset tcp

/-- The first well-formed MSS option of the list. -/
def FirstMss (tcp : Bytes) (i : ℕ) (mss : UInt16) : Prop :=
  Relation.ReflTransGen
      (fun i j => i < dataOffset tcp ∧ (∀ mss, ¬ WellFormed tcp i mss) ∧ Passes tcp i j) 20 i ∧
    WellFormed tcp i mss

/-- The TCP part with the maximum and a checksum updated for it. -/
def clampedAt (maxMss : UInt16) (tcp : Bytes) (i : ℕ) (mss checksum : UInt16) : Bytes :=
  putWord (putWord tcp (i + 2) maxMss) 16 (updateChecksum checksum mss maxMss)

/-! ## What clamping changes -/

/-- Nothing but the bytes at the given positions differs. -/
def SameBut (positions : List ℕ) (packet packet' : Bytes) : Prop :=
  packet'.length = packet.length ∧ ∀ k, k ∉ positions → packet'[k]? = packet[k]?

/-- The checksum and one MSS option of a SYN are rewritten. The option, behind an IP header of at
least 20 bytes and inside the TCP header, announced more than the maximum. -/
def Rewrites (packet : Bytes) (maxMss : UInt16) (packet' : Bytes) : Prop :=
  ∃ start tcp i mss, HasOptions packet start tcp ∧ 20 ≤ start ∧ Reached maxMss tcp i ∧ 20 ≤ i ∧
    WellFormed tcp i mss ∧ maxMss < mss ∧ wordAt packet' (start + i + 2) = .ok maxMss ∧
    SameBut [start + 16, start + 17, start + i + 2, start + i + 3] packet packet'

/-- Nothing changes, or only what should, and no first MSS option is above the maximum. -/
def Clean (packet : Bytes) (maxMss : UInt16) (clamped : Bool) (packet' : Bytes) : Prop :=
  (clamped = false → packet' = packet) ∧ (clamped = true → Rewrites packet maxMss packet') ∧
    ∀ start tcp i mss, HasOptions packet' start tcp → FirstMss tcp i mss → mss ≤ maxMss

/-- The MSS option that is clamped, if any, lies behind an IP header of at least 20 bytes and
inside the TCP header. -/
def ClampedInside (packet : Bytes) (maxMss : UInt16) : Prop :=
  ∀ start tcp i, HasOptions packet start tcp → Reached maxMss tcp i → Exceeds maxMss tcp i →
    20 ≤ start ∧ i + 4 ≤ dataOffset tcp

end VpnHub.Protocol.MssFix
