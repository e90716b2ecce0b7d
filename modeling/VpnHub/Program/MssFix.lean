import VpnHub.Program.Errors

/-! TCP MSS clamping of `ovpn-protocol/src/mssfix.rs`. -/

namespace VpnHub.Protocol

/-- How a function can fail to return. -/
inductive Fault where
  | indexOutOfBounds
  | diverges
  deriving DecidableEq, Repr

namespace MssFix

/-- `buffer[i]`. -/
def byteAt (buffer : Bytes) (i : ℕ) : Except Fault UInt8 :=
  match buffer[i]? with
  | some b => .ok b
  | none => .error .indexOutOfBounds

/-- `buffer[i]` and `buffer[i + 1]` as a big-endian `u16`. -/
def wordAt (buffer : Bytes) (i : ℕ) : Except Fault UInt16 := do
  let hi ← byteAt buffer i
  let lo ← byteAt buffer (i + 1)
  return hi.toUInt16 <<< 8 ||| lo.toUInt16

/-- A big-endian write at `i`, where a read has succeeded. -/
def putWord (buffer : Bytes) (i : ℕ) (x : UInt16) : Bytes :=
  (buffer.set i (x >>> 8).toUInt8).set (i + 1) x.toUInt8

/-- `while (sum >> 16) != 0`. The sum starts below 2^18, so it folds at most twice. -/
def foldCarry : ℕ → UInt32 → UInt32
  | 0, sum => sum
  | turns + 1, sum =>
    if sum >>> 16 ≠ 0 then foldCarry turns ((sum &&& (0xFFFF : UInt32)) + sum >>> 16) else sum

def updateChecksum (oldChecksum oldVal newVal : UInt16) : UInt16 :=
  (~~~(foldCarry 2 ((~~~oldChecksum).toUInt32 + (~~~oldVal).toUInt32 + newVal.toUInt32))).toUInt16

/-- The loop over the TCP options. An MSS option of length 0 leaves the index where it is;
running out of turns stands for that loop. -/
def optionLoop (maxMss : UInt16) (dataOffset : ℕ) :
    ℕ → ℕ → Bytes → Except Fault (Bool × Bytes)
  | 0, _, _ => .error .diverges
  | turns + 1, optIdx, tcp => do
    if dataOffset ≤ optIdx ∨ tcp.length ≤ optIdx then return (false, tcp)
    let kind ← byteAt tcp optIdx
    if kind = 0 then return (false, tcp)
    else if kind = 1 then optionLoop maxMss dataOffset turns (optIdx + 1) tcp
    else if kind = 2 then
      if optIdx + 4 ≤ tcp.length ∧ tcp[optIdx + 1]? = some 4 then
        let oldMss ← wordAt tcp (optIdx + 2)
        if oldMss > maxMss then
          let tcp := putWord tcp (optIdx + 2) maxMss
          let oldChecksum ← wordAt tcp 16
          return (true, putWord tcp 16 (updateChecksum oldChecksum oldMss maxMss))
      let len ← byteAt tcp (optIdx + 1)
      optionLoop maxMss dataOffset turns (optIdx + len.toNat) tcp
    else
      if tcp.length ≤ optIdx + 1 then return (false, tcp)
      let len ← byteAt tcp (optIdx + 1)
      if len < 2 then return (false, tcp)
      optionLoop maxMss dataOffset turns (optIdx + len.toNat) tcp

def clampTcpSegment (tcp : Bytes) (maxMss : UInt16) : Except Fault (Bool × Bytes) := do
  if tcp.length < 20 then return (false, tcp)
  let offsetByte ← byteAt tcp 12
  let flags ← byteAt tcp 13
  let dataOffset := ((offsetByte >>> 4) * 4).toNat
  if flags &&& 0x02 = 0 ∨ tcp.length < dataOffset ∨ dataOffset ≤ 20 then return (false, tcp)
  optionLoop maxMss dataOffset (tcp.length + 1) 20 tcp

/-- The clamped part goes back behind the bytes before it. -/
def clampAt (packet : Bytes) (start : ℕ) (maxMss : UInt16) : Except Fault (Bool × Bytes) := do
  let (clamped, tcp) ← clampTcpSegment (packet.drop start) maxMss
  return (clamped, packet.take start ++ tcp)

def clampIpv4TcpMss (packet : Bytes) (maxMss : UInt16) : Except Fault (Bool × Bytes) := do
  if packet.length < 20 then return (false, packet)
  let versionByte ← byteAt packet 0
  let ihl := ((versionByte &&& 0x0F) * 4).toNat
  let protocol ← byteAt packet 9
  if protocol ≠ 6 ∨ packet.length < ihl + 20 then return (false, packet)
  clampAt packet ihl maxMss

def clampIpv6TcpMss (packet : Bytes) (maxMss : UInt16) : Except Fault (Bool × Bytes) := do
  if packet.length < 40 then return (false, packet)
  let nextHeader ← byteAt packet 6
  if nextHeader ≠ 6 ∨ packet.length < 40 + 20 then return (false, packet)
  clampAt packet 40 maxMss

/-- Whether the MSS was clamped, and the packet. -/
def clampTcpMss (packet : Bytes) (maxMss : UInt16) : Except Fault (Bool × Bytes) :=
  match packet with
  | [] => .ok (false, packet)
  | b :: _ =>
    match (b >>> 4).toNat with
    | 4 => clampIpv4TcpMss packet maxMss
    | 6 => clampIpv6TcpMss packet maxMss
    | _ => .ok (false, packet)

end MssFix

end VpnHub.Protocol
