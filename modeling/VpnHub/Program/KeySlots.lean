import VpnHub.Program.Aead
import VpnHub.Program.AntiReplay

/-! Data channel key slots of `ovpn-protocol/src/key_slots.rs`. -/

namespace VpnHub.Protocol

open Crypto

structure DirectionalKey where
  cipherKey : Bytes
  hmacKey : Bytes
  deriving DecidableEq, Repr

structure SessionKeySet where
  keyId : UInt8
  txKey : DirectionalKey
  rxKey : DirectionalKey
  deriving DecidableEq, Repr

/-- The last two are ghost fields that no operation reads: `serial` counts the installations
before this one and tells slots with the same key id apart, `allocated` counts the packet ids
handed out. -/
structure KeySlot where
  keyId : UInt8
  txCipher : SymmCipher
  rxCipher : SymmCipher
  txImplicitIv : FixedBytes 8
  rxImplicitIv : FixedBytes 8
  antiReplay : AntiReplayWindow
  txPacketId : UInt32
  createdAt : Instant
  bytesSent : UInt64
  bytesReceived : UInt64
  serial : ℕ
  allocated : ℕ
  deriving DecidableEq

namespace KeySlot

/-- The first eight bytes of an HMAC key, or zeros when it is shorter. -/
def implicitIv (hmacKey : Bytes) : FixedBytes 8 :=
  if h : 8 ≤ hmacKey.length then .copyFrom hmacKey 0 (by omega) else .zero 8

def new (sessionKeys : SessionKeySet) (cipherSuite : CipherSuite) (now : Instant)
    (serial : ℕ) : Except ProtocolError KeySlot :=
  match cipherSuite.createCipher sessionKeys.txKey.cipherKey with
  | .error e => .error (.crypto e)
  | .ok txCipher =>
    match cipherSuite.createCipher sessionKeys.rxKey.cipherKey with
    | .error e => .error (.crypto e)
    | .ok rxCipher =>
      .ok {
        keyId := sessionKeys.keyId
        txCipher
        rxCipher
        txImplicitIv := implicitIv sessionKeys.txKey.hmacKey
        rxImplicitIv := implicitIv sessionKeys.rxKey.hmacKey
        antiReplay := .new
        txPacketId := 1
        createdAt := now
        bytesSent := 0
        bytesReceived := 0
        serial
        allocated := 0 }

/-- The id to use and the slot with the counter moved on, wrapping at 2^32. -/
def nextTxPacketId (slot : KeySlot) : UInt32 × KeySlot :=
  (slot.txPacketId,
    { slot with txPacketId := slot.txPacketId + 1, allocated := slot.allocated + 1 })

end KeySlot

/-- `installed` is a ghost field: the number of successful installations. -/
structure KeySlotManager where
  cipherSuite : CipherSuite
  primary : Option KeySlot
  secondary : Option KeySlot
  installed : ℕ
  deriving DecidableEq

/-- Which of the two slots a mutable reference points to. -/
inductive SlotRef where
  | primary
  | secondary
  deriving DecidableEq, Repr

namespace KeySlotManager

def new (cipherSuite : CipherSuite) : KeySlotManager where
  cipherSuite := cipherSuite
  primary := none
  secondary := none
  installed := 0

def installNewKey (m : KeySlotManager) (sessionKeys : SessionKeySet) (now : Instant) :
    Except ProtocolError Unit × KeySlotManager :=
  match KeySlot.new sessionKeys m.cipherSuite now m.installed with
  | .error e => (.error e, m)
  | .ok newSlot =>
    (.ok (), { m with
      secondary := m.primary.or m.secondary
      primary := some newSlot
      installed := m.installed + 1 })

def getTxSlot (m : KeySlotManager) : Option KeySlot := m.primary

/-- The slot that answers to a key id, the primary one first. -/
def getRxSlot (m : KeySlotManager) (keyId : UInt8) : Option (SlotRef × KeySlot) :=
  match m.primary.filter (·.keyId = keyId) with
  | some slot => some (.primary, slot)
  | none =>
    match m.secondary.filter (·.keyId = keyId) with
    | some slot => some (.secondary, slot)
    | none => none

/-- A write through a slot reference. -/
def setSlot (m : KeySlotManager) (ref : SlotRef) (slot : KeySlot) : KeySlotManager :=
  match ref with
  | .primary => { m with primary := some slot }
  | .secondary => { m with secondary := some slot }

def retireSecondary (m : KeySlotManager) : KeySlotManager := { m with secondary := none }

def hasActiveKeys (m : KeySlotManager) : Bool := m.primary.isSome

end KeySlotManager

end VpnHub.Protocol
