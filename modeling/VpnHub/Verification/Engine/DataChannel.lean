import VpnHub.Program.Engine

/-! What the data channel operations of the engine do, one equation for each outcome. -/

namespace VpnHub.Protocol

open Config Crypto

/-- A slot that answers to a key id is the one its reference points to. -/
theorem KeySlotManager.getRxSlot_eq_some {m : KeySlotManager} {keyId : UInt8} {ref : SlotRef}
    {slot : KeySlot} (h : m.getRxSlot keyId = some (ref, slot)) :
    slot.keyId = keyId ∧
      (ref = .primary ∧ m.primary = some slot ∨ ref = .secondary ∧ m.secondary = some slot) := by
  simp only [getRxSlot] at h
  cases hp : m.primary.filter (·.keyId = keyId) with
  | some found =>
      rw [hp] at h
      obtain ⟨rfl, rfl⟩ : SlotRef.primary = ref ∧ found = slot := by simpa using h
      obtain ⟨hm, hk⟩ := Option.filter_eq_some_iff.mp hp
      exact ⟨by simpa using hk, .inl ⟨rfl, hm⟩⟩
  | none =>
      rw [hp] at h
      cases hs : m.secondary.filter (·.keyId = keyId) with
      | none => simp [hs] at h
      | some found =>
          rw [hs] at h
          obtain ⟨rfl, rfl⟩ : SlotRef.secondary = ref ∧ found = slot := by simpa using h
          obtain ⟨hm, hk⟩ := Option.filter_eq_some_iff.mp hs
          exact ⟨by simpa using hk, .inr ⟨rfl, hm⟩⟩

namespace ProtocolEngine

variable {Conn : Type} {env : Env Conn} {e : ProtocolEngine Conn}

/-- The engine after a write through a slot reference. -/
def withSlot (e : ProtocolEngine Conn) (ref : SlotRef) (slot : KeySlot) : ProtocolEngine Conn :=
  { e with keyManager := e.keyManager.setSlot ref slot }

@[simp] theorem run_writeSlot_bind {α : Type} (ref : SlotRef) (slot : KeySlot)
    (f : Unit → EngineM Conn α) :
    (writeSlot ref slot >>= f).run e = (f ()).run (e.withSlot ref slot) := rfl

@[simp] theorem setSlot_setSlot (m : KeySlotManager) (ref : SlotRef) (slot slot' : KeySlot) :
    (m.setSlot ref slot).setSlot ref slot' = m.setSlot ref slot' := by
  cases ref <;> rfl

@[simp] theorem withSlot_withSlot (ref : SlotRef) (slot slot' : KeySlot) :
    (e.withSlot ref slot).withSlot ref slot' = e.withSlot ref slot' := by
  simp [withSlot]

/-! ## Dispatch -/

section Dispatch

variable {packet : Bytes}

/-- The key id of a datagram that starts with a data opcode. -/
def dataKeyId (packet : Bytes) : Option UInt8 :=
  match packet with
  | [] => none
  | headerByte :: _ =>
    match parseHeaderByte headerByte with
    | .ok (opcode, keyId) => if opcode.isData then some keyId else none
    | .error _ => none

theorem run_processNetworkPacket_data {keyId : UInt8} (h : dataKeyId packet = some keyId)
    (now : Instant) :
    (processNetworkPacket env now packet).run e =
      (processIncomingDataPacket env keyId packet).run { e with lastPacketRecv := now } := by
  cases packet with
  | nil => simp [dataKeyId] at h
  | cons headerByte rest =>
      simp only [dataKeyId] at h
      cases hp : parseHeaderByte headerByte with
      | error err => simp [hp] at h
      | ok header =>
          obtain ⟨opcode, kid⟩ := header
          rw [hp] at h
          simp only [Option.ite_none_right_eq_some, Option.some.injEq] at h
          obtain ⟨hdata, rfl⟩ := h
          simp only [processNetworkPacket, Prog.run_modify_bind, hp, Prog.run_ofExcept_ok_bind,
            hdata, if_true]

/-- Whether a datagram starts with a control opcode. -/
def startsControl (packet : Bytes) : Bool :=
  match packet with
  | [] => false
  | headerByte :: _ =>
    match parseHeaderByte headerByte with
    | .ok (opcode, _) => !opcode.isData
    | .error _ => false

theorem run_processNetworkPacket_control (h : startsControl packet = true) (now : Instant) :
    (processNetworkPacket env now packet).run e =
      (processIncomingControlPacket env now packet).run { e with lastPacketRecv := now } := by
  cases packet with
  | nil => simp [startsControl] at h
  | cons headerByte rest =>
      simp only [startsControl] at h
      cases hp : parseHeaderByte headerByte with
      | error err => simp [hp] at h
      | ok header =>
          obtain ⟨opcode, kid⟩ := header
          have hdata : opcode.isData = false := by simpa [hp] using h
          simp only [processNetworkPacket, Prog.run_modify_bind, hp, Prog.run_ofExcept_ok_bind,
            hdata, Bool.false_eq_true, if_false]

/-- An empty datagram is ignored and an unknown opcode is an error, both before anything but
the time of the last packet has changed. -/
theorem run_processNetworkPacket_other (env : Env Conn) (e : ProtocolEngine Conn)
    (hd : dataKeyId packet = none) (hc : startsControl packet = false) (now : Instant) :
    ∃ r, (processNetworkPacket env now packet).run e =
      some (r, { e with lastPacketRecv := now }) := by
  cases packet with
  | nil => exact ⟨.ok (), rfl⟩
  | cons headerByte rest =>
      simp only [dataKeyId] at hd
      simp only [startsControl] at hc
      cases hp : parseHeaderByte headerByte with
      | error err =>
          refine ⟨.error err, ?_⟩
          simp only [processNetworkPacket, Prog.run_modify_bind, hp, Prog.run_ofExcept_error_bind]
      | ok header =>
          rw [hp] at hd hc
          have hdata : header.1.isData = true := by simpa using hc
          simp [hdata] at hd

end Dispatch

/-! ## Receiving -/

section Receiving

variable {keyId kid : UInt8} {packet payload : Bytes} {op : Opcode} {peerId : Option UInt32}
  {packetId : UInt32} {ref : SlotRef} {slot : KeySlot}

theorem data_run_of_decode_error {err : ProtocolError} (hd : DataPacket.decode packet = .error err) :
    (processIncomingDataPacket env keyId packet).run e = some (.error err, e) := by
  rw [processIncomingDataPacket, hd]
  exact Prog.run_bind_of_error rfl

theorem data_run_of_no_slot
    (hd : DataPacket.decode packet = .ok (op, kid, peerId, packetId, payload))
    (hs : e.keyManager.getRxSlot keyId = none) :
    (processIncomingDataPacket env keyId packet).run e = some
      (.error (.invalidFraming ("No key slot for key_id ".toList ++ Text.ofNat keyId.toNat)), e) := by
  rw [processIncomingDataPacket, hd]
  simp only [Prog.run_ofExcept_ok_bind, Prog.run_get_bind, hs, Prog.run_throw]

/-- The slot after the replay check. -/
def checkedSlot (slot : KeySlot) (packetId : UInt32) : KeySlot :=
  { slot with antiReplay := (slot.antiReplay.checkAndUpdate packetId.toUInt64).2 }

theorem data_run_of_replayed (env : Env Conn) {err : CryptoError}
    (hd : DataPacket.decode packet = .ok (op, kid, peerId, packetId, payload))
    (hs : e.keyManager.getRxSlot keyId = some (ref, slot))
    (hw : (slot.antiReplay.checkAndUpdate packetId.toUInt64).1 = .error err) :
    (processIncomingDataPacket env keyId packet).run e = some
      (.error (.crypto err), e.withSlot ref (checkedSlot slot packetId)) := by
  rw [processIncomingDataPacket, hd]
  simp only [Prog.run_ofExcept_ok_bind, Prog.run_get_bind, hs, run_writeSlot_bind, hw]
  exact Prog.run_bind_of_error rfl

theorem data_run_of_short
    (hd : DataPacket.decode packet = .ok (op, kid, peerId, packetId, payload))
    (hs : e.keyManager.getRxSlot keyId = some (ref, slot))
    (hw : (slot.antiReplay.checkAndUpdate packetId.toUInt64).1 = .ok ())
    (hlen : payload.length < 16) :
    (processIncomingDataPacket env keyId packet).run e = some
      (.error (.invalidFraming "Data packet payload too short for AEAD tag".toList),
        e.withSlot ref (checkedSlot slot packetId)) := by
  rw [processIncomingDataPacket, hd]
  simp only [Prog.run_ofExcept_ok_bind, Prog.run_get_bind, hs, run_writeSlot_bind, hw,
    Except.mapError, hlen, ↓reduceIte, Prog.run_throw_bind]
  rfl

/-- The plaintext a slot makes of a data packet. -/
def openPayload (env : Env Conn) (slot : KeySlot) (packetId : UInt32) (packet payload : Bytes) :
    Except CryptoError Bytes :=
  slot.rxCipher.decryptInPlace env.aead (nonceOf packetId slot.rxImplicitIv)
    (packet.take (packet.length - payload.length)) (payload.drop 16) (payload.take 16)

theorem data_run_of_forged {err : CryptoError}
    (hd : DataPacket.decode packet = .ok (op, kid, peerId, packetId, payload))
    (hs : e.keyManager.getRxSlot keyId = some (ref, slot))
    (hw : (slot.antiReplay.checkAndUpdate packetId.toUInt64).1 = .ok ())
    (hlen : 16 ≤ payload.length)
    (hopen : openPayload env slot packetId packet payload = .error err) :
    (processIncomingDataPacket env keyId packet).run e = some
      (.error (.crypto err), e.withSlot ref (checkedSlot slot packetId)) := by
  rw [openPayload] at hopen
  rw [processIncomingDataPacket, hd]
  simp only [Prog.run_ofExcept_ok_bind, Prog.run_get_bind, hs, run_writeSlot_bind, hw,
    Except.mapError, Nat.not_lt.mpr hlen, ↓reduceIte]
  exact Prog.run_bind_of_error (by rw [hopen]; rfl)

theorem data_run_of_authentic {plaintext : Bytes}
    (hd : DataPacket.decode packet = .ok (op, kid, peerId, packetId, payload))
    (hs : e.keyManager.getRxSlot keyId = some (ref, slot))
    (hw : (slot.antiReplay.checkAndUpdate packetId.toUInt64).1 = .ok ())
    (hlen : 16 ≤ payload.length)
    (hopen : openPayload env slot packetId packet payload = .ok plaintext) :
    (processIncomingDataPacket env keyId packet).run e =
      (deliverToTun plaintext : EngineM Conn Unit).run (e.withSlot ref
        { checkedSlot slot packetId with
          bytesReceived := slot.bytesReceived + UInt64.ofNat plaintext.length }) := by
  rw [openPayload] at hopen
  rw [processIncomingDataPacket, hd]
  simp only [Prog.run_ofExcept_ok_bind, Prog.run_get_bind, hs, run_writeSlot_bind, hw,
    Except.mapError, Nat.not_lt.mpr hlen, ↓reduceIte]
  rw [hopen]
  simp only [Prog.run_ofExcept_ok_bind, run_writeSlot_bind, withSlot_withSlot]
  rfl

end Receiving

/-- What goes to the TUN device for a decrypted payload. -/
def tunActions (plaintext : Bytes) : List OutputAction :=
  if startsWithMagic plaintext keepaliveMagic ∨ startsWithMagic plaintext explicitExitNotifyMagic then
    []
  else if isIpPacket plaintext then [.sendToTun plaintext]
  else []

theorem run_deliverToTun (plaintext : Bytes) :
    (deliverToTun plaintext : EngineM Conn Unit).run e =
      some (.ok (), { e with outbox := e.outbox ++ tunActions plaintext }) := by
  unfold deliverToTun tunActions
  by_cases hk : startsWithMagic plaintext keepaliveMagic = true
  · simp [hk]
  · by_cases hx : startsWithMagic plaintext explicitExitNotifyMagic = true
    · simp [hk, hx]
    · by_cases hip : isIpPacket plaintext = true
      · simp [hk, hx, hip, pushAction]
      · simp [hk, hx, hip]

/-- The engine after an authentic data packet. -/
def received (e : ProtocolEngine Conn) (ref : SlotRef) (slot : KeySlot) (packetId : UInt32)
    (plaintext : Bytes) : ProtocolEngine Conn :=
  { e.withSlot ref { checkedSlot slot packetId with
      bytesReceived := slot.bytesReceived + UInt64.ofNat plaintext.length } with
    outbox := e.outbox ++ tunActions plaintext }

/-- The six ways in which a data packet can end. -/
inductive DataOutcome (env : Env Conn) (e : ProtocolEngine Conn) (keyId : UInt8) (packet : Bytes) :
    Except ProtocolError Unit → ProtocolEngine Conn → Prop where
  | badHeader {err : ProtocolError} (hd : DataPacket.decode packet = .error err) :
      DataOutcome env e keyId packet (.error err) e
  | noSlot {op kid peerId packetId payload}
      (hd : DataPacket.decode packet = .ok (op, kid, peerId, packetId, payload))
      (hs : e.keyManager.getRxSlot keyId = none) :
      DataOutcome env e keyId packet (.error (.invalidFraming
        ("No key slot for key_id ".toList ++ Text.ofNat keyId.toNat))) e
  | replayed {op kid peerId packetId payload ref slot} {err : CryptoError}
      (hd : DataPacket.decode packet = .ok (op, kid, peerId, packetId, payload))
      (hs : e.keyManager.getRxSlot keyId = some (ref, slot))
      (hw : (slot.antiReplay.checkAndUpdate packetId.toUInt64).1 = .error err) :
      DataOutcome env e keyId packet (.error (.crypto err))
        (e.withSlot ref (checkedSlot slot packetId))
  | short {op kid peerId packetId payload ref slot}
      (hd : DataPacket.decode packet = .ok (op, kid, peerId, packetId, payload))
      (hs : e.keyManager.getRxSlot keyId = some (ref, slot))
      (hw : (slot.antiReplay.checkAndUpdate packetId.toUInt64).1 = .ok ())
      (hlen : payload.length < 16) :
      DataOutcome env e keyId packet
        (.error (.invalidFraming "Data packet payload too short for AEAD tag".toList))
        (e.withSlot ref (checkedSlot slot packetId))
  | forged {op kid peerId packetId payload ref slot} {err : CryptoError}
      (hd : DataPacket.decode packet = .ok (op, kid, peerId, packetId, payload))
      (hs : e.keyManager.getRxSlot keyId = some (ref, slot))
      (hw : (slot.antiReplay.checkAndUpdate packetId.toUInt64).1 = .ok ())
      (hlen : 16 ≤ payload.length)
      (hopen : openPayload env slot packetId packet payload = .error err) :
      DataOutcome env e keyId packet (.error (.crypto err))
        (e.withSlot ref (checkedSlot slot packetId))
  | authentic {op kid peerId packetId payload ref slot plaintext}
      (hd : DataPacket.decode packet = .ok (op, kid, peerId, packetId, payload))
      (hs : e.keyManager.getRxSlot keyId = some (ref, slot))
      (hw : (slot.antiReplay.checkAndUpdate packetId.toUInt64).1 = .ok ())
      (hlen : 16 ≤ payload.length)
      (hopen : openPayload env slot packetId packet payload = .ok plaintext) :
      DataOutcome env e keyId packet (.ok ()) (e.received ref slot packetId plaintext)

/-- Every data packet ends in one of these ways; none makes the engine panic or hang. -/
theorem exists_dataOutcome (env : Env Conn) (e : ProtocolEngine Conn) (keyId : UInt8)
    (packet : Bytes) :
    ∃ r e', (processIncomingDataPacket env keyId packet).run e = some (r, e') ∧
      DataOutcome env e keyId packet r e' := by
  cases hd : DataPacket.decode packet with
  | error err => exact ⟨_, _, data_run_of_decode_error hd, .badHeader hd⟩
  | ok header =>
      obtain ⟨op, kid, peerId, packetId, payload⟩ := header
      cases hs : e.keyManager.getRxSlot keyId with
      | none => exact ⟨_, _, data_run_of_no_slot hd hs, .noSlot hd hs⟩
      | some found =>
          obtain ⟨ref, slot⟩ := found
          cases hw : (slot.antiReplay.checkAndUpdate packetId.toUInt64).1 with
          | error err => exact ⟨_, _, data_run_of_replayed env hd hs hw, .replayed hd hs hw⟩
          | ok =>
              by_cases hlen : payload.length < 16
              · exact ⟨_, _, data_run_of_short hd hs hw hlen, .short hd hs hw hlen⟩
              · have hlen : 16 ≤ payload.length := Nat.not_lt.mp hlen
                cases hopen : openPayload env slot packetId packet payload with
                | error err =>
                    exact ⟨_, _, data_run_of_forged hd hs hw hlen hopen,
                      .forged hd hs hw hlen hopen⟩
                | ok plaintext =>
                    have hrun := data_run_of_authentic hd hs hw hlen hopen
                    rw [run_deliverToTun] at hrun
                    exact ⟨_, _, hrun, .authentic hd hs hw hlen hopen⟩

theorem dataOutcome_of_run {keyId : UInt8} (hd : dataKeyId packet = some keyId) {now : Instant}
    {r : Except ProtocolError Unit}
    (hrun : (processNetworkPacket env now packet).run e = some (r, e')) :
    DataOutcome env { e with lastPacketRecv := now } keyId packet r e' := by
  rw [run_processNetworkPacket_data hd] at hrun
  obtain ⟨r₁, e₁, hrun₁, hout⟩ :=
    exists_dataOutcome env { e with lastPacketRecv := now } keyId packet
  obtain ⟨rfl, rfl⟩ : r₁ = r ∧ e₁ = e' := by simpa using hrun₁.symm.trans hrun
  exact hout

/-- A datagram is one of the data channel, one of the control channel, or nothing to the engine. -/
theorem processNetworkPacket_cases {now : Instant} {r : Except ProtocolError Unit}
    (hrun : (processNetworkPacket env now packet).run e = some (r, e')) :
    (∃ keyId, DataOutcome env { e with lastPacketRecv := now } keyId packet r e') ∨
      (startsControl packet = true ∧ (processIncomingControlPacket env now packet).run
        { e with lastPacketRecv := now } = some (r, e')) ∨
      e' = { e with lastPacketRecv := now } := by
  cases hd : dataKeyId packet with
  | some keyId => exact .inl ⟨keyId, dataOutcome_of_run hd hrun⟩
  | none =>
      cases hc : startsControl packet with
      | true =>
          rw [run_processNetworkPacket_control hc] at hrun
          exact .inr (.inl ⟨rfl, hrun⟩)
      | false =>
          obtain ⟨r₁, hrun₁⟩ := run_processNetworkPacket_other env e hd hc now
          obtain ⟨-, rfl⟩ : r₁ = r ∧ _ = e' := by simpa using hrun₁.symm.trans hrun
          exact .inr (.inr rfl)

/-! ## Sending -/

section Sending

variable {slot : KeySlot} {plaintext ciphertext : Bytes} {tag : FixedBytes 16}

/-- The header of the next frame, with the peer id when the server has assigned one. -/
def txHeader (e : ProtocolEngine Conn) (slot : KeySlot) : Bytes :=
  DataPacket.encodeHeader (if e.peerId.isSome then .dataV2 else .dataV1) slot.keyId e.peerId
    slot.txPacketId

def sealPayload (env : Env Conn) (e : ProtocolEngine Conn) (slot : KeySlot) (plaintext : Bytes) :
    Except CryptoError (Bytes × FixedBytes 16) :=
  slot.txCipher.encryptInPlace env.aead (nonceOf slot.txPacketId slot.txImplicitIv)
    (e.txHeader slot) plaintext

/-- The engine after a frame has been sealed with the given slot. -/
def sent (e : ProtocolEngine Conn) (slot : KeySlot) (ciphertext : Bytes) (tag : FixedBytes 16) :
    ProtocolEngine Conn :=
  { e.withSlot .primary { slot.nextTxPacketId.2 with
      bytesSent := slot.bytesSent + UInt64.ofNat ciphertext.length } with
    seals := e.seals ++
      [{ serial := slot.serial, nonce := nonceOf slot.txPacketId slot.txImplicitIv }]
    outbox := e.outbox ++ [.sendToNetwork (e.txHeader slot ++ tag.val ++ ciphertext)] }

/-- A packet id is used up also when the encryption fails. -/
theorem run_sealAndSend_of_error {err : CryptoError}
    (h : sealPayload env e slot plaintext = .error err) :
    (sealAndSend env slot plaintext).run e =
      some (.error (.crypto err), e.withSlot .primary slot.nextTxPacketId.2) := by
  rw [sealPayload, txHeader] at h
  simp only [sealAndSend, Prog.run_get_bind, KeySlot.nextTxPacketId, run_writeSlot_bind, h]
  exact Prog.run_bind_of_error rfl

theorem run_sealAndSend_of_ok (h : sealPayload env e slot plaintext = .ok (ciphertext, tag)) :
    (sealAndSend env slot plaintext).run e = some (.ok (), e.sent slot ciphertext tag) := by
  rw [sealPayload, txHeader] at h
  simp only [sealAndSend, Prog.run_get_bind, KeySlot.nextTxPacketId, run_writeSlot_bind, h,
    Except.mapError, Prog.run_ofExcept_ok_bind, withSlot_withSlot, Prog.run_modify_bind]
  rfl

end Sending

end ProtocolEngine

end VpnHub.Protocol
