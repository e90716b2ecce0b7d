import VpnHub.Verification.Frame

/-! The decoder of control packets accepts exactly what the encoder makes of well-formed ones. -/

namespace VpnHub.Protocol

open BigEndian

/-! ## Reading back what was read -/

/-- Four bytes are the encoding of the word they are read as. -/
theorem putU32_ofBE {bytes : Bytes} (h : bytes.length = 4) :
    putU32 (UInt32.ofNat (ofBE bytes)) = bytes := by
  have hlt := ofBE_lt bytes
  rw [h] at hlt
  have hvalue : (UInt32.ofNat (ofBE bytes)).toNat = ofBE bytes :=
    UInt32.toNat_ofNat_of_lt' (by simpa using hlt)
  rw [putU32, hvalue, toBE_ofBE_of_length h]

theorem putU64_ofBE {bytes : Bytes} (h : bytes.length = 8) :
    putU64 (UInt64.ofNat (ofBE bytes)) = bytes := by
  have hlt := ofBE_lt bytes
  rw [h] at hlt
  have hvalue : (UInt64.ofNat (ofBE bytes)).toNat = ofBE bytes :=
    UInt64.toNat_ofNat_of_lt' (by simpa using hlt)
  rw [putU64, hvalue, toBE_ofBE_of_length h]

theorem putU32_getU32 {src : Bytes} (h : 4 ≤ src.length) :
    putU32 (getU32 src).1 ++ (getU32 src).2 = src := by
  rw [getU32, putU32_ofBE (List.length_take_of_le h), List.take_append_drop]

theorem putU64_getU64 {src : Bytes} (h : 8 ≤ src.length) :
    putU64 (getU64 src).1 ++ (getU64 src).2 = src := by
  rw [getU64, putU64_ofBE (List.length_take_of_le h), List.take_append_drop]

theorem length_getU32 (src : Bytes) : (getU32 src).2.length = src.length - 4 := by
  simp [getU32]

@[simp] theorem getU32s_putU32s (xs : List UInt32) (rest : Bytes) :
    getU32s xs.length (xs.flatMap putU32 ++ rest) = (xs, rest) := by
  induction xs with
  | nil => rfl
  | cons x xs ih =>
      rw [List.flatMap_cons, List.append_assoc, List.length_cons, getU32s, getU32_putU32_append]
      simp only
      rw [ih]

theorem putU32s_getU32s {n : ℕ} {src : Bytes} (h : n * 4 ≤ src.length) :
    (getU32s n src).1.length = n ∧
      (getU32s n src).1.flatMap putU32 ++ (getU32s n src).2 = src := by
  induction n generalizing src with
  | zero => exact ⟨rfl, rfl⟩
  | succ n ih =>
      have hfirst := @putU32_getU32 src (by omega)
      have hrest : n * 4 ≤ (getU32 src).2.length := by
        rw [length_getU32]
        omega
      obtain ⟨hlength, hbytes⟩ := ih hrest
      constructor
      · rw [getU32s, List.length_cons, hlength]
      · rw [getU32s, List.flatMap_cons, List.append_assoc, hbytes, hfirst]

/-! ## Headers -/

theorem encodeHeaderByte_of_parse {byte keyId : UInt8} {opcode : Opcode}
    (h : parseHeaderByte byte = .ok (opcode, keyId)) :
    keyId < 8 ∧ encodeHeaderByte opcode keyId = byte := by
  have hall : ∀ n : Fin 256, ((parseHeaderByte (UInt8.ofNat n)).toOption.all fun header =>
      decide (header.2 < 8) && encodeHeaderByte header.1 header.2 == UInt8.ofNat n) = true := by
    decide +kernel
  have hbyte := hall ⟨byte.toNat, byte.toNat_lt⟩
  simp only [UInt8.ofNat_toNat, h, Except.toOption] at hbyte
  simpa using hbyte

namespace ControlPacket

/-! ## Bodies -/

/-- A packet whose body the decoder can give back: the ack count fits its byte, a remote
session id stands exactly beside acks, and a packet id exactly in reliable packets. -/
structure BodyWellFormed (cp : ControlPacket) : Prop where
  acks : cp.ackArray.length ≤ 255
  remote : cp.remoteSessionId.isSome = true ↔ cp.ackArray ≠ []
  packetId : cp.packetId.isSome = cp.opcode.isReliable

structure WellFormed (cp : ControlPacket) : Prop extends BodyWellFormed cp where
  keyId : cp.keyId < 8

theorem toNat_ackLen {cp : ControlPacket} (h : cp.BodyWellFormed) :
    (UInt8.ofNat cp.ackArray.length).toNat = cp.ackArray.length := by
  have hlt : cp.ackArray.length < 256 := by
    have hacks := h.acks
    omega
  exact UInt8.toNat_ofNat_of_lt' hlt

/-- The bytes of a packet id, if there is one. -/
def idBytes : Option UInt32 → Bytes
  | some pid => putU32 pid
  | none => []

theorem encodeBody_eq (cp : ControlPacket) :
    cp.encodeBody = UInt8.ofNat cp.ackArray.length :: (cp.ackArray.flatMap putU32 ++
      ((if UInt8.ofNat cp.ackArray.length > 0 then putU64 (cp.remoteSessionId.getD 0) else []) ++
        (idBytes cp.packetId ++ cp.payload))) := by
  simp only [encodeBody, List.append_assoc]
  cases cp.packetId with
  | some pid => rfl
  | none => rfl

/-- The end of the decoder: a packet id where the opcode is reliable, and the payload. -/
def decodeTail (opcode : Opcode) (keyId : UInt8) (sessionId : UInt64) (ackArray : List UInt32)
    (remoteSessionId : Option UInt64) (src : Bytes) : Except ProtocolError ControlPacket :=
  if opcode.isReliable then
    if src.length < 4 then
      .error (.invalidFraming "Missing packet ID in reliable packet".toList)
    else .ok { opcode, keyId, sessionId, ackArray, remoteSessionId,
               packetId := some (getU32 src).1, payload := (getU32 src).2 }
  else .ok { opcode, keyId, sessionId, ackArray, remoteSessionId, packetId := none, payload := src }

theorem decodeBody_cons (opcode : Opcode) (keyId : UInt8) (sessionId : UInt64) (ackByte : UInt8)
    (src : Bytes) :
    decodeBody opcode keyId sessionId (ackByte :: src) =
      if src.length < ackByte.toNat * 4 then
        .error (.invalidFraming "Not enough bytes for ACK array".toList)
      else if ackByte.toNat > 0 then
        if (getU32s ackByte.toNat src).2.length < 8 then
          .error (.invalidFraming "Missing remote session ID in ACK".toList)
        else decodeTail opcode keyId sessionId (getU32s ackByte.toNat src).1
          (some (getU64 (getU32s ackByte.toNat src).2).1) (getU64 (getU32s ackByte.toNat src).2).2
      else decodeTail opcode keyId sessionId (getU32s ackByte.toNat src).1 none
        (getU32s ackByte.toNat src).2 := by
  simp only [decodeBody, decodeTail, pure_bind]
  split
  · rfl
  · split
    · split
      · rfl
      · split
        · split
          · rfl
          · rfl
        · rfl
    · split
      · split
        · rfl
        · rfl
      · rfl

theorem decodeTail_idBytes {cp : ControlPacket} (h : cp.packetId.isSome = cp.opcode.isReliable) :
    decodeTail cp.opcode cp.keyId cp.sessionId cp.ackArray cp.remoteSessionId
      (idBytes cp.packetId ++ cp.payload) = .ok cp := by
  obtain ⟨opcode, keyId, sessionId, acks, remote, packetId, payload⟩ := cp
  cases packetId with
  | some pid =>
      have hrel : opcode.isReliable = true := h.symm
      have hlength : ¬ (idBytes (some pid) ++ payload).length < 4 := by simp [idBytes]
      rw [decodeTail, if_pos hrel, if_neg hlength, idBytes, getU32_putU32_append]
  | none =>
      have hrel : opcode.isReliable = false := h.symm
      rw [decodeTail, if_neg (by rw [hrel]; decide)]
      rfl

theorem decodeBody_encodeBody {cp : ControlPacket} (h : cp.BodyWellFormed) :
    decodeBody cp.opcode cp.keyId cp.sessionId cp.encodeBody = .ok cp := by
  have hlen := toNat_ackLen h
  have hpos : UInt8.ofNat cp.ackArray.length > 0 ↔ cp.ackArray ≠ [] := by
    rw [gt_iff_lt, UInt8.lt_iff_toNat_lt, hlen]
    simp [List.length_pos_iff]
  rw [encodeBody_eq, decodeBody_cons, hlen, if_neg (by simp), getU32s_putU32s]
  by_cases hacks : cp.ackArray = []
  · have hremote : cp.remoteSessionId = none := by
      simpa [hacks] using h.remote
    have hzero : ¬ UInt8.ofNat cp.ackArray.length > 0 := fun hgt => hpos.mp hgt hacks
    rw [if_neg (by simp [hacks]), if_neg hzero, List.nil_append, ← hremote]
    exact decodeTail_idBytes h.packetId
  · obtain ⟨sid, hremote⟩ := Option.isSome_iff_exists.mp (h.remote.mpr hacks)
    rw [if_pos (List.length_pos_iff.mpr hacks), if_pos (hpos.mpr hacks)]
    simp only [hremote, Option.getD_some]
    rw [if_neg (by simp), getU64_putU64_append, ← hremote]
    exact decodeTail_idBytes h.packetId

theorem decodeTail_ok {opcode : Opcode} {keyId : UInt8} {sessionId : UInt64}
    {acks : List UInt32} {remote : Option UInt64} {src : Bytes} {cp : ControlPacket}
    (h : decodeTail opcode keyId sessionId acks remote src = .ok cp) :
    cp.opcode = opcode ∧ cp.keyId = keyId ∧ cp.sessionId = sessionId ∧ cp.ackArray = acks ∧
      cp.remoteSessionId = remote ∧ cp.packetId.isSome = opcode.isReliable ∧
      idBytes cp.packetId ++ cp.payload = src := by
  rw [decodeTail] at h
  split at h
  · rename_i hrel
    split at h
    · cases h
    · rename_i hlength
      obtain rfl := Except.ok.inj h
      exact ⟨rfl, rfl, rfl, rfl, rfl, hrel.symm, putU32_getU32 (by omega)⟩
  · rename_i hrel
    obtain rfl := Except.ok.inj h
    exact ⟨rfl, rfl, rfl, rfl, rfl, by simpa using hrel, rfl⟩

theorem encodeBody_of_decodeBody {opcode : Opcode} {keyId : UInt8} {sessionId : UInt64}
    {src : Bytes} {cp : ControlPacket} (h : decodeBody opcode keyId sessionId src = .ok cp) :
    cp.opcode = opcode ∧ cp.keyId = keyId ∧ cp.sessionId = sessionId ∧ cp.BodyWellFormed ∧
      cp.encodeBody = src := by
  cases src with
  | nil => cases h
  | cons ackByte src =>
      rw [decodeBody_cons] at h
      split at h
      · cases h
      · rename_i hlength
        obtain ⟨hcount, hbytes⟩ := @putU32s_getU32s ackByte.toNat src (by omega)
        have hbound := ackByte.toNat_lt
        split at h
        · rename_i hpos
          split at h
          · cases h
          · rename_i hlength'
            obtain ⟨hop, hkey, hsid, hacks, hremote, hpid, htail⟩ := decodeTail_ok h
            have hlen : cp.ackArray.length = ackByte.toNat := by rw [hacks, hcount]
            refine ⟨hop, hkey, hsid, ⟨by omega, ?_, by rw [hop, hpid]⟩, ?_⟩
            · rw [hremote, ← List.length_pos_iff, hlen]
              simpa using hpos
            · have hback := @putU64_getU64 (getU32s ackByte.toNat src).2 (by omega)
              have hgt : UInt8.ofNat cp.ackArray.length > 0 := by
                rw [hlen, UInt8.ofNat_toNat, gt_iff_lt, UInt8.lt_iff_toNat_lt]
                exact hpos
              rw [encodeBody_eq, if_pos hgt, htail, hremote, Option.getD_some, hback, hlen,
                UInt8.ofNat_toNat, hacks, hbytes]
        · rename_i hzero
          obtain ⟨hop, hkey, hsid, hacks, hremote, hpid, htail⟩ := decodeTail_ok h
          have hlen : cp.ackArray.length = ackByte.toNat := by rw [hacks, hcount]
          refine ⟨hop, hkey, hsid, ⟨by omega, ?_, by rw [hop, hpid]⟩, ?_⟩
          · rw [hremote, ← List.length_pos_iff, hlen]
            simpa using hzero
          · have hle : ¬ UInt8.ofNat cp.ackArray.length > 0 := by
              rw [hlen, UInt8.ofNat_toNat, gt_iff_lt, UInt8.lt_iff_toNat_lt]
              exact hzero
            rw [encodeBody_eq, if_neg hle, htail, List.nil_append, hlen, UInt8.ofNat_toNat, hacks,
              hbytes]

/-! ## Packets -/

theorem decode_cons {headerByte : UInt8} {rest : Bytes} (h : 8 ≤ rest.length) :
    decode (headerByte :: rest) = (parseHeaderByte headerByte).bind fun (opcode, keyId) =>
      decodeBody opcode keyId (getU64 rest).1 (getU64 rest).2 := by
  have hlength : ¬ (headerByte :: rest).length < 9 := by
    rw [List.length_cons]
    omega
  simp only [decode, if_neg hlength]
  rfl

theorem decode_encode {cp : ControlPacket} (h : cp.WellFormed) : decode cp.encode = .ok cp := by
  simp only [encode, List.cons_append, List.nil_append]
  rw [decode_cons (by simp), parseHeaderByte_encodeHeaderByte, and_seven h.keyId,
    getU64_putU64_append]
  exact decodeBody_encodeBody h.toBodyWellFormed

/-- The decoder accepts exactly the encodings of well-formed packets, each as its packet. -/
theorem decode_eq_ok_iff (bytes : Bytes) (cp : ControlPacket) :
    decode bytes = .ok cp ↔ cp.WellFormed ∧ cp.encode = bytes := by
  constructor
  · intro h
    cases bytes with
    | nil => cases h
    | cons headerByte rest =>
        by_cases hlength : rest.length < 8
        · have hshort : (headerByte :: rest).length < 9 := Nat.succ_lt_succ hlength
          simp only [decode, if_pos hshort] at h
          cases h
        · rw [decode_cons (by omega)] at h
          cases hparse : parseHeaderByte headerByte with
          | error e =>
              rw [hparse] at h
              cases h
          | ok parsed =>
              obtain ⟨opcode, keyId⟩ := parsed
              rw [hparse] at h
              obtain ⟨hlt, hheader⟩ := encodeHeaderByte_of_parse hparse
              obtain ⟨rfl, rfl, hsid, hbody, hbytes⟩ := encodeBody_of_decodeBody h
              refine ⟨⟨hbody, hlt⟩, ?_⟩
              rw [encode, hheader, hsid, hbytes, List.append_assoc, putU64_getU64 (by omega)]
              rfl
  · rintro ⟨h, rfl⟩
    exact decode_encode h

end ControlPacket

end VpnHub.Protocol
