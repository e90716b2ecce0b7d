import VpnHub.Program.Push
import VpnHub.Verification.Codec

/-! The header of a data packet: three bytes of it hold a peer id, for which a server can push any
32-bit number. -/

namespace VpnHub.Protocol.DataPacket

open BigEndian

variable {opcode : Opcode} {keyId : UInt8} {peerId : Option UInt32} {packetId : UInt32}
  {payload src rest : Bytes}

/-- The decoder gives back what the header was written from; the old format has no peer id. -/
def RoundTrips (opcode : Opcode) (keyId : UInt8) (peerId : Option UInt32) (packetId : UInt32)
    (payload : Bytes) : Prop :=
  decode (encodeHeader opcode keyId peerId packetId ++ payload) =
    .ok (opcode, keyId, if opcode = .dataV2 then peerId else none, packetId, payload)

theorem encodeHeader_dataV1 (keyId : UInt8) (peerId : Option UInt32) (packetId : UInt32) :
    encodeHeader .dataV1 keyId peerId packetId = encodeHeader .dataV1 keyId none packetId := rfl

theorem roundTrips_dataV1 (hkey : keyId &&& 0x07 = keyId) :
    RoundTrips .dataV1 keyId peerId packetId payload := by
  have h := decode_encodeHeader_append none keyId packetId payload
  rw [hkey] at h
  rw [RoundTrips, encodeHeader_dataV1]
  exact h

theorem roundTrips_dataV2_iff (hkey : keyId &&& 0x07 = keyId) {id : UInt32} :
    RoundTrips .dataV2 keyId (some id) packetId payload ↔ id.toNat < 2 ^ 24 := by
  have h := decode_encodeHeader_append (some id) keyId packetId payload
  rw [hkey] at h
  have h : decode (encodeHeader .dataV2 keyId (some id) packetId ++ payload) =
      .ok (.dataV2, keyId, some (cutPeerId id), packetId, payload) := h
  rw [RoundTrips, h, ← cutPeerId_eq_self]
  simp

/-! ## Back to the bytes -/

theorem encodeHeader_of_dataV1 {headerByte : UInt8}
    (hparse : parseHeaderByte headerByte = .ok (.dataV1, keyId)) (hlength : 4 ≤ src.length) :
    encodeHeader .dataV1 keyId none (getU32 src).1 ++ (getU32 src).2 = headerByte :: src := by
  have hheader := (encodeHeaderByte_of_parse hparse).2
  have hid := putU32_getU32 hlength
  simp only [encodeHeader, hheader]
  simpa using hid

theorem encodeHeader_of_dataV2 {headerByte p0 p1 p2 : UInt8}
    (hparse : parseHeaderByte headerByte = .ok (.dataV2, keyId)) (hlength : 4 ≤ src.length) :
    encodeHeader .dataV2 keyId
        (some ((p0.toUInt32 <<< 16) ||| (p1.toUInt32 <<< 8) ||| p2.toUInt32)) (getU32 src).1 ++
      (getU32 src).2 = headerByte :: p0 :: p1 :: p2 :: src := by
  have hheader := (encodeHeaderByte_of_parse hparse).2
  have hid := putU32_getU32 hlength
  obtain ⟨hhigh, hmid, hlow⟩ := split_peerId p0 p1 p2
  simp only [encodeHeader, hheader, if_true, Option.getD_some, hhigh, hmid, hlow]
  simpa using hid

/-- What the decoder accepts is the header written from what it returns, and the rest. -/
theorem encodeHeader_of_decode
    (h : decode src = .ok (opcode, keyId, peerId, packetId, rest)) :
    encodeHeader opcode keyId peerId packetId ++ rest = src := by
  cases src with
  | nil => cases h
  | cons headerByte src =>
      simp only [decode, bind, Except.bind] at h
      cases hparse : parseHeaderByte headerByte with
      | error e =>
          rw [hparse] at h
          cases h
      | ok parsed =>
          obtain ⟨opcode', keyId'⟩ := parsed
          rw [hparse] at h
          cases opcode' with
          | dataV2 =>
              rcases src with _ | ⟨p0, _ | ⟨p1, _ | ⟨p2, src⟩⟩⟩
              · cases h
              · cases h
              · cases h
              · simp only at h
                split at h
                · cases h
                · rename_i hlong
                  cases h
                  simp only [List.length_cons] at hlong
                  exact encodeHeader_of_dataV2 hparse (by omega)
          | dataV1 =>
              simp only at h
              split at h
              · cases h
              · cases h
                exact encodeHeader_of_dataV1 hparse (by omega)
          | _ => cases h

/-! ## The round trip -/

/-- A header keeps the peer id that it carries when three bytes are enough for it, and what is
decoded encodes to the bytes it was decoded from. -/
theorem round_trips_iff (opcode : Opcode) (keyId : UInt8) (peerId : Option UInt32)
    (packetId : UInt32) (payload src : Bytes) (hdata : opcode.isData = true) (hkey : keyId < 8)
    (hpeer : opcode = .dataV2 → peerId.isSome = true) :
    (RoundTrips opcode keyId peerId packetId payload ↔
      (opcode = .dataV2 → ∀ id ∈ peerId, id.toNat < 2 ^ 24)) ∧
    ∀ opcode keyId peerId packetId rest,
      decode src = .ok (opcode, keyId, peerId, packetId, rest) →
        encodeHeader opcode keyId peerId packetId ++ rest = src := by
  refine ⟨?_, fun opcode keyId peerId packetId rest => encodeHeader_of_decode⟩
  cases opcode with
  | dataV1 => simpa using roundTrips_dataV1 (and_seven hkey)
  | dataV2 =>
      obtain ⟨id, rfl⟩ := Option.isSome_iff_exists.mp (hpeer rfl)
      simpa using roundTrips_dataV2_iff (and_seven hkey)
  | _ => cases hdata

/-- The largest peer id that three bytes hold. -/
theorem round_trips_iff_largest :
    RoundTrips .dataV2 2 (some 0xFFFFFF) 7 [1, 2] ∧
      encodeHeader .dataV2 2 (some 0xFFFFFF) 7 ++ [1, 2] =
        [74, 0xFF, 0xFF, 0xFF, 0, 0, 0, 7, 1, 2] := by
  obtain ⟨hround, hback⟩ := round_trips_iff .dataV2 2 (some 0xFFFFFF) 7 [1, 2]
    [74, 0xFF, 0xFF, 0xFF, 0, 0, 0, 7, 1, 2] rfl (by decide) fun _ => rfl
  refine ⟨hround.mpr fun _ id hid => ?_, hback _ _ _ _ _ (by decide)⟩
  obtain rfl := Option.some.inj hid
  decide

/-- A pushed peer id of 2^24 + 1 goes out as 1. -/
theorem peer_id_cut :
    ((Config.parsePushReply "PUSH_REPLY,peer-id 16777217".toList).map (·.peerId) =
      .ok (some 16777217)) ∧
    ¬ ∀ opcode keyId peerId packetId payload, opcode.isData = true → keyId < 8 →
      RoundTrips opcode keyId (some peerId) packetId payload := by
  refine ⟨by decide +kernel, fun hclaim => ?_⟩
  have h := hclaim .dataV2 0 16777217 1 [] rfl (by decide)
  revert h
  rw [RoundTrips]
  decide

end VpnHub.Protocol.DataPacket
