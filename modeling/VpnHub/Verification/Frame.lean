import Mathlib.Logic.Function.Defs
import VpnHub.Program.Frame

/-! The readers of packets undo the writers. -/

namespace VpnHub.Protocol

open BigEndian

/-! ## Words -/

@[simp] theorem length_putU32 (x : UInt32) : (putU32 x).length = 4 := length_toBE 4 x.toNat

@[simp] theorem length_putU64 (x : UInt64) : (putU64 x).length = 8 := length_toBE 8 x.toNat

@[simp] theorem ofBE_putU32 (x : UInt32) : ofBE (putU32 x) = x.toNat := by
  rw [putU32, ofBE_toBE]
  exact Nat.mod_eq_of_lt x.toNat_lt

@[simp] theorem ofBE_putU64 (x : UInt64) : ofBE (putU64 x) = x.toNat := by
  rw [putU64, ofBE_toBE]
  exact Nat.mod_eq_of_lt x.toNat_lt

theorem getU32_putU32_append (x : UInt32) (rest : Bytes) :
    getU32 (putU32 x ++ rest) = (x, rest) := by
  have htake : (putU32 x ++ rest).take 4 = putU32 x := List.take_left' (length_putU32 x)
  have hdrop : (putU32 x ++ rest).drop 4 = rest := List.drop_left' (length_putU32 x)
  rw [getU32, htake, hdrop, ofBE_putU32, UInt32.ofNat_toNat]

theorem getU64_putU64_append (x : UInt64) (rest : Bytes) :
    getU64 (putU64 x ++ rest) = (x, rest) := by
  have htake : (putU64 x ++ rest).take 8 = putU64 x := List.take_left' (length_putU64 x)
  have hdrop : (putU64 x ++ rest).drop 8 = rest := List.drop_left' (length_putU64 x)
  rw [getU64, htake, hdrop, ofBE_putU64, UInt64.ofNat_toNat]

theorem putU32_injective : Function.Injective putU32 := by
  intro x y h
  have hx := getU32_putU32_append x []
  rw [h, getU32_putU32_append] at hx
  exact (Prod.ext_iff.mp hx).1.symm

/-! ## Headers -/

theorem parseHeaderByte_encodeHeaderByte (opcode : Opcode) (keyId : UInt8) :
    parseHeaderByte (encodeHeaderByte opcode keyId) = .ok (opcode, keyId &&& 0x07) := by
  have hlow : ∃ k : Fin 8, keyId &&& 0x07 = UInt8.ofNat k := by
    have hlt : (keyId &&& 0x07).toNat < 8 := by
      have h : (keyId &&& 0x07).toNat = keyId.toNat &&& (2 ^ 3 - 1) := rfl
      rw [h, Nat.and_two_pow_sub_one_eq_mod]
      exact Nat.mod_lt _ (by decide)
    exact ⟨⟨_, hlt⟩, by simp⟩
  obtain ⟨k, hk⟩ := hlow
  have hall : ∀ op : Opcode, ∀ k : Fin 8,
      parseHeaderByte ((op.toU8 <<< 3) ||| UInt8.ofNat k) = .ok (op, UInt8.ofNat k) := by
    intro op
    cases op <;> decide
  rw [encodeHeaderByte, hk]
  exact hall opcode k

/-- A key id that fits into its three bits is not cut. -/
theorem and_seven {keyId : UInt8} (h : keyId < 8) : keyId &&& 0x07 = keyId := by
  have hlt : keyId.toNat < 8 := UInt8.lt_iff_toNat_lt.mp h
  have hand : (keyId &&& 0x07).toNat = keyId.toNat &&& (2 ^ 3 - 1) := rfl
  rw [← UInt8.toNat_inj, hand, Nat.and_two_pow_sub_one_eq_mod, Nat.mod_eq_of_lt hlt]

/-- The three bytes of a peer id that a header has room for. -/
def cutPeerId (id : UInt32) : UInt32 := UInt32.ofNat (id.toNat % 2 ^ 24)

theorem cutPeerId_eq_self {id : UInt32} : cutPeerId id = id ↔ id.toNat < 2 ^ 24 := by
  have hlt := id.toNat_lt
  rw [← UInt32.toNat_inj, cutPeerId, UInt32.toNat_ofNat']
  omega

/-- Three bytes of a header as a number, the first one the highest. -/
theorem toNat_joinPeerId (p0 p1 p2 : UInt8) :
    ((p0.toUInt32 <<< 16) ||| (p1.toUInt32 <<< 8) ||| p2.toUInt32).toNat =
      p0.toNat * 65536 + p1.toNat * 256 + p2.toNat := by
  have h0 := p0.toNat_lt
  have h1 := p1.toNat_lt
  have h2 := p2.toNat_lt
  have hhigh : p0.toNat <<< 16 % 4294967296 = p0.toNat <<< 16 := by
    rw [Nat.shiftLeft_eq]
    omega
  have hmid : p1.toNat <<< 8 % 4294967296 = p1.toNat <<< 8 := by
    rw [Nat.shiftLeft_eq]
    omega
  have hlow : p1.toNat <<< 8 + p2.toNat < 2 ^ 16 := by
    rw [Nat.shiftLeft_eq]
    omega
  simp only [UInt32.toNat_or, UInt32.toNat_shiftLeft, UInt8.toNat_toUInt32, UInt32.toNat_ofNat,
    Nat.reducePow, Nat.reduceMod, hhigh, hmid]
  rw [Nat.or_assoc, ← Nat.shiftLeft_add_eq_or_of_lt h2 p1.toNat,
    ← Nat.shiftLeft_add_eq_or_of_lt hlow p0.toNat, Nat.shiftLeft_eq, Nat.shiftLeft_eq]
  omega

/-- The bytes of a peer id in a header. -/
theorem toNat_peerIdBytes (id : UInt32) :
    ((id >>> 16) &&& 0xFF).toUInt8.toNat = id.toNat / 65536 % 256 ∧
      ((id >>> 8) &&& 0xFF).toUInt8.toNat = id.toNat / 256 % 256 ∧
      (id &&& 0xFF).toUInt8.toNat = id.toNat % 256 := by
  have hbyte (x : ℕ) : x &&& 255 = x % 256 := Nat.and_two_pow_sub_one_eq_mod x 8
  simp [hbyte, Nat.shiftRight_eq_div_pow]

/-- The bytes of a header put together again. -/
theorem join_peerId (id : UInt32) :
    (((id >>> 16) &&& 0xFF).toUInt8.toUInt32 <<< 16) |||
        (((id >>> 8) &&& 0xFF).toUInt8.toUInt32 <<< 8) ||| (id &&& 0xFF).toUInt8.toUInt32 =
      cutPeerId id := by
  obtain ⟨hhigh, hmid, hlow⟩ := toNat_peerIdBytes id
  rw [← UInt32.toNat_inj, toNat_joinPeerId, hhigh, hmid, hlow, cutPeerId, UInt32.toNat_ofNat']
  have hlt := id.toNat_lt
  omega

/-- Three bytes taken out of the peer id they make up. -/
theorem split_peerId (p0 p1 p2 : UInt8) :
    let id : UInt32 := (p0.toUInt32 <<< 16) ||| (p1.toUInt32 <<< 8) ||| p2.toUInt32
    ((id >>> 16) &&& 0xFF).toUInt8 = p0 ∧ ((id >>> 8) &&& 0xFF).toUInt8 = p1 ∧
      (id &&& 0xFF).toUInt8 = p2 := by
  intro id
  have hid : id.toNat = p0.toNat * 65536 + p1.toNat * 256 + p2.toNat := toNat_joinPeerId p0 p1 p2
  obtain ⟨hhigh, hmid, hlow⟩ := toNat_peerIdBytes id
  have h0 := p0.toNat_lt
  have h1 := p1.toNat_lt
  have h2 := p2.toNat_lt
  refine ⟨?_, ?_, ?_⟩
  · rw [← UInt8.toNat_inj, hhigh, hid]
    omega
  · rw [← UInt8.toNat_inj, hmid, hid]
    omega
  · rw [← UInt8.toNat_inj, hlow, hid]
    omega

/-- The peer id is cut to three bytes, and a header without one has the old format. -/
theorem DataPacket.decode_encodeHeader_append (peerId : Option UInt32) (keyId : UInt8)
    (packetId : UInt32) (payload : Bytes) :
    let opcode : Opcode := if peerId.isSome then .dataV2 else .dataV1
    DataPacket.decode (DataPacket.encodeHeader opcode keyId peerId packetId ++ payload) =
      .ok (opcode, keyId &&& 0x07, peerId.map cutPeerId, packetId, payload) := by
  cases peerId with
  | none =>
      simp [encodeHeader, decode, parseHeaderByte_encodeHeaderByte, getU32_putU32_append, bind,
        Except.bind, pure, Except.pure]
  | some id =>
      have hheader : encodeHeader .dataV2 keyId (some id) packetId =
          encodeHeaderByte .dataV2 keyId :: ((id >>> 16) &&& 0xFF).toUInt8 ::
            ((id >>> 8) &&& 0xFF).toUInt8 :: (id &&& 0xFF).toUInt8 :: putU32 packetId := rfl
      simp only [Option.isSome_some, if_true, hheader, Option.map_some, ← join_peerId]
      generalize (id >>> 16 &&& 0xFF).toUInt8 = p0, (id >>> 8 &&& 0xFF).toUInt8 = p1,
        (id &&& 0xFF).toUInt8 = p2
      have hlong : ¬ 4 + payload.length + 1 + 1 + 1 < 7 := by omega
      simp [decode, parseHeaderByte_encodeHeaderByte, getU32_putU32_append, bind, Except.bind,
        pure, Except.pure, hlong]

end VpnHub.Protocol
