import VpnHub.Program.StaticKey
import VpnHub.Verification.Codec

/-! The two ends of a `tls-auth` key read what the other wraps, and nothing without a tag. -/

namespace VpnHub.Crypto

open BigEndian Protocol

namespace TlsAuthContext

/-- The contexts of the two ends of a key: client and server, or both without a direction. The
counters have any values. -/
inductive Complementary (key : StaticKey) (digest : AuthDigest) :
    TlsAuthContext → TlsAuthContext → Prop where
  | directed (isClient : Bool) (n m : UInt32) :
      Complementary key digest
        { new key isClient false digest with sendPacketId := n }
        { new key (!isClient) false digest with sendPacketId := m }
  | bidirectional (isClient isClient' : Bool) (n m : UInt32) :
      Complementary key digest
        { new key isClient true digest with sendPacketId := n }
        { new key isClient' true digest with sendPacketId := m }

variable {key : StaticKey} {digest : AuthDigest} {hmac : Hmac}
  {ctx sender receiver : TlsAuthContext}

theorem Complementary.digest_eq (h : Complementary key digest sender receiver) :
    receiver.digest = sender.digest := by
  cases h with
  | directed isClient n m => rfl
  | bidirectional isClient isClient' n m => rfl

/-- One end checks with the key that the other signs with. -/
theorem Complementary.recvHmacKey_eq (h : Complementary key digest sender receiver) :
    receiver.recvHmacKey = sender.sendHmacKey := by
  cases h with
  | directed isClient n m => cases isClient <;> rfl
  | bidirectional isClient isClient' n m => rfl

@[simp] theorem length_tag (key : FixedBytes 64) (message : Bytes) :
    (tag hmac digest key message).length = digest.tagLen :=
  (hmac digest (key.val.take digest.tagLen) message).property

/-! ## What is read of a packet -/

/-- The bytes of a packet that its tag is computed over. -/
def signedBytes (tagLen : ℕ) (packet : Bytes) : Bytes :=
  (packet.drop (9 + tagLen)).take 4 ++ (packet.drop (13 + tagLen)).take 4 ++ packet.take 1 ++
    (packet.drop 1).take 8 ++ packet.drop (17 + tagLen)

theorem length_slice {bytes : Bytes} {start n : ℕ} (h : start + n ≤ bytes.length) :
    ((bytes.drop start).take n).length = n := by
  apply List.length_take_of_le
  rw [List.length_drop]
  omega

/-- A packet that is long enough is read from its slices; its tag is compared with that of
the signed bytes. -/
theorem unwrapPacket_eq {packet : Bytes} (h : 17 + ctx.digest.tagLen ≤ packet.length) :
    ctx.unwrapPacket hmac packet =
      if (packet.drop 9).take ctx.digest.tagLen =
          tag hmac ctx.digest ctx.recvHmacKey (signedBytes ctx.digest.tagLen packet) then
        .ok (packet.headD 0, UInt64.ofNat (ofBE ((packet.drop 1).take 8)),
          UInt32.ofNat (ofBE ((packet.drop (9 + ctx.digest.tagLen)).take 4)),
          UInt32.ofNat (ofBE ((packet.drop (13 + ctx.digest.tagLen)).take 4)),
          packet.drop (17 + ctx.digest.tagLen))
      else .error (.decryptionFailed "tls-auth HMAC verification failed".toList) := by
  cases packet with
  | nil => simp at h
  | cons opcodeKeyId rest =>
      have hlong : ¬ (opcodeKeyId :: rest).length < 1 + 8 + ctx.digest.tagLen + 4 + 4 := by omega
      have hsid := putU64_ofBE (@length_slice (opcodeKeyId :: rest) 1 8 (by omega))
      have hid := putU32_ofBE
        (@length_slice (opcodeKeyId :: rest) (9 + ctx.digest.tagLen) 4 (by omega))
      have htime := putU32_ofBE
        (@length_slice (opcodeKeyId :: rest) (13 + ctx.digest.tagLen) 4 (by omega))
      have hsigned : authenticated
          (UInt32.ofNat (ofBE (((opcodeKeyId :: rest).drop (9 + ctx.digest.tagLen)).take 4)))
          (UInt32.ofNat (ofBE (((opcodeKeyId :: rest).drop (13 + ctx.digest.tagLen)).take 4)))
          opcodeKeyId (UInt64.ofNat (ofBE (((opcodeKeyId :: rest).drop 1).take 8)))
          ((opcodeKeyId :: rest).drop (17 + ctx.digest.tagLen)) =
          signedBytes ctx.digest.tagLen (opcodeKeyId :: rest) := by
        rw [putU64] at hsid
        rw [putU32] at hid htime
        rw [authenticated, hsid, hid, htime, signedBytes]
        rfl
      simp only [unwrapPacket, if_neg hlong, hsigned, List.headD_cons]

theorem unwrapPacket_short {packet : Bytes} (h : packet.length < 17 + ctx.digest.tagLen) :
    ctx.unwrapPacket hmac packet =
      .error (.decryptionFailed "tls-auth packet too short".toList) := by
  cases packet with
  | nil => rfl
  | cons opcodeKeyId rest =>
      have hshort : (opcodeKeyId :: rest).length < 1 + 8 + ctx.digest.tagLen + 4 + 4 := by omega
      simp only [unwrapPacket, if_pos hshort]

/-- A packet is accepted exactly when it is long enough and carries the tag of its signed
bytes. -/
theorem unwrapPacket_ok_iff (packet : Bytes) :
    (∃ out, ctx.unwrapPacket hmac packet = .ok out) ↔
      17 + ctx.digest.tagLen ≤ packet.length ∧
        (packet.drop 9).take ctx.digest.tagLen =
          tag hmac ctx.digest ctx.recvHmacKey (signedBytes ctx.digest.tagLen packet) := by
  by_cases hlong : 17 + ctx.digest.tagLen ≤ packet.length
  · rw [unwrapPacket_eq hlong]
    split
    · rename_i htag
      exact ⟨fun _ => ⟨hlong, htag⟩, fun _ => ⟨_, rfl⟩⟩
    · rename_i htag
      constructor
      · rintro ⟨out, hout⟩
        cases hout
      · rintro ⟨-, htag'⟩
        exact absurd htag' htag
  · rw [unwrapPacket_short (by omega)]
    constructor
    · rintro ⟨out, hout⟩
      cases hout
    · rintro ⟨hlong', -⟩
      exact absurd hlong' hlong

/-! ## What is read of a wrapped packet -/

/-- The other end reads what was wrapped. -/
theorem unwrapPacket_wrapped (h : Complementary key digest sender receiver)
    (packetId timestamp : UInt32) (header : UInt8) (sessionId : UInt64) (payload : Bytes) :
    receiver.unwrapPacket hmac
        (wrapped hmac sender packetId timestamp header sessionId payload) =
      .ok (header, sessionId, packetId, timestamp, payload) := by
  let signature := tag hmac sender.digest sender.sendHmacKey
    (authenticated packetId timestamp header sessionId payload)
  have hsignature : signature.length = receiver.digest.tagLen := by
    rw [h.digest_eq]
    exact length_tag _ _
  let packet := wrapped hmac sender packetId timestamp header sessionId payload
  have hdrop1 : packet.drop 1 = putU64 sessionId ++ (signature ++ (putU32 packetId ++
      (putU32 timestamp ++ payload))) := by
    simp [packet, wrapped, signature, putU64, putU32]
  have hdrop9 : packet.drop 9 = signature ++ (putU32 packetId ++
      (putU32 timestamp ++ payload)) := by
    rw [show 9 = 1 + 8 from rfl, ← List.drop_drop, hdrop1,
      List.drop_left' (length_putU64 sessionId)]
  have hdropId : packet.drop (9 + receiver.digest.tagLen) =
      putU32 packetId ++ (putU32 timestamp ++ payload) := by
    rw [← List.drop_drop, hdrop9, List.drop_left' hsignature]
  have hdropTime : packet.drop (13 + receiver.digest.tagLen) = putU32 timestamp ++ payload := by
    rw [show 13 + receiver.digest.tagLen = 9 + receiver.digest.tagLen + 4 by omega,
      ← List.drop_drop, hdropId, List.drop_left' (length_putU32 packetId)]
  have hdropPayload : packet.drop (17 + receiver.digest.tagLen) = payload := by
    rw [show 17 + receiver.digest.tagLen = 13 + receiver.digest.tagLen + 4 by omega,
      ← List.drop_drop, hdropTime, List.drop_left' (length_putU32 timestamp)]
  have hlong : 17 + receiver.digest.tagLen ≤ packet.length := by
    have hlength := congrArg List.length hdrop9
    simp only [List.length_drop, List.length_append, hsignature, length_putU32] at hlength
    omega
  have hsigned : signedBytes receiver.digest.tagLen packet =
      authenticated packetId timestamp header sessionId payload := by
    rw [signedBytes, hdropId, hdropTime, hdropPayload, hdrop1,
      List.take_left' (length_putU32 packetId), List.take_left' (length_putU32 timestamp),
      List.take_left' (length_putU64 sessionId)]
    rfl
  have htag : (packet.drop 9).take receiver.digest.tagLen =
      tag hmac receiver.digest receiver.recvHmacKey
        (signedBytes receiver.digest.tagLen packet) := by
    rw [hdrop9, List.take_left' hsignature, hsigned, h.digest_eq, h.recvHmacKey_eq]
  change receiver.unwrapPacket hmac packet = _
  rw [unwrapPacket_eq hlong, if_pos htag, hdrop1, hdropId, hdropTime, hdropPayload,
    List.take_left' (length_putU32 packetId), List.take_left' (length_putU32 timestamp),
    List.take_left' (length_putU64 sessionId), ofBE_putU64, ofBE_putU32, ofBE_putU32,
    UInt64.ofNat_toNat, UInt32.ofNat_toNat, UInt32.ofNat_toNat]
  rfl

/-- The two ends agree: what one wraps around the body of a control packet the other unwraps
to it, and either accepts a packet exactly when it carries the tag of its signed bytes. -/
theorem wrap_unwrap_agree (hmac : Hmac) (key : StaticKey) (digest : AuthDigest) :
    (∀ sender receiver, Complementary key digest sender receiver →
      ∀ (cp : ControlPacket) (header : UInt8) (timestamp : UInt32), cp.BodyWellFormed →
        ∃ body, receiver.unwrapPacket hmac
            (sender.wrapPacket hmac timestamp header cp.sessionId cp.encodeBody).1 =
          .ok (header, cp.sessionId, sender.sendPacketId, timestamp, body) ∧
        ControlPacket.decodeBody cp.opcode cp.keyId cp.sessionId body = .ok cp) ∧
    ∀ (ctx : TlsAuthContext) (packet : Bytes), (∃ out, ctx.unwrapPacket hmac packet = .ok out) ↔
      17 + ctx.digest.tagLen ≤ packet.length ∧
        (packet.drop 9).take ctx.digest.tagLen =
          tag hmac ctx.digest ctx.recvHmacKey (signedBytes ctx.digest.tagLen packet) := by
  constructor
  · intro sender receiver h cp header timestamp hcp
    exact ⟨cp.encodeBody, unwrapPacket_wrapped h sender.sendPacketId timestamp header cp.sessionId _,
      ControlPacket.decodeBody_encodeBody hcp⟩
  · exact fun ctx packet => unwrapPacket_ok_iff packet

/-- A client and its server, with one acknowledgement. -/
theorem wrap_unwrap_agree_ack :
    let hmac : Hmac := fun digest _ _ => FixedBytes.zero digest.tagLen
    let zero : FixedBytes 64 := FixedBytes.zero 64
    let key : StaticKey := ⟨zero, zero, zero, zero⟩
    let ack : ControlPacket := ⟨.ackV1, 0, 7, [3], some 9, none, []⟩
    ack.BodyWellFormed ∧ ∃ body, (new key false false .sha256).unwrapPacket hmac
        ((new key true false .sha256).wrapPacket hmac 1700000000 0x28 7 ack.encodeBody).1 =
      .ok (0x28, 7, 1, 1700000000, body) ∧ ControlPacket.decodeBody .ackV1 0 7 body = .ok ack := by
  intro hmac zero key ack
  have hack : ack.BodyWellFormed := ⟨by decide, by decide, rfl⟩
  exact ⟨hack, (wrap_unwrap_agree hmac key .sha256).1 _ _ (.directed true 1 1) ack 0x28 1700000000
    hack⟩

end TlsAuthContext

end VpnHub.Crypto
