import VpnHub.Library.Expansion
import VpnHub.Program.Kdf

/-! # Key expansion -/

namespace VpnHub.Crypto

open Protocol

/-! ## `P_hash` of RFC 5246 -/

/-- `A(i)`. -/
def pHashChain (hmac : HmacSha256) (secret seed : Bytes) : ℕ → Bytes
  | 0 => seed
  | i + 1 => (hmac secret (pHashChain hmac secret seed i)).1

/-- `HMAC(secret, A(i + 1) + seed)`. -/
def pHashBlock (hmac : HmacSha256) (secret seed : Bytes) (i : ℕ) : Bytes :=
  (hmac secret (pHashChain hmac secret seed (i + 1) ++ seed)).1

/-- The first `n` bytes of the blocks. -/
def pHash (hmac : HmacSha256) (secret seed : Bytes) (n : ℕ) : Bytes :=
  Expansion.expand (pHashBlock hmac secret seed) n

variable {hmac : HmacSha256} {secret seed : Bytes}

theorem length_pHashBlock (i : ℕ) : (pHashBlock hmac secret seed i).length = 32 :=
  (hmac secret _).2

theorem length_pHash (n : ℕ) : (pHash hmac secret seed n).length = n :=
  Expansion.length_expand length_pHashBlock (by decide) n

/-! ## The loop -/

/-- Writing behind what is right already leaves it there. -/
theorem take_copyAt {output src : Bytes} {offset : ℕ} (h : offset + src.length ≤ output.length) :
    (copyAt output offset src).take (offset + src.length) = output.take offset ++ src := by
  have hlen : (output.take offset ++ src).length = offset + src.length := by
    rw [List.length_append, List.length_take]
    omega
  rw [copyAt, ← hlen, List.take_left]

/-- The loop in front of block `k`, or at the end. What it has written is the beginning of the
expansion. -/
structure Written (hmac : HmacSha256) (secret seed aPrev : Bytes) (offset : ℕ)
    (output : Bytes) : Prop where
  offset_le : offset ≤ output.length
  at_block : offset < output.length → ∃ k, offset = k * 32 ∧ aPrev = pHashChain hmac secret seed k
  take_eq : output.take offset = (pHash hmac secret seed output.length).take offset

/-- One turn writes the next block, or as much of it as there is room for. -/
theorem Written.turn {aPrev output : Bytes} {offset : ℕ}
    (h : Written hmac secret seed aPrev offset output) (hlt : offset < output.length) :
    let aCurr := (hmac secret aPrev).1
    let outBlock := (hmac secret (aCurr ++ seed)).1
    let toCopy := min (output.length - offset) outBlock.length
    Written hmac secret seed aCurr (offset + toCopy)
      (copyAt output offset (outBlock.take toCopy)) := by
  obtain ⟨k, rfl, rfl⟩ := h.at_block hlt
  intro aCurr outBlock toCopy
  have hblock : outBlock = pHashBlock hmac secret seed k := rfl
  have hwidth : outBlock.length = 32 := length_pHashBlock k
  have hcopied : (outBlock.take toCopy).length = toCopy := by
    rw [List.length_take]
    omega
  have hfits : k * 32 + (outBlock.take toCopy).length ≤ output.length := by omega
  have hlen : (copyAt output (k * 32) (outBlock.take toCopy)).length = output.length :=
    length_copyAt hfits
  refine ⟨by omega, ?_, ?_⟩
  · intro hmore
    -- Room is left only behind a whole block.
    refine ⟨k + 1, by omega, rfl⟩
  · have hwritten := take_copyAt hfits
    rw [hcopied] at hwritten
    rw [hlen, hwritten, h.take_eq, hblock]
    exact (Expansion.take_expand_add length_pHashBlock (by decide) (by omega) (by omega)).symm

theorem Written.prfLoop_eq {aPrev output : Bytes} {offset : ℕ}
    (h : Written hmac secret seed aPrev offset output) :
    prfLoop hmac secret seed aPrev offset output = pHash hmac secret seed output.length := by
  induction aPrev, offset, output using prfLoop.induct hmac secret seed with
  | case1 aPrev offset output hlt aCurr outBlock toCopy ih =>
      have hnext := h.turn hlt
      have hlen : (copyAt output offset (outBlock.take toCopy)).length = output.length := by
        refine length_copyAt ?_
        rw [List.length_take]
        omega
      rw [prfLoop, if_pos hlt]
      rw [ih hnext, hlen]
  | case2 aPrev offset output hge =>
      have hwhole := h.take_eq
      rw [List.take_of_length_le (by omega), List.take_of_length_le] at hwhole
      · rw [prfLoop, if_neg hge]
        exact hwhole
      · rw [length_pHash]
        omega

/-- The loop fills the output with the expansion, whatever was in it. -/
theorem openvpnPrfSha256_eq (secret label seed output : Bytes) :
    openvpnPrfSha256 hmac secret label seed output =
      .ok (pHash hmac secret (label ++ seed) output.length) := by
  have hstart : Written hmac secret (label ++ seed) (label ++ seed) 0 output :=
    ⟨Nat.zero_le _, fun _ => ⟨0, rfl, rfl⟩, rfl⟩
  rw [openvpnPrfSha256, hstart.prfLoop_eq]

/-! ## Session keys -/

theorem deriveDataChannelKeys_eq (keyId : UInt8)
    (masterSecret clientRandom serverRandom : Bytes) (c h : ℕ) :
    ∃ material keys,
      openvpnPrfSha256 hmac masterSecret (Text.utf8Encode "OpenVPN master secret".toList)
        (clientRandom ++ serverRandom) (List.replicate (2 * (c + h)) 0) = .ok material ∧
      deriveDataChannelKeys hmac keyId masterSecret clientRandom serverRandom c h = .ok keys ∧
      keys.keyId = keyId ∧ material.length = 2 * (c + h) ∧
      material = keys.txKey.cipherKey ++ keys.txKey.hmacKey ++ keys.rxKey.cipherKey ++
        keys.rxKey.hmacKey ∧
      keys.txKey.cipherKey.length = c ∧ keys.txKey.hmacKey.length = h ∧
      keys.rxKey.cipherKey.length = c ∧ keys.rxKey.hmacKey.length = h := by
  let seed := Text.utf8Encode "OpenVPN master secret".toList ++ (clientRandom ++ serverRandom)
  have hprf : openvpnPrfSha256 hmac masterSecret (Text.utf8Encode "OpenVPN master secret".toList)
      (clientRandom ++ serverRandom) (List.replicate (2 * (c + h)) 0) =
        .ok (pHash hmac masterSecret seed (2 * (c + h))) := by
    rw [openvpnPrfSha256_eq, List.length_replicate]
  have hlen : (pHash hmac masterSecret seed (2 * (c + h))).length = 2 * (c + h) := length_pHash _
  generalize pHash hmac masterSecret _ _ = material at hprf hlen
  refine ⟨material, _, hprf, by rw [deriveDataChannelKeys, hprf]; rfl, rfl, hlen, ?_, ?_⟩
  · have hwhole : material = material.take (0 + c + h + c + h) :=
      (List.take_of_length_le (by omega)).symm
    simp only [List.take_add, Nat.zero_add] at hwhole
    simpa using hwhole
  · simp only [List.length_take, List.length_drop]
    omega

/-- The output is the expansion, a shorter output is the beginning of a longer one, and the
session keys are one after the other all of the key material. -/
theorem key_expansion (hmac : HmacSha256) :
    (∀ secret label seed output,
      openvpnPrfSha256 hmac secret label seed output =
          .ok (pHash hmac secret (label ++ seed) output.length) ∧
        (pHash hmac secret (label ++ seed) output.length).length = output.length) ∧
    (∀ secret label seed output output', output.length ≤ output'.length →
      ∃ bytes bytes', openvpnPrfSha256 hmac secret label seed output = .ok bytes ∧
        openvpnPrfSha256 hmac secret label seed output' = .ok bytes' ∧ bytes <+: bytes') ∧
    ∀ keyId masterSecret clientRandom serverRandom c h, ∃ material keys,
      openvpnPrfSha256 hmac masterSecret (Text.utf8Encode "OpenVPN master secret".toList)
        (clientRandom ++ serverRandom) (List.replicate (2 * (c + h)) 0) = .ok material ∧
      deriveDataChannelKeys hmac keyId masterSecret clientRandom serverRandom c h = .ok keys ∧
      keys.keyId = keyId ∧ material.length = 2 * (c + h) ∧
      material = keys.txKey.cipherKey ++ keys.txKey.hmacKey ++ keys.rxKey.cipherKey ++
        keys.rxKey.hmacKey ∧
      keys.txKey.cipherKey.length = c ∧ keys.txKey.hmacKey.length = h ∧
      keys.rxKey.cipherKey.length = c ∧ keys.rxKey.hmacKey.length = h := by
  refine ⟨?_, ?_, deriveDataChannelKeys_eq⟩
  · intro secret label seed output
    exact ⟨openvpnPrfSha256_eq secret label seed output, length_pHash output.length⟩
  · intro secret label seed output output' hle
    refine ⟨_, _, openvpnPrfSha256_eq secret label seed output,
      openvpnPrfSha256_eq secret label seed output', ?_⟩
    have htake : (Expansion.expand (pHashBlock hmac secret (label ++ seed))
        output'.length).take output.length = _ :=
      Expansion.take_expand length_pHashBlock (by decide) hle
    rw [pHash, pHash, ← htake]
    exact List.take_prefix _ _

/-- 40 bytes begin with the 5 that are written alone. -/
theorem key_expansion_5_40 :
    let hmac : HmacSha256 := fun _ message => ⟨List.replicate 32 (message.getD 0 0), by simp⟩
    ∃ bytes bytes', openvpnPrfSha256 hmac [] [1] [2] (List.replicate 5 0) = .ok bytes ∧
      openvpnPrfSha256 hmac [] [1] [2] (List.replicate 40 0) = .ok bytes' ∧ bytes <+: bytes' :=
  (key_expansion _).2.1 [] [1] [2] (List.replicate 5 0) (List.replicate 40 0) (by decide)

end VpnHub.Crypto
