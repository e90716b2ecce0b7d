import VpnHub.Program.KeySlots

/-! Key derivation of `ovpn-crypto/src/kdf.rs`. -/

namespace VpnHub.Crypto

open Protocol

/-- `Hmac<Sha256>` by key and message. A key of any length is accepted. -/
abbrev HmacSha256 := Bytes → Bytes → FixedBytes 32

/-- `output[offset..offset + src.len()].copy_from_slice(src)`. -/
def copyAt (output : Bytes) (offset : ℕ) (src : Bytes) : Bytes :=
  output.take offset ++ src ++ output.drop (offset + src.length)

theorem length_copyAt {output : Bytes} {offset : ℕ} {src : Bytes}
    (h : offset + src.length ≤ output.length) :
    (copyAt output offset src).length = output.length := by
  simp only [copyAt, List.length_append, List.length_take, List.length_drop]
  omega

/-- The loop of `openvpn_prf_sha256`, which fills `output` from `offset` on. -/
def prfLoop (hmac : HmacSha256) (secret seedCombined aPrev : Bytes) (offset : ℕ)
    (output : Bytes) : Bytes :=
  if offset < output.length then
    let aCurr := (hmac secret aPrev).1
    let outBlock := (hmac secret (aCurr ++ seedCombined)).1
    let toCopy := min (output.length - offset) outBlock.length
    prfLoop hmac secret seedCombined aCurr (offset + toCopy)
      (copyAt output offset (outBlock.take toCopy))
  else output
termination_by output.length - offset
decreasing_by
  have hblock := (hmac secret ((hmac secret aPrev).1 ++ seedCombined)).2
  rw [length_copyAt (by rw [List.length_take]; omega)]
  omega

/-- What `output` holds at the end. -/
def openvpnPrfSha256 (hmac : HmacSha256) (secret label seed output : Bytes) :
    Except CryptoError Bytes :=
  let seedCombined := label ++ seed
  .ok (prfLoop hmac secret seedCombined seedCombined 0 output)

def deriveDataChannelKeys (hmac : HmacSha256) (keyId : UInt8)
    (masterSecret clientRandom serverRandom : Bytes) (cipherKeyLen hmacKeyLen : ℕ) :
    Except CryptoError SessionKeySet := do
  let seed := clientRandom ++ serverRandom
  let totalLen := 2 * (cipherKeyLen + hmacKeyLen)
  let keyMaterial ← openvpnPrfSha256 hmac masterSecret
    (Text.utf8Encode "OpenVPN master secret".toList) seed (List.replicate totalLen 0)
  let offset := 0
  let clientCipher := (keyMaterial.drop offset).take cipherKeyLen
  let offset := offset + cipherKeyLen
  let clientHmac := (keyMaterial.drop offset).take hmacKeyLen
  let offset := offset + hmacKeyLen
  let serverCipher := (keyMaterial.drop offset).take cipherKeyLen
  let offset := offset + cipherKeyLen
  let serverHmac := (keyMaterial.drop offset).take hmacKeyLen
  return {
    keyId := keyId
    txKey := { cipherKey := clientCipher, hmacKey := clientHmac }
    rxKey := { cipherKey := serverCipher, hmacKey := serverHmac } }

end VpnHub.Crypto
