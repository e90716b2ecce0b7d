import VpnHub.Library.Text
import VpnHub.Program.Errors

/-! The symmetric ciphers of `ovpn-crypto/src/aead.rs`. -/

namespace VpnHub

/-- A Rust array `[u8; n]`. -/
abbrev FixedBytes (n : ℕ) := { bytes : Bytes // bytes.length = n }

/-- `[0u8; n]`. -/
def FixedBytes.zero (n : ℕ) : FixedBytes n := ⟨List.replicate n 0, List.length_replicate⟩

/-- `array.copy_from_slice(&src[from..from + n])` for a source that is long enough. -/
def FixedBytes.copyFrom {n : ℕ} (src : Bytes) (start : ℕ) (h : start + n ≤ src.length) :
    FixedBytes n :=
  ⟨(src.drop start).take n, by rw [List.length_take, List.length_drop]; omega⟩

namespace Crypto

inductive CipherSuite where
  | aes256Gcm
  | aes128Gcm
  | chaCha20Poly1305
  deriving DecidableEq, Repr

namespace CipherSuite

/-- Letter case, dashes and underscores of a cipher name do not matter. -/
def fromName (name : Text) : Option CipherSuite :=
  let upper := (Text.toAsciiUppercase name).filter fun c => c ≠ '-' ∧ c ≠ '_'
  if upper = "AES256GCM".toList then some aes256Gcm
  else if upper = "AES128GCM".toList then some aes128Gcm
  else if upper = "CHACHA20POLY1305".toList then some chaCha20Poly1305
  else none

def keySize : CipherSuite → ℕ
  | aes256Gcm => 32
  | aes128Gcm => 16
  | chaCha20Poly1305 => 32

end CipherSuite

/-- The primitives of the `aes-gcm` and `chacha20poly1305` crates, by suite, key, nonce and
associated data. Encryption in place keeps the length and yields a detached 16-byte tag. -/
structure Aead where
  encryptInPlaceDetached :
    CipherSuite → Bytes → Bytes → Bytes → Bytes → Except Text (Bytes × FixedBytes 16)
  decryptInPlaceDetached : CipherSuite → Bytes → Bytes → Bytes → Bytes → Bytes → Option Bytes

/-- An instance of one of the three `SymmCipher` implementations: its suite and its key. -/
structure SymmCipher where
  suite : CipherSuite
  key : Bytes
  length_key : key.length = suite.keySize
  deriving DecidableEq

def CipherSuite.createCipher (suite : CipherSuite) (key : Bytes) :
    Except CryptoError SymmCipher :=
  if h : key.length = suite.keySize then .ok ⟨suite, key, h⟩
  else .error (.invalidKeySize suite.keySize key.length)

namespace SymmCipher

/-- The ciphertext and the tag. -/
def encryptInPlace (aead : Aead) (cipher : SymmCipher) (nonce aad buffer : Bytes) :
    Except CryptoError (Bytes × FixedBytes 16) :=
  if nonce.length ≠ 12 then .error (.invalidNonceSize 12 nonce.length)
  else
    match aead.encryptInPlaceDetached cipher.suite cipher.key nonce aad buffer with
    | .ok sealed => .ok sealed
    | .error e => .error (.aeadEncryption e)

/-- The plaintext. -/
def decryptInPlace (aead : Aead) (cipher : SymmCipher) (nonce aad buffer tag : Bytes) :
    Except CryptoError Bytes :=
  if nonce.length ≠ 12 then .error (.invalidNonceSize 12 nonce.length)
  else
    match aead.decryptInPlaceDetached cipher.suite cipher.key nonce aad buffer tag with
    | some plaintext => .ok plaintext
    | none => .error .aeadAuthenticationFailed

end SymmCipher

end Crypto

end VpnHub
