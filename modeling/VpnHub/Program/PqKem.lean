import VpnHub.Program.Aead

/-! The hybrid key encapsulation of `ovpn-crypto/src/pq_kem.rs`: X25519 and ML-KEM-768. -/

namespace VpnHub.Crypto

/-- `x25519_dalek`: the public key of a secret, and the shared secret with a public key. -/
structure X25519 where
  publicKey : FixedBytes 32 → FixedBytes 32
  diffieHellman : FixedBytes 32 → FixedBytes 32 → FixedBytes 32

/-- `ml_kem::ml_kem_768` over its decapsulation and encapsulation keys. The errors are as `{:?}`
prints them, and `encapsulate` takes the random bytes that it draws. -/
structure MlKem (D E : Type) where
  decapsulationKey : Bytes → Except Text D
  encapsulationKeyOf : D → E
  toBytes : E → Bytes
  encapsulationKey : Bytes → Except Text E
  encapsulate : E → FixedBytes 32 → Bytes × Bytes
  decapsulateSlice : D → Bytes → Except Text Bytes

/-- `Hkdf::<Sha256>::new(salt, ikm).expand(info, okm)`. -/
abbrev HkdfSha256 := Option Bytes → Bytes → Bytes → (n : ℕ) → Except Text (FixedBytes n)

structure KemEnv (D E : Type) where
  x25519 : X25519
  mlKem : MlKem D E
  hkdf : HkdfSha256

/-- `hkdf_sha256` of `kdf.rs`. -/
def hkdfSha256 (hkdf : HkdfSha256) (salt : Option Bytes) (ikm info : Bytes) (n : ℕ) :
    Except CryptoError (FixedBytes n) :=
  (hkdf salt ikm info n).mapError .kdfError

variable {D E : Type}

/-! ## Keys and ciphertexts -/

structure HybridKemPublicKey where
  x25519Public : FixedBytes 32
  mlKemPublic : Bytes
  deriving DecidableEq

structure HybridKemPrivateKey where
  x25519Private : FixedBytes 32
  mlKemSeed : Bytes
  deriving DecidableEq

structure HybridKemCiphertext where
  x25519EphemeralPublic : FixedBytes 32
  mlKemCiphertext : Bytes
  deriving DecidableEq

structure HybridKemKeyPair where
  publicKey : HybridKemPublicKey
  privateKey : HybridKemPrivateKey
  deriving DecidableEq

/-- The first 32 bytes, and the rest. -/
def splitHybrid (what : String) (bytes : Bytes) : Except CryptoError (FixedBytes 32 × Bytes) :=
  if h : bytes.length < 32 then .error (.invalidSerialization (what ++ " too short").toList)
  else .ok (.copyFrom bytes 0 (by omega), bytes.drop 32)

def HybridKemPublicKey.toBytes (key : HybridKemPublicKey) : Bytes :=
  key.x25519Public.val ++ key.mlKemPublic

def HybridKemPublicKey.fromBytes (bytes : Bytes) : Except CryptoError HybridKemPublicKey :=
  (splitHybrid "Hybrid public key" bytes).map fun parts => ⟨parts.1, parts.2⟩

def HybridKemCiphertext.toBytes (cipher : HybridKemCiphertext) : Bytes :=
  cipher.x25519EphemeralPublic.val ++ cipher.mlKemCiphertext

def HybridKemCiphertext.fromBytes (bytes : Bytes) : Except CryptoError HybridKemCiphertext :=
  (splitHybrid "Hybrid ciphertext" bytes).map fun parts => ⟨parts.1, parts.2⟩

/-! ## The exchange -/

/-- Both shared secrets go into the final one. -/
def combineSecrets (env : KemEnv D E) (x25519Secret : FixedBytes 32) (mlKemSecret : Bytes) :
    Except CryptoError (FixedBytes 32) :=
  hkdfSha256 env.hkdf none (x25519Secret.val ++ mlKemSecret)
    (Text.utf8Encode "openvpn3-rs hybrid post-quantum key exchange".toList) 32

def invalidSeed (e : Text) : CryptoError :=
  .postQuantumKemError ("Invalid ML-KEM seed: ".toList ++ e)

namespace HybridKemKeyPair

def fromSeeds (env : KemEnv D E) (x25519Seed : FixedBytes 32) (mlKemSeed : FixedBytes 64) :
    Except CryptoError HybridKemKeyPair := do
  let mlDecap ← (env.mlKem.decapsulationKey mlKemSeed.val).mapError invalidSeed
  return {
    publicKey := {
      x25519Public := env.x25519.publicKey x25519Seed
      mlKemPublic := env.mlKem.toBytes (env.mlKem.encapsulationKeyOf mlDecap) }
    privateKey := { x25519Private := x25519Seed, mlKemSeed := mlKemSeed.val } }

def decapsulate (env : KemEnv D E) (keyPair : HybridKemKeyPair) (cipher : HybridKemCiphertext) :
    Except CryptoError (FixedBytes 32) := do
  let x25519Secret := env.x25519.diffieHellman keyPair.privateKey.x25519Private
    cipher.x25519EphemeralPublic
  let decapKey ← (env.mlKem.decapsulationKey keyPair.privateKey.mlKemSeed).mapError invalidSeed
  let mlKemSecret ← (env.mlKem.decapsulateSlice decapKey cipher.mlKemCiphertext).mapError fun e =>
    .postQuantumKemError ("ML-KEM decapsulation failed: ".toList ++ e)
  combineSecrets env x25519Secret mlKemSecret

end HybridKemKeyPair

/-- `ephemeralBytes` and `random` are what the generator gives to it and to ML-KEM. -/
def hybridEncapsulate (env : KemEnv D E) (peer : HybridKemPublicKey)
    (ephemeralBytes random : FixedBytes 32) :
    Except CryptoError (HybridKemCiphertext × FixedBytes 32) := do
  let x25519Secret := env.x25519.diffieHellman ephemeralBytes peer.x25519Public
  let encapKey ← (env.mlKem.encapsulationKey peer.mlKemPublic).mapError fun e =>
    .postQuantumKemError ("Invalid ML-KEM public key: ".toList ++ e)
  let (mlKemCiphertext, mlKemSecret) := env.mlKem.encapsulate encapKey random
  let final ← combineSecrets env x25519Secret mlKemSecret
  return ({ x25519EphemeralPublic := env.x25519.publicKey ephemeralBytes, mlKemCiphertext }, final)

end VpnHub.Crypto
