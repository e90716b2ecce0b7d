import Mathlib.Data.Char
import Mathlib.Data.List.Lex
import VpnHub.Library.OrdMap
import VpnHub.Library.Prog
import VpnHub.Program.Aead

/-! The encrypted vault of the application: `storage/vault.rs` and the secrets of
`storage/models.rs`. -/

namespace VpnHub.Storage

open Protocol Crypto

inductive StoredProfileSecret where
  | wireguard (privateKey : Text) (presharedKey : Option Text)
  | userPassword (username password : Text) (totpSecret totpFormat caCert clientCert clientKey
      tlsAuthKey tlsCryptKey keyDirection : Option Text) (remoteCertTlsServer : Option Bool)
      (renegSec : Option UInt32) (ovpnConfig : Option Text)
  | rawOvpnConfig (configContent : Text) (username password totpSecret totpFormat : Option Text)
  deriving DecidableEq, Repr

/-- The `HashMap` from profile ids to secrets. -/
abbrev Secrets := OrdMap Text StoredProfileSecret

/-- The errors of the storage code. -/
inductive AppError where
  | ipc (message : Text)
  | io (message : Text)
  deriving DecidableEq, Repr

/-- `serde_json` and the cipher under the key that is derived from user and machine. -/
structure VaultEnv where
  toVec : Secrets → Except Text Bytes
  fromSlice : Bytes → Except Text Secrets
  encrypt : FixedBytes 12 → Bytes → Except Text Bytes
  decrypt : Bytes → Bytes → Except Text Bytes

/-! ## Files -/

/-- How `fs::write` goes wrong: the file cannot be opened, or it has been truncated and only some
of the bytes are written. -/
inductive WriteFault where
  | open (message : Text)
  | write (written : ℕ) (message : Text)
  deriving DecidableEq, Repr

/-- `fs::write`: the result and the file afterwards. -/
def fsWrite (file : Option Bytes) (contents : Bytes) :
    Option WriteFault → Except AppError Unit × Option Bytes
  | none => (.ok (), some contents)
  | some (.open message) => (.error (.io message), file)
  | some (.write written message) => (.error (.io message), some (contents.take written))

/-! ## The vault -/

/-- The secrets in memory, and the contents of `vault.enc`. -/
structure EncryptedVault where
  cache : Secrets
  file : Option Bytes
  deriving DecidableEq

/-- A method of the vault. -/
abbrev VaultM := Prog EncryptedVault AppError

/-- What a save gets from outside: the random nonce, and what becomes of the write. -/
structure SaveInput where
  nonce : FixedBytes 12
  fault : Option WriteFault := none
  deriving DecidableEq

namespace EncryptedVault

/-- The bytes for `vault.enc`: the nonce, and the encrypted secrets. -/
def payload (env : VaultEnv) (secrets : Secrets) (nonce : FixedBytes 12) :
    Except AppError Bytes := do
  let serialized ← (env.toVec secrets).mapError fun e =>
    .ipc ("Vault serialization failed: ".toList ++ e)
  let ciphertext ← (env.encrypt nonce serialized).mapError fun e =>
    .ipc ("AES-GCM encryption failed: ".toList ++ e)
  return nonce.val ++ ciphertext

def saveToDisk (env : VaultEnv) (input : SaveInput) : VaultM Unit := do
  let v ← get
  let filePayload ← Prog.ofExcept (payload env v.cache input.nonce)
  Prog.ofFun fun v =>
    let (result, file) := fsWrite v.file filePayload input.fault
    (result, { v with file })

def storeSecret (env : VaultEnv) (input : SaveInput) (profileId : Text)
    (secret : StoredProfileSecret) : VaultM Unit := do
  modify fun v => { v with cache := v.cache.insert profileId secret }
  saveToDisk env input

def removeSecret (env : VaultEnv) (input : SaveInput) (profileId : Text) : VaultM Unit := do
  modify fun v => { v with cache := v.cache.erase profileId }
  saveToDisk env input

def getAllSecrets (v : EncryptedVault) : Secrets := v.cache

/-- The secrets in the bytes of a vault file. -/
def decode (env : VaultEnv) (filePayload : Bytes) : Except AppError Secrets :=
  if filePayload.length < 12 then .error (.ipc "Vault file corrupted (too small)".toList)
  else do
    let plaintext ← (env.decrypt (filePayload.take 12) (filePayload.drop 12)).mapError fun e =>
      .ipc ("Vault decryption / authentication failed: ".toList ++ e)
    (env.fromSlice plaintext).mapError fun e => .ipc ("Vault JSON parse failed: ".toList ++ e)

def loadFromDisk (env : VaultEnv) (read : Except Text Bytes) : VaultM Unit := do
  let filePayload ← Prog.ofExcept (read.mapError .io)
  let loaded ← Prog.ofExcept (decode env filePayload)
  modify fun v => { v with cache := loaded }

/-- A file that cannot be read or decrypted is logged, and the vault starts empty. -/
def new (env : VaultEnv) (readFault : Option Text) (file : Option Bytes) : EncryptedVault :=
  let vault := { cache := .empty, file }
  match file with
  | none => vault
  | some contents =>
    match (loadFromDisk env (readFault.elim (.ok contents) .error)).run vault with
    | some (_, vault) => vault
    | none => vault

end EncryptedVault

end VpnHub.Storage
