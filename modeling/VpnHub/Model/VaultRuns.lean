import VpnHub.Library.Transition
import VpnHub.Program.App.Vault

/-! Runs of the vault: calls that succeed or fail, and crashes in the middle of one. -/

namespace VpnHub.Storage

open Protocol Crypto

/-- What the vault relies on: `serde_json` reads back what it has written, and the cipher decrypts
what it has encrypted and rejects a ciphertext of secrets that has been cut short. -/
structure VaultContract (env : VaultEnv) : Prop where
  fromSlice_toVec : ∀ secrets serialized, env.toVec secrets = .ok serialized →
    env.fromSlice serialized = .ok secrets
  decrypt_encrypt : ∀ nonce plaintext ciphertext, env.encrypt nonce plaintext = .ok ciphertext →
    env.decrypt nonce.val ciphertext = .ok plaintext
  rejects_cut : ∀ secrets nonce serialized ciphertext, env.toVec secrets = .ok serialized →
    env.encrypt nonce serialized = .ok ciphertext →
    ∀ n < ciphertext.length, ∃ e, env.decrypt nonce.val (ciphertext.take n) = .error e

namespace EncryptedVault

/-- What a new vault over the file holds. -/
def reopened (env : VaultEnv) (file : Option Bytes) : Secrets :=
  (new env none file).getAllSecrets

end EncryptedVault

open EncryptedVault

/-! ## Calls -/

inductive VaultCall where
  | store (profileId : Text) (secret : StoredProfileSecret)
  | remove (profileId : Text)
  deriving DecidableEq, Repr

namespace VaultCall

def exec (env : VaultEnv) (input : SaveInput) : VaultCall → VaultM Unit
  | .store profileId secret => storeSecret env input profileId secret
  | .remove profileId => removeSecret env input profileId

/-- What the call is meant to make of the secrets. -/
def apply : VaultCall → Secrets → Secrets
  | .store profileId secret, secrets => secrets.insert profileId secret
  | .remove profileId, secrets => secrets.erase profileId

end VaultCall

/-- The vault, with the secrets that have last been written to the file. A write that has only
been begun leaves none. -/
structure RecordedVault where
  vault : EncryptedVault
  filed : Secrets
  deriving DecidableEq

namespace RecordedVault

/-- A vault that has just been opened over a file with any contents. -/
def opened (env : VaultEnv) (file : Option Bytes) : RecordedVault where
  vault := new env none file
  filed := reopened env file

/-- The secrets in the file after a save of `secrets`. -/
def filedAfter (env : VaultEnv) (input : SaveInput) (secrets filed : Secrets) : Secrets :=
  match payload env secrets input.nonce, input.fault with
  | .error _, _ => filed
  | .ok _, none => secrets
  | .ok _, some (.open _) => filed
  | .ok bytes, some (.write written _) => if written < bytes.length then .empty else secrets

def step (env : VaultEnv) (s : RecordedVault) (a : VaultCall × SaveInput) :
    Option RecordedVault :=
  ((a.1.exec env a.2).run s.vault).map fun out =>
    { vault := out.2, filed := filedAfter env a.2 (a.1.apply s.vault.cache) s.filed }

end RecordedVault

/-! ## Outcomes of a call -/

/-- A crash before the file is opened, or after so many bytes of the payload. -/
inductive CrashPoint where
  | beforeWrite
  | writing (written : ℕ)
  deriving DecidableEq, Repr

inductive VaultOutcome where
  | crashed (point : CrashPoint)
  | returned (fault : Option WriteFault)
  deriving DecidableEq, Repr

namespace EncryptedVault

/-- The file that a crash during the call leaves. A payload that cannot be built is not written. -/
def crashFile (env : VaultEnv) (v : EncryptedVault) (call : VaultCall) (nonce : FixedBytes 12) :
    CrashPoint → Option Bytes
  | .beforeWrite => v.file
  | .writing written =>
    match payload env (call.apply v.cache) nonce with
    | .ok bytes => some (bytes.take written)
    | .error _ => v.file

/-- After a crash the secrets are those from before or after the call, and a call that fails
leaves the secrets in memory as they are. -/
def Sound (env : VaultEnv) (v : EncryptedVault) (call : VaultCall) (nonce : FixedBytes 12) :
    VaultOutcome → Prop
  | .crashed point => reopened env (crashFile env v call nonce point) = v.getAllSecrets ∨
      reopened env (crashFile env v call nonce point) = call.apply v.getAllSecrets
  | .returned fault => ∀ err v', (call.exec env { nonce, fault }).run v = some (.error err, v') →
      v'.getAllSecrets = v.getAllSecrets

end EncryptedVault

namespace RecordedVault

/-- The file is left with the secrets from before or after the call. -/
def InStep (s : RecordedVault) (call : VaultCall) : Prop :=
  s.filed = s.vault.cache ∨ s.filed = call.apply s.vault.cache

/-- No secret is at stake: there are none before the call or none after it. -/
def Bare (s : RecordedVault) (call : VaultCall) : Prop :=
  s.vault.cache = .empty ∨ call.apply s.vault.cache = .empty

/-- When an outcome does no harm. -/
def Spared (env : VaultEnv) (s : RecordedVault) (call : VaultCall) (nonce : FixedBytes 12) :
    VaultOutcome → Prop
  | .crashed .beforeWrite => s.InStep call
  | .crashed (.writing written) =>
    match payload env (call.apply s.vault.cache) nonce with
    | .ok bytes => written < bytes.length → s.Bare call
    | .error _ => s.InStep call
  | .returned fault => call.apply s.vault.cache = s.vault.cache ∨
      fault = none ∧ ∃ bytes, payload env (call.apply s.vault.cache) nonce = .ok bytes

end RecordedVault

/-! ## A concrete vault -/

namespace Sample

def key (name : String) : StoredProfileSecret := .wireguard name.toList none

/-- The secret of one profile. -/
def one : Secrets := OrdMap.empty.insert "office".toList (key "k1")

/-- The secrets of two. -/
def two : Secrets := one.insert "home".toList (key "k2")

/-- The JSON text of a few maps. -/
def texts : List (Secrets × Bytes) :=
  [(.empty, Text.utf8Encode "\x7b\x7d".toList),
    (one, Text.utf8Encode "\x7b\"office\":\x7b\"type\":\"wireguard\",\"private_key\":\"k1\",\"preshared_key\":null\x7d\x7d".toList),
    (two, Text.utf8Encode "\x7b\"home\":\x7b\"type\":\"wireguard\",\"private_key\":\"k2\",\"preshared_key\":null\x7d,\"office\":\x7b\"type\":\"wireguard\",\"private_key\":\"k1\",\"preshared_key\":null\x7d\x7d".toList)]

/-- Every byte is marked, and the end as well. -/
def lock (plaintext : Bytes) : Bytes := plaintext.flatMap (fun b => [1, b]) ++ [0]

/-- Ends exactly with the mark of the end. -/
def unlock : Bytes → Except Text Bytes
  | [] => .error "aead::Error".toList
  | [b] => if b = 0 then .ok [] else .error "aead::Error".toList
  | mark :: b :: rest =>
    if mark = 1 then (unlock rest).map (b :: ·) else .error "aead::Error".toList

def env : VaultEnv where
  toVec secrets :=
    match texts.find? (·.1 = secrets) with
    | some entry => .ok entry.2
    | none => .error "not in the sample".toList
  fromSlice serialized :=
    match texts.find? (·.2 = serialized) with
    | some entry => .ok entry.1
    | none => .error "expected value at line 1 column 1".toList
  encrypt _ plaintext := .ok (lock plaintext)
  decrypt _ ciphertext := unlock ciphertext

theorem unlock_lock (plaintext : Bytes) : unlock (lock plaintext) = .ok plaintext := by
  induction plaintext with
  | nil => rfl
  | cons b plaintext ih =>
      change (if (1 : UInt8) = 1 then (unlock (lock plaintext)).map (b :: ·) else _) = _
      rw [if_pos rfl, ih]
      rfl

theorem unlock_cut (plaintext : Bytes) {n : ℕ} (hn : n < (lock plaintext).length) :
    ∃ e, unlock ((lock plaintext).take n) = .error e := by
  induction plaintext generalizing n with
  | nil =>
      obtain rfl : n = 0 := Nat.lt_one_iff.mp hn
      exact ⟨_, rfl⟩
  | cons b plaintext ih =>
      cases n with
      | zero => exact ⟨_, rfl⟩
      | succ n =>
          cases n with
          | zero => exact ⟨_, rfl⟩
          | succ n =>
              obtain ⟨e, hcut⟩ := ih (n := n) (Nat.lt_of_add_lt_add_right (n := 2) hn)
              refine ⟨e, ?_⟩
              change (if (1 : UInt8) = 1 then
                (unlock ((lock plaintext).take n)).map (b :: ·) else _) = _
              rw [if_pos rfl, hcut]
              rfl

theorem contract : VaultContract env where
  fromSlice_toVec secrets serialized h := by
    have hread : ∀ entry ∈ texts, env.fromSlice entry.2 = .ok entry.1 := by decide +kernel
    simp only [env] at h
    split at h
    · rename_i entry hfind
      obtain rfl := Except.ok.inj h
      rw [hread entry (List.mem_of_find?_eq_some hfind)]
      simpa using List.find?_some hfind
    · cases h
  decrypt_encrypt nonce plaintext ciphertext h := by
    obtain rfl := Except.ok.inj h
    exact unlock_lock plaintext
  rejects_cut _ nonce serialized ciphertext _ h n hn := by
    obtain rfl := Except.ok.inj h
    exact unlock_cut serialized hn

end Sample

end VpnHub.Storage
