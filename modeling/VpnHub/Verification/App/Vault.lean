import VpnHub.Model.VaultRuns

/-! # Durability of the vault

What `vault.enc` stands for after every write, and from it what a crash or a failed call does to
the secrets. -/

namespace VpnHub.Storage

open Protocol Crypto EncryptedVault

section

variable {env : VaultEnv} {input : SaveInput} {v v' : EncryptedVault} {secrets : Secrets}
  {nonce : FixedBytes 12} {bytes : Bytes}

namespace EncryptedVault

/-! ## The payload -/

theorem payload_eq_ok (h : payload env secrets nonce = .ok bytes) :
    ∃ serialized ciphertext, env.toVec secrets = .ok serialized ∧
      env.encrypt nonce serialized = .ok ciphertext ∧ bytes = nonce.val ++ ciphertext := by
  simp only [payload] at h
  cases hjson : env.toVec secrets with
  | error e =>
      rw [hjson] at h
      cases h
  | ok serialized =>
      cases hcipher : env.encrypt nonce serialized with
      | error e =>
          simp only [hjson, hcipher, Except.mapError, bind, Except.bind] at h
          cases h
      | ok ciphertext =>
          simp only [hjson, hcipher, Except.mapError, bind, Except.bind] at h
          exact ⟨serialized, ciphertext, rfl, hcipher, (Except.ok.inj h).symm⟩

/-- The payload read back. -/
theorem decode_payload (contract : VaultContract env) (h : payload env secrets nonce = .ok bytes) :
    decode env bytes = .ok secrets := by
  obtain ⟨serialized, ciphertext, hjson, hcipher, rfl⟩ := payload_eq_ok h
  have hlen : ¬ (nonce.val ++ ciphertext).length < 12 := by
    rw [List.length_append, nonce.property]
    omega
  rw [decode, if_neg hlen, List.take_left' nonce.property, List.drop_left' nonce.property,
    contract.decrypt_encrypt _ _ _ hcipher]
  change (env.fromSlice serialized).mapError _ = _
  rw [contract.fromSlice_toVec _ _ hjson]
  rfl

/-- A payload that has been cut short is refused. -/
theorem decode_cut (contract : VaultContract env) (h : payload env secrets nonce = .ok bytes)
    {n : ℕ} (hn : n < bytes.length) : ∃ e, decode env (bytes.take n) = .error e := by
  obtain ⟨serialized, ciphertext, hjson, hcipher, rfl⟩ := payload_eq_ok h
  rw [List.length_append, nonce.property] at hn
  by_cases hshort : n < 12
  · have hlen : ((nonce.val ++ ciphertext).take n).length < 12 := by
      rw [List.length_take]
      omega
    exact ⟨_, if_pos hlen⟩
  · have hlen : ¬ ((nonce.val ++ ciphertext).take n).length < 12 := by
      rw [List.length_take, List.length_append, nonce.property]
      omega
    have htake : (nonce.val ++ ciphertext).take n = nonce.val ++ ciphertext.take (n - 12) := by
      rw [List.take_append, nonce.property, List.take_of_length_le (by rw [nonce.property]; omega)]
    obtain ⟨e, hcut⟩ := contract.rejects_cut _ _ _ _ hjson hcipher (n - 12) (by omega)
    rw [htake] at hlen ⊢
    rw [decode, if_neg hlen, List.take_left' nonce.property, List.drop_left' nonce.property, hcut]
    exact ⟨_, rfl⟩

/-! ## Opening -/

theorem run_loadFromDisk_of_fault (env : VaultEnv) (message : Text) (v : EncryptedVault) :
    (loadFromDisk env (.error message)).run v = some (.error (.io message), v) := rfl

theorem run_loadFromDisk_of_error {e : AppError} (h : decode env bytes = .error e) :
    (loadFromDisk env (.ok bytes)).run v = some (.error e, v) := by
  change (Prog.ofExcept (.ok bytes) >>= _ : VaultM Unit).run v = _
  rw [Prog.run_ofExcept_ok_bind, h, Prog.run_ofExcept_error_bind]

theorem run_loadFromDisk_of_ok (h : decode env bytes = .ok secrets) :
    (loadFromDisk env (.ok bytes)).run v = some (.ok ⟨⟩, { v with cache := secrets }) := by
  change (Prog.ofExcept (.ok bytes) >>= _ : VaultM Unit).run v = _
  rw [Prog.run_ofExcept_ok_bind, h, Prog.run_ofExcept_ok_bind, Prog.run_modify]

theorem reopened_of_ok (h : decode env bytes = .ok secrets) :
    reopened env (some bytes) = secrets := by
  simp only [reopened, new, Option.elim_none, run_loadFromDisk_of_ok h, getAllSecrets]

theorem reopened_of_error {e : AppError} (h : decode env bytes = .error e) :
    reopened env (some bytes) = .empty := by
  simp only [reopened, new, Option.elim_none, run_loadFromDisk_of_error h, getAllSecrets]

/-- Opening leaves the file as it is. A file that cannot be read counts as empty. -/
theorem new_eq (env : VaultEnv) (readFault : Option Text) (file : Option Bytes) :
    new env readFault file =
      { cache := if readFault = none then reopened env file else .empty, file } := by
  cases file with
  | none =>
      cases readFault <;> rfl
  | some contents =>
      cases readFault with
      | some message => simp only [new, Option.elim_some, run_loadFromDisk_of_fault]; rfl
      | none =>
          rw [if_pos rfl]
          cases h : decode env contents with
          | error e =>
              rw [reopened_of_error h]
              simp only [new, Option.elim_none, run_loadFromDisk_of_error h]
          | ok secrets =>
              rw [reopened_of_ok h]
              simp only [new, Option.elim_none, run_loadFromDisk_of_ok h]

/-! ## A call -/

theorem run_exec (env : VaultEnv) (input : SaveInput) (call : VaultCall) (v : EncryptedVault) :
    (call.exec env input).run v =
      (saveToDisk env input).run { v with cache := call.apply v.cache } := by
  cases call <;> rfl

theorem run_saveToDisk_of_error {e : AppError}
    (h : payload env v.cache input.nonce = .error e) :
    (saveToDisk env input).run v = some (.error e, v) := by
  simp only [saveToDisk, Prog.run_get_bind, h, Prog.run_ofExcept_error_bind]

theorem run_saveToDisk_of_ok (h : payload env v.cache input.nonce = .ok bytes) :
    (saveToDisk env input).run v = some ((fsWrite v.file bytes input.fault).1,
      { v with file := (fsWrite v.file bytes input.fault).2 }) := by
  simp only [saveToDisk, Prog.run_get_bind, h, Prog.run_ofExcept_ok_bind, Prog.run_ofFun]

end EncryptedVault

/-! ## What the file stands for -/

namespace RecordedVault

variable {s t : RecordedVault} {call : VaultCall}

/-- A new vault over the file would hold the secrets on record. -/
def Recorded (env : VaultEnv) (s : RecordedVault) : Prop := reopened env s.vault.file = s.filed

/-- The prefixes of a payload. -/
theorem reopened_take (contract : VaultContract env) (h : payload env secrets nonce = .ok bytes)
    (n : ℕ) :
    reopened env (some (bytes.take n)) = if n < bytes.length then .empty else secrets := by
  by_cases hn : n < bytes.length
  · obtain ⟨e, hcut⟩ := decode_cut contract h hn
    rw [if_pos hn, reopened_of_error hcut]
  · rw [if_neg hn, List.take_of_length_le (not_lt.mp hn),
      reopened_of_ok (decode_payload contract h)]

/-- A save leaves the secrets in memory alone, and the file with those that are recorded. -/
theorem saveToDisk_records (contract : VaultContract env) {r : Except AppError Unit}
    {filed : Secrets} (hrun : (saveToDisk env input).run v = some (r, v'))
    (h : reopened env v.file = filed) :
    v'.cache = v.cache ∧ reopened env v'.file = filedAfter env input v.cache filed := by
  cases hpayload : payload env v.cache input.nonce with
  | error e =>
      rw [run_saveToDisk_of_error hpayload] at hrun
      obtain ⟨-, rfl⟩ := Prod.mk.inj (Option.some.inj hrun)
      simp only [filedAfter, hpayload]
      exact ⟨trivial, h⟩
  | ok bytes =>
      rw [run_saveToDisk_of_ok hpayload] at hrun
      obtain ⟨-, rfl⟩ := Prod.mk.inj (Option.some.inj hrun)
      refine ⟨rfl, ?_⟩
      simp only [filedAfter, hpayload]
      cases input.fault with
      | none => exact reopened_of_ok (decode_payload contract hpayload)
      | some fault =>
          cases fault with
          | «open» message => exact h
          | write written message => exact reopened_take contract hpayload written

theorem Recorded.step (contract : VaultContract env) {a : VaultCall × SaveInput}
    (h : Recorded env s) (hstep : step env s a = some t) : Recorded env t := by
  obtain ⟨⟨r, v'⟩, hrun, rfl⟩ := Option.map_eq_some_iff.mp hstep
  rw [run_exec] at hrun
  exact (saveToDisk_records contract hrun h).2

/-- What is on record is right in every run. -/
theorem recorded_run (contract : VaultContract env) {file : Option Bytes}
    {calls : List (VaultCall × SaveInput)}
    (run : Transition.Run (step env) (fun _ _ => True) (opened env file) calls s) :
    Recorded env s := by
  have hopened : Recorded env (opened env file) := by
    rw [Recorded, opened, new_eq]
  exact run.invariant (fun _ _ _ _ hstep h => h.step contract hstep) hopened

/-! ## Outcomes -/

/-- A crash. -/
theorem sound_crashed_iff (contract : VaultContract env) (h : Recorded env s) (call : VaultCall)
    (nonce : FixedBytes 12) (point : CrashPoint) :
    Sound env s.vault call nonce (.crashed point) ↔ Spared env s call nonce (.crashed point) := by
  have huntouched : reopened env s.vault.file = s.vault.cache ∨
      reopened env s.vault.file = call.apply s.vault.cache ↔ s.InStep call := by
    rw [show reopened env s.vault.file = s.filed from h]
    exact Iff.rfl
  cases point with
  | beforeWrite => exact huntouched
  | writing written =>
      simp only [Sound, Spared, crashFile, getAllSecrets]
      cases hpayload : payload env (call.apply s.vault.cache) nonce with
      | error e => exact huntouched
      | ok bytes =>
          simp only [reopened_take contract hpayload]
          by_cases htorn : written < bytes.length
          · rw [if_pos htorn, forall_prop_of_true htorn]
            exact or_congr eq_comm eq_comm
          · rw [if_neg htorn]
            exact iff_of_true (.inr rfl) fun h => absurd h htorn

/-- A call that returns. -/
theorem sound_returned_iff (s : RecordedVault) (call : VaultCall) (nonce : FixedBytes 12)
    (fault : Option WriteFault) :
    Sound env s.vault call nonce (.returned fault) ↔ Spared env s call nonce (.returned fault) := by
  simp only [Sound, Spared, run_exec, getAllSecrets]
  cases hpayload : payload env (call.apply s.vault.cache) nonce with
  | error e =>
      rw [run_saveToDisk_of_error hpayload]
      simp
  | ok bytes =>
      rw [run_saveToDisk_of_ok hpayload]
      cases fault with
      | none => simp [fsWrite]
      | some fault => cases fault <;> simp [fsWrite]

/-- In every state that calls can lead to, and whatever has failed before: a call does no harm to
the secrets exactly if it is spared. -/
theorem sound_iff (contract : VaultContract env) {file : Option Bytes}
    {calls : List (VaultCall × SaveInput)}
    (run : Transition.Run (step env) (fun _ _ => True) (opened env file) calls s)
    (call : VaultCall) (nonce : FixedBytes 12) (outcome : VaultOutcome) :
    Sound env s.vault call nonce outcome ↔ Spared env s call nonce outcome := by
  cases outcome with
  | crashed point => exact sound_crashed_iff contract (recorded_run contract run) call nonce point
  | returned fault => exact sound_returned_iff s call nonce fault

end RecordedVault

end

/-! ## A second secret -/

namespace Sample

open RecordedVault

/-- One secret is stored in a new vault. -/
def firstCalls : List (VaultCall × SaveInput) :=
  [(.store "office".toList (key "k1"), { nonce := .zero 12 })]

/-- The secret of the second profile. -/
def secondCall : VaultCall := .store "home".toList (key "k2")

/-- A second secret that cannot be written. -/
theorem sound_secondCall : ∃ s, Transition.Run (step env) (fun _ _ => True) (opened env none)
    firstCalls s ∧
      (Sound env s.vault secondCall (.zero 12) (.returned (some (.open "disk full".toList))) ↔
        Spared env s secondCall (.zero 12) (.returned (some (.open "disk full".toList)))) := by
  have hcheck : (Transition.runList (step env) (fun _ _ => True) (opened env none) firstCalls).any
      (fun s => s.vault.cache = one) = true := by decide +kernel
  obtain ⟨s, run, -⟩ := Transition.exists_run_of_any hcheck
  exact ⟨s, run, sound_iff contract run _ _ _⟩

/-- A crash after the file has been truncated for a second secret. -/
theorem not_sound_truncated : ¬ ∀ env, VaultContract env → ∀ file calls s,
    Transition.Run (step env) (fun _ _ => True) (opened env file) calls s →
      ∀ call nonce outcome, Sound env s.vault call nonce outcome := by
  intro hclaim
  have hcheck : (Transition.runList (step env) (fun _ _ => True) (opened env none) firstCalls).any
      (fun s => ¬ (reopened env (crashFile env s.vault secondCall (.zero 12) (.writing 0)) =
          s.vault.cache ∨
        reopened env (crashFile env s.vault secondCall (.zero 12) (.writing 0)) =
          secondCall.apply s.vault.cache)) = true := by decide +kernel
  obtain ⟨s, run, hlost⟩ := Transition.exists_run_of_any hcheck
  exact of_decide_eq_true hlost
    (hclaim env contract none firstCalls s run secondCall (.zero 12) (.crashed (.writing 0)))

end Sample

end VpnHub.Storage
