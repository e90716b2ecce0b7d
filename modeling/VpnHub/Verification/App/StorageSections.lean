import VpnHub.Model.StorageCalls
import VpnHub.Verification.App.ProfileReload

/-! # The sections of a storage call

A call that nothing interrupts does what its method does. -/

namespace VpnHub.Storage

open Protocol Crypto EncryptedVault StorageManager Interleaving

section

variable {env : StorageEnv} {s t : SharedStorage} {c d : Call}

/-! ## Files -/

@[simp] theorem ConfigFile.contents_put (file : ConfigFile) (contents : Option Bytes) (m : StorageManager) :
    file.contents (file.put contents m) = contents := by
  cases file <;> rfl

@[simp] theorem ConfigFile.held_put (file : ConfigFile) (contents : Option Bytes)
    (m : StorageManager) : file.held (file.put contents m) = file.held m := by
  cases file <;> rfl

@[simp] theorem ConfigValue.held_store (value : ConfigValue) (m : StorageManager) :
    value.file.held (value.store m) = value := by
  cases value <;> rfl

@[simp] theorem ConfigValue.contents_store (file : ConfigFile) (value : ConfigValue)
    (m : StorageManager) : file.contents (value.store m) = file.contents m := by
  cases value <;> cases file <;> rfl

@[simp] theorem ConfigFile.put_put (file : ConfigFile) (contents contents' : Option Bytes) (m : StorageManager) :
    file.put contents (file.put contents' m) = file.put contents m := by
  cases file <;> rfl

theorem fsWrite_eq (file : Option Bytes) (contents : Bytes) (fault : Option WriteFault) :
    fsWrite file contents fault = match fsOpen file fault with
      | (.ok _, opened) => fsFill opened contents fault
      | (.error e, opened) => (.error e, opened) := by
  obtain _ | _ | _ := fault <;> simp [fsWrite, fsOpen, fsFill, overwrite]

/-! ## A call that nothing interrupts -/

/-- The method, run from the manager of the state, returns what its sections do and leaves the same
manager. -/
def Atomic (env : StorageEnv) (request : Request) {α : Type} (method : StorageM α)
    (value : Except AppError α → Returned) : Prop :=
  ∀ s r m, method.run s.manager = some (r, m) →
    ∃ n t, alone (Call.advance env) n s request.call = (t, .returned (value r)) ∧ t.manager = m

theorem run_changeProfiles (env : StorageEnv) (f : List StoredProfile → List StoredProfile)
    (fault : Option WriteFault) (s : SharedStorage) :
    (do
        modify fun m => { m with profiles := f m.profiles }
        let m ← get
        persistProfiles env fault m.profiles : StorageM Unit).run s.manager =
      (Call.updateProfiles env f fault s).map fun out => (out.1, out.2.manager) := by
  rw [Prog.run_modify_bind, Prog.run_get_bind, Call.updateProfiles, Option.map_map]
  exact Option.map_id'.symm

theorem run_changeProfiles_return {α : Type} (env : StorageEnv) (f : List StoredProfile → List StoredProfile)
    (fault : Option WriteFault) (a : α) (s : SharedStorage) :
    (do
        modify fun m => { m with profiles := f m.profiles }
        let m ← get
        persistProfiles env fault m.profiles
        return a : StorageM α).run s.manager =
      (Call.updateProfiles env f fault s).map fun out => (out.1.map fun _ => a, out.2.manager) := by
  rw [Prog.run_modify_bind, Prog.run_get_bind, Prog.run_bind, Call.updateProfiles, Option.map_map]
  cases (persistProfiles env fault (f s.manager.profiles)).run
      { s.manager with profiles := f s.manager.profiles } with
  | none => rfl
  | some out => obtain ⟨_ | _, _⟩ := out <;> rfl

theorem saveVault_eq (input : SaveInput) (s : SharedStorage) :
    Call.saveVault env input s = ((saveToDisk env.vault input).run s.manager.vault).map fun out =>
      (out.1, { s with manager := { s.manager with vault := out.2 }, vaultWritten := out.1.isOk }) := by
  rw [Call.saveVault, run_withVault, Option.map_map]
  rfl

theorem isSome_saveVault (input : SaveInput) (s : SharedStorage) :
    ∃ out, Call.saveVault env input s = some out := by
  rw [saveVault_eq]
  cases hpayload : payload env.vault s.manager.vault.cache input.nonce with
  | error e => exact ⟨_, congrArg (Option.map _) (run_saveToDisk_of_error hpayload)⟩
  | ok bytes => exact ⟨_, congrArg (Option.map _) (run_saveToDisk_of_ok hpayload)⟩

theorem run_changeSecrets (f : Secrets → Secrets) (input : SaveInput) (s : SharedStorage) :
    (withVault (do
        modify fun v => { v with cache := f v.cache }
        saveToDisk env.vault input)).run s.manager =
      (Call.saveVault env input (Call.setSecrets f s)).map fun out => (out.1, out.2.manager) := by
  rw [run_withVault, Prog.run_modify_bind, saveVault_eq, Option.map_map]
  rfl

theorem saveProfile_none (input : ProfileInput) (profile : StoredProfile) :
    Atomic env (.saveProfile input profile none) (saveProfile env input profile none) .saved := by
  intro s r m h
  have hrun := run_changeProfiles_return env (putProfile · (withId profile input.uuid))
    input.profilesFault (withId profile input.uuid) s
  obtain ⟨⟨result, t⟩, hupdate, hout⟩ := Option.map_eq_some_iff.mp (hrun.symm.trans h)
  obtain ⟨rfl, rfl⟩ := Prod.mk.inj hout
  refine ⟨1, t, ?_, rfl⟩
  simp only [alone, Request.call, Call.advance, hupdate, Option.map_some]

theorem saveProfile_some (input : ProfileInput) (profile : StoredProfile)
    (secret : StoredProfileSecret) : Atomic env (.saveProfile input profile (some secret))
      (saveProfile env input profile (some secret)) .saved := by
  intro s r m h
  obtain ⟨⟨result, u⟩, hvault⟩ := isSome_saveVault input.save
    (Call.setSecrets (·.insert (withId profile input.uuid).id secret) s)
  have hsecret : (withVault (storeSecret env.vault input.save (withId profile input.uuid).id
      secret)).run s.manager = some (result, u.manager) :=
    (run_changeSecrets (·.insert (withId profile input.uuid).id secret) input.save s).trans
      (congrArg (Option.map fun out => (out.1, out.2.manager)) hvault)
  cases result with
  | error e =>
      rw [saveProfile, Prog.run_bind_of_error hsecret] at h
      cases h
      refine ⟨2, u, ?_, rfl⟩
      simp only [alone, Request.call, Call.advance, hvault, Option.map_some]
  | ok _ =>
      rw [saveProfile, Prog.run_bind_of_ok hsecret] at h
      have hrun := run_changeProfiles_return env (putProfile · (withId profile input.uuid))
        input.profilesFault (withId profile input.uuid) u
      obtain ⟨⟨result, t⟩, hupdate, hout⟩ := Option.map_eq_some_iff.mp (hrun.symm.trans h)
      obtain ⟨rfl, rfl⟩ := Prod.mk.inj hout
      refine ⟨3, t, ?_, rfl⟩
      simp only [alone, Request.call, Call.advance, hvault, hupdate, Option.map_some]

theorem deleteProfile_atomic (input : ProfileInput) (profileId : Text) :
    Atomic env (.deleteProfile input profileId) (deleteProfile env input profileId) .unit := by
  intro s r m h
  obtain ⟨⟨result, u⟩, hvault⟩ := isSome_saveVault input.save
    (Call.setSecrets (·.erase profileId) s)
  have hsecret : (withVault (removeSecret env.vault input.save profileId)).run s.manager =
      some (result, u.manager) :=
    (run_changeSecrets (·.erase profileId) input.save s).trans
      (congrArg (Option.map fun out => (out.1, out.2.manager)) hvault)
  have hignored : (withVault (Prog.ignore (removeSecret env.vault input.save profileId))).run
      s.manager = some (.ok (), u.manager) := by
    rw [run_withVault, Prog.run_ignore, Option.map_map]
    rw [run_withVault] at hsecret
    obtain ⟨out, hout, heq⟩ := Option.map_eq_some_iff.mp hsecret
    have hmanager : { s.manager with vault := out.2 } = u.manager := congrArg Prod.snd heq
    rw [hout, ← hmanager]
    rfl
  rw [deleteProfile, Prog.run_bind_of_ok hignored] at h
  have hrun := run_changeProfiles env (·.filter (·.id ≠ profileId)) input.profilesFault u
  obtain ⟨⟨result, t⟩, hupdate, hout⟩ := Option.map_eq_some_iff.mp (hrun.symm.trans h)
  obtain ⟨rfl, rfl⟩ := Prod.mk.inj hout
  refine ⟨3, t, ?_, rfl⟩
  simp only [alone, Request.call, Call.advance, hvault, hupdate, Option.map_some]

/-- Saving the settings or the rules: the value is written and then changed in memory. -/
def saveValue (env : StorageEnv) (fault : Option WriteFault) (value : ConfigValue) :
    StorageM Unit := do
  persist (ConfigValue.toString env) value.file.label value.file.contents
    (fun contents m => value.file.put contents m) fault value
  modify value.store

theorem run_saveValue (fault : Option WriteFault) (value : ConfigValue) {r : Except AppError Unit}
    {m : StorageManager} (h : (saveValue env fault value).run s.manager = some (r, m)) :
    ∃ n t, alone (Call.advance env) n s (.openFile fault value) = (t, .returned (.unit r)) ∧
      t.manager = m := by
  rw [saveValue, persist] at h
  cases hserialized : value.toString env with
  | error e =>
      rw [hserialized] at h
      cases h
      refine ⟨1, s, ?_, rfl⟩
      simp only [alone, Call.advance, Call.openValue, hserialized]
  | ok serialized =>
      rw [hserialized] at h
      obtain _ | message | ⟨written, message⟩ := fault
      · cases h
        refine ⟨3, ⟨value.store (value.file.put (some serialized) s.manager), s.vaultWritten,
          s.profilesWritten⟩, ?_, rfl⟩
        simp only [alone, Call.advance, Call.openValue, Call.fillValue, hserialized, fsOpen, fsFill,
          overwrite, ConfigFile.contents_put, ConfigFile.put_put, Option.getD_some, List.drop_nil, List.append_nil]
      · cases h
        refine ⟨1, ⟨value.file.put (value.file.contents s.manager) s.manager, s.vaultWritten,
          s.profilesWritten⟩, ?_, rfl⟩
        simp only [alone, Call.advance, Call.openValue, hserialized, fsOpen]
      · cases h
        refine ⟨2, ⟨value.file.put (some (serialized.take written)) s.manager, s.vaultWritten,
          s.profilesWritten⟩, ?_, rfl⟩
        simp only [alone, Call.advance, Call.openValue, Call.fillValue, hserialized, fsOpen, fsFill,
          overwrite, ConfigFile.contents_put, ConfigFile.put_put, Option.getD_some, List.drop_nil, List.append_nil]

theorem saveSecuritySettings_atomic (fault : Option WriteFault)
    (settings : StoredSecuritySettings) : Atomic env (.saveSecuritySettings fault settings)
      (saveSecuritySettings env fault settings) .unit :=
  fun _ _ _ h => run_saveValue fault (.settings settings) h

theorem saveSplitRules_atomic (fault : Option WriteFault) (appRules : List StoredAppRule)
    (ipRules : List StoredIpRule) : Atomic env (.saveSplitRules fault appRules ipRules)
      (saveSplitRules env fault appRules ipRules) .unit :=
  fun _ _ _ h => run_saveValue fault (.rules appRules ipRules) h

theorem getFullSnapshot_alone (s : SharedStorage) :
    alone (Call.advance env) 5 s (Request.call .getFullSnapshot) =
      (s, .returned (.loaded (getFullSnapshot s.manager))) := rfl

/-! ## What a section does -/

theorem isOk_iff {r : Except AppError Unit} : r.isOk = true ↔ r = .ok () := by
  cases r <;> simp [Except.isOk, Except.toBool]

namespace Call

/-- A write of the vault gets an answer, and leaves the secrets in memory as they are. After a write
that went through, a start finds them. -/
theorem exists_saveVault (contract : VaultContract env.vault) (input : SaveInput)
    (s : SharedStorage) : ∃ r v, saveVault env input s =
        some (r, { s with manager := { s.manager with vault := v }, vaultWritten := r.isOk }) ∧
      v.cache = s.manager.vault.cache ∧
      (r.isOk = true → reopened env.vault v.file = s.manager.vault.cache) := by
  rw [saveVault_eq]
  cases hpayload : payload env.vault s.manager.vault.cache input.nonce with
  | error e =>
      rw [run_saveToDisk_of_error hpayload]
      exact ⟨.error e, _, rfl, rfl, fun h => by cases h⟩
  | ok bytes =>
      rw [run_saveToDisk_of_ok hpayload]
      refine ⟨_, _, rfl, rfl, fun h => ?_⟩
      rw [isOk_iff, fsWrite_eq_ok] at h
      rw [h]
      exact reopened_of_ok (decode_payload contract hpayload)

/-- A change of the list gets an answer. After a write that went through, the file shows the list. -/
theorem exists_updateProfiles (roundTrips : RoundTrips env)
    (f : List StoredProfile → List StoredProfile) (fault : Option WriteFault) (s : SharedStorage) :
    ∃ r profilesJson, updateProfiles env f fault s =
        some (r, { s with
          manager := { s.manager with profiles := f s.manager.profiles, profilesJson }
          profilesWritten := r.isOk }) ∧
      (r.isOk = true → profilesJson.bind env.profilesFromStr = some (f s.manager.profiles)) := by
  unfold updateProfiles persistProfiles persist
  cases hprofiles : env.profilesToString (f s.manager.profiles) with
  | error e =>
      refine ⟨.error (.ipc ("Serialize ".toList ++ "profiles".toList ++ " failed: ".toList ++ e)),
        s.manager.profilesJson, ?_, fun h => by cases h⟩
      simp only [hprofiles, Except.mapError, Prog.run_ofExcept_error_bind, Option.map_some]
  | ok data =>
      refine ⟨(fsWrite s.manager.profilesJson data fault).1,
        (fsWrite s.manager.profilesJson data fault).2, ?_, fun h => ?_⟩
      · simp only [hprofiles, Except.mapError, Prog.run_ofExcept_ok_bind, Prog.run_ofFun,
          Option.map_some]
      · rw [isOk_iff, fsWrite_eq_ok] at h
        rw [h]
        exact roundTrips.profiles _ _ hprofiles

/-- The sections of all calls, with what their writes leave behind. -/
inductive Section (env : StorageEnv) (s : SharedStorage) : Call → SharedStorage → Call → Prop where
  | storeSecret (input : ProfileInput) (profile : StoredProfile) (secret : StoredProfileSecret) :
      Section env s (.storeSecret input profile secret) (setSecrets (·.insert profile.id secret) s)
        (.saveSecret input profile)
  | saveSecret (input : ProfileInput) (profile : StoredProfile) {vault : EncryptedVault}
      (cache : vault.cache = s.manager.vault.cache)
      (ok : reopened env.vault vault.file = s.manager.vault.cache) :
      Section env s (.saveSecret input profile)
        { s with manager := { s.manager with vault }, vaultWritten := true }
        (.updateProfile input profile)
  | saveSecretFails (input : ProfileInput) (profile : StoredProfile) {vault : EncryptedVault}
      (e : AppError) (cache : vault.cache = s.manager.vault.cache) :
      Section env s (.saveSecret input profile)
        { s with manager := { s.manager with vault }, vaultWritten := false }
        (.returned (.saved (.error e)))
  | removeSecret (input : ProfileInput) (profileId : Text) :
      Section env s (.removeSecret input profileId) (setSecrets (·.erase profileId) s)
        (.saveRemoval input profileId)
  | saveRemoval (input : ProfileInput) (profileId : Text) {vault : EncryptedVault} (ok : Bool)
      (cache : vault.cache = s.manager.vault.cache)
      (written : ok = true → reopened env.vault vault.file = s.manager.vault.cache) :
      Section env s (.saveRemoval input profileId)
        { s with manager := { s.manager with vault }, vaultWritten := ok }
        (.retainProfiles input profileId)
  | updateProfile (input : ProfileInput) (profile : StoredProfile) {profilesJson : Option Bytes}
      (r : Except AppError Unit) (written : r.isOk = true → profilesJson.bind env.profilesFromStr =
        some (putProfile s.manager.profiles profile)) :
      Section env s (.updateProfile input profile)
        { s with
          manager := { s.manager with
            profiles := putProfile s.manager.profiles profile
            profilesJson }
          profilesWritten := r.isOk }
        (.returned (.saved (r.map fun _ => profile)))
  | retainProfiles (input : ProfileInput) (profileId : Text) {profilesJson : Option Bytes}
      (r : Except AppError Unit) (written : r.isOk = true → profilesJson.bind env.profilesFromStr =
        some (s.manager.profiles.filter (·.id ≠ profileId))) :
      Section env s (.retainProfiles input profileId)
        { s with
          manager := { s.manager with
            profiles := s.manager.profiles.filter (·.id ≠ profileId)
            profilesJson }
          profilesWritten := r.isOk }
        (.returned (.unit r))
  | openFile (fault : Option WriteFault) (value : ConfigValue) {serialized : Bytes}
      (serializes : value.toString env = .ok serialized) :
      Section env s (.openFile fault value)
        { s with manager := value.file.put (some []) s.manager }
        (.fillFile fault serialized value)
  | openFileFails (fault : Option WriteFault) (value : ConfigValue) (e : AppError) :
      Section env s (.openFile fault value) s (.returned (.unit (.error e)))
  | fillFile (fault : Option WriteFault) (serialized : Bytes) (value : ConfigValue) :
      Section env s (.fillFile fault serialized value)
        { s with
          manager := value.file.put (overwrite (value.file.contents s.manager) serialized) s.manager }
        (.setValue value)
  | fillFileFails (serialized : Bytes) (value : ConfigValue) (written : ℕ) (message : Text) :
      Section env s (.fillFile (some (.write written message)) serialized value)
        { s with
          manager := value.file.put
            (overwrite (value.file.contents s.manager) (serialized.take written)) s.manager }
        (.returned (.unit (.error (.io message))))
  | setValue (value : ConfigValue) :
      Section env s (.setValue value) { s with manager := value.store s.manager }
        (.returned (.unit (.ok ())))
  | clone {c d : Call} (file : c.file = none ∧ d.file = none)
      (profileId : c.profileId = none ∧ d.profileId = none) : Section env s c s d

theorem section_openValue (fault : Option WriteFault) (value : ConfigValue) :
    Section env s (.openFile fault value) (openValue env fault value s).1
      (openValue env fault value s).2 := by
  unfold openValue
  cases hserialized : value.toString env with
  | error e => exact .openFileFails fault value _
  | ok serialized =>
      obtain _ | message | ⟨written, message⟩ := fault
      · exact .openFile _ value hserialized
      · have hput : value.file.put (value.file.contents s.manager) s.manager = s.manager := by
          cases value.file <;> rfl
        simp only [fsOpen, hput]
        exact .openFileFails _ value _
      · exact .openFile _ value hserialized

theorem section_fillValue (fault : Option WriteFault) (serialized : Bytes) (value : ConfigValue) :
    Section env s (.fillFile fault serialized value) (fillValue fault serialized value s).1
      (fillValue fault serialized value s).2 := by
  obtain _ | message | ⟨written, message⟩ := fault
  · exact .fillFile _ serialized value
  · exact .fillFile _ serialized value
  · exact .fillFileFails serialized value written message

theorem section_of_advance (roundTrips : RoundTrips env) (h : advance env s c = some (t, d)) :
    Section env s c t d := by
  cases c with
  | storeSecret input profile secret =>
      obtain ⟨rfl, rfl⟩ := Prod.mk.inj (Option.some.inj h)
      exact .storeSecret input profile secret
  | removeSecret input profileId =>
      obtain ⟨rfl, rfl⟩ := Prod.mk.inj (Option.some.inj h)
      exact .removeSecret input profileId
  | saveSecret input profile =>
      obtain ⟨r, vault, hsave, hcache, hok⟩ := exists_saveVault roundTrips.vault input.save s
      rw [advance, hsave] at h
      obtain ⟨rfl, rfl⟩ := Prod.mk.inj (Option.some.inj h)
      cases r with
      | ok u => exact .saveSecret input profile hcache (hok rfl)
      | error e => exact .saveSecretFails input profile e hcache
  | saveRemoval input profileId =>
      obtain ⟨r, vault, hsave, hcache, hok⟩ := exists_saveVault roundTrips.vault input.save s
      rw [advance, hsave] at h
      obtain ⟨rfl, rfl⟩ := Prod.mk.inj (Option.some.inj h)
      exact .saveRemoval input profileId r.isOk hcache hok
  | updateProfile input profile =>
      obtain ⟨r, data, hupdate, hok⟩ := exists_updateProfiles roundTrips (putProfile · profile)
        input.profilesFault s
      rw [advance, hupdate] at h
      obtain ⟨rfl, rfl⟩ := Prod.mk.inj (Option.some.inj h)
      exact .updateProfile input profile r hok
  | retainProfiles input profileId =>
      obtain ⟨r, data, hupdate, hok⟩ := exists_updateProfiles roundTrips
        (·.filter (·.id ≠ profileId)) input.profilesFault s
      rw [advance, hupdate] at h
      obtain ⟨rfl, rfl⟩ := Prod.mk.inj (Option.some.inj h)
      exact .retainProfiles input profileId r hok
  | openFile fault value =>
      obtain ⟨rfl, rfl⟩ := Prod.mk.inj (Option.some.inj h)
      exact section_openValue fault value
  | fillFile fault serialized value =>
      obtain ⟨rfl, rfl⟩ := Prod.mk.inj (Option.some.inj h)
      exact section_fillValue fault serialized value
  | setValue value =>
      obtain ⟨rfl, rfl⟩ := Prod.mk.inj (Option.some.inj h)
      exact .setValue value
  | returned value => cases h
  | _ =>
      obtain ⟨rfl, rfl⟩ := Prod.mk.inj (Option.some.inj h)
      exact .clone ⟨rfl, rfl⟩ ⟨rfl, rfl⟩

end Call

end

end VpnHub.Storage
