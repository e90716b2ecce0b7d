import VpnHub.Model.ProfileReload
import VpnHub.Verification.App.Storage

/-! # What a restart shows of a saved profile

The save writes the profiles and the settings, and the start reads them back. -/

namespace VpnHub.App

open Storage

variable {env : StorageEnv} {m m' : StorageManager} {dir dir' : Directory}

/-! ## Files -/

theorem run_persist {α : Type} {toString : α → Except Text Bytes} {value : α} {bytes : Bytes}
    (h : toString value = .ok bytes) (label : String) (file : StorageManager → Option Bytes)
    (put : Option Bytes → StorageManager → StorageManager) (m : StorageManager) :
    (StorageManager.persist toString label file put none value).run m =
      some (.ok (), put (some bytes) m) := by
  unfold StorageManager.persist
  rw [h]
  rfl

theorem run_loadFile {α : Type} {fromStr : Bytes → Option α} {data : Bytes} {value : α}
    (h : fromStr data = some value) (put : α → StorageManager → StorageManager)
    (persistDefault : StorageM Unit) (m : StorageManager) :
    (StorageManager.loadFile fromStr false (some data) put persistDefault).run m =
      some (.ok (), put value m) := by
  unfold StorageManager.loadFile
  simp only [Bool.false_eq_true, if_false, h]
  rfl

/-- The profiles and the settings in memory stay. -/
def SameContents (m m' : StorageManager) : Prop :=
  m'.profiles = m.profiles ∧ m'.securitySettings = m.securitySettings

theorem loadRules_keeps (env : StorageEnv) (unreadable : Bool) (file : Option Bytes)
    (fault : Option WriteFault) :
    Prog.Keeps SameContents (StorageManager.loadFile env.rulesFromStr unreadable file
      (fun rules m => { m with appRules := rules.1, ipRules := rules.2 })
      (StorageManager.persistSplitRules env fault [] [])) := by
  have hrefl : ∀ m, SameContents m m := fun _ => ⟨rfl, rfl⟩
  unfold StorageManager.loadFile
  cases file with
  | none =>
      apply Prog.Keeps.bind
      · exact fun _ _ _ h h' => ⟨h'.1.trans h.1, h'.2.trans h.2⟩
      · exact .ofExcept hrefl _
      · exact fun _ => .ofFun fun _ => ⟨rfl, rfl⟩
  | some data =>
      cases hread : if unreadable then none else env.rulesFromStr data with
      | none =>
          simp only [hread]
          exact .pure hrefl ()
      | some rules =>
          simp only [hread]
          exact .modify fun _ => ⟨rfl, rfl⟩

theorem run_of_new {input : StartInput} (h : StorageManager.new env input dir = (.ok m, dir')) :
    (StorageManager.loadInitialData env input).run (StorageManager.blank env input dir) =
      some (.ok (), m) := by
  unfold StorageManager.new at h
  split at h
  · cases h
  · split at h
    · rename_i hrun
      cases h
      exact hrun
    · cases h
    · cases h

/-- The values that a start takes over from files it can read. -/
theorem new_loaded {input : StartInput} {profiles : List StoredProfile}
    {settings : StoredSecuritySettings} {profilesBytes settingsBytes : Bytes}
    (hreadable : input.profilesUnreadable = false ∧ input.settingsUnreadable = false)
    (hprofiles : dir.profilesJson = some profilesBytes)
    (hparsed : env.profilesFromStr profilesBytes = some profiles)
    (hsettings : dir.settingsJson = some settingsBytes)
    (hread : env.settingsFromStr settingsBytes = some settings)
    (hnew : StorageManager.new env input dir = (.ok m, dir')) :
    m.profiles = profiles ∧ m.securitySettings = settings := by
  have hrun := run_of_new hnew
  have hfiles : (StorageManager.blank env input dir).profilesJson = some profilesBytes ∧
      (StorageManager.blank env input dir).settingsJson = some settingsBytes :=
    ⟨hprofiles, hsettings⟩
  unfold StorageManager.loadInitialData at hrun
  rw [Prog.run_get_bind, hfiles.1, hreadable.1, Prog.run_bind_of_ok (run_loadFile hparsed _ _ _)]
    at hrun
  rw [hfiles.2, hreadable.2, Prog.run_bind_of_ok (run_loadFile hread _ _ _)] at hrun
  exact (loadRules_keeps env _ _ _).of_run hrun

/-! ## Saving -/

theorem run_update {α : Type} (f : List StoredProfile → List StoredProfile) {bytes : Bytes}
    (h : env.profilesToString (f m.profiles) = .ok bytes) (a : α) :
    (do
        modify fun m => { m with profiles := f m.profiles }
        let m ← get
        StorageManager.persistProfiles env none m.profiles
        return a : StorageM α).run m =
      some (.ok a, { m with profiles := f m.profiles, profilesJson := some bytes }) := by
  rw [Prog.run_modify_bind, Prog.run_get_bind]
  exact Prog.run_bind_of_ok (run_persist h _ _ _ _)

theorem exists_run_storeSecret (contract : StorageContract env) {input : SaveInput}
    (hunharmed : input.fault = none) (id : Text) (sec : StoredProfileSecret) (m : StorageManager) :
    ∃ vault, (StorageManager.withVault (EncryptedVault.storeSecret env.vault input id sec)).run m =
      some (.ok (), { m with vault := vault }) := by
  obtain ⟨bytes, hbytes⟩ := contract.payload (m.vault.cache.insert id sec) input.nonce
  refine ⟨{ cache := m.vault.cache.insert id sec, file := some bytes }, ?_⟩
  rw [run_withVault, EncryptedVault.storeSecret, Prog.run_modify_bind,
    EncryptedVault.run_saveToDisk_of_ok hbytes, hunharmed]
  rfl

theorem exists_run_saveProfile (contract : StorageContract env) {input : ProfileInput}
    (hunharmed : input.save.fault = none ∧ input.profilesFault = none) (profile : StoredProfile)
    (secret : Option StoredProfileSecret) (m : StorageManager) :
    ∃ vault bytes, (StorageManager.saveProfile env input profile secret).run m =
        some (.ok (StorageManager.withId profile input.uuid), { m with
          vault := vault
          profiles :=
            StorageManager.putProfile m.profiles (StorageManager.withId profile input.uuid)
          profilesJson := some bytes }) ∧
      env.profilesFromStr bytes = some
        (StorageManager.putProfile m.profiles (StorageManager.withId profile input.uuid)) := by
  obtain ⟨uuid, save, fault⟩ := input
  obtain ⟨hsave, rfl⟩ := hunharmed
  obtain ⟨bytes, hbytes, hparsed⟩ := contract.profiles
    (StorageManager.putProfile m.profiles (StorageManager.withId profile uuid))
  cases secret with
  | none =>
      refine ⟨m.vault, bytes, ?_, hparsed⟩
      exact run_update (StorageManager.putProfile · (StorageManager.withId profile uuid)) hbytes _
  | some sec =>
      obtain ⟨vault, hstore⟩ := exists_run_storeSecret contract hsave
        (StorageManager.withId profile uuid).id sec m
      refine ⟨vault, bytes, (Prog.run_bind_of_ok hstore).trans ?_, hparsed⟩
      exact run_update (StorageManager.putProfile · (StorageManager.withId profile uuid))
        (m := { m with vault }) hbytes _

variable {p : VpnProfile} {settings : SecuritySettings} {secret : Option ProfileSecretPayload}

/-- The profiles after a save: it does nothing if the arguments do not fit. -/
def savedProfiles (p : VpnProfile) (secret : Option ProfileSecretPayload) (uuid : Text)
    (profiles : List StoredProfile) : List StoredProfile :=
  (saveArguments p secret).elim profiles fun arguments =>
    StorageManager.putProfile profiles (StorageManager.withId arguments.1 uuid)

theorem exists_saveProfile (contract : StorageContract env) {input : ProfileInput}
    (hunharmed : input.save.fault = none ∧ input.profilesFault = none) {m : StorageManager}
    (hfile : (saveArguments p secret).isSome ∨
      ∃ bytes, m.profilesJson = some bytes ∧ env.profilesFromStr bytes = some m.profiles) :
    ∃ vault bytes, IpcBridge.saveProfile env input p secret m = some { m with
        vault := vault
        profiles := savedProfiles p secret input.uuid m.profiles
        profilesJson := some bytes } ∧
      env.profilesFromStr bytes = some (savedProfiles p secret input.uuid m.profiles) := by
  unfold IpcBridge.saveProfile savedProfiles
  cases harguments : saveArguments p secret with
  | none =>
      obtain ⟨bytes, hbytes, hparsed⟩ := hfile.resolve_left (by simp [harguments])
      exact ⟨m.vault, bytes, by simp [← hbytes], hparsed⟩
  | some arguments =>
      obtain ⟨vault, bytes, hrun, hparsed⟩ :=
        exists_run_saveProfile contract hunharmed arguments.1 arguments.2 m
      exact ⟨vault, bytes, congrArg (Option.map _) hrun, hparsed⟩

theorem exists_saveSecuritySettings (contract : StorageContract env) (settings : SecuritySettings)
    (m : StorageManager) :
    ∃ bytes, IpcBridge.saveSecuritySettings env none settings m = some { m with
        securitySettings := (IpcBridge.settingsPayload settings).deserialize
        settingsJson := some bytes } ∧
      env.settingsFromStr bytes = some (IpcBridge.settingsPayload settings).deserialize := by
  obtain ⟨bytes, hbytes, hread⟩ :=
    contract.settings (IpcBridge.settingsPayload settings).deserialize
  have hrun : (StorageManager.saveSecuritySettings env none
      (IpcBridge.settingsPayload settings).deserialize).run m = _ :=
    Prog.run_bind_of_ok (run_persist hbytes _ _ _ m)
  exact ⟨bytes, congrArg (Option.map _) hrun, hread⟩

/-! ## Restarting -/

/-- A start over files that are all there and can be read. -/
theorem new_of_files {profiles : List StoredProfile} {settings : StoredSecuritySettings}
    {appRules : List StoredAppRule} {ipRules : List StoredIpRule}
    {profilesBytes settingsBytes rulesBytes : Bytes}
    (hparsed : env.profilesFromStr profilesBytes = some profiles)
    (hread : env.settingsFromStr settingsBytes = some settings)
    (hruled : env.rulesFromStr rulesBytes = some (appRules, ipRules)) (vaultEnc : Option Bytes) :
    ∃ m, StorageManager.new env {} {
          created := true
          vaultEnc
          profilesJson := some profilesBytes
          settingsJson := some settingsBytes
          rulesJson := some rulesBytes } = (.ok m, m.directory) ∧
      m = {
        vault := .new env.vault none vaultEnc
        profiles
        securitySettings := settings
        appRules
        ipRules
        profilesJson := some profilesBytes
        settingsJson := some settingsBytes
        rulesJson := some rulesBytes } := by
  refine ⟨_, ?_, rfl⟩
  unfold StorageManager.new StorageManager.loadInitialData
  simp only
  rw [Prog.run_get_bind]
  simp only [StorageManager.blank]
  rw [Prog.run_bind_of_ok (run_loadFile hparsed _ _ _),
    Prog.run_bind_of_ok (run_loadFile hread _ _ _), run_loadFile hruled]

/-- The store shows the given profiles and the settings of the save. -/
def Shows (settings : SecuritySettings) (after : VpnStore) (profiles : List StoredProfile) : Prop :=
  ∃ snapshot : FullStorageSnapshot, after = ({} : VpnStore).loadSnapshot (.ofStored snapshot) ∧
    snapshot.profiles = profiles ∧
    snapshot.securitySettings = (IpcBridge.settingsPayload settings).deserialize

theorem Reloaded.shows (contract : StorageContract env) {after : VpnStore}
    (h : Reloaded env p settings secret after) (hfits : (saveArguments p secret).isSome) :
    ∃ profiles uuid, Shows settings after (savedProfiles p secret uuid profiles) := by
  cases h with
  | @intro _ _ _ _ _ input m saved settled m' _ saves settles restarted unharmed readable =>
      obtain ⟨vault, bytes, hsaves, hparsed⟩ :=
        exists_saveProfile (m := m) contract unharmed (.inl hfits)
      obtain rfl := Option.some.inj (saves.symm.trans hsaves)
      obtain ⟨settingsBytes, hsettles, hread⟩ := exists_saveSecuritySettings contract settings _
      obtain rfl := Option.some.inj (settles.symm.trans hsettles)
      obtain ⟨hprofiles, hsettings⟩ := new_loaded readable rfl hparsed rfl hread restarted
      exact ⟨m.profiles, input.uuid, m'.getFullSnapshot, rfl, hprofiles, hsettings⟩

/-- Any profiles may have been stored before, and any id may be drawn. -/
theorem exists_reloaded (contract : StorageContract env) (p : VpnProfile)
    (settings : SecuritySettings) (secret : Option ProfileSecretPayload)
    (profiles : List StoredProfile) (uuid : Text) : ∃ after,
      Reloaded env p settings secret after ∧
        Shows settings after (savedProfiles p secret uuid profiles) := by
  obtain ⟨profilesBytes, -, hparsed⟩ := contract.profiles profiles
  obtain ⟨settingsBytes, -, hread⟩ := contract.settings {}
  obtain ⟨rulesBytes, -, hruled⟩ := contract.rules ([], [])
  obtain ⟨m, hstarted, hm⟩ := new_of_files hparsed hread hruled none
  have hfile : ∃ bytes, m.profilesJson = some bytes ∧ env.profilesFromStr bytes = some m.profiles :=
    ⟨profilesBytes, by rw [hm], by rw [hm, hparsed]⟩
  let input : ProfileInput := { uuid, save := { nonce := .zero 12 } }
  have hunharmed : input.save.fault = none ∧ input.profilesFault = none := ⟨rfl, rfl⟩
  obtain ⟨vault, bytes, hsaves, hparsed'⟩ := exists_saveProfile contract hunharmed (.inr hfile)
  subst hm
  obtain ⟨settingsBytes', hsettles, hread'⟩ := exists_saveSecuritySettings contract settings _
  obtain ⟨m', hrestarted, hm'⟩ := new_of_files hparsed' hread' hruled vault.file
  refine ⟨_, .intro hstarted hsaves hsettles hrestarted ⟨rfl, rfl⟩ ⟨rfl, rfl⟩, m'.getFullSnapshot,
    rfl, ?_, ?_⟩
  · rw [hm']
    rfl
  · rw [hm']
    rfl

end VpnHub.App
