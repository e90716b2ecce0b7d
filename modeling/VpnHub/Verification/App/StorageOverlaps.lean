import VpnHub.Verification.App.ProfilePolicy
import VpnHub.Verification.App.StorageCalls

/-! # Storage calls that overlap

Without a fault of the disk, what is left of two calls depends on the order of their sections. -/

namespace VpnHub.Storage

open Protocol Crypto EncryptedVault StorageManager TrackedStorage Interleaving Call

section

variable {env : StorageEnv} {s t : SharedStorage}

/-! ## The halves of saving and deleting a profile -/

theorem exists_saveVault_ok {input : SaveInput} {s : SharedStorage}
    (h : Saves env.vault input s.manager.vault.cache) : ∃ v, saveVault env input s =
        some (.ok (), { s with manager := { s.manager with vault := v }, vaultWritten := true }) ∧
      v.cache = s.manager.vault.cache := by
  obtain ⟨hfault, bytes, hbytes⟩ := h
  rw [saveVault_eq, run_saveToDisk_of_ok hbytes, hfault]
  exact ⟨_, rfl, rfl⟩

theorem exists_updateProfiles_ok {f : List StoredProfile → List StoredProfile}
    {fault : Option WriteFault} {s : SharedStorage}
    (h : Persists env.profilesToString fault (f s.manager.profiles)) : ∃ profilesJson,
    updateProfiles env f fault s = some (.ok (), { s with
      manager := { s.manager with profiles := f s.manager.profiles, profilesJson }
      profilesWritten := true }) := by
  obtain ⟨rfl, bytes, hbytes⟩ := h
  refine ⟨some bytes, ?_⟩
  rw [updateProfiles]
  simp only [persistProfiles, App.run_persist hbytes]
  rfl

/-- The secrets and the list after some sections of a call, and where the call is then. -/
def Reaches (env : StorageEnv) (n : ℕ) (s : SharedStorage) (c : Call) (secrets : Secrets)
    (profiles : List StoredProfile) (d : Call) : Prop :=
  (alone (advance env) n s c).2 = d ∧
    (alone (advance env) n s c).1.manager.vault.cache = secrets ∧
    (alone (advance env) n s c).1.manager.profiles = profiles

variable {input : ProfileInput}

theorem reaches_storeSecret {profile : StoredProfile} {secret : StoredProfileSecret}
    {s : SharedStorage}
    (h : Saves env.vault input.save (s.manager.vault.cache.insert profile.id secret)) :
    Reaches env 2 s (.storeSecret input profile secret)
      (s.manager.vault.cache.insert profile.id secret) s.manager.profiles
      (.updateProfile input profile) := by
  obtain ⟨v, hvault, hcache⟩ := exists_saveVault_ok (s := setSecrets (·.insert profile.id secret) s) h
  simp only [Reaches, alone, advance, hvault, Option.map_some]
  exact ⟨trivial, hcache, rfl⟩

theorem reaches_updateProfile {profile : StoredProfile} {s : SharedStorage}
    (h : Persists env.profilesToString input.profilesFault (putProfile s.manager.profiles profile)) :
    Reaches env 1 s (.updateProfile input profile) s.manager.vault.cache
      (putProfile s.manager.profiles profile) (.returned (.saved (.ok profile))) := by
  obtain ⟨data, hupdate⟩ := exists_updateProfiles_ok (f := (putProfile · profile)) h
  simp only [Reaches, alone, advance, hupdate, Option.map_some]
  exact ⟨rfl, trivial, trivial⟩

theorem reaches_removeSecret {profileId : Text} {s : SharedStorage}
    (h : Saves env.vault input.save (s.manager.vault.cache.erase profileId)) :
    Reaches env 2 s (.removeSecret input profileId) (s.manager.vault.cache.erase profileId)
      s.manager.profiles (.retainProfiles input profileId) := by
  obtain ⟨v, hvault, hcache⟩ := exists_saveVault_ok (s := setSecrets (·.erase profileId) s) h
  simp only [Reaches, alone, advance, hvault, Option.map_some]
  exact ⟨trivial, hcache, rfl⟩

theorem reaches_retainProfiles {profileId : Text} {s : SharedStorage}
    (h : Persists env.profilesToString input.profilesFault
      (s.manager.profiles.filter (·.id ≠ profileId))) :
    Reaches env 1 s (.retainProfiles input profileId) s.manager.vault.cache
      (s.manager.profiles.filter (·.id ≠ profileId)) (.returned (.unit (.ok ()))) := by
  obtain ⟨data, hupdate⟩ := exists_updateProfiles_ok (f := (·.filter (·.id ≠ profileId))) h
  simp only [Reaches, alone, advance, hupdate, Option.map_some]
  exact ⟨trivial, trivial, trivial⟩

theorem run_first {n : ℕ} {c d e : Call} {secrets : Secrets} {profiles : List StoredProfile}
    (h : Reaches env n s c secrets profiles d) : ∃ as t, Transition.Run (Pool.step (advance env))
      Requests ⟨s, [c, e]⟩ as ⟨t, [d, e]⟩ ∧ t.manager.vault.cache = secrets ∧
        t.manager.profiles = profiles := by
  obtain ⟨rfl, hsecrets, hprofiles⟩ := h
  obtain ⟨as, run⟩ : ∃ as, Transition.Run (Pool.step (advance env)) Requests ⟨s, [c, e]⟩ as _ :=
    run_alone (fun _ _ => trivial) n s c [] [e]
  exact ⟨as, _, run, hsecrets, hprofiles⟩

theorem run_second {n : ℕ} {c d e : Call} {secrets : Secrets} {profiles : List StoredProfile}
    (h : Reaches env n s e secrets profiles d) : ∃ as t, Transition.Run (Pool.step (advance env))
      Requests ⟨s, [c, e]⟩ as ⟨t, [c, d]⟩ ∧ t.manager.vault.cache = secrets ∧
        t.manager.profiles = profiles := by
  obtain ⟨rfl, hsecrets, hprofiles⟩ := h
  obtain ⟨as, run⟩ : ∃ as, Transition.Run (Pool.step (advance env)) Requests ⟨s, [c, e]⟩ as _ :=
    run_alone (fun _ _ => trivial) n s e [c] []
  exact ⟨as, _, run, hsecrets, hprofiles⟩

/-! ## What is left of two calls -/

/-- The two calls are started, and some order of their sections ends with both of them returned. -/
def Ends (env : StorageEnv) (m : StorageManager) (first second : Request) (results : List Returned)
    (t : SharedStorage) : Prop :=
  ∃ rest, CallRun env Requests m (.start first.call :: .start second.call :: rest)
    ⟨t, results.map .returned⟩

theorem ends_of_run {m : StorageManager} {first second : Request} {results : List Returned}
    {rest : List (Action Call)} (run : Transition.Run (Pool.step (advance env)) Requests
      ⟨{ manager := m }, [first.call, second.call]⟩ rest ⟨t, results.map .returned⟩) :
    Ends env m first second results t :=
  ⟨rest, .cons ⟨first, rfl⟩ rfl (.cons ⟨second, rfl⟩ rfl run)⟩

/-- The two calls about a profile can write what they have to write, in either order. -/
structure Unhindered (env : StorageEnv) (m : StorageManager) (saving deleting : ProfileInput)
    (profile : StoredProfile) (secret : StoredProfileSecret) : Prop where
  stored : Saves env.vault saving.save (m.vault.cache.insert profile.id secret)
  erased : Saves env.vault deleting.save (m.vault.cache.erase profile.id)
  put : Persists env.profilesToString saving.profilesFault (putProfile m.profiles profile)
  retained : Persists env.profilesToString deleting.profilesFault
    (m.profiles.filter (·.id ≠ profile.id))
  putBack : Persists env.profilesToString saving.profilesFault
    (putProfile (m.profiles.filter (·.id ≠ profile.id)) profile)

theorem filter_replaceF (profile : StoredProfile) (profiles : List StoredProfile) :
    (profiles.replaceF fun p => if p.id = profile.id then some profile else none).filter
      (·.id ≠ profile.id) = profiles.filter (·.id ≠ profile.id) := by
  induction profiles with
  | nil => rfl
  | cons p profiles ih =>
      rw [List.replaceF]
      by_cases hid : p.id = profile.id
      · simp [hid]
      · simp only [if_neg hid, List.filter_cons, ih]

theorem filter_putProfile (profiles : List StoredProfile) (profile : StoredProfile) :
    (putProfile profiles profile).filter (·.id ≠ profile.id) =
      profiles.filter (·.id ≠ profile.id) := by
  unfold putProfile
  split
  · exact filter_replaceF profile profiles
  · simp

/-- A deletion that starts while a profile is saved, or the other way round, can leave the secret
without the profile, and the profile without its secret. -/
theorem exists_unpaired {m : StorageManager} {saving deleting : ProfileInput}
    {profile : StoredProfile} {secret : StoredProfileSecret}
    (unhindered : Unhindered env m saving deleting profile secret)
    (hid : (Text.trim profile.id).isEmpty = false) :
    (∃ t, Ends env m (.saveProfile saving profile (some secret)) (.deleteProfile deleting profile.id)
        [.saved (.ok profile), .unit (.ok ())] t ∧
      t.manager.vault.cache.find? profile.id = some secret ∧
      ∀ p ∈ t.manager.profiles, p.id ≠ profile.id) ∧
    ∃ t, Ends env m (.saveProfile saving profile (some secret)) (.deleteProfile deleting profile.id)
        [.saved (.ok profile), .unit (.ok ())] t ∧
      t.manager.vault.cache.find? profile.id = none ∧ profile ∈ t.manager.profiles := by
  have hcalls : [Call.storeSecret saving profile secret, .removeSecret deleting profile.id] =
      [(Request.saveProfile saving profile (some secret)).call,
        (Request.deleteProfile deleting profile.id).call] := by
    simp [Request.call, withId, hid]
  constructor
  · obtain ⟨as, s₁, run₁, hsecrets₁, hprofiles₁⟩ := run_second (c := .storeSecret saving profile secret)
      (reaches_removeSecret (s := { manager := m }) unhindered.erased)
    have hstored : Saves env.vault saving.save (s₁.manager.vault.cache.insert profile.id secret) := by
      rw [hsecrets₁, OrdMap.insert_erase]
      exact unhindered.stored
    obtain ⟨bs, s₂, run₂, hsecrets₂, hprofiles₂⟩ := run_first
      (e := .retainProfiles deleting profile.id) (reaches_storeSecret hstored)
    have hput : Persists env.profilesToString saving.profilesFault
        (putProfile s₂.manager.profiles profile) := by
      rw [hprofiles₂, hprofiles₁]
      exact unhindered.put
    obtain ⟨cs, s₃, run₃, hsecrets₃, hprofiles₃⟩ := run_first
      (e := .retainProfiles deleting profile.id) (reaches_updateProfile hput)
    have hretained : Persists env.profilesToString deleting.profilesFault
        (s₃.manager.profiles.filter (·.id ≠ profile.id)) := by
      rw [hprofiles₃, filter_putProfile, hprofiles₂, hprofiles₁]
      exact unhindered.retained
    obtain ⟨ds, s₄, run₄, hsecrets₄, hprofiles₄⟩ := run_second
      (c := .returned (.saved (.ok profile))) (reaches_retainProfiles hretained)
    rw [hcalls] at run₁
    refine ⟨s₄, ends_of_run (((run₁.append run₂).append run₃).append run₄), ?_, ?_⟩
    · rw [hsecrets₄, hsecrets₃, hsecrets₂, OrdMap.find?_insert, if_pos rfl]
    · intro p hp
      rw [hprofiles₄] at hp
      simpa using (List.mem_filter.mp hp).2
  · obtain ⟨as, s₁, run₁, hsecrets₁, hprofiles₁⟩ := run_first
      (e := .removeSecret deleting profile.id)
      (reaches_storeSecret (s := { manager := m }) unhindered.stored)
    have herased : Saves env.vault deleting.save (s₁.manager.vault.cache.erase profile.id) := by
      rw [hsecrets₁, OrdMap.erase_insert]
      exact unhindered.erased
    obtain ⟨bs, s₂, run₂, hsecrets₂, hprofiles₂⟩ := run_second
      (c := .updateProfile saving profile) (reaches_removeSecret herased)
    have hretained : Persists env.profilesToString deleting.profilesFault
        (s₂.manager.profiles.filter (·.id ≠ profile.id)) := by
      rw [hprofiles₂, hprofiles₁]
      exact unhindered.retained
    obtain ⟨cs, s₃, run₃, hsecrets₃, hprofiles₃⟩ := run_second
      (c := .updateProfile saving profile) (reaches_retainProfiles hretained)
    have hput : Persists env.profilesToString saving.profilesFault
        (putProfile s₃.manager.profiles profile) := by
      rw [hprofiles₃, hprofiles₂, hprofiles₁]
      exact unhindered.putBack
    obtain ⟨ds, s₄, run₄, hsecrets₄, hprofiles₄⟩ := run_first
      (e := .returned (.unit (.ok ()))) (reaches_updateProfile hput)
    rw [hcalls] at run₁
    refine ⟨s₄, ends_of_run (((run₁.append run₂).append run₃).append run₄), ?_, ?_⟩
    · rw [hsecrets₄, hsecrets₃, hsecrets₂, OrdMap.find?_erase, if_pos rfl]
    · rw [hprofiles₄]
      exact List.mem_of_find?_eq_some (App.find?_putProfile _ profile)

/-- Saving a value without a fault of the disk. -/
def requestOf : ConfigValue → Request
  | .settings settings => .saveSecuritySettings none settings
  | .rules appRules ipRules => .saveSplitRules none appRules ipRules

theorem call_requestOf (value : ConfigValue) : (requestOf value).call = .openFile none value := by
  cases value <;> rfl

theorem alone_openFile {value : ConfigValue} {serialized : Bytes}
    (h : value.toString env = .ok serialized) (s : SharedStorage) :
    alone (advance env) 1 s (.openFile none value) =
      ({ s with manager := value.file.put (some []) s.manager },
        .fillFile none serialized value) := by
  simp only [alone, advance, openValue, h, fsOpen]

theorem alone_fillFile (value : ConfigValue) (serialized : Bytes) (s : SharedStorage) :
    alone (advance env) 1 s (.fillFile none serialized value) =
      ({ s with manager :=
          value.file.put (overwrite (value.file.contents s.manager) serialized) s.manager },
        .setValue value) := rfl

theorem alone_setValue (value : ConfigValue) (s : SharedStorage) :
    alone (advance env) 1 s (.setValue value) =
      ({ s with manager := value.store s.manager }, .returned (.unit (.ok ()))) := rfl

/-- One call goes on by the given sections. -/
theorem run_at {n : ℕ} {c d : Call} (before after : List Call)
    (h : alone (advance env) n s c = (t, d)) : ∃ as, Transition.Run (Pool.step (advance env)) Requests
      ⟨s, before ++ c :: after⟩ as ⟨t, before ++ d :: after⟩ := by
  obtain ⟨as, run⟩ : ∃ as, Transition.Run (Pool.step (advance env)) Requests
      ⟨s, before ++ c :: after⟩ as _ := run_alone (fun _ _ => trivial) n s c before after
  exact ⟨as, by rwa [h] at run⟩

/-- Two saves of the settings, or of the rules, that overlap can leave the value of one of them in
memory and that of the other in the file, and can leave a file that mixes the two. -/
theorem exists_torn (m : StorageManager) {a b : ConfigValue} (hfile : a.file = b.file)
    {aText bText : Bytes} (ha : a.toString env = .ok aText) (hb : b.toString env = .ok bText) :
    (∃ t, Ends env m (requestOf a) (requestOf b) [.unit (.ok ()), .unit (.ok ())] t ∧
      a.file.held t.manager = b ∧ a.file.contents t.manager = some aText) ∧
    ∃ t, Ends env m (requestOf a) (requestOf b) [.unit (.ok ()), .unit (.ok ())] t ∧
      a.file.contents t.manager = some (bText ++ aText.drop bText.length) := by
  have hcalls : [Call.openFile none a, .openFile none b] =
      [(requestOf a).call, (requestOf b).call] := by
    rw [call_requestOf, call_requestOf]
  constructor
  · obtain ⟨as, run₁⟩ := run_at [.openFile none a] [] (alone_openFile hb { manager := m })
    obtain ⟨bs, run₂⟩ := run_at [.openFile none a] [] (alone_fillFile b bText _)
    obtain ⟨cs, run₃⟩ := run_at [] [.setValue b] (alone_openFile ha _)
    obtain ⟨ds, run₄⟩ := run_at [] [.setValue b] (alone_fillFile a aText _)
    obtain ⟨es, run₅⟩ := run_at [] [.setValue b] (alone_setValue a _)
    obtain ⟨fs, run₆⟩ := run_at [.returned (.unit (.ok ()))] [] (alone_setValue b _)
    rw [List.singleton_append, hcalls] at run₁
    refine ⟨_, ends_of_run (((((run₁.append run₂).append run₃).append run₄).append run₅).append run₆),
      ?_, ?_⟩
    · rw [hfile, ConfigValue.held_store]
    · simp [overwrite, hfile]
  · obtain ⟨as, run₁⟩ := run_at [] [.openFile none b] (alone_openFile ha { manager := m })
    obtain ⟨bs, run₂⟩ := run_at [.fillFile none aText a] [] (alone_openFile hb _)
    obtain ⟨cs, run₃⟩ := run_at [] [.fillFile none bText b] (alone_fillFile a aText _)
    obtain ⟨ds, run₄⟩ := run_at [] [.fillFile none bText b] (alone_setValue a _)
    obtain ⟨es, run₅⟩ := run_at [.returned (.unit (.ok ()))] [] (alone_fillFile b bText _)
    obtain ⟨fs, run₆⟩ := run_at [.returned (.unit (.ok ()))] [] (alone_setValue b _)
    rw [List.nil_append, hcalls] at run₁
    refine ⟨_, ends_of_run (((((run₁.append run₂).append run₃).append run₄).append run₅).append run₆),
      ?_⟩
    simp [overwrite, hfile]

/-- A snapshot that is taken while the rules are saved can join the old rules for applications with
the new ones for addresses. -/
theorem exists_mixed_snapshot (m : StorageManager) {appRules : List StoredAppRule}
    {ipRules : List StoredIpRule} {serialized : Bytes}
    (h : env.rulesToString (appRules, ipRules) = .ok serialized) :
    ∃ t, Ends env m .getFullSnapshot (.saveSplitRules none appRules ipRules)
      [.loaded { getFullSnapshot m with ipRules }, .unit (.ok ())] t := by
  let value : ConfigValue := .rules appRules ipRules
  obtain ⟨as, run₁⟩ := run_at (n := 4) [] [.openFile none value]
    (c := .cloneProfiles) (s := { manager := m }) rfl
  obtain ⟨bs, run₂⟩ := run_at [.cloneIpRules m.profiles m.vault.getAllSecrets m.securitySettings
    m.appRules] [] (alone_openFile (show value.toString env = .ok serialized from h) _)
  obtain ⟨cs, run₃⟩ := run_at [.cloneIpRules m.profiles m.vault.getAllSecrets m.securitySettings
    m.appRules] [] (alone_fillFile value serialized _)
  obtain ⟨ds, run₄⟩ := run_at [.cloneIpRules m.profiles m.vault.getAllSecrets m.securitySettings
    m.appRules] [] (alone_setValue value _)
  obtain ⟨es, run₅⟩ := run_at (n := 1) [] [.returned (.unit (.ok ()))]
    (c := .cloneIpRules m.profiles m.vault.getAllSecrets m.securitySettings m.appRules) rfl
  exact ⟨_, ends_of_run ((((run₁.append run₂).append run₃).append run₄).append run₅)⟩

end

namespace Sample

theorem profilesToString_listed : callsEnv.profilesToString [] = .ok profilesData ∧
    callsEnv.profilesToString [office] = .ok officeData :=
  listedToString_pair (show ([] : List StoredProfile) ≠ [office] by simp) profilesData officeData

theorem unhindered_office : Unhindered callsEnv fresh saveOffice saveOffice office (key "k1") where
  stored := ⟨rfl, exists_payload_one⟩
  erased := ⟨rfl, exists_payload (by decide +kernel)⟩
  put := ⟨rfl, officeData, profilesToString_listed.2⟩
  retained := ⟨rfl, profilesData, profilesToString_listed.1⟩
  putBack := ⟨rfl, officeData, profilesToString_listed.2⟩

/-- A profile that is saved and deleted at the same time. -/
theorem office_unpaired :
    (∃ t, Ends callsEnv fresh (.saveProfile saveOffice office (some (key "k1")))
        (.deleteProfile saveOffice office.id) [.saved (.ok office), .unit (.ok ())] t ∧
      t.manager.vault.cache.find? office.id = some (key "k1") ∧
      ∀ p ∈ t.manager.profiles, p.id ≠ office.id) ∧
    ∃ t, Ends callsEnv fresh (.saveProfile saveOffice office (some (key "k1")))
        (.deleteProfile saveOffice office.id) [.saved (.ok office), .unit (.ok ())] t ∧
      t.manager.vault.cache.find? office.id = none ∧ office ∈ t.manager.profiles :=
  exists_unpaired unhindered_office (by decide)

/-- The settings are saved with the kill switch and without it at the same time: the file can show
the kill switch when it is off in memory, and can end in the middle of the longer text. -/
theorem settings_torn : settingsData.length = offData.length + 3 ∧
    (∃ t, Ends callsEnv fresh (requestOf (.settings {})) (requestOf (.settings offSettings))
        [.unit (.ok ()), .unit (.ok ())] t ∧
      ConfigFile.settings.held t.manager = .settings offSettings ∧
      ConfigFile.settings.contents t.manager = some settingsData) ∧
    ∃ t, Ends callsEnv fresh (requestOf (.settings {})) (requestOf (.settings offSettings))
        [.unit (.ok ()), .unit (.ok ())] t ∧ ConfigFile.settings.contents t.manager =
      some (offData ++ settingsData.drop offData.length) :=
  ⟨length_settingsData, exists_torn fresh (a := .settings {}) (b := .settings offSettings) rfl
    settingsToString_listed.1 settingsToString_listed.2⟩

end Sample

end VpnHub.Storage
