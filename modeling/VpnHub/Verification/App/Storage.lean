import VpnHub.Model.StorageRuns
import VpnHub.Verification.App.Vault

/-! # Deleted secrets

A deletion goes through even if the vault cannot be written, so what a start finds depends on the
last write that got to the file. -/

namespace VpnHub.Storage

open Protocol Crypto EncryptedVault StorageManager TrackedStorage

section

variable {env : StorageEnv} {m : StorageManager}

/-! ## Writing files -/

theorem fsWrite_eq_ok {file : Option Bytes} {contents : Bytes} {fault : Option WriteFault} :
    (fsWrite file contents fault).1 = .ok () ↔ fault = none := by
  cases fault with
  | none => exact iff_of_true rfl rfl
  | some fault => cases fault <;> exact iff_of_false (by simp [fsWrite]) (by simp)

/-- Writing one of the other files leaves the vault alone. -/
theorem exists_run_persist {α : Type} (toString : α → Except Text Bytes) (label : String)
    (file : StorageManager → Option Bytes) (put : Option Bytes → StorageManager → StorageManager)
    (hput : ∀ contents m, (put contents m).vault = m.vault) (fault : Option WriteFault) (value : α)
    (m : StorageManager) : ∃ r m', (persist toString label file put fault value).run m = some (r, m') ∧
      m'.vault = m.vault ∧ (r = .ok () ↔ Persists toString fault value) := by
  unfold persist
  cases h : toString value with
  | error e =>
      refine ⟨_, m, Prog.run_ofExcept_error_bind _ _ _, rfl, iff_of_false (by simp) ?_⟩
      rintro ⟨-, serialized, hok⟩
      cases h.symm.trans hok
  | ok serialized =>
      refine ⟨_, _, (Prog.run_ofExcept_ok_bind _ _ _).trans (Prog.run_ofFun _ _), hput _ m, ?_⟩
      refine fsWrite_eq_ok.trans (and_iff_left ⟨serialized, h⟩).symm

theorem exists_run_loadFile {α : Type} (fromStr : Bytes → Option α) (unreadable : Bool)
    (file : Option Bytes) {put : α → StorageManager → StorageManager}
    (hput : ∀ value m, (put value m).vault = m.vault) {persistDefault : StorageM Unit}
    {passes : Prop} {m : StorageManager}
    (hdefault : ∃ r m', persistDefault.run m = some (r, m') ∧ m'.vault = m.vault ∧
      (r = .ok () ↔ passes)) :
    ∃ r m', (loadFile fromStr unreadable file put persistDefault).run m = some (r, m') ∧
      m'.vault = m.vault ∧ (r = .ok () ↔ (file = none → passes)) := by
  unfold loadFile
  cases file with
  | none => simpa using hdefault
  | some data =>
      cases hread : if unreadable then none else fromStr data with
      | none =>
          simp only [hread]
          exact ⟨.ok (), m, rfl, rfl, iff_of_true rfl (by simp)⟩
      | some value =>
          simp only [hread]
          exact ⟨.ok (), put value m, rfl, hput value m, iff_of_true rfl (by simp)⟩

/-! ## Starting -/

/-- Parts of a start follow each other as long as they succeed. -/
theorem exists_run_seq {p q : StorageM Unit} {passes passes' : Prop} {m : StorageManager}
    (hp : ∃ r m', p.run m = some (r, m') ∧ m'.vault = m.vault ∧ (r = .ok () ↔ passes))
    (hq : ∀ m, ∃ r m', q.run m = some (r, m') ∧ m'.vault = m.vault ∧ (r = .ok () ↔ passes')) :
    ∃ r m', (p >>= fun _ => q).run m = some (r, m') ∧ m'.vault = m.vault ∧
      (r = .ok () ↔ passes ∧ passes') := by
  obtain ⟨r, m₁, hrun, hvault, hok⟩ := hp
  cases r with
  | error e =>
      refine ⟨.error e, m₁, Prog.run_bind_of_error hrun, hvault, iff_of_false (by simp) ?_⟩
      exact fun h => by cases hok.mpr h.1
  | ok u =>
      obtain ⟨r, m₂, hrun', hvault', hok'⟩ := hq m₁
      exact ⟨r, m₂, (Prog.run_bind_of_ok hrun).trans hrun', hvault'.trans hvault,
        hok'.trans (and_iff_right (hok.mp rfl)).symm⟩

theorem exists_run_loadInitialData (env : StorageEnv) (input : StartInput) (m : StorageManager) :
    ∃ r m', (loadInitialData env input).run m = some (r, m') ∧ m'.vault = m.vault ∧
      (r = .ok () ↔ (m.profilesJson = none → Persists env.profilesToString input.profilesFault []) ∧
        (m.settingsJson = none → Persists env.settingsToString input.settingsFault {}) ∧
        (m.rulesJson = none → Persists env.rulesToString input.rulesFault ([], []))) := by
  refine exists_run_seq ?_ fun m₁ => exists_run_seq ?_ fun m₂ => ?_
  · exact exists_run_loadFile _ _ _ (by intro _ _; rfl)
      (exists_run_persist _ _ _ _ (by intro _ _; rfl) _ _ m)
  · exact exists_run_loadFile _ _ _ (by intro _ _; rfl)
      (exists_run_persist _ _ _ _ (by intro _ _; rfl) _ _ m₁)
  · exact exists_run_loadFile _ _ _ (by intro _ _; rfl)
      (exists_run_persist _ _ _ _ (by intro _ _; rfl) _ _ m₂)

/-- A start gives a manager with a new vault, or fails and leaves the vault file as it is. -/
theorem new_cases (env : StorageEnv) (input : StartInput) (dir : Directory) :
    (Starts env input dir ∧ ∃ m, StorageManager.new env input dir = (.ok m, m.directory) ∧
        m.vault = .new env.vault input.vaultFault dir.vaultEnc) ∨
      ¬ Starts env input dir ∧ ∃ e dir', StorageManager.new env input dir = (.error e, dir') ∧
        dir'.vaultEnc = dir.vaultEnc := by
  obtain ⟨r, m, hrun, hvault, hok⟩ := exists_run_loadInitialData env input (blank env input dir)
  have hfile : m.directory.vaultEnc = dir.vaultEnc := by
    change m.vault.file = _
    rw [hvault, blank, new_eq]
  by_cases hcreated : dir.created = true ∨ input.createFault = none
  · have hnew : StorageManager.new env input dir = (r.map fun _ => m, m.directory) := by
      unfold StorageManager.new
      split
      · rename_i hmissing hfault
        simp [hmissing, hfault] at hcreated
      · rw [hrun]
        cases r <;> rfl
    cases r with
    | ok u =>
        obtain ⟨hprofiles, hsettings, hrules⟩ := hok.mp rfl
        exact .inl ⟨⟨hcreated, hprofiles, hsettings, hrules⟩, m, hnew, hvault⟩
    | error e =>
        refine .inr ⟨fun hstarts => ?_, e, m.directory, hnew, hfile⟩
        cases hok.mpr ⟨hstarts.profiles, hstarts.settings, hstarts.rules⟩
  · refine .inr ⟨fun hstarts => hcreated hstarts.created, ?_⟩
    push Not at hcreated
    obtain ⟨message, hfault⟩ := Option.ne_none_iff_exists'.mp hcreated.2
    refine ⟨.io message, dir, ?_, rfl⟩
    simp [StorageManager.new, hfault, hcreated.1]

/-! ## Profiles -/

theorem run_withVault {α : Type} (method : VaultM α) (m : StorageManager) :
    (withVault method).run m =
      (method.run m.vault).map fun out => (out.1, { m with vault := out.2 }) := rfl

theorem exists_run_saveToDisk (contract : VaultContract env.vault) (input : SaveInput)
    {v : EncryptedVault} {filed : Secrets} (h : reopened env.vault v.file = filed) :
    ∃ r v', (saveToDisk env.vault input).run v = some (r, v') ∧ v'.cache = v.cache ∧
      reopened env.vault v'.file = RecordedVault.filedAfter env.vault input v.cache filed ∧
      (r = .ok () ↔ Saves env.vault input v.cache) := by
  have hrecords {r v'} (hrun : (saveToDisk env.vault input).run v = some (r, v')) :=
    RecordedVault.saveToDisk_records contract hrun h
  cases hpayload : payload env.vault v.cache input.nonce with
  | error e =>
      have hrun := run_saveToDisk_of_error hpayload
      refine ⟨_, _, hrun, (hrecords hrun).1, (hrecords hrun).2, iff_of_false (by simp) ?_⟩
      rintro ⟨-, bytes, hbytes⟩
      cases hpayload.symm.trans hbytes
  | ok bytes =>
      have hrun := run_saveToDisk_of_ok hpayload
      refine ⟨_, _, hrun, (hrecords hrun).1, (hrecords hrun).2, ?_⟩
      exact fsWrite_eq_ok.trans (and_iff_left ⟨bytes, hpayload⟩).symm

/-- The list of profiles is changed and written; the vault stays. -/
theorem exists_run_update {α : Type} (env : StorageEnv) (f : List StoredProfile → List StoredProfile)
    (fault : Option WriteFault) (a : α) (m : StorageManager) :
    ∃ r m', (do
        modify fun m => { m with profiles := f m.profiles }
        let m ← get
        persistProfiles env fault m.profiles
        return a : StorageM α).run m = some (r, m') ∧ m'.vault = m.vault ∧
      (r.isOk = true ↔ Persists env.profilesToString fault (f m.profiles)) := by
  obtain ⟨r, m', hrun, hvault, hok⟩ := exists_run_persist env.profilesToString "profiles"
    (·.profilesJson) (fun profilesJson m => { m with profilesJson }) (by intro _ _; rfl)
    fault (f m.profiles) { m with profiles := f m.profiles }
  rw [Prog.run_modify_bind, Prog.run_get_bind]
  cases r with
  | ok u => exact ⟨.ok a, m', Prog.run_bind_of_ok hrun, hvault, iff_of_true rfl (hok.mp rfl)⟩
  | error e =>
      refine ⟨.error e, m', Prog.run_bind_of_error hrun, hvault,
        iff_of_false (by simp [Except.isOk, Except.toBool]) ?_⟩
      exact fun h => by cases hok.mpr h

theorem exists_run_saveProfile_none (env : StorageEnv) (input : ProfileInput)
    (profile : StoredProfile) (m : StorageManager) :
    ∃ r m', (saveProfile env input profile none).run m = some (r, m') ∧ m'.vault = m.vault := by
  obtain ⟨r, m', hrun, hvault, -⟩ := exists_run_update env
    (fun profiles => putProfile profiles (withId profile input.uuid)) input.profilesFault
    (withId profile input.uuid) m
  exact ⟨r, m', hrun, hvault⟩

theorem exists_run_saveProfile_some (contract : VaultContract env.vault) (input : ProfileInput)
    (profile : StoredProfile) (sec : StoredProfileSecret) {m : StorageManager} {filed : Secrets}
    (h : reopened env.vault m.vault.file = filed) :
    ∃ r m', (saveProfile env input profile (some sec)).run m = some (r, m') ∧
      m'.vault.cache = m.vault.cache.insert (withId profile input.uuid).id sec ∧
      reopened env.vault m'.vault.file = RecordedVault.filedAfter env.vault input.save
        (m.vault.cache.insert (withId profile input.uuid).id sec) filed ∧
      (r.isOk = true ↔ GoesThrough env m input profile sec) := by
  obtain ⟨r, v, hsave, hcache, hfile, hok⟩ := exists_run_saveToDisk contract input.save
    (v := { m.vault with cache := m.vault.cache.insert (withId profile input.uuid).id sec }) h
  have hstore : (withVault (storeSecret env.vault input.save (withId profile input.uuid).id sec)).run
      m = some (r, { m with vault := v }) := by
    rw [run_withVault]
    exact congrArg _ hsave
  cases r with
  | error e =>
      refine ⟨.error e, _, Prog.run_bind_of_error hstore, hcache, hfile,
        iff_of_false (by simp [Except.isOk, Except.toBool]) ?_⟩
      exact fun hthrough => by cases hok.mpr hthrough.1
  | ok u =>
      obtain ⟨r, m', hrun, hvault, hok'⟩ := exists_run_update env
        (fun profiles => putProfile profiles (withId profile input.uuid)) input.profilesFault
        (withId profile input.uuid) { m with vault := v }
      refine ⟨r, m', (Prog.run_bind_of_ok hstore).trans hrun, ?_, ?_, ?_⟩
      · rw [hvault]
        exact hcache
      · rw [hvault]
        exact hfile
      · exact hok'.trans (and_iff_right (hok.mp rfl)).symm

/-- A deletion takes the secret out of memory, and its error is lost. -/
theorem exists_run_deleteProfile (contract : VaultContract env.vault) (input : ProfileInput)
    (profileId : Text) {m : StorageManager} {filed : Secrets}
    (h : reopened env.vault m.vault.file = filed) :
    ∃ r m', (deleteProfile env input profileId).run m = some (r, m') ∧
      m'.vault.cache = m.vault.cache.erase profileId ∧
      reopened env.vault m'.vault.file = RecordedVault.filedAfter env.vault input.save
        (m.vault.cache.erase profileId) filed := by
  obtain ⟨r, v, hsave, hcache, hfile, -⟩ := exists_run_saveToDisk contract input.save
    (v := { m.vault with cache := m.vault.cache.erase profileId }) h
  have hremove : (withVault (Prog.ignore (removeSecret env.vault input.save profileId))).run m =
      some (.ok (), { m with vault := v }) := by
    rw [run_withVault, Prog.run_ignore]
    change Option.map _ (Option.map _ ((saveToDisk env.vault input.save).run _)) = _
    rw [hsave]
    rfl
  obtain ⟨r, m', hrun, hvault, -⟩ := exists_run_persist env.profilesToString "profiles"
    (·.profilesJson) (fun profilesJson m => { m with profilesJson }) (by intro _ _; rfl)
    input.profilesFault (m.profiles.filter (·.id ≠ profileId))
    { m with vault := v, profiles := m.profiles.filter (·.id ≠ profileId) }
  refine ⟨r, m', (Prog.run_bind_of_ok hremove).trans hrun, ?_, ?_⟩
  · rw [hvault]
    exact hcache
  · rw [hvault]
    exact hfile

/-! ## Every run -/

namespace TrackedStorage

variable {s t : TrackedStorage}

/-- A new vault over the file would hold the secrets on record. -/
def Recorded (env : StorageEnv) (s : TrackedStorage) : Prop :=
  reopened env.vault s.state.directory.vaultEnc = s.filed

/-- What a step does to the secrets. -/
inductive StepShape (env : StorageEnv) (s : TrackedStorage) : StorageOp → TrackedStorage → Prop
    where
  | saved {m m' : StorageManager} {input : ProfileInput} {profile : StoredProfile}
      (hstate : s.state = .running m) (hvault : m'.vault = m.vault) :
      StepShape env s (.saveProfile input profile none) { s with state := .running m' }
  | stored {m m' : StorageManager} {input : ProfileInput} {profile : StoredProfile}
      {sec : StoredProfileSecret} {filed : Secrets} {deleted : List Text}
      (hstate : s.state = .running m)
      (hcache : m'.vault.cache = m.vault.cache.insert (withId profile input.uuid).id sec)
      (hfile : reopened env.vault m'.vault.file = filed)
      (hdeleted : GoesThrough env m input profile sec ∧
          deleted = s.deleted.filter (· ≠ (withId profile input.uuid).id) ∨
        ¬ GoesThrough env m input profile sec ∧ deleted = s.deleted) :
      StepShape env s (.saveProfile input profile (some sec))
        { state := .running m', filed, deleted }
  | removed {m m' : StorageManager} {input : ProfileInput} {id : Text} {filed : Secrets}
      {deleted : List Text} (hstate : s.state = .running m)
      (hcache : m'.vault.cache = m.vault.cache.erase id)
      (hfile : reopened env.vault m'.vault.file = filed)
      (hdeleted : deleted ⊆ id :: s.deleted) :
      StepShape env s (.deleteProfile input id) { state := .running m', filed, deleted }
  | started {m : StorageManager} {input : StartInput}
      (hstarts : Starts env input s.state.directory)
      (hvault : m.vault = .new env.vault input.vaultFault s.state.directory.vaultEnc) :
      StepShape env s (.restart input) { s with state := .running m }
  | failed {input : StartInput} {dir : Directory} (hfails : ¬ Starts env input s.state.directory)
      (hfile : dir.vaultEnc = s.state.directory.vaultEnc) :
      StepShape env s (.restart input) { s with state := .stopped dir }

theorem step_cases (contract : VaultContract env.vault) (hrecorded : Recorded env s)
    {op : StorageOp} (h : step env s op = some t) : StepShape env s op t := by
  have hfiled {m : StorageManager} (hstate : s.state = .running m) :
      reopened env.vault m.vault.file = s.filed := by
    rw [Recorded, hstate] at hrecorded
    exact hrecorded
  cases op with
  | saveProfile input profile secret =>
      cases hstate : s.state with
      | stopped dir => simp [step, hstate] at h
      | running m =>
          simp only [step, hstate] at h
          cases secret with
          | none =>
              obtain ⟨r, m', hrun, hvault⟩ := exists_run_saveProfile_none env input profile m
              rw [hrun] at h
              obtain rfl := Option.some.inj h
              exact .saved hstate hvault
          | some sec =>
              obtain ⟨r, m', hrun, hcache, hfile, hok⟩ :=
                exists_run_saveProfile_some contract input profile sec (hfiled hstate)
              rw [hrun] at h
              obtain rfl := Option.some.inj h
              refine .stored hstate hcache hfile ?_
              by_cases hr : r.isOk = true
              · exact .inl ⟨hok.mp hr, if_pos hr⟩
              · exact .inr ⟨fun hthrough => hr (hok.mpr hthrough), if_neg hr⟩
  | deleteProfile input id =>
      cases hstate : s.state with
      | stopped dir => simp [step, hstate] at h
      | running m =>
          simp only [step, hstate] at h
          obtain ⟨r, m', hrun, hcache, hfile⟩ :=
            exists_run_deleteProfile contract input id (hfiled hstate)
          rw [hrun] at h
          obtain rfl := Option.some.inj h
          refine .removed hstate hcache hfile ?_
          split
          · exact List.Subset.refl _
          · exact List.subset_cons_self _ _
  | restart input =>
      simp only [step] at h
      rcases new_cases env input s.state.directory with
        ⟨hstarts, m, hnew, hvault⟩ | ⟨hfails, e, dir, hnew, hfile⟩
      · rw [hnew] at h
        obtain rfl := Option.some.inj h
        exact .started hstarts hvault
      · rw [hnew] at h
        obtain rfl := Option.some.inj h
        exact .failed hfails hfile

theorem Recorded.step (contract : VaultContract env.vault) (h : Recorded env s) {op : StorageOp}
    (hstep : step env s op = some t) : Recorded env t := by
  cases step_cases contract h hstep with
  | @saved m m' _ _ hstate hvault =>
      rw [Recorded, hstate] at h
      change reopened env.vault m'.vault.file = _
      rw [hvault]
      exact h
  | stored _ _ hfile _ => exact hfile
  | removed _ _ hfile _ => exact hfile
  | @started m _ _ hvault =>
      change reopened env.vault m.vault.file = _
      rw [hvault, new_eq]
      exact h
  | @failed _ dir _ hfile =>
      change reopened env.vault dir.vaultEnc = _
      rw [hfile]
      exact h

/-- A step keeps the deleted secrets hidden exactly if it is one of those that are meant. -/
theorem hidden_step_iff (contract : VaultContract env.vault) (hrecorded : Recorded env s)
    (hhidden : Hidden s) {op : StorageOp} (hstep : step env s op = some t) :
    Hidden t ↔ Kept env s op := by
  cases step_cases contract hrecorded hstep with
  | @saved m m' _ _ hstate hvault =>
      refine iff_of_true ?_ trivial
      rintro _ ⟨⟩ id hid
      change m'.vault.cache.find? id = none
      rw [hvault]
      exact hhidden m hstate id hid
  | @stored m m' input profile sec filed deleted hstate hcache hfile hdeleted =>
      have hsame : m'.vault.cache.find? (withId profile input.uuid).id = some sec := by
        rw [hcache, OrdMap.find?_insert, if_pos rfl]
      have hother {id : Text} (hne : (withId profile input.uuid).id ≠ id) :
          m'.vault.cache.find? id = m.vault.cache.find? id := by
        rw [hcache, OrdMap.find?_insert, if_neg hne]
      constructor
      · rintro ht m₁ hm₁ hid
        obtain rfl : m = m₁ := by rw [hstate] at hm₁; cases hm₁; rfl
        rcases hdeleted with ⟨hthrough, -⟩ | ⟨-, rfl⟩
        · exact hthrough
        · have hshown := ht m' rfl _ hid
          change m'.vault.cache.find? _ = none at hshown
          cases hsame.symm.trans hshown
      · rintro hkept _ ⟨⟩ id hid
        change m'.vault.cache.find? id = none
        have hid' : id ∈ s.deleted ∧ (withId profile input.uuid).id ≠ id := by
          rcases hdeleted with ⟨-, rfl⟩ | ⟨hfails, rfl⟩
          · obtain ⟨hmem, hne⟩ := List.mem_filter.mp hid
            exact ⟨hmem, fun heq => of_decide_eq_true hne heq.symm⟩
          · refine ⟨hid, ?_⟩
            rintro rfl
            exact hfails (hkept m hstate hid)
        rw [hother hid'.2]
        exact hhidden m hstate id hid'.1
  | @removed m m' input id filed deleted hstate hcache hfile hdeleted =>
      refine iff_of_true ?_ trivial
      rintro _ ⟨⟩ other hother
      change m'.vault.cache.find? other = none
      rw [hcache, OrdMap.find?_erase]
      by_cases heq : id = other
      · rw [if_pos heq]
      · rw [if_neg heq]
        rcases List.mem_cons.mp (hdeleted hother) with h | h
        · exact absurd h.symm heq
        · exact hhidden m hstate other h
  | @started m input hstarts hvault =>
      have hcache : m.vault.cache = if input.vaultFault = none then s.filed else .empty := by
        rw [hvault, new_eq, ← hrecorded]
      by_cases hread : input.vaultFault = none
      · rw [if_pos hread] at hcache
        have hsnapshot : Hidden { s with state := .running m } ↔
            ∀ id ∈ s.deleted, s.filed.find? id = none := by
          rw [← hcache]
          exact ⟨fun h => h m rfl, fun h => by rintro _ ⟨⟩; exact h⟩
        rw [hsnapshot]
        exact ⟨fun h _ _ => h, fun h => h hstarts hread⟩
      · rw [if_neg hread] at hcache
        refine iff_of_true ?_ fun _ h => absurd h hread
        rintro _ ⟨⟩ id -
        change m.vault.cache.find? id = none
        rw [hcache, OrdMap.find?_empty]
  | failed hfails hfile =>
      refine iff_of_true ?_ fun h => absurd h hfails
      intro m hm
      cases hm

/-- In every run, with any failures: no deleted secret shows up again in any of its states exactly
if every step is one of those that are meant. -/
theorem hidden_iff_kept (contract : VaultContract env.vault) (dir : Directory)
    (ops : List StorageOp) : Transition.Holds (step env) Hidden (start env dir) ops ↔
      Transition.Meets (step env) (Kept env) (start env dir) ops := by
  refine Transition.holds_iff_meets (I := Recorded env) ?_ ?_ rfl ?_
  · exact fun _ _ _ hstep h => h.step contract hstep
  · exact fun _ _ _ hstep hrecorded hhidden => hidden_step_iff contract hrecorded hhidden hstep
  · intro m hm
    cases hm

end TrackedStorage

end

namespace Sample

/-- A deletion that gets through to the vault. -/
theorem hidden_deletionOps :
    Transition.Holds (step storageEnv) Hidden (start storageEnv noDirectory) (deletionOps none) ↔
      Transition.Meets (step storageEnv) (Kept storageEnv) (start storageEnv noDirectory)
        (deletionOps none) :=
  hidden_iff_kept contract noDirectory (deletionOps none)

/-- The secret of a deleted profile is in the snapshot. -/
def showsOffice (s : TrackedStorage) : Bool :=
  match s.state with
  | .running m => s.deleted = [office.id] &&
      (m.getFullSnapshot.secrets.find? office.id).isSome
  | .stopped _ => false

theorem not_hidden_of_showsOffice {s : TrackedStorage} (h : showsOffice s = true) : ¬ Hidden s := by
  intro hhidden
  unfold showsOffice at h
  cases hstate : s.state with
  | stopped dir => simp [hstate] at h
  | running m =>
      simp only [hstate, Bool.and_eq_true, decide_eq_true_eq] at h
      have hnone := hhidden m hstate office.id (by rw [h.1]; exact List.mem_singleton_self _)
      rw [hnone] at h
      cases h.2

/-- The vault cannot be opened for writing when the profile is deleted. -/
theorem not_hidden_after_restart : ¬ ∀ env : StorageEnv, VaultContract env.vault →
    ∀ dir ops, Transition.Holds (step env) Hidden (start env dir) ops := by
  intro hclaim
  have hcheck : (Transition.runList (step storageEnv) (fun _ _ => True)
      (start storageEnv noDirectory)
      (deletionOps (some (.open "Permission denied (os error 13)".toList)))).any showsOffice =
        true := by decide +kernel
  obtain ⟨s, run, hshows⟩ := Transition.exists_run_of_any hcheck
  exact not_hidden_of_showsOffice hshows ((hclaim storageEnv contract noDirectory _).last run)

end Sample

end VpnHub.Storage
