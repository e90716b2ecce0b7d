import VpnHub.Library.Utf8
import VpnHub.Verification.App.StorageSections

/-! # Calls of the storage at the same time -/

namespace VpnHub.Storage

open Protocol Crypto EncryptedVault StorageManager TrackedStorage Interleaving

section

variable {env : StorageEnv} {s t : SharedStorage} {c d : Call}

namespace Call

theorem profileId_of_unsaved {c : Call} {id : Text} (h : c.unsaved = some id) :
    c.profileId = some id := by
  cases c <;> first | exact h | cases h

/-! ## The vault and the list of profiles, in any order of sections -/

/-- After a write that went through, the file differs from the memory only for profiles whose
change a call has yet to write. -/
def Unwritten (env : StorageEnv) (p : Pool SharedStorage Call) : Prop :=
  p.shared.vaultWritten = true → ∀ id, p.shared.manager.vault.cache.find? id ≠
      (reopened env.vault p.shared.manager.vault.file).find? id →
    ∃ c ∈ p.calls, c.unsaved = some id

def Listed (env : StorageEnv) (s : SharedStorage) : Prop :=
  s.profilesWritten = true → s.manager.profilesJson.bind env.profilesFromStr = some s.manager.profiles

theorem Section.unwritten {before after : List Call} (h : Section env s c t d)
    (hs : Unwritten env ⟨s, before ++ c :: after⟩) : Unwritten env ⟨t, before ++ d :: after⟩ := by
  have hframe (hcall : c.unsaved = none) {id : Text}
      (hpending : ∃ e ∈ before ++ c :: after, e.unsaved = some id) :
      ∃ e ∈ before ++ d :: after, e.unsaved = some id := by
    obtain ⟨e, he, hid⟩ := hpending
    refine ⟨e, ?_, hid⟩
    have hne : e ≠ c := by
      rintro rfl
      simp [hcall] at hid
    simpa [hne, or_assoc] using Or.imp_right (Or.inr (a := e = d)) (by simpa [hne] using he)
  cases h with
  | storeSecret input profile secret =>
      intro hwritten id hdiffers
      by_cases hid : profile.id = id
      · exact ⟨.saveSecret input profile, by simp, congrArg some hid⟩
      · simp only [setSecrets, OrdMap.find?_insert, if_neg hid] at hdiffers
        exact hframe rfl (hs hwritten id hdiffers)
  | removeSecret input profileId =>
      intro hwritten id hdiffers
      by_cases hid : profileId = id
      · exact ⟨.saveRemoval input profileId, by simp, congrArg some hid⟩
      · simp only [setSecrets, OrdMap.find?_erase, if_neg hid] at hdiffers
        exact hframe rfl (hs hwritten id hdiffers)
  | saveSecret input profile cache ok => exact fun _ id hdiffers => absurd (by rw [cache, ok]) hdiffers
  | saveSecretFails => exact fun hwritten => by cases hwritten
  | saveRemoval input profileId ok cache written =>
      exact fun hok id hdiffers => absurd (by rw [cache, written hok]) hdiffers
  | clone hfile hid =>
      have hcall : c.unsaved = none := by
        cases hunsaved : c.unsaved with
        | none => rfl
        | some id => cases hid.1.symm.trans (profileId_of_unsaved hunsaved)
      exact fun hwritten id hdiffers => hframe hcall (hs hwritten id hdiffers)
  | updateProfile | retainProfiles =>
      exact fun hwritten id hdiffers => hframe rfl (hs hwritten id hdiffers)
  | openFile fault value serializes =>
      cases value <;> exact fun hwritten id hdiffers => hframe rfl (hs hwritten id hdiffers)
  | openFileFails => exact fun hwritten id hdiffers => hframe rfl (hs hwritten id hdiffers)
  | fillFile fault serialized value =>
      cases value <;> exact fun hwritten id hdiffers => hframe rfl (hs hwritten id hdiffers)
  | fillFileFails serialized value =>
      cases value <;> exact fun hwritten id hdiffers => hframe rfl (hs hwritten id hdiffers)
  | setValue value =>
      cases value <;> exact fun hwritten id hdiffers => hframe rfl (hs hwritten id hdiffers)

theorem Section.listed (h : Section env s c t d) (hs : Listed env s) : Listed env t := by
  cases h with
  | updateProfile input profile r written => exact written
  | retainProfiles input profileId r written => exact written
  | openFile fault value => cases value <;> exact hs
  | fillFile fault serialized value => cases value <;> exact hs
  | fillFileFails serialized value => cases value <;> exact hs
  | setValue value => cases value <;> exact hs
  | _ => exact hs

theorem unwritten_and_listed_run (roundTrips : RoundTrips env)
    {guard : Pool SharedStorage Call → Action Call → Prop} {m : StorageManager}
    {as : List (Action Call)} {p : Pool SharedStorage Call} (hm : InStep env m)
    (run : CallRun env guard m as p) : Unwritten env p ∧ Listed env p.shared := by
  refine Transition.Run.invariant (I := fun p => Unwritten env p ∧ Listed env p.shared)
    (fun p a q _ hstep ⟨hunwritten, hlisted⟩ => ?_) run ⟨?_, fun _ => hm.profiles⟩
  · obtain ⟨c, rfl, rfl⟩ | ⟨before, c, after, t, d, rfl, hcalls, hadvance, rfl⟩ := step_cases hstep
    · refine ⟨fun hwritten id hdiffers => ?_, hlisted⟩
      obtain ⟨e, he, hid⟩ := hunwritten hwritten id hdiffers
      exact ⟨e, List.mem_append_left _ he, hid⟩
    · have hsection := section_of_advance roundTrips hadvance
      exact ⟨hsection.unwritten (hcalls ▸ hunwritten), hsection.listed hlisted⟩
  · exact fun _ id hdiffers => absurd (by rw [hm.vault]) hdiffers

/-! ## The files without a lock, one call at a time -/

/-- How far the call that writes a file has come: before it opens the file and when it is done the
file shows the value in memory. -/
def Writing (env : StorageEnv) (file : ConfigFile) (s : SharedStorage) : Option Call → Prop
  | none => file.Shows env s.manager
  | some (.openFile fault value) =>
    (openFile fault value).Whole ∧ value.file = file ∧ file.Shows env s.manager
  | some (.fillFile fault serialized value) => (fillFile fault serialized value).Whole ∧
      value.file = file ∧ value.toString env = .ok serialized ∧ file.contents s.manager = some []
  | some (.setValue value) => value.file = file ∧
      (file.contents s.manager).bind (file.fromStr env) = some value
  | some _ => False

theorem writing_congr {file : ConfigFile} {o : Option Call}
    (hcontents : file.contents t.manager = file.contents s.manager)
    (hheld : file.held t.manager = file.held s.manager) (h : Writing env file s o) :
    Writing env file t o := by
  unfold Writing ConfigFile.Shows at *
  split <;> simp_all

theorem Section.writing_frame {file : ConfigFile} {o : Option Call} (h : Section env s c t d)
    (hc : c.file ≠ some file) (hs : Writing env file s o) : Writing env file t o := by
  have hframe {value : ConfigValue} (hvalue : value.file ≠ file) (contents : Option Bytes) :
      Writing env file { s with manager := value.file.put contents s.manager } o := by
    refine writing_congr ?_ ?_ hs <;> cases value <;> cases file <;> first | rfl | cases hvalue rfl
  cases h with
  | openFile fault value => exact hframe (fun h => hc (congrArg some h)) _
  | fillFile fault serialized value => exact hframe (fun h => hc (congrArg some h)) _
  | fillFileFails serialized value => exact hframe (fun h => hc (congrArg some h)) _
  | setValue value =>
      have hvalue : value.file ≠ file := fun h => hc (congrArg some h)
      refine writing_congr ?_ ?_ hs <;> cases value <;> cases file <;>
        first | rfl | cases hvalue rfl
  | openFileFails | clone => exact hs
  | _ => exact writing_congr (by cases file <;> rfl) (by cases file <;> rfl) hs

/-- The call that has the file opens it, fills it and changes the value in memory. -/
theorem Section.writing (roundTrips : RoundTrips env) {file : ConfigFile}
    (h : Section env s c t d) (hc : c.file = some file) (hs : Writing env file s (some c)) :
    Writing env file t (if d.file = some file then some d else none) := by
  cases h with
  | openFile fault value serializes =>
      obtain ⟨hwhole, rfl, -⟩ := hs
      rw [if_pos (by rfl)]
      exact ⟨hwhole, rfl, serializes, ConfigFile.contents_put _ _ _⟩
  | openFileFails fault value e =>
      obtain ⟨-, rfl, hshows⟩ := hs
      exact hshows
  | fillFile fault serialized value =>
      obtain ⟨-, rfl, hserialized, hempty⟩ := hs
      rw [if_pos (by rfl)]
      refine ⟨rfl, ?_⟩
      rw [ConfigFile.contents_put, hempty, overwrite, Option.getD_some, List.drop_nil, List.append_nil]
      exact roundTrips.config value serialized hserialized
  | fillFileFails serialized value written message =>
      exact absurd rfl (hs.1 written message)
  | setValue value =>
      obtain ⟨rfl, hcontents⟩ := hs
      change value.file.Shows env (value.store s.manager)
      rw [ConfigFile.Shows, ConfigValue.contents_store, ConfigValue.held_store, hcontents]
  | clone hfile => cases hfile.1.symm.trans hc
  | _ => cases hc

theorem Section.takes {file : ConfigFile} (h : Section env s c t d) (hd : d.file = some file) :
    c.file = some file := by
  cases h with
  | openFile | fillFile => exact hd
  | clone hfile => cases hfile.2.symm.trans hd
  | _ => cases hd

theorem writing_rule (roundTrips : RoundTrips env) : OwnerRule Call.file
    (fun c => c.Requested ∧ c.Whole) (fun _ _ => True) (advance env) (Writing env) where
  start file s c hstarts hc hshows := by
    obtain ⟨⟨request, rfl⟩, hwhole⟩ := hstarts
    cases request with
    | saveProfile input profile secret => cases secret <;> cases hc
    | saveSecuritySettings fault settings => exact ⟨hwhole, Option.some.inj hc, hshows⟩
    | saveSplitRules fault appRules ipRules => exact ⟨hwhole, Option.some.inj hc, hshows⟩
    | deleteProfile | getFullSnapshot => cases hc
  goesOn file s c t d _ hadvance hc hd hs := by
    have h := (section_of_advance roundTrips hadvance).writing roundTrips hc hs
    rwa [if_pos hd] at h
  returns file s c t d _ hadvance hc hd hs := by
    have h := (section_of_advance roundTrips hadvance).writing roundTrips hc hs
    rwa [if_neg hd] at h
  frame file s c t d o hadvance hc hs := (section_of_advance roundTrips hadvance).writing_frame hc hs
  takes file s c t d hadvance hd := (section_of_advance roundTrips hadvance).takes hd

end Call

/-- A start over the directory of a manager that is in step with it gives the same manager. -/
theorem new_of_inStep {m : StorageManager} (h : InStep env m) :
    StorageManager.new env {} m.directory = (.ok m, m.directory) := by
  obtain ⟨⟨cache, file⟩, profiles, settings, appRules, ipRules, profilesJson, settingsJson,
    rulesJson⟩ := m
  obtain ⟨hvault, hprofiles, hconfig⟩ := h
  obtain ⟨data, rfl, hprofiles⟩ := Option.bind_eq_some_iff.mp hprofiles
  obtain ⟨settingsData, rfl, hsettings⟩ := Option.bind_eq_some_iff.mp (hconfig .settings)
  obtain ⟨rulesData, rfl, hrules⟩ := Option.bind_eq_some_iff.mp (hconfig .rules)
  have hread : env.settingsFromStr settingsData = some settings := by
    simpa [ConfigFile.fromStr, ConfigFile.held] using hsettings
  have hruled : env.rulesFromStr rulesData = some (appRules, ipRules) := by
    simpa [ConfigFile.fromStr, ConfigFile.held] using hrules
  obtain ⟨m', hnew, hm'⟩ := App.new_of_files hprofiles hread hruled file
  have hm : m' = ⟨⟨cache, file⟩, profiles, settings, appRules, ipRules, some data, some settingsData,
      some rulesData⟩ := by
    rw [hm', new_eq, if_pos rfl, hvault]
  subst hm
  exact hnew

theorem inStep_of_run (roundTrips : RoundTrips env) {m : StorageManager} (hm : InStep env m)
    {as : List (Action Call)} {p : Pool SharedStorage Call}
    (run : CallRun env (Free Call.file (fun c => c.Requested ∧ c.Whole) fun _ _ => True) m as p)
    (hreturned : ∀ c ∈ p.calls, c.HasReturned) (hvault : p.shared.vaultWritten = true)
    (hprofiles : p.shared.profilesWritten = true) : InStep env p.shared.manager := by
  obtain ⟨hunwritten, hlisted⟩ := Call.unwritten_and_listed_run roundTrips hm run
  obtain ⟨-, hwriting⟩ := (Call.writing_rule roundTrips).invariant run List.Pairwise.nil hm.config
  refine ⟨?_, hlisted hprofiles, fun file => ?_⟩
  · refine (OrdMap.ext_find? fun id => ?_).symm
    by_contra hdiffers
    obtain ⟨c, hc, hid⟩ := hunwritten hvault id hdiffers
    cases c with
    | returned value => cases hid
    | _ => cases hreturned _ hc
  · have hnone : owner Call.file file p.calls = none := by
      refine List.find?_eq_none.mpr fun c hc => ?_
      cases c with
      | returned value => simp [Call.file]
      | _ => cases hreturned _ hc
    have hshows := hwriting file
    rw [hnone] at hshows
    exact hshows

/-! ## Secrets and profiles, one call for an id at a time -/

theorem countP_id (profiles : List StoredProfile) (id : Text) :
    profiles.countP (·.id = id) = (profiles.map (·.id)).count id := by
  rw [List.count, List.countP_map]
  exact List.countP_congr fun p _ => by simp

theorem ids_replaceF (profile : StoredProfile) (profiles : List StoredProfile) :
    (profiles.replaceF fun p => if p.id = profile.id then some profile else none).map (·.id) =
      profiles.map (·.id) := by
  induction profiles with
  | nil => rfl
  | cons p profiles ih =>
      rw [List.replaceF]
      by_cases hid : p.id = profile.id
      · simp [hid]
      · simp only [if_neg hid, List.map_cons, ih]

theorem countP_putProfile_of_ne (profiles : List StoredProfile) {profile : StoredProfile} {id : Text}
    (h : profile.id ≠ id) :
    (putProfile profiles profile).countP (·.id = id) = profiles.countP (·.id = id) := by
  unfold putProfile
  split
  · rw [countP_id, ids_replaceF, countP_id]
  · rw [List.countP_cons_of_neg (by simpa using h)]

theorem countP_putProfile {profiles : List StoredProfile} (profile : StoredProfile)
    (h : profiles.countP (·.id = profile.id) ≤ 1) :
    (putProfile profiles profile).countP (·.id = profile.id) = 1 := by
  unfold putProfile
  split
  · rename_i hany
    rw [countP_id, ids_replaceF, ← countP_id]
    have hpos : 0 < profiles.countP (·.id = profile.id) := by
      rw [List.countP_pos_iff]
      simpa using hany
    omega
  · rename_i hany
    have hzero : profiles.countP (·.id = profile.id) = 0 := by
      rw [List.countP_eq_zero]
      simpa using hany
    rw [List.countP_cons_of_pos (by simp), hzero]

theorem countP_filter_of_ne (profiles : List StoredProfile) {deleted id : Text} (h : deleted ≠ id) :
    (profiles.filter (·.id ≠ deleted)).countP (·.id = id) = profiles.countP (·.id = id) := by
  rw [List.countP_filter]
  refine List.countP_congr fun p _ => ?_
  simp only [ne_eq, decide_not, Bool.and_eq_true, decide_eq_true_eq, Bool.not_eq_eq_eq_not,
    Bool.not_true, decide_eq_false_iff_not, and_iff_left_iff_imp]
  rintro rfl
  exact h.symm

namespace Call

/-- How far the call about a profile has come. Between the two halves of a save the secret is ahead of
the list, and between those of a deletion the list is ahead of the secrets. -/
def Pairing (id : Text) (s : SharedStorage) : Option Call → Prop
  | none | some (.storeSecret _ _ _) | some (.removeSecret _ _) => Paired s.manager id
  | some (.saveRemoval _ _) | some (.retainProfiles _ _) =>
    s.manager.profiles.countP (·.id = id) ≤ 1 ∧ s.manager.vault.cache.find? id = none
  | some _ => s.manager.profiles.countP (·.id = id) ≤ 1

theorem countP_of_pairing {id : Text} {o : Option Call} (h : Pairing id s o) :
    s.manager.profiles.countP (·.id = id) ≤ 1 := by
  unfold Pairing Paired at h
  split at h <;> first | exact h | exact h.1

theorem pairing_congr {id : Text} {o : Option Call}
    (hcount : t.manager.profiles.countP (·.id = id) = s.manager.profiles.countP (·.id = id))
    (hsecret : t.manager.vault.cache.find? id = s.manager.vault.cache.find? id)
    (h : Pairing id s o) : Pairing id t o := by
  unfold Pairing Paired at *
  split <;> simp_all

theorem Section.pairing_frame {id : Text} {o : Option Call} (h : Section env s c t d)
    (hc : c.profileId ≠ some id) (hs : Pairing id s o) : Pairing id t o := by
  cases h with
  | storeSecret input profile secret =>
      have hid : profile.id ≠ id := fun h => hc (congrArg some h)
      exact pairing_congr (s := s) rfl ((OrdMap.find?_insert _ _ _ _).trans (if_neg hid)) hs
  | removeSecret input profileId =>
      have hid : profileId ≠ id := fun h => hc (congrArg some h)
      exact pairing_congr (s := s) rfl ((OrdMap.find?_erase _ _ _).trans (if_neg hid)) hs
  | saveSecret input profile cache | saveSecretFails input profile e cache
  | saveRemoval input profileId ok cache =>
      exact pairing_congr (s := s) rfl (congrArg (OrdMap.find? · id) cache) hs
  | updateProfile input profile r written =>
      exact pairing_congr (s := s) (countP_putProfile_of_ne _ fun h => hc (congrArg some h)) rfl hs
  | retainProfiles input profileId r written =>
      exact pairing_congr (s := s) (countP_filter_of_ne _ fun h => hc (congrArg some h)) rfl hs
  | openFileFails | clone => exact hs
  | openFile fault value => exact pairing_congr (s := s) (by cases value <;> rfl) (by cases value <;> rfl) hs
  | fillFile fault serialized value | fillFileFails serialized value | setValue value =>
      exact pairing_congr (s := s) (by cases value <;> rfl) (by cases value <;> rfl) hs

theorem not_isOk_of_saves {input : ProfileInput}
    {profile : StoredProfile} (hsaved : SecretSaved env s (.saveSecret input profile)) {e : AppError}
    {t : SharedStorage} : saveVault env input.save s ≠ some (.error e, t) := by
  obtain ⟨hfault, bytes, hpayload⟩ := hsaved
  rw [saveVault_eq, run_saveToDisk_of_ok hpayload, hfault]
  simp [fsWrite]

/-- The call about a profile stores or removes its secret, and then updates the list. -/
theorem pairing_step (roundTrips : RoundTrips env) {id : Text} (hgoes : SecretSaved env s c)
    (hadvance : advance env s c = some (t, d)) (hc : c.profileId = some id)
    (hs : Pairing id s (some c)) :
    Pairing id t (if d.profileId = some id then some d else none) := by
  cases section_of_advance roundTrips hadvance with
  | storeSecret input profile secret =>
      rw [if_pos (by exact hc)]
      exact hs.1
  | removeSecret input profileId =>
      obtain rfl := Option.some.inj hc
      rw [if_pos (by rfl)]
      exact ⟨hs.1, (OrdMap.find?_erase _ _ _).trans (if_pos rfl)⟩
  | saveSecret input profile cache ok =>
      rw [if_pos (by exact hc)]
      exact hs
  | saveSecretFails input profile e cache =>
      exfalso
      cases hsave : saveVault env input.save s with
      | none => simp [advance, hsave] at hadvance
      | some out =>
          obtain ⟨e' | u, u⟩ := out
          · exact not_isOk_of_saves hgoes hsave
          · simp [advance, hsave] at hadvance
  | saveRemoval input profileId ok cache =>
      rw [if_pos (by exact hc)]
      exact ⟨hs.1, (congrArg (OrdMap.find? · id) cache).trans hs.2⟩
  | updateProfile input profile r written =>
      obtain rfl := Option.some.inj hc
      have hone := countP_putProfile profile hs
      exact ⟨hone.le, fun _ => hone⟩
  | retainProfiles input profileId r written =>
      obtain rfl := Option.some.inj hc
      refine ⟨?_, fun hsecret => absurd hs.2 hsecret⟩
      exact (List.Sublist.countP_le List.filter_sublist).trans hs.1
  | clone hfile hid => cases hid.1.symm.trans hc
  | _ => cases hc

theorem pairing_rule (roundTrips : RoundTrips env) : OwnerRule Call.profileId Call.Requested
    (SecretSaved env) (advance env) Pairing where
  start id s c hstarts hc hs := by
    obtain ⟨request, rfl⟩ := hstarts
    cases request with
    | saveProfile input profile secret =>
        cases secret with
        | none => exact hs.1
        | some secret => exact hs
    | deleteProfile input profileId => exact hs
    | saveSecuritySettings | saveSplitRules | getFullSnapshot => cases hc
  goesOn id s c t d hgoes hadvance hc hd hs := by
    have h := pairing_step roundTrips hgoes hadvance hc hs
    rwa [if_pos hd] at h
  returns id s c t d hgoes hadvance hc hd hs := by
    have h := pairing_step roundTrips hgoes hadvance hc hs
    rwa [if_neg hd] at h
  frame id s c t d o hadvance hc hs := (section_of_advance roundTrips hadvance).pairing_frame hc hs
  takes id s c t d hadvance hd := by
    cases section_of_advance roundTrips hadvance with
    | clone hfile hid => cases hid.2.symm.trans hd
    | storeSecret | saveSecret | removeSecret | saveRemoval => exact hd
    | _ => cases hd

end Call

end

/-! ## Runs of any calls -/

/-- When the calls have returned, a restart finds what is in memory: in any order of their sections
if the last write of the vault and of the list went through, and no two calls have written the
settings, or the rules, at the same time. -/
theorem restart_finds_memory {env : StorageEnv} (roundTrips : RoundTrips env) {m : StorageManager}
    (hm : InStep env m) {as : List (Action Call)} {p : Pool SharedStorage Call}
    (run : CallRun env (Free Call.file (fun c => c.Requested ∧ c.Whole) fun _ _ => True) m as p)
    (hreturned : ∀ c ∈ p.calls, c.HasReturned) (hvault : p.shared.vaultWritten = true)
    (hprofiles : p.shared.profilesWritten = true) :
    StorageManager.new env {} p.shared.manager.directory =
      (.ok p.shared.manager, p.shared.manager.directory) :=
  new_of_inStep (inStep_of_run roundTrips hm run hreturned hvault hprofiles)

/-- If each profile is saved and deleted by one call at a time, and no new secret fails to be written,
then no profile is ever listed twice, and a secret in memory belongs to a listed profile whenever no
call is about it. -/
theorem paired_of_idle {env : StorageEnv} (roundTrips : RoundTrips env) {m : StorageManager}
    (hm : ∀ id, Paired m id) {as : List (Action Call)} {p : Pool SharedStorage Call}
    (run : CallRun env (Free Call.profileId Call.Requested (Call.SecretSaved env)) m as p) :
    (∀ id, p.shared.manager.profiles.countP (·.id = id) ≤ 1) ∧
      ∀ id, (∀ c ∈ p.calls, c.profileId ≠ some id) → Paired p.shared.manager id := by
  obtain ⟨-, hpairing⟩ := (Call.pairing_rule roundTrips).invariant run List.Pairwise.nil hm
  refine ⟨fun id => Call.countP_of_pairing (hpairing id), fun id hidle => ?_⟩
  have hnone : owner Call.profileId id p.calls = none :=
    List.find?_eq_none.mpr fun c hc => by simpa using hidle c hc
  have hid := hpairing id
  rw [hnone] at hid
  exact hid

namespace Sample

theorem listedFromStr_of_ok {α : Type} [DecidableEq α] (texts : List (α × Bytes)) {v : α}
    {data : Bytes} (htexts : ∀ entry ∈ texts, listedFromStr texts entry.2 = some entry.1)
    (h : listedToString texts v = .ok data) : listedFromStr texts data = some v := by
  unfold listedToString at h
  split at h
  · rename_i entry hfind
    obtain rfl := Except.ok.inj h
    rw [htexts entry (List.mem_of_find?_eq_some hfind)]
    simpa using List.find?_some hfind
  · cases h

theorem listedToString_pair {α : Type} [DecidableEq α] {a b : α} (h : a ≠ b) (aText bText : Bytes) :
    listedToString [(a, aText), (b, bText)] a = .ok aText ∧
      listedToString [(a, aText), (b, bText)] b = .ok bText := by
  simp [listedToString, h]

/-- Two texts that differ can be told apart. -/
theorem listedFromStr_pair {α : Type} (a b : α) {aText bText : Bytes} (h : aText ≠ bText) :
    listedFromStr [(a, aText), (b, bText)] aText = some a ∧
      listedFromStr [(a, aText), (b, bText)] bText = some b := by
  simp [listedFromStr, h]

theorem profilesData_eq : profilesData = Text.utf8Encode "[]".toList := by
  unfold profilesData
  rfl

theorem officeData_eq : officeData = Text.utf8Encode officeText.toList := by
  unfold officeData
  rfl

theorem settingsData_eq : settingsData = Text.utf8Encode (settingsText "strict").toList := by
  unfold settingsData
  rfl

theorem offData_eq : offData = Text.utf8Encode (settingsText "off").toList := by
  unfold offData
  rfl

theorem brackets_ne (s t : String) : "[]".toList ≠ ("[\n  \x7b\n" ++ s ++ t).toList := by simp

theorem profilesData_ne : profilesData ≠ officeData := fun h =>
  brackets_ne _ _ (Text.utf8Encode_inj ((profilesData_eq.symm.trans h).trans officeData_eq))

theorem length_killSwitch {strictBytes offBytes : Bytes} {front s t : String}
    (hstrict : strictBytes = Text.utf8Encode (front ++ "strict" ++ "\",\n" ++ s ++ t).toList)
    (hoff : offBytes = Text.utf8Encode (front ++ "off" ++ "\",\n" ++ s ++ t).toList) :
    strictBytes.length = offBytes.length + 3 := by
  have hsix : (Text.utf8Encode "strict".toList).length = 6 := by decide
  have hthree : (Text.utf8Encode "off".toList).length = 3 := by decide
  unfold Text.utf8Encode at *
  simp only [hstrict, hoff, String.toList_append, List.flatMap_append, List.length_append, hsix, hthree]
  omega

theorem length_settingsData : settingsData.length = offData.length + 3 :=
  length_killSwitch settingsData_eq offData_eq

theorem settingsData_ne : settingsData ≠ offData := by
  intro h
  have hlength := length_settingsData
  rw [h] at hlength
  omega

theorem profilesFromStr_listed : callsEnv.profilesFromStr profilesData = some [] ∧
    callsEnv.profilesFromStr officeData = some [office] :=
  listedFromStr_pair [] [office] profilesData_ne

theorem settingsFromStr_listed : callsEnv.settingsFromStr settingsData = some {} ∧
    callsEnv.settingsFromStr offData = some offSettings :=
  listedFromStr_pair ({} : StoredSecuritySettings) offSettings settingsData_ne

theorem rulesFromStr_listed : callsEnv.rulesFromStr rulesData = some ([], []) := by
  simp [callsEnv, listedFromStr, rulesTexts]

theorem roundTrips : RoundTrips callsEnv where
  vault := contract
  profiles _ _ h := by
    refine listedFromStr_of_ok profilesTexts ?_ h
    rw [profilesTexts, List.forall_mem_cons, List.forall_mem_singleton]
    exact profilesFromStr_listed
  config value data h := by
    cases value with
    | settings settings =>
        refine congrArg (Option.map _) (listedFromStr_of_ok settingsTexts ?_ h)
        rw [settingsTexts, List.forall_mem_cons, List.forall_mem_singleton]
        exact settingsFromStr_listed
    | rules appRules ipRules =>
        refine congrArg (Option.map _) (listedFromStr_of_ok rulesTexts ?_ h)
        rw [rulesTexts, List.forall_mem_singleton]
        exact rulesFromStr_listed

theorem inStep_fresh : InStep callsEnv fresh where
  vault := rfl
  profiles := Option.bind_eq_some_iff.mpr ⟨profilesData, rfl, profilesFromStr_listed.1⟩
  config file := by
    cases file with
    | settings =>
        exact Option.bind_eq_some_iff.mpr ⟨settingsData, rfl,
          Option.map_eq_some_iff.mpr ⟨{}, settingsFromStr_listed.1, rfl⟩⟩
    | rules =>
        exact Option.bind_eq_some_iff.mpr ⟨rulesData, rfl,
          Option.map_eq_some_iff.mpr ⟨([], []), rulesFromStr_listed, rfl⟩⟩

theorem settingsToString_listed : callsEnv.settingsToString {} = .ok settingsData ∧
    callsEnv.settingsToString offSettings = .ok offData :=
  listedToString_pair (show ({} : StoredSecuritySettings) ≠ offSettings by decide) settingsData offData

/-- The kill switch is turned off while a snapshot is taken. -/
theorem restart_after_settings : ∃ as p, CallRun callsEnv
      (Free Call.file (fun c => c.Requested ∧ c.Whole) fun _ _ => True) fresh as p ∧
    p.calls = [.returned (.unit (.ok ())), .returned (.loaded (getFullSnapshot fresh))] ∧
    p.shared.manager.securitySettings = offSettings ∧
    StorageManager.new callsEnv {} p.shared.manager.directory =
      (.ok p.shared.manager, p.shared.manager.directory) := by
  have hopen : alone (Call.advance callsEnv) 1 { manager := fresh }
      (.openFile none (.settings offSettings)) =
      ({ manager := { fresh with settingsJson := some [] } },
        .fillFile none offData (.settings offSettings)) := by
    simp only [alone, Call.advance, Call.openValue, ConfigValue.toString,
      settingsToString_listed.2, fsOpen]
    rfl
  have hgoes (p : Pool SharedStorage Call) (i : ℕ) : Free Call.file
      (fun c => c.Requested ∧ c.Whole) (fun _ _ => True) p (.resume i) := fun _ _ => trivial
  obtain ⟨as, run₁⟩ := run_alone hgoes 1 { manager := fresh }
    (.openFile none (.settings offSettings)) [] [.cloneProfiles]
  rw [hopen] at run₁
  obtain ⟨bs, run₂⟩ := run_alone hgoes 5
    { manager := { fresh with settingsJson := some [] } } .cloneProfiles
    [.fillFile none offData (.settings offSettings)] []
  obtain ⟨cs, run₃⟩ := run_alone hgoes 2 { manager := { fresh with settingsJson := some [] } }
    (.fillFile none offData (.settings offSettings)) [] [.returned (.loaded (getFullSnapshot fresh))]
  have run : CallRun callsEnv (Free Call.file (fun c => c.Requested ∧ c.Whole) fun _ _ => True) fresh
      (.start (.openFile none (.settings offSettings)) :: .start .cloneProfiles ::
        (as ++ bs ++ cs)) _ :=
    .cons ⟨⟨⟨.saveSecuritySettings none offSettings, rfl⟩, by simp [Call.Whole]⟩, by simp⟩ rfl <|
    .cons ⟨⟨⟨.getFullSnapshot, rfl⟩, trivial⟩, by simp [Apart, Call.file]⟩ rfl <|
    (run₁.append run₂).append run₃
  refine ⟨_, _, run, rfl, rfl, restart_finds_memory roundTrips inStep_fresh run ?_ rfl rfl⟩
  intro c hc
  obtain rfl | rfl := by simpa using hc
  · exact trivial
  · exact trivial

theorem paired_fresh (id : Text) : Paired fresh id := by
  simp [Paired, fresh]

def saveOffice : ProfileInput := { save := { nonce := .zero 12 } }

theorem exists_payload {secrets : Secrets}
    (h : (payload env secrets saveOffice.save.nonce).isOk = true) :
    ∃ bytes, payload env secrets saveOffice.save.nonce = .ok bytes := by
  cases hpayload : payload env secrets saveOffice.save.nonce with
  | ok bytes => exact ⟨bytes, rfl⟩
  | error e => simp [hpayload, Except.isOk, Except.toBool] at h

theorem exists_payload_one : ∃ bytes, payload env one saveOffice.save.nonce = .ok bytes :=
  exists_payload (by decide +kernel)

/-- A profile is saved with its secret. -/
theorem paired_office : ∃ as p, CallRun callsEnv (Free Call.profileId Call.Requested
      (Call.SecretSaved callsEnv)) fresh as p ∧ p.shared.manager.profiles = [office] ∧
    p.shared.manager.vault.cache = one ∧
    (∀ id, p.shared.manager.profiles.countP (·.id = id) ≤ 1) ∧
    ∀ id, (∀ c ∈ p.calls, c.profileId ≠ some id) → Paired p.shared.manager id := by
  obtain ⟨bytes, hpayload⟩ := exists_payload_one
  let stored : SharedStorage := { manager := { fresh with vault := { cache := one, file := none } } }
  let saved : SharedStorage :=
    { manager := { fresh with vault := { cache := one, file := some bytes } } }
  have hvault : (saveToDisk env saveOffice.save).run { cache := one, file := none } =
      some (.ok (), { cache := one, file := some bytes }) :=
    run_saveToDisk_of_ok (v := { cache := one, file := none }) hpayload
  have hsave : Call.advance callsEnv stored (.saveSecret saveOffice office) =
      some (saved, .updateProfile saveOffice office) := by
    rw [Call.advance, saveVault_eq]
    change Option.map _ (Option.map _ ((saveToDisk env saveOffice.save).run _)) = _
    rw [hvault]
    rfl
  obtain ⟨r, data, hupdate, -⟩ := Call.exists_updateProfiles roundTrips (putProfile · office) none saved
  let listed : SharedStorage :=
    ⟨{ saved.manager with profiles := [office], profilesJson := data }, true, r.isOk⟩
  have hlist : Call.advance callsEnv saved (.updateProfile saveOffice office) =
      some (listed, .returned (.saved (r.map fun _ => office))) :=
    congrArg (Option.map fun out : Except AppError Unit × SharedStorage =>
      (out.2, Call.returned (.saved (out.1.map fun _ => office)))) hupdate
  have run : CallRun callsEnv (Free Call.profileId Call.Requested (Call.SecretSaved callsEnv)) fresh
      [.start (.storeSecret saveOffice office (key "k1")), .resume 0, .resume 0, .resume 0] _ :=
    .cons ⟨⟨.saveProfile saveOffice office (some (key "k1")), rfl⟩, by simp⟩ rfl <|
    .cons (by rintro c ⟨⟩; trivial) (t := ⟨stored, [.saveSecret saveOffice office]⟩) rfl <|
    .cons (by rintro c ⟨⟩; exact ⟨rfl, bytes, hpayload⟩) (step_resume [] [] hsave) <|
    .cons (by rintro c ⟨⟩; trivial) (step_resume [] [] hlist) <| .nil _
  exact ⟨_, _, run, rfl, rfl, paired_of_idle roundTrips paired_fresh run⟩

end Sample

end VpnHub.Storage
