import VpnHub.Verification.App.ActiveProfile
import VpnHub.Verification.App.ProfileReload
import VpnHub.Verification.App.StorageContract

/-! # The connection policy of a saved profile

A profile is compared with what a restart shows of it, field by field where connecting reads it. -/

namespace VpnHub.App

open Storage VpnStore

variable {p : VpnProfile} {settings : SecuritySettings} {secret : Option ProfileSecretPayload}

/-! ## Arguments -/

/-- What the stored profile has of the profile. -/
structure StoredFrom (p : VpnProfile) (secret : Option ProfileSecretPayload)
    (stored : StoredProfile) : Prop where
  id : stored.id = p.id
  protocol : stored.protocol = p.protocol
  host : stored.serverHost = p.serverHost
  port : some (stored.serverPort.toNat : ℚ) = p.serverPort
  networkOnly : stored.intranetOnly = p.useOnlyForNetworkResources.getD false
  subnets : stored.customSubnets = p.customSubnets.getD []
  credentials : stored.credentials =
    (p.credentials.map (IpcBridge.storedCredentials p secret)).map (·.deserialize)

theorem storedFrom_deserialize {stored : StoredProfile}
    (h : (IpcBridge.storedPayload p secret).deserialize = some stored) :
    StoredFrom p secret stored := by
  obtain ⟨port, hport, h⟩ := Option.bind_eq_some_iff.mp h
  obtain ⟨ping, -, h⟩ := Option.bind_eq_some_iff.mp h
  obtain rfl := Option.some.inj h
  obtain ⟨hvalue, hlt⟩ := Ecma.toUnsigned_eq_some.mp hport
  have htoNat : (UInt16.ofNat port).toNat = port := UInt16.toNat_ofNat_of_lt' hlt
  refine ⟨rfl, rfl, rfl, ?_, rfl, rfl, rfl⟩
  calc some ((UInt16.ofNat port).toNat : ℚ) = some (port : ℚ) := by rw [htoNat]
    _ = p.serverPort := hvalue.symm

theorem exists_saveArguments (h : (saveArguments p secret).isSome) :
    ∃ stored sec, saveArguments p secret = some (stored, sec) ∧ StoredFrom p secret stored := by
  obtain ⟨arguments, harguments⟩ := Option.isSome_iff_exists.mp h
  obtain ⟨stored, hstored, hrest⟩ := Option.bind_eq_some_iff.mp harguments
  obtain ⟨sec, -, hpair⟩ := Option.bind_eq_some_iff.mp hrest
  exact ⟨stored, sec, harguments.trans hpair.symm, storedFrom_deserialize hstored⟩

theorem isSome_bind_iff {α β : Type} {x : Option α} {f : α → Option β} {P : Prop}
    (h : ∀ a, (f a).isSome ↔ P) : (x.bind f).isSome ↔ x.isSome ∧ P := by
  cases x <;> simp [h]

theorem isSome_toUnsigned {bound : ℕ} {x : Ecma.Number} :
    (Ecma.toUnsigned bound x).isSome ↔ ∃ n < bound, x = some (n : ℕ) := by
  simp only [Option.isSome_iff_exists, Ecma.toUnsigned_eq_some]
  exact exists_congr fun n => and_comm

theorem isSome_deserializeSecret : (deserializeSecret secret).isSome ↔
    ∀ sec, secret = some (.userPassword sec) → ∀ q, sec.renegSec = some (some q) →
      ∃ seconds < 2 ^ 32, q = (seconds : ℕ) := by
  cases secret with
  | none => simp [deserializeSecret]
  | some secret =>
      rw [deserializeSecret, Option.isSome_map]
      cases secret with
      | wireguard privateKey presharedKey => simp [ProfileSecretPayload.deserialize]
      | rawOvpnConfig secret => simp [ProfileSecretPayload.deserialize]
      | userPassword secret =>
          have hfits : (UserPasswordSecret.deserialize secret).isSome ↔
              (deserializeRenegSec secret.renegSec).isSome := by
            unfold UserPasswordSecret.deserialize
            cases deserializeRenegSec secret.renegSec <;> simp
          simp only [ProfileSecretPayload.deserialize, hfits, deserializeRenegSec]
          rcases hreneg : secret.renegSec with _ | _ | q
          · simp [hreneg]
          · simp [hreneg]
          · simp [hreneg, isSome_toUnsigned]

/-- The arguments of a save fit if the numbers are unsigned and not too large. -/
theorem isSome_saveArguments : (saveArguments p secret).isSome ↔
    (∃ port < 2 ^ 16, p.serverPort = some (port : ℕ)) ∧
      (∃ ping < 2 ^ 32, p.pingMs = some (ping : ℕ)) ∧
        ∀ sec, secret = some (.userPassword sec) → ∀ q, sec.renegSec = some (some q) →
          ∃ seconds < 2 ^ 32, q = (seconds : ℕ) := by
  rw [← isSome_toUnsigned, ← isSome_toUnsigned, ← isSome_deserializeSecret, ← and_assoc]
  have hprofile : ((IpcBridge.storedPayload p secret).deserialize).isSome ↔
      (Ecma.toUnsigned (2 ^ 16) p.serverPort).isSome ∧
        (Ecma.toUnsigned (2 ^ 32) p.pingMs).isSome :=
    isSome_bind_iff fun _ =>
      (isSome_bind_iff fun _ => iff_of_true rfl trivial).trans (and_iff_left trivial)
  rw [← hprofile]
  exact isSome_bind_iff fun _ =>
    (isSome_bind_iff fun _ => iff_of_true rfl trivial).trans (and_iff_left trivial)

/-! ## The loaded profile -/

/-- What a restart shows of a stored profile. -/
def loadedProfile (secret : Option ProfileSecretPayload) (stored : StoredProfile) : VpnProfile :=
  mapProfile secret (.ofStored stored)

/-- The mode comes from the metadata; only a missing one depends on the secret. -/
theorem passwordMode_loadedCredentials (payload : ProfilePayload)
    (secret : Option ProfileSecretPayload) : ∃ mode, mode ≠ "dynamic_prompt".toList ∧
      (loadedCredentials payload secret).passwordMode =
        some ((Ecma.truthy (payload.credentials.bind (·.passwordMode))).getD mode) := by
  have hstatic : "static".toList ≠ "dynamic_prompt".toList := by decide
  have htotp : "totp_auto".toList ≠ "dynamic_prompt".toList := by decide
  have hwith (totpSecret totpFormat : Option Text) {c : Credentials}
      (hc : c.passwordMode = (metadataCredentials payload).passwordMode) :
      ∃ mode, mode ≠ "dynamic_prompt".toList ∧
        (withTotp payload totpSecret totpFormat c).passwordMode =
          some ((Ecma.truthy (payload.credentials.bind (·.passwordMode))).getD mode) := by
    cases hgiven : IpcBridge.given totpSecret with
    | true => exact ⟨_, htotp, by simp [withTotp, hgiven]⟩
    | false => exact ⟨_, hstatic, by simp [withTotp, hgiven, hc, metadataCredentials]⟩
  rcases secret with _ | secret
  · exact ⟨_, hstatic, rfl⟩
  · cases secret with
    | wireguard privateKey presharedKey => exact ⟨_, hstatic, rfl⟩
    | userPassword secret => exact hwith _ _ rfl
    | rawOvpnConfig secret => exact hwith _ _ rfl

/-- The user is asked for the password of a saved profile as before. -/
theorem prompts_loadedProfile {stored : StoredProfile} (h : StoredFrom p secret stored)
    (secret' : Option ProfileSecretPayload) (overridePassword : Option Text) :
    prompts (loadedProfile secret' stored) overridePassword = prompts p overridePassword := by
  obtain ⟨mode, hmode, hloaded⟩ := passwordMode_loadedCredentials (.ofStored stored) secret'
  have hdynamic : (loadedProfile secret' stored).credentials.bind (·.passwordMode) =
      some "dynamic_prompt".toList ↔
        p.credentials.bind (·.passwordMode) = some "dynamic_prompt".toList := by
    change (loadedCredentials (.ofStored stored) secret').passwordMode = _ ↔ _
    rw [hloaded, Option.some_inj, Ecma.getD_truthy_eq_iff hmode (by decide)]
    change (stored.credentials.map CredentialsPayload.ofStored).bind (·.passwordMode) = _ ↔ _
    rw [h.credentials]
    cases p.credentials with
    | none => exact iff_of_false nofun nofun
    | some c =>
        change some ((Ecma.truthy c.passwordMode).getD "static".toList) = _ ↔ _
        rw [Option.some_inj, Ecma.getD_truthy_eq_iff (by decide) (by decide)]
        rfl
  simp only [prompts, hdynamic]

/-- The policy is kept unless the settings decide about the use for network resources. -/
theorem policy_loadedProfile_iff {stored : StoredProfile} (h : StoredFrom p secret stored)
    (secret' : Option ProfileSecretPayload) (rt : TotpRuntime) (now now' : Ecma.Number)
    (overridePassword : Option Text) :
    (connectParams rt now settings p overridePassword).policy =
        (connectParams rt now'
          (mapSettings (.ofStored (IpcBridge.settingsPayload settings).deserialize))
          (loadedProfile secret' stored) overridePassword).policy ↔
      (p.useOnlyForNetworkResources = none →
        settings.defaultUseOnlyForNetworkResources ≠ some true) := by
  have hport : (loadedProfile secret' stored).serverPort = p.serverPort := h.port
  have hprotocol : (loadedProfile secret' stored).protocol = p.protocol := h.protocol
  have hhost : (loadedProfile secret' stored).serverHost = p.serverHost := h.host
  have huse : (loadedProfile secret' stored).useOnlyForNetworkResources =
      some (p.useOnlyForNetworkResources.getD false) := congrArg some h.networkOnly
  have hsubnets : (loadedProfile secret' stored).customSubnets =
      some (p.customSubnets.getD []) := congrArg some h.subnets
  have hrouting : (connectParams rt now settings p overridePassword).policy =
      (connectParams rt now'
        (mapSettings (.ofStored (IpcBridge.settingsPayload settings).deserialize))
        (loadedProfile secret' stored) overridePassword).policy ↔
      p.useOnlyForNetworkResources.getD
          (settings.defaultUseOnlyForNetworkResources.getD false) =
        p.useOnlyForNetworkResources.getD false := by
    simp only [VpnConnectParams.policy, connectParams, hport, hprotocol, hhost, huse, hsubnets,
      ConnectionPolicy.mk.injEq, RoutingPolicy.mk.injEq, Option.getD_some, and_true, true_and]
    exact and_iff_right rfl
  rw [hrouting]
  cases p.useOnlyForNetworkResources with
  | some use => exact iff_of_true rfl nofun
  | none =>
      rcases settings.defaultUseOnlyForNetworkResources with _ | _ | _ <;> decide

/-! ## Connecting -/

section

variable {s after : VpnStore} {rt : TotpRuntime} {now : Ecma.Number}
  {target overridePassword : Option Text}

theorem connectionPolicy_of_profileFor (hidle : s.isConnecting = false)
    (hp : s.profileFor target = some p) :
    s.connectionPolicy rt now target overridePassword =
      if prompts p overridePassword then none
      else some (connectParams rt now s.securitySettings p overridePassword).policy := by
  unfold connectionPolicy connect
  rw [hidle, hp]
  simp only [Bool.false_eq_true, if_false]
  split <;> rfl

theorem connectionPolicy_of_none (hp : s.profileFor target = none) :
    s.connectionPolicy rt now target overridePassword = none := by
  unfold connectionPolicy connect
  rw [hp]
  split <;> rfl

theorem profileFor_of_find? {id : Text} (hid : id ≠ [])
    (h : s.profiles.find? (·.id = id) = some p) : s.profileFor id = some p := by
  have htruthy : Ecma.truthy (some id) = some id := Ecma.truthy_eq_some.mpr ⟨rfl, hid⟩
  simp [profileFor, htruthy, h]

theorem profileFor_of_active (htarget : Ecma.truthy target = none)
    (h : s.profiles.find? (·.id = s.activeProfileId) = some p) : s.profileFor target = some p := by
  simp [profileFor, htarget, h]

/-! ### After a restart -/

theorem Shows.isConnecting {profiles : List StoredProfile} (h : Shows settings after profiles) :
    after.isConnecting = false := by
  obtain ⟨snapshot, rfl, -⟩ := h
  change ({} : VpnStore).isConnecting = false
  decide

theorem Shows.securitySettings {profiles : List StoredProfile}
    (h : Shows settings after profiles) : after.securitySettings =
      mapSettings (.ofStored (IpcBridge.settingsPayload settings).deserialize) := by
  obtain ⟨snapshot, rfl, -, hsettings⟩ := h
  exact congrArg (fun stored => mapSettings (.ofStored stored)) hsettings

theorem Shows.profiles {profiles : List StoredProfile} (h : Shows settings after profiles) :
    ∃ secrets : StoredProfile → Option ProfileSecretPayload,
      after.profiles = profiles.map fun stored => loadedProfile (secrets stored) stored := by
  obtain ⟨snapshot, rfl, rfl, -⟩ := h
  exact ⟨fun stored => (snapshot.secrets.find? stored.id).map .ofStored, List.map_map⟩

theorem Shows.find? {profiles : List StoredProfile} (h : Shows settings after profiles)
    {id : Text} {stored : StoredProfile} (hfound : profiles.find? (·.id = id) = some stored) :
    ∃ secret', after.profiles.find? (·.id = id) = some (loadedProfile secret' stored) := by
  obtain ⟨secrets, hprofiles⟩ := h.profiles
  refine ⟨secrets stored, ?_⟩
  rw [hprofiles, List.find?_map]
  exact congrArg (Option.map _) hfound

end

theorem find?_putProfile (profiles : List StoredProfile) (stored : StoredProfile) :
    (StorageManager.putProfile profiles stored).find? (·.id = stored.id) = some stored := by
  unfold StorageManager.putProfile
  split
  · rename_i hany
    induction profiles with
    | nil => cases hany
    | cons q profiles ih =>
        by_cases hq : q.id = stored.id
        · simp [List.replaceF, hq]
        · simp [List.replaceF, hq] at hany ⊢
          simpa using ih (by simpa using hany)
  · simp

/-! ## Saving and restarting -/

theorem withId_of_not_blank {stored : StoredProfile} (h : Text.trim stored.id ≠ []) (uuid : Text) :
    StorageManager.withId stored uuid = stored := by
  simp [StorageManager.withId, h]

theorem ne_nil_of_trim_ne_nil {id : Text} (h : Text.trim id ≠ []) : id ≠ [] := by
  rintro rfl
  exact h rfl

/-- A profile that is stored under its own id is found after the restart. -/
theorem exists_profileFor_saved {after : VpnStore} {profiles : List StoredProfile} {uuid : Text}
    (hshows : Shows settings after (savedProfiles p secret uuid profiles))
    (hfits : (saveArguments p secret).isSome) (hid : Text.trim p.id ≠ []) :
    ∃ stored secret', StoredFrom p secret stored ∧
      after.profileFor p.id = some (loadedProfile secret' stored) := by
  obtain ⟨stored, sec, harguments, hstored⟩ := exists_saveArguments hfits
  have hsaved : (savedProfiles p secret uuid profiles).find? (·.id = p.id) = some stored := by
    rw [savedProfiles, harguments, Option.elim_some, withId_of_not_blank, ← hstored.id]
    · exact find?_putProfile profiles stored
    · rw [hstored.id]
      exact hid
  obtain ⟨secret', hloaded⟩ := hshows.find? hsaved
  exact ⟨stored, secret', hstored, profileFor_of_find? (ne_nil_of_trim_ne_nil hid) hloaded⟩

theorem keepsPolicy_of_survives (h : Survives p settings secret) :
    KeepsPolicy p settings secret := by
  intro env before after rt now now' overridePassword contract hidle hsettings hfound hreloaded
  have hfits : (saveArguments p secret).isSome :=
    isSome_saveArguments.mpr ⟨h.port_fits, h.ping_fits, h.reneg_fits⟩
  obtain ⟨profiles, uuid, hshows⟩ := hreloaded.shows contract hfits
  obtain ⟨stored, secret', hstored, hloaded⟩ :=
    exists_profileFor_saved hshows hfits h.id_not_blank
  have hid : p.id ≠ [] := ne_nil_of_trim_ne_nil h.id_not_blank
  rw [connectionPolicy_of_profileFor hidle (profileFor_of_find? hid hfound),
    connectionPolicy_of_profileFor hshows.isConnecting hloaded, prompts_loadedProfile hstored,
    hsettings, hshows.securitySettings,
    (policy_loadedProfile_iff hstored secret' rt now now' overridePassword).mpr h.use_given]

/-! ## What is lost -/

/-- The store that holds only the profile. -/
def holding (p : VpnProfile) (settings : SecuritySettings) : VpnStore where
  activeProfileId := p.id
  profiles := [p]
  securitySettings := settings

theorem isConnecting_holding (p : VpnProfile) (settings : SecuritySettings) :
    (holding p settings).isConnecting = false := by
  change ({} : VpnStore).isConnecting = false
  decide

theorem find?_holding (p : VpnProfile) (settings : SecuritySettings) :
    (holding p settings).profiles.find? (·.id = p.id) = some p :=
  List.find?_cons_of_pos (decide_eq_true rfl)

theorem profileFor_holding (p : VpnProfile) (settings : SecuritySettings) :
    (holding p settings).profileFor p.id = some p := by
  have hused : (Ecma.truthy (some p.id)).getD p.id = p.id := by
    cases hid : Ecma.truthy (some p.id) with
    | none => rfl
    | some id => exact (Option.some.inj (Ecma.truthy_eq_some.mp hid).1).symm
  change (List.find? (·.id = (Ecma.truthy (some p.id)).getD p.id) [p]).or _ = some p
  rw [hused]
  exact congrArg (Option.or · (some p)) (find?_holding p settings)

/-- With a password at hand the user is not asked. -/
theorem prompts_of_given (p : VpnProfile) (password : Text) : prompts p (some password) = false :=
  Bool.and_false _

/-- A store that is idle and the one after the restart connect with the same policy. -/
theorem KeepsPolicy.same (h : KeepsPolicy p settings secret) {env : StorageEnv}
    (contract : StorageContract env) {before after : VpnStore} (hidle : before.isConnecting = false)
    (hsettings : before.securitySettings = settings)
    (hfound : before.profiles.find? (·.id = p.id) = some p)
    (hreloaded : Reloaded env p settings secret after) {profiles : List StoredProfile}
    (hshows : Shows settings after profiles) {used shown : VpnProfile}
    (hused : before.profileFor p.id = some used) (hshown : after.profileFor p.id = some shown) :
    (connectParams Sample.runtime none settings used (some [])).policy =
      (connectParams Sample.runtime none
        (mapSettings (.ofStored (IpcBridge.settingsPayload settings).deserialize))
        shown (some [])).policy := by
  have hsame := h env before after Sample.runtime none none (some []) contract hidle hsettings
    hfound hreloaded
  rw [connectionPolicy_of_profileFor hidle hused,
    connectionPolicy_of_profileFor hshows.isConnecting hshown, prompts_of_given, prompts_of_given,
    hsettings, hshows.securitySettings] at hsame
  exact Option.some.inj hsame

theorem KeepsPolicy.fits (h : KeepsPolicy p settings secret) {env : StorageEnv}
    (contract : StorageContract env) : (saveArguments p secret).isSome := by
  by_contra hnot
  obtain ⟨after, hreloaded, hshows⟩ := exists_reloaded contract p settings secret [] []
  have hnone : after.profileFor p.id = none := by
    obtain ⟨secrets, hprofiles⟩ := hshows.profiles
    have hempty : after.profiles = [] := by
      rw [hprofiles, savedProfiles, Option.not_isSome_iff_eq_none.mp hnot]
      rfl
    simp [profileFor, hempty]
  have hidle := isConnecting_holding p settings
  have hsame := h env (holding p settings) after Sample.runtime none none (some []) contract hidle
    rfl (find?_holding p settings) hreloaded
  rw [connectionPolicy_of_profileFor hidle (profileFor_holding p settings), prompts_of_given,
    connectionPolicy_of_none hnone] at hsame
  cases hsame

/-- A profile with a blank id is stored under a new one, before the one that had the id. -/
theorem savedProfiles_of_blank {stored old : StoredProfile} {sec : Option StoredProfileSecret}
    (harguments : saveArguments p secret = some (stored, sec)) (hblank : Text.trim stored.id = [])
    {uuid : Text} (huuid : old.id ≠ uuid) :
    savedProfiles p secret uuid [old] = [{ stored with id := uuid }, old] := by
  have hid : StorageManager.withId stored uuid = { stored with id := uuid } := by
    simp [StorageManager.withId, hblank]
  rw [savedProfiles, harguments, Option.elim_some, hid]
  simp [StorageManager.putProfile, huuid]

theorem Shows.activeProfileId {after : VpnStore} {profiles : List StoredProfile}
    (h : Shows settings after profiles) :
    after.activeProfileId = initialActiveId after.profiles := by
  obtain ⟨snapshot, rfl, -⟩ := h
  rfl

/-- The first profile is active if no other one is a favourite. -/
theorem initialActiveId_pair {first second : VpnProfile} (hid : first.id ≠ [])
    (hsecond : second.isFavorite = false) : initialActiveId [first, second] = first.id := by
  have htruthy : Ecma.truthy (some first.id) = some first.id :=
    Ecma.truthy_eq_some.mpr ⟨rfl, hid⟩
  cases hfirst : first.isFavorite with
  | true => simp [initialActiveId, hfirst, htruthy]
  | false => simp [initialActiveId, hfirst, hsecond, Ecma.truthy]

theorem find?_second {first second : VpnProfile} {id : Text} (hfirst : first.id ≠ id)
    (hsecond : second.id = id) : [first, second].find? (·.id = id) = some second := by
  simp [hfirst, hsecond]

theorem KeepsPolicy.id_not_blank (h : KeepsPolicy p settings secret) {env : StorageEnv}
    (contract : StorageContract env) : Text.trim p.id ≠ [] := by
  intro hblank
  obtain ⟨stored, sec, harguments, hstored⟩ := exists_saveArguments (h.fits contract)
  let uuid : Text := "u".toList
  have hgiven : uuid ≠ [] := by decide
  have huuid : p.id ≠ uuid := fun heq => by
    rw [heq] at hblank
    exact absurd hblank (by decide)
  let other : Text := 'x' :: p.serverHost
  have hother : other ≠ p.serverHost := List.cons_ne_self _ _
  -- The profile that had the id before is at another host.
  let old : StoredProfile := { stored with serverHost := other, isFavorite := false }
  have hold : old.id = p.id := hstored.id
  obtain ⟨after, hreloaded, hshows⟩ := exists_reloaded contract p settings secret [old] uuid
  rw [savedProfiles_of_blank harguments (by rw [hstored.id, hblank]) (by rw [hold]; exact huuid)]
    at hshows
  obtain ⟨secrets, hprofiles⟩ := hshows.profiles
  rw [List.map_cons, List.map_cons, List.map_nil] at hprofiles
  by_cases hid : p.id = []
  · -- No profile is asked for, and another one is active before.
    have htarget : Ecma.truthy (some p.id) = none := by rw [hid]; rfl
    let used : VpnProfile := { p with id := uuid, serverHost := other }
    let before : VpnStore := { holding p settings with
      activeProfileId := uuid
      profiles := [p, used] }
    have hidle : before.isConnecting = false := isConnecting_holding p settings
    have hfound : before.profiles.find? (·.id = p.id) = some p :=
      List.find?_cons_of_pos (decide_eq_true rfl)
    have hused : before.profileFor p.id = some used :=
      profileFor_of_active htarget (find?_second huuid rfl)
    have hactive : after.activeProfileId = uuid := by
      rw [hshows.activeProfileId, hprofiles]
      exact initialActiveId_pair hgiven rfl
    have hshown : after.profileFor p.id =
        some (loadedProfile (secrets { stored with id := uuid }) { stored with id := uuid }) := by
      apply profileFor_of_active htarget
      rw [hprofiles, hactive]
      exact List.find?_cons_of_pos (decide_eq_true rfl)
    have hsame := h.same contract hidle rfl hfound hreloaded hshows hused hshown
    exact hother ((congrArg ConnectionPolicy.serverEndpoint hsame).trans hstored.host)
  · have hshown : after.profileFor p.id = some (loadedProfile (secrets old) old) := by
      apply profileFor_of_find? hid
      rw [hprofiles]
      exact find?_second (Ne.symm huuid) hold
    have hsame := h.same contract (isConnecting_holding p settings) rfl (find?_holding p settings)
      hreloaded hshows (profileFor_holding p settings) hshown
    exact hother (congrArg ConnectionPolicy.serverEndpoint hsame).symm

theorem survives_of_keepsPolicy (h : KeepsPolicy p settings secret) :
    Survives p settings secret := by
  obtain ⟨env, contract⟩ := exists_storageContract
  have hfits := h.fits contract
  have hid := h.id_not_blank contract
  obtain ⟨hport, hping, hreneg⟩ := isSome_saveArguments.mp hfits
  refine ⟨hid, hport, hping, hreneg, ?_⟩
  obtain ⟨after, hreloaded, hshows⟩ := exists_reloaded contract p settings secret [] []
  obtain ⟨stored, secret', hstored, hshown⟩ := exists_profileFor_saved hshows hfits hid
  have hsame := h.same contract (isConnecting_holding p settings) rfl (find?_holding p settings)
    hreloaded hshows (profileFor_holding p settings) hshown
  exact (policy_loadedProfile_iff hstored secret' _ _ _ _).mp hsame

/-- A profile connects with the same policy after it has been saved and the application has been
started again exactly if it is stored under its id, all of its numbers fit, and it does not leave
the use for network resources only to settings that ask for it. -/
theorem keepsPolicy_iff (p : VpnProfile) (settings : SecuritySettings)
    (secret : Option ProfileSecretPayload) :
    KeepsPolicy p settings secret ↔ Survives p settings secret :=
  ⟨survives_of_keepsPolicy, keepsPolicy_of_survives⟩

/-- The profile leaves it to settings that ask for the use for network resources only. -/
theorem policy_lost :
    ¬ KeepsPolicy (Sample.profile "office".toList)
      { ({} : VpnStore).securitySettings with defaultUseOnlyForNetworkResources := true } none := by
  intro h
  exact (survives_of_keepsPolicy h).use_given rfl rfl

end VpnHub.App
