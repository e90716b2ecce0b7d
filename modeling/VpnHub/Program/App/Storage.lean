import VpnHub.Library.Trim
import VpnHub.Program.App.Vault

/-! The storage of the application: `storage/manager.rs` and the other records of
`storage/models.rs`. -/

namespace VpnHub.Storage

open Protocol Crypto

/-! ## Records -/

structure StoredCredentialsMetadata where
  username : Option Text
  passwordMode : Option Text := some "static".toList
  totpFormat : Option Text := some "append".toList
  hasPassword : Bool
  hasPrivateKey : Bool
  hasClientCert : Bool
  hasCaCert : Bool := false
  hasTlsAuth : Bool := false
  hasTlsCrypt : Bool := false
  hasRawOvpn : Bool
  deriving DecidableEq, Repr

structure StoredProfile where
  id : Text
  name : Text
  serverCountry : Text
  serverFlag : Text
  serverHost : Text
  serverPort : UInt16
  protocol : Text
  virtualIp : Text
  tags : List Text
  isFavorite : Bool
  pingMs : UInt32
  lastConnected : Option Text
  credentials : Option StoredCredentialsMetadata
  routingMode : Option Text := none
  intranetOnly : Bool := false
  customSubnets : List Text := []
  deriving DecidableEq, Repr

structure StoredSecuritySettings where
  killSwitch : Text := "strict".toList
  dnsProtection : Bool := true
  customDnsProvider : Text := "cloudflare".toList
  customDnsServers : Option (List Text) := some ["1.1.1.1".toList, "1.0.0.1".toList]
  ipv6LeakProtection : Bool := true
  webrtcLeakProtection : Bool := true
  lanTrafficBypass : Bool := true
  defaultIntranetOnly : Bool := false
  deriving DecidableEq, Repr

structure StoredAppRule where
  id : Text
  name : Text
  icon : Option Text
  path : Text
  mode : Text
  enabled : Bool
  deriving DecidableEq, Repr

structure StoredIpRule where
  id : Text
  target : Text
  ruleType : Text
  description : Text
  mode : Text
  enabled : Bool
  deriving DecidableEq, Repr

structure FullStorageSnapshot where
  profiles : List StoredProfile
  secrets : Secrets
  securitySettings : StoredSecuritySettings
  appRules : List StoredAppRule
  ipRules : List StoredIpRule
  deriving DecidableEq

/-- The vault, and `serde_json` for the other files. -/
structure StorageEnv where
  vault : VaultEnv
  profilesToString : List StoredProfile → Except Text Bytes
  profilesFromStr : Bytes → Option (List StoredProfile)
  settingsToString : StoredSecuritySettings → Except Text Bytes
  settingsFromStr : Bytes → Option StoredSecuritySettings
  rulesToString : List StoredAppRule × List StoredIpRule → Except Text Bytes
  rulesFromStr : Bytes → Option (List StoredAppRule × List StoredIpRule)

/-! ## The manager -/

/-- The storage directory: whether it has been created, and the contents of its files. -/
structure Directory where
  created : Bool
  vaultEnc : Option Bytes
  profilesJson : Option Bytes
  settingsJson : Option Bytes
  rulesJson : Option Bytes
  deriving DecidableEq, Repr

/-- The values in memory with the files they belong to. -/
structure StorageManager where
  vault : EncryptedVault
  profiles : List StoredProfile
  securitySettings : StoredSecuritySettings
  appRules : List StoredAppRule
  ipRules : List StoredIpRule
  profilesJson : Option Bytes
  settingsJson : Option Bytes
  rulesJson : Option Bytes
  deriving DecidableEq

/-- A method of the manager. -/
abbrev StorageM := Prog StorageManager AppError

/-- What a start gets from outside: what becomes of creating the directory, of reading each file,
and of writing the files that are missing. -/
structure StartInput where
  createFault : Option Text := none
  vaultFault : Option Text := none
  profilesUnreadable : Bool := false
  settingsUnreadable : Bool := false
  rulesUnreadable : Bool := false
  profilesFault : Option WriteFault := none
  settingsFault : Option WriteFault := none
  rulesFault : Option WriteFault := none
  deriving DecidableEq, Repr

/-- The same for saving and deleting a profile. The id is drawn for a profile without one. -/
structure ProfileInput where
  uuid : Text := []
  save : SaveInput
  profilesFault : Option WriteFault := none
  deriving DecidableEq

namespace StorageManager

/-! ### Files -/

def directory (m : StorageManager) : Directory where
  created := true
  vaultEnc := m.vault.file
  profilesJson := m.profilesJson
  settingsJson := m.settingsJson
  rulesJson := m.rulesJson

/-- Serializes a value and writes it to one of the files. -/
def persist {α : Type} (toString : α → Except Text Bytes) (label : String)
    (file : StorageManager → Option Bytes)
    (put : Option Bytes → StorageManager → StorageManager) (fault : Option WriteFault)
    (value : α) : StorageM Unit := do
  let serialized ← Prog.ofExcept ((toString value).mapError fun e =>
    .ipc ("Serialize ".toList ++ label.toList ++ " failed: ".toList ++ e))
  Prog.ofFun fun m =>
    let (result, contents) := fsWrite (file m) serialized fault
    (result, put contents m)

def persistProfiles (env : StorageEnv) (fault : Option WriteFault)
    (profiles : List StoredProfile) : StorageM Unit :=
  persist env.profilesToString "profiles" (·.profilesJson)
    (fun profilesJson m => { m with profilesJson }) fault profiles

def persistSettings (env : StorageEnv) (fault : Option WriteFault)
    (settings : StoredSecuritySettings) : StorageM Unit :=
  persist env.settingsToString "settings" (·.settingsJson)
    (fun settingsJson m => { m with settingsJson }) fault settings

def persistSplitRules (env : StorageEnv) (fault : Option WriteFault)
    (appRules : List StoredAppRule) (ipRules : List StoredIpRule) : StorageM Unit :=
  persist env.rulesToString "rules" (·.rulesJson) (fun rulesJson m => { m with rulesJson }) fault
    (appRules, ipRules)

/-! ### Starting -/

/-- Takes over the contents of a file, or writes the default if it is missing. A file that cannot
be read or parsed is left alone. -/
def loadFile {α : Type} (fromStr : Bytes → Option α) (unreadable : Bool) (file : Option Bytes)
    (put : α → StorageManager → StorageManager) (persistDefault : StorageM Unit) : StorageM Unit :=
  match file with
  | some data =>
    match if unreadable then none else fromStr data with
    | some value => modify (put value)
    | none => pure ()
  | none => persistDefault

def loadInitialData (env : StorageEnv) (input : StartInput) : StorageM Unit := do
  let m ← get
  loadFile env.profilesFromStr input.profilesUnreadable m.profilesJson
    (fun profiles m => { m with profiles }) (persistProfiles env input.profilesFault [])
  loadFile env.settingsFromStr input.settingsUnreadable m.settingsJson
    (fun securitySettings m => { m with securitySettings })
    (persistSettings env input.settingsFault {})
  loadFile env.rulesFromStr input.rulesUnreadable m.rulesJson
    (fun (appRules, ipRules) m => { m with appRules, ipRules })
    (persistSplitRules env input.rulesFault [] [])

/-- The manager before the initial data are loaded. -/
def blank (env : StorageEnv) (input : StartInput) (dir : Directory) : StorageManager where
  vault := .new env.vault input.vaultFault dir.vaultEnc
  profiles := []
  securitySettings := {}
  appRules := []
  ipRules := []
  profilesJson := dir.profilesJson
  settingsJson := dir.settingsJson
  rulesJson := dir.rulesJson

/-- The manager, or the directory that a failed start leaves. -/
def new (env : StorageEnv) (input : StartInput) (dir : Directory) :
    Except AppError StorageManager × Directory :=
  match dir.created, input.createFault with
  | false, some message => (.error (.io message), dir)
  | _, _ =>
    match (loadInitialData env input).run (blank env input dir) with
    | some (.ok (), m) => (.ok m, m.directory)
    | some (.error e, m) => (.error e, m.directory)
    | none => (.error (.io []), dir)

/-! ### Profiles -/

def getFullSnapshot (m : StorageManager) : FullStorageSnapshot where
  profiles := m.profiles
  secrets := m.vault.getAllSecrets
  securitySettings := m.securitySettings
  appRules := m.appRules
  ipRules := m.ipRules

/-- Runs a method of the vault. -/
def withVault {α : Type} (method : VaultM α) : StorageM α := do
  let m ← get
  Prog.within m.vault (fun vault m => { m with vault }) method

/-- The first profile with the id is replaced; a new one comes first. -/
def putProfile (profiles : List StoredProfile) (profile : StoredProfile) : List StoredProfile :=
  if profiles.any (·.id = profile.id) then profiles.replaceF fun p =>
    if p.id = profile.id then some profile else none
  else profile :: profiles

/-- A blank id is replaced by a new one. -/
def withId (profile : StoredProfile) (uuid : Text) : StoredProfile :=
  if (Text.trim profile.id).isEmpty then { profile with id := uuid } else profile

def saveProfile (env : StorageEnv) (input : ProfileInput) (profile : StoredProfile)
    (secret : Option StoredProfileSecret) : StorageM StoredProfile := do
  let profile := withId profile input.uuid
  match secret with
  | some sec => withVault (EncryptedVault.storeSecret env.vault input.save profile.id sec)
  | none => pure ()
  modify fun m => { m with profiles := putProfile m.profiles profile }
  let m ← get
  persistProfiles env input.profilesFault m.profiles
  return profile

/-- The result of removing the secret is thrown away. -/
def deleteProfile (env : StorageEnv) (input : ProfileInput) (profileId : Text) :
    StorageM Unit := do
  withVault (Prog.ignore (EncryptedVault.removeSecret env.vault input.save profileId))
  modify fun m => { m with profiles := m.profiles.filter (·.id ≠ profileId) }
  let m ← get
  persistProfiles env input.profilesFault m.profiles

/-! ### Settings -/

def saveSecuritySettings (env : StorageEnv) (fault : Option WriteFault)
    (settings : StoredSecuritySettings) : StorageM Unit := do
  persistSettings env fault settings
  modify fun m => { m with securitySettings := settings }

def saveSplitRules (env : StorageEnv) (fault : Option WriteFault) (appRules : List StoredAppRule)
    (ipRules : List StoredIpRule) : StorageM Unit := do
  persistSplitRules env fault appRules ipRules
  modify fun m => { m with appRules, ipRules }

end StorageManager

end VpnHub.Storage
