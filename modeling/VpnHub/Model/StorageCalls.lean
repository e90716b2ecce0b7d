import VpnHub.Library.Interleaving
import VpnHub.Model.StorageRuns

/-! Calls of the storage manager that are at work at the same time. The commands of the application
share one manager and run on several threads; what a call does under one lock is a section that
nothing interrupts, and a file that no lock protects is opened and filled in two sections. -/

namespace VpnHub.Storage

open Protocol Crypto EncryptedVault StorageManager TrackedStorage Interleaving

/-! ## The files without a lock -/

/-- Opening a file for `fs::write` truncates it. -/
def fsOpen (file : Option Bytes) : Option WriteFault → Except AppError Unit × Option Bytes
  | some (.open message) => (.error (.io message), file)
  | _ => (.ok (), some [])

/-- Bytes written from the start of a file, over what others have put there since it was opened. -/
def overwrite (file : Option Bytes) (contents : Bytes) : Option Bytes :=
  some (contents ++ (file.getD []).drop contents.length)

/-- The rest of `fs::write`. -/
def fsFill (file : Option Bytes) (contents : Bytes) :
    Option WriteFault → Except AppError Unit × Option Bytes
  | some (.write written message) => (.error (.io message), overwrite file (contents.take written))
  | _ => (.ok (), overwrite file contents)

inductive ConfigFile where
  | settings
  | rules
  deriving DecidableEq, Repr

/-- What is kept in one of the files. -/
inductive ConfigValue where
  | settings (settings : StoredSecuritySettings)
  | rules (appRules : List StoredAppRule) (ipRules : List StoredIpRule)
  deriving DecidableEq, Repr

namespace ConfigFile

def label : ConfigFile → String
  | .settings => "settings"
  | .rules => "rules"

def contents (m : StorageManager) : ConfigFile → Option Bytes
  | .settings => m.settingsJson
  | .rules => m.rulesJson

def put (contents : Option Bytes) (m : StorageManager) : ConfigFile → StorageManager
  | .settings => { m with settingsJson := contents }
  | .rules => { m with rulesJson := contents }

/-- The value in memory. -/
def held (m : StorageManager) : ConfigFile → ConfigValue
  | .settings => .settings m.securitySettings
  | .rules => .rules m.appRules m.ipRules

def fromStr (env : StorageEnv) (data : Bytes) : ConfigFile → Option ConfigValue
  | .settings => (env.settingsFromStr data).map .settings
  | .rules => (env.rulesFromStr data).map fun (appRules, ipRules) => .rules appRules ipRules

end ConfigFile

namespace ConfigValue

def file : ConfigValue → ConfigFile
  | .settings _ => .settings
  | .rules _ _ => .rules

def toString (env : StorageEnv) : ConfigValue → Except Text Bytes
  | .settings value => env.settingsToString value
  | .rules appRules ipRules => env.rulesToString (appRules, ipRules)

/-- Both locks of the rules are held for the change. -/
def store (m : StorageManager) : ConfigValue → StorageManager
  | .settings value => { m with securitySettings := value }
  | .rules appRules ipRules => { m with appRules, ipRules }

end ConfigValue

/-! ## Calls -/

inductive Returned where
  | saved (result : Except AppError StoredProfile)
  | unit (result : Except AppError Unit)
  | loaded (snapshot : FullStorageSnapshot)
  deriving DecidableEq

/-- The section a call has come to, with what it carries along. -/
inductive Call where
  | storeSecret (input : ProfileInput) (profile : StoredProfile) (secret : StoredProfileSecret)
  | saveSecret (input : ProfileInput) (profile : StoredProfile)
  | updateProfile (input : ProfileInput) (profile : StoredProfile)
  | removeSecret (input : ProfileInput) (profileId : Text)
  | saveRemoval (input : ProfileInput) (profileId : Text)
  | retainProfiles (input : ProfileInput) (profileId : Text)
  | openFile (fault : Option WriteFault) (value : ConfigValue)
  | fillFile (fault : Option WriteFault) (serialized : Bytes) (value : ConfigValue)
  | setValue (value : ConfigValue)
  | cloneProfiles
  | cloneSecrets (profiles : List StoredProfile)
  | cloneSettings (profiles : List StoredProfile) (secrets : Secrets)
  | cloneAppRules (profiles : List StoredProfile) (secrets : Secrets)
      (securitySettings : StoredSecuritySettings)
  | cloneIpRules (profiles : List StoredProfile) (secrets : Secrets)
      (securitySettings : StoredSecuritySettings) (appRules : List StoredAppRule)
  | returned (value : Returned)
  deriving DecidableEq

/-- The manager, and whether the last write of `vault.enc` and of `profiles.json` went through. -/
structure SharedStorage where
  manager : StorageManager
  vaultWritten : Bool := true
  profilesWritten : Bool := true
  deriving DecidableEq

namespace Call

/-- The secrets in memory are changed. -/
def setSecrets (f : Secrets → Secrets) (s : SharedStorage) : SharedStorage :=
  let vault := { s.manager.vault with cache := f s.manager.vault.cache }
  { s with manager := { s.manager with vault } }

/-- `save_to_disk` keeps the lock on the secrets until the file is written. -/
def saveVault (env : StorageEnv) (input : SaveInput) (s : SharedStorage) :
    Option (Except AppError Unit × SharedStorage) :=
  ((withVault (saveToDisk env.vault input)).run s.manager).map fun (result, manager) =>
    (result, { s with manager, vaultWritten := result.isOk })

/-- The list is changed and written under one lock. -/
def updateProfiles (env : StorageEnv) (f : List StoredProfile → List StoredProfile)
    (fault : Option WriteFault) (s : SharedStorage) : Option (Except AppError Unit × SharedStorage) :=
  let profiles := f s.manager.profiles
  ((persistProfiles env fault profiles).run { s.manager with profiles }).map
    fun (result, manager) => (result, { s with manager, profilesWritten := result.isOk })

/-- The file of a value, which is serialized before, is opened. -/
def openValue (env : StorageEnv) (fault : Option WriteFault) (value : ConfigValue)
    (s : SharedStorage) : SharedStorage × Call :=
  match value.toString env with
  | .ok serialized =>
    let (result, contents) := fsOpen (value.file.contents s.manager) fault
    ({ s with manager := value.file.put contents s.manager },
      match result with
      | .ok _ => .fillFile fault serialized value
      | .error e => .returned (.unit (.error e)))
  | .error e => (s, .returned (.unit (.error
      (.ipc ("Serialize ".toList ++ value.file.label.toList ++ " failed: ".toList ++ e)))))

def fillValue (fault : Option WriteFault) (serialized : Bytes) (value : ConfigValue)
    (s : SharedStorage) : SharedStorage × Call :=
  let (result, contents) := fsFill (value.file.contents s.manager) serialized fault
  ({ s with manager := value.file.put contents s.manager },
    match result with
    | .ok _ => .setValue value
    | .error e => .returned (.unit (.error e)))

/-- The next section of a call. -/
def advance (env : StorageEnv) (s : SharedStorage) : Call → Option (SharedStorage × Call)
  | .storeSecret input profile secret =>
    some (setSecrets (·.insert profile.id secret) s, .saveSecret input profile)
  | .saveSecret input profile => (saveVault env input.save s).map fun (result, t) =>
    (t, match result with
      | .ok _ => .updateProfile input profile
      | .error e => .returned (.saved (.error e)))
  | .updateProfile input profile =>
    (updateProfiles env (putProfile · profile) input.profilesFault s).map fun (result, t) =>
      (t, .returned (.saved (result.map fun _ => profile)))
  | .removeSecret input profileId =>
    some (setSecrets (·.erase profileId) s, .saveRemoval input profileId)
  | .saveRemoval input profileId => (saveVault env input.save s).map fun (_, t) =>
    (t, .retainProfiles input profileId)
  | .retainProfiles input profileId =>
    (updateProfiles env (·.filter (·.id ≠ profileId)) input.profilesFault s).map
      fun (result, t) => (t, .returned (.unit result))
  | .openFile fault value => some (openValue env fault value s)
  | .fillFile fault serialized value => some (fillValue fault serialized value s)
  | .setValue value =>
    some ({ s with manager := value.store s.manager }, .returned (.unit (.ok ())))
  | .cloneProfiles => some (s, .cloneSecrets s.manager.profiles)
  | .cloneSecrets profiles => some (s, .cloneSettings profiles s.manager.vault.getAllSecrets)
  | .cloneSettings profiles secrets =>
    some (s, .cloneAppRules profiles secrets s.manager.securitySettings)
  | .cloneAppRules profiles secrets securitySettings =>
    some (s, .cloneIpRules profiles secrets securitySettings s.manager.appRules)
  | .cloneIpRules profiles secrets securitySettings appRules =>
    some (s, .returned
      (.loaded ⟨profiles, secrets, securitySettings, appRules, s.manager.ipRules⟩))
  | .returned _ => none

/-! ## What a call is about -/

/-- The file that the call writes and the value in memory that goes with it. -/
def file : Call → Option ConfigFile
  | .openFile _ value | .fillFile _ _ value | .setValue value => some value.file
  | _ => none

/-- The profile that the call saves or deletes. -/
def profileId : Call → Option Text
  | .storeSecret _ profile _ | .saveSecret _ profile | .updateProfile _ profile => some profile.id
  | .removeSecret _ profileId | .saveRemoval _ profileId | .retainProfiles _ profileId =>
    some profileId
  | _ => none

/-- The id whose secret has been changed in memory and not been written by the call. -/
def unsaved : Call → Option Text
  | .saveSecret _ profile => some profile.id
  | .saveRemoval _ profileId => some profileId
  | _ => none

/-- No write of the call stops half way through. -/
def Whole : Call → Prop
  | .openFile fault _ | .fillFile fault _ _ =>
    ∀ written message, fault ≠ some (.write written message)
  | _ => True

def HasReturned : Call → Prop
  | .returned _ => True
  | _ => False

/-- If the call is about to write a new secret, the write goes through. -/
def SecretSaved (env : StorageEnv) (s : SharedStorage) : Call → Prop
  | .saveSecret input _ => Saves env.vault input.save s.manager.vault.cache
  | _ => True

end Call

/-- The methods of the manager. -/
inductive Request where
  | saveProfile (input : ProfileInput) (profile : StoredProfile)
      (secret : Option StoredProfileSecret)
  | deleteProfile (input : ProfileInput) (profileId : Text)
  | saveSecuritySettings (fault : Option WriteFault) (settings : StoredSecuritySettings)
  | saveSplitRules (fault : Option WriteFault) (appRules : List StoredAppRule)
      (ipRules : List StoredIpRule)
  | getFullSnapshot

/-- Where a method starts. Serializing the settings or the rules comes before their file is
opened, in one section with it. -/
def Request.call : Request → Call
  | .saveProfile input profile (some secret) =>
    .storeSecret input (withId profile input.uuid) secret
  | .saveProfile input profile none => .updateProfile input (withId profile input.uuid)
  | .deleteProfile input profileId => .removeSecret input profileId
  | .saveSecuritySettings fault settings => .openFile fault (.settings settings)
  | .saveSplitRules fault appRules ipRules => .openFile fault (.rules appRules ipRules)
  | .getFullSnapshot => .cloneProfiles

/-- The call is at the start of a method. -/
def Call.Requested (c : Call) : Prop := ∃ request : Request, request.call = c

/-! ## What a restart finds -/

/-- What the files rely on: what is written can be read back. -/
structure RoundTrips (env : StorageEnv) : Prop where
  vault : VaultContract env.vault
  profiles : ∀ profiles data, env.profilesToString profiles = .ok data →
    env.profilesFromStr data = some profiles
  config : ∀ (value : ConfigValue) data, value.toString env = .ok data →
    value.file.fromStr env data = some value

/-- The file shows the value in memory. -/
def ConfigFile.Shows (env : StorageEnv) (m : StorageManager) (file : ConfigFile) : Prop :=
  (file.contents m).bind (file.fromStr env) = some (file.held m)

/-- Every file shows what is in memory. -/
structure InStep (env : StorageEnv) (m : StorageManager) : Prop where
  vault : reopened env.vault m.vault.file = m.vault.cache
  profiles : m.profilesJson.bind env.profilesFromStr = some m.profiles
  config : ∀ file : ConfigFile, file.Shows env m

/-- The secret of a profile belongs to a profile that is listed, and no profile is listed twice. -/
def Paired (m : StorageManager) (id : Text) : Prop :=
  m.profiles.countP (·.id = id) ≤ 1 ∧
    (m.vault.cache.find? id ≠ none → m.profiles.countP (·.id = id) = 1)

/-- A run of calls over a manager at rest. -/
abbrev CallRun (env : StorageEnv) (guard : Pool SharedStorage Call → Action Call → Prop)
    (m : StorageManager) (as : List (Action Call)) (p : Pool SharedStorage Call) : Prop :=
  Transition.Run (Pool.step (Call.advance env)) guard ⟨{ manager := m }, []⟩ as p

/-- Calls start at the beginning of a method. -/
def Requests : Pool SharedStorage Call → Action Call → Prop
  | _, .start c => c.Requested
  | _, .resume _ => True

/-! ## A concrete storage -/

namespace Sample

/-- `serde_json` for a few values, each with its text. -/
def listedToString {α : Type} [DecidableEq α] (texts : List (α × Bytes)) (v : α) :
    Except Text Bytes :=
  match texts.find? (·.1 = v) with
  | some entry => .ok entry.2
  | none => .error "not in the sample".toList

def listedFromStr {α : Type} (texts : List (α × Bytes)) (data : Bytes) : Option α :=
  (texts.find? (·.2 = data)).map (·.1)

/-- Settings without a kill switch. -/
def offSettings : StoredSecuritySettings := { killSwitch := "off".toList }

/-- The files of a new directory, and those of the profile and of the settings without a kill
switch. -/
@[irreducible] def profilesData : Bytes := Text.utf8Encode "[]".toList

@[irreducible] def officeData : Bytes := Text.utf8Encode officeText.toList

@[irreducible] def settingsData : Bytes := Text.utf8Encode (settingsText "strict").toList

@[irreducible] def offData : Bytes := Text.utf8Encode (settingsText "off").toList

@[irreducible] def rulesData : Bytes := Text.utf8Encode "[\n  [],\n  []\n]".toList

def profilesTexts : List (List StoredProfile × Bytes) := [([], profilesData), ([office], officeData)]

def settingsTexts : List (StoredSecuritySettings × Bytes) :=
  [({}, settingsData), (offSettings, offData)]

def rulesTexts : List ((List StoredAppRule × List StoredIpRule) × Bytes) := [(([], []), rulesData)]

def callsEnv : StorageEnv where
  vault := env
  profilesToString := listedToString profilesTexts
  profilesFromStr := listedFromStr profilesTexts
  settingsToString := listedToString settingsTexts
  settingsFromStr := listedFromStr settingsTexts
  rulesToString := listedToString rulesTexts
  rulesFromStr := listedFromStr rulesTexts

/-- The manager over a directory that has just been created. -/
def fresh : StorageManager where
  vault := { cache := .empty, file := none }
  profiles := []
  securitySettings := {}
  appRules := []
  ipRules := []
  profilesJson := some profilesData
  settingsJson := some settingsData
  rulesJson := some rulesData

end Sample

end VpnHub.Storage
