import VpnHub.Model.VaultRuns
import VpnHub.Program.App.Storage

/-! Runs of the storage manager: profiles are saved and deleted, and the application is started
again over the same directory. -/

namespace VpnHub.Storage

open Protocol Crypto EncryptedVault StorageManager

/-- Between two starts there is only the directory. -/
inductive AppState where
  | stopped (dir : Directory)
  | running (m : StorageManager)
  deriving DecidableEq

def AppState.directory : AppState → Directory
  | .stopped dir => dir
  | .running m => m.directory

inductive StorageOp where
  | saveProfile (input : ProfileInput) (profile : StoredProfile)
      (secret : Option StoredProfileSecret)
  | deleteProfile (input : ProfileInput) (profileId : Text)
  | restart (input : StartInput)
  deriving DecidableEq

/-- The state of the application, the secrets that have last been written to `vault.enc`, and the
ids that have been deleted and not been saved again. -/
structure TrackedStorage where
  state : AppState
  filed : Secrets
  deleted : List Text
  deriving DecidableEq

namespace TrackedStorage

/-- Before the first start, over a directory with any contents. -/
def start (env : StorageEnv) (dir : Directory) : TrackedStorage where
  state := .stopped dir
  filed := reopened env.vault dir.vaultEnc
  deleted := []

/-- Saving a profile: a success ends the deletion of its id if there was a secret. -/
def saved (env : StorageEnv) (s : TrackedStorage) (m : StorageManager) (input : ProfileInput)
    (id : Text) (out : Except AppError StoredProfile × StorageManager) :
    Option StoredProfileSecret → TrackedStorage
  | none => { s with state := .running out.2 }
  | some sec =>
    { state := .running out.2
      filed := RecordedVault.filedAfter env.vault input.save (m.vault.cache.insert id sec) s.filed
      deleted := if out.1.isOk then s.deleted.filter (· ≠ id) else s.deleted }

/-- Deleting a profile: a success counts the id as deleted. -/
def removed (env : StorageEnv) (s : TrackedStorage) (m : StorageManager) (input : ProfileInput)
    (id : Text) (out : Except AppError Unit × StorageManager) : TrackedStorage where
  state := .running out.2
  filed := RecordedVault.filedAfter env.vault input.save (m.vault.cache.erase id) s.filed
  deleted := if out.1.isOk then id :: s.deleted else s.deleted

def step (env : StorageEnv) (s : TrackedStorage) : StorageOp → Option TrackedStorage
  | .saveProfile input profile secret =>
    match s.state with
    | .running m =>
      ((saveProfile env input profile secret).run m).map fun out =>
        s.saved env m input (withId profile input.uuid).id out secret
    | .stopped _ => none
  | .deleteProfile input profileId =>
    match s.state with
    | .running m =>
      ((deleteProfile env input profileId).run m).map fun out => s.removed env m input profileId out
    | .stopped _ => none
  | .restart input =>
    match StorageManager.new env input s.state.directory with
    | (.ok m, _) => some { s with state := .running m }
    | (.error _, dir) => some { s with state := .stopped dir }

/-- No deleted id has a secret in the snapshot. -/
def Hidden (s : TrackedStorage) : Prop :=
  ∀ m, s.state = .running m → ∀ id ∈ s.deleted, m.getFullSnapshot.secrets.find? id = none

/-! ## When nothing comes back -/

/-- A value can be serialized and is written. -/
def Persists {α : Type} (toString : α → Except Text Bytes) (fault : Option WriteFault) (value : α) :
    Prop :=
  fault = none ∧ ∃ serialized, toString value = .ok serialized

/-- The secrets can be encrypted and are written. -/
def Saves (env : VaultEnv) (input : SaveInput) (secrets : Secrets) : Prop :=
  input.fault = none ∧ ∃ bytes, payload env secrets input.nonce = .ok bytes

/-- Both writes of a save with a secret go through. -/
def GoesThrough (env : StorageEnv) (m : StorageManager) (input : ProfileInput)
    (profile : StoredProfile) (sec : StoredProfileSecret) : Prop :=
  Saves env.vault input.save (m.vault.cache.insert (withId profile input.uuid).id sec) ∧
    Persists env.profilesToString input.profilesFault
      (putProfile m.profiles (withId profile input.uuid))

/-- The directory is there or can be created, and the files that are missing can be written. -/
structure Starts (env : StorageEnv) (input : StartInput) (dir : Directory) : Prop where
  created : dir.created = true ∨ input.createFault = none
  profiles : dir.profilesJson = none → Persists env.profilesToString input.profilesFault []
  settings : dir.settingsJson = none → Persists env.settingsToString input.settingsFault {}
  rules : dir.rulesJson = none → Persists env.rulesToString input.rulesFault ([], [])

/-- A save with a secret for a deleted id goes through, and a start finds a vault file that was
last written after the deletions. -/
def Kept (env : StorageEnv) (s : TrackedStorage) : StorageOp → Prop
  | .saveProfile input profile (some sec) => ∀ m, s.state = .running m →
      (withId profile input.uuid).id ∈ s.deleted → GoesThrough env m input profile sec
  | .saveProfile _ _ none => True
  | .deleteProfile _ _ => True
  | .restart input => Starts env input s.state.directory → input.vaultFault = none →
      ∀ id ∈ s.deleted, s.filed.find? id = none

end TrackedStorage

/-! ## A concrete storage -/

namespace Sample

/-- The profile that belongs to the first secret. -/
def office : StoredProfile where
  id := "office".toList
  name := "Office".toList
  serverCountry := "Germany".toList
  serverFlag := "DE".toList
  serverHost := "vpn.example.com".toList
  serverPort := 51820
  protocol := "wireguard".toList
  virtualIp := "10.8.0.2".toList
  tags := []
  isFavorite := false
  pingMs := 12
  lastConnected := none
  credentials := none

/-- The fields of a JSON object, one on a line. -/
def fields (indent : String) (entries : List (String × String)) : String :=
  ",\n".intercalate (entries.map fun entry =>
    indent ++ "\"" ++ entry.1 ++ "\": " ++ entry.2)

def officeText : String := "[\n  \x7b\n" ++ fields "    " [("id", "\"office\""),
  ("name", "\"Office\""), ("server_country", "\"Germany\""), ("server_flag", "\"DE\""),
  ("server_host", "\"vpn.example.com\""), ("server_port", "51820"),
  ("protocol", "\"wireguard\""), ("virtual_ip", "\"10.8.0.2\""), ("tags", "[]"),
  ("is_favorite", "false"), ("ping_ms", "12"), ("last_connected", "null"),
  ("credentials", "null"), ("routing_mode", "null"), ("intranet_only", "false"),
  ("custom_subnets", "[]")] ++ "\n  \x7d\n]"

def settingsText (killSwitch : String) : String := "\x7b\n  \"kill_switch\": \"" ++ killSwitch ++
  "\",\n" ++ fields "  " [("dns_protection", "true"), ("custom_dns_provider", "\"cloudflare\""),
  ("custom_dns_servers", "[\n    \"1.1.1.1\",\n    \"1.0.0.1\"\n  ]"),
  ("ipv6_leak_protection", "true"), ("webrtc_leak_protection", "true"),
  ("lan_traffic_bypass", "true"), ("default_intranet_only", "false")] ++ "\n\x7d"

/-- `serde_json` for the profile, and for the settings and rules of a new directory. -/
def storageEnv : StorageEnv where
  vault := env
  profilesToString profiles :=
    if profiles = [] then .ok (Text.utf8Encode "[]".toList)
    else if profiles = [office] then .ok (Text.utf8Encode officeText.toList)
    else .error "not in the sample".toList
  profilesFromStr data :=
    if data = Text.utf8Encode "[]".toList then some []
    else if data = Text.utf8Encode officeText.toList then some [office]
    else none
  settingsToString _ := .ok (Text.utf8Encode (settingsText "strict").toList)
  settingsFromStr _ := some {}
  rulesToString _ := .ok (Text.utf8Encode "[\n  [],\n  []\n]".toList)
  rulesFromStr _ := some ([], [])

def noDirectory : Directory where
  created := false
  vaultEnc := none
  profilesJson := none
  settingsJson := none
  rulesJson := none

/-- The profile is saved, deleted while the vault meets the given fault, and the application is
started again. -/
def deletionOps (fault : Option WriteFault) : List StorageOp :=
  [.restart {}, .saveProfile { save := { nonce := .zero 12 } } office (some (key "k1")),
    .deleteProfile { save := { nonce := .zero 12, fault } } office.id, .restart {}]

end Sample

end VpnHub.Storage
