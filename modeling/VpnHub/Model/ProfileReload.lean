import VpnHub.Model.StoreRuns

/-! Saving a profile with the settings, and connecting after the application has been started
again. -/

namespace VpnHub.App

open Storage

/-- What the storage relies on: `serde_json` writes every value and reads it back, and every map of
secrets can be encrypted. -/
structure StorageContract (env : StorageEnv) : Prop where
  profiles : ∀ profiles, ∃ bytes, env.profilesToString profiles = .ok bytes ∧
    env.profilesFromStr bytes = some profiles
  settings : ∀ settings, ∃ bytes, env.settingsToString settings = .ok bytes ∧
    env.settingsFromStr bytes = some settings
  rules : ∀ rules, ∃ bytes, env.rulesToString rules = .ok bytes ∧
    env.rulesFromStr bytes = some rules
  payload : ∀ secrets nonce, ∃ bytes, EncryptedVault.payload env.vault secrets nonce = .ok bytes

/-- The application runs over a directory with any contents, the profile and the settings are saved
without a fault of the disk, and the store is loaded after a restart that can read the files. -/
inductive Reloaded (env : StorageEnv) (p : VpnProfile) (settings : SecuritySettings)
    (secret : Option ProfileSecretPayload) : VpnStore → Prop where
  | intro {first second : StartInput} {dir dir₁ dir₂ : Directory} {input : ProfileInput}
      {m saved settled m' : StorageManager}
      (started : StorageManager.new env first dir = (.ok m, dir₁))
      (saves : IpcBridge.saveProfile env input p secret m = some saved)
      (settles : IpcBridge.saveSecuritySettings env none settings saved = some settled)
      (restarted : StorageManager.new env second settled.directory = (.ok m', dir₂))
      (unharmed : input.save.fault = none ∧ input.profilesFault = none)
      (readable : second.profilesUnreadable = false ∧ second.settingsUnreadable = false) :
      Reloaded env p settings secret
        (({} : VpnStore).loadSnapshot (.ofStored m'.getFullSnapshot))

/-- What connecting decides apart from the credentials. -/
structure ConnectionPolicy where
  protocol : Text
  serverEndpoint : Text
  serverPort : Ecma.Number
  securityPolicy : SecurityPolicy
  routingPolicy : RoutingPolicy
  deriving DecidableEq

def VpnConnectParams.policy (params : VpnConnectParams) : ConnectionPolicy where
  protocol := params.protocol
  serverEndpoint := params.serverEndpoint
  serverPort := params.serverPort
  securityPolicy := params.securityPolicy
  routingPolicy := params.routingPolicy

/-- The policy of the parameters that `connect` builds, if it gets that far. -/
def VpnStore.connectionPolicy (rt : TotpRuntime) (now : Ecma.Number) (s : VpnStore)
    (targetProfileId overridePassword : Option Text) : Option ConnectionPolicy :=
  (s.connect rt now targetProfileId overridePassword).2.map (·.policy)

/-- Whatever has been stored before: connecting the profile has the same policy in every idle store
that holds it with the settings, and in the store after the restart. -/
def KeepsPolicy (p : VpnProfile) (settings : SecuritySettings)
    (secret : Option ProfileSecretPayload) : Prop :=
  ∀ (env : StorageEnv) (before after : VpnStore) (rt : TotpRuntime) (now now' : Ecma.Number)
    (overridePassword : Option Text), StorageContract env → before.isConnecting = false →
    before.securitySettings = settings → before.profiles.find? (·.id = p.id) = some p →
    Reloaded env p settings secret after →
      before.connectionPolicy rt now p.id overridePassword =
        after.connectionPolicy rt now' p.id overridePassword

/-- The arguments of the save fit and the profile keeps its id; and it does not leave the use for
network resources only to settings that ask for it. -/
structure Survives (p : VpnProfile) (settings : SecuritySettings)
    (secret : Option ProfileSecretPayload) : Prop where
  id_not_blank : Text.trim p.id ≠ []
  port_fits : ∃ port < 2 ^ 16, p.serverPort = some (port : ℕ)
  ping_fits : ∃ ping < 2 ^ 32, p.pingMs = some (ping : ℕ)
  reneg_fits : ∀ sec, secret = some (.userPassword sec) → ∀ q, sec.renegSec = some (some q) →
    ∃ seconds < 2 ^ 32, q = (seconds : ℕ)
  use_given : p.useOnlyForNetworkResources = none →
    settings.defaultUseOnlyForNetworkResources ≠ some true

end VpnHub.App
