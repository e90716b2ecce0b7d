import Mathlib.Data.Countable.Basic
import Mathlib.Logic.Equiv.List
import VpnHub.Model.ProfileReload

/-! # The contract of the storage can be met

There are countably many values to write, so each of them can have its own bytes. -/

namespace VpnHub.Storage

instance countableChar : Countable Char :=
  Function.Injective.countable (f := Char.toNat) fun _ _ => Char.toNat_inj.mp

instance countableUInt16 : Countable UInt16 :=
  Function.Injective.countable (f := UInt16.toNat) fun _ _ => UInt16.toNat_inj.mp

instance countableUInt32 : Countable UInt32 :=
  Function.Injective.countable (f := UInt32.toNat) fun _ _ => UInt32.toNat_inj.mp

instance countableText : Countable Text := inferInstanceAs (Countable (List Char))

instance : Countable StoredCredentialsMetadata := by
  apply Function.Injective.countable (f := fun c : StoredCredentialsMetadata =>
    ((c.username, c.passwordMode, c.totpFormat), (c.hasPassword, c.hasPrivateKey, c.hasClientCert),
      c.hasCaCert, c.hasTlsAuth, c.hasTlsCrypt, c.hasRawOvpn))
  intro c d h
  cases c
  cases d
  simpa [and_assoc] using h

instance : Countable StoredProfile := by
  apply Function.Injective.countable (f := fun p : StoredProfile =>
    ((p.id, p.name, p.serverCountry, p.serverFlag, p.serverHost), (p.serverPort, p.protocol,
      p.virtualIp, p.tags, p.isFavorite, p.pingMs), p.lastConnected, p.credentials, p.routingMode,
        p.intranetOnly, p.customSubnets))
  intro p q h
  cases p
  cases q
  simpa [and_assoc] using h

instance : Countable StoredSecuritySettings := by
  apply Function.Injective.countable (f := fun s : StoredSecuritySettings =>
    ((s.killSwitch, s.dnsProtection, s.customDnsProvider, s.customDnsServers), s.ipv6LeakProtection,
      s.webrtcLeakProtection, s.lanTrafficBypass, s.defaultIntranetOnly))
  intro s t h
  cases s
  cases t
  simpa [and_assoc] using h

instance : Countable StoredAppRule := by
  apply Function.Injective.countable (f := fun r : StoredAppRule =>
    (r.id, r.name, r.icon, r.path, r.mode, r.enabled))
  intro r t h
  cases r
  cases t
  simpa using h

instance : Countable StoredIpRule := by
  apply Function.Injective.countable (f := fun r : StoredIpRule =>
    (r.id, r.target, r.ruleType, r.description, r.mode, r.enabled))
  intro r t h
  cases r
  cases t
  simpa using h

theorem exists_codec (α : Type) [Countable α] : ∃ (write : α → Bytes) (read : Bytes → Option α),
    ∀ a, read (write a) = some a := by
  obtain ⟨f, hf⟩ := exists_injective_nat α
  have hinj : Function.Injective fun a => List.replicate (f a) (0 : UInt8) :=
    fun a b h => hf (by simpa using congrArg List.length h)
  exact ⟨_, Function.partialInv _, Function.partialInv_left hinj⟩

theorem exists_storageContract : ∃ env, App.StorageContract env := by
  obtain ⟨writeProfiles, readProfiles, hprofiles⟩ := exists_codec (List StoredProfile)
  obtain ⟨writeSettings, readSettings, hsettings⟩ := exists_codec StoredSecuritySettings
  obtain ⟨writeRules, readRules, hrules⟩ := exists_codec (List StoredAppRule × List StoredIpRule)
  let env : StorageEnv := {
    vault := {
      toVec := fun _ => .ok []
      fromSlice := fun _ => .error []
      encrypt := fun _ plaintext => .ok plaintext
      decrypt := fun _ ciphertext => .ok ciphertext }
    profilesToString := fun profiles => .ok (writeProfiles profiles)
    profilesFromStr := readProfiles
    settingsToString := fun settings => .ok (writeSettings settings)
    settingsFromStr := readSettings
    rulesToString := fun rules => .ok (writeRules rules)
    rulesFromStr := readRules }
  refine ⟨env, ?_, ?_, ?_, ?_⟩
  · exact fun profiles => ⟨_, rfl, hprofiles profiles⟩
  · exact fun settings => ⟨_, rfl, hsettings settings⟩
  · exact fun rules => ⟨_, rfl, hrules rules⟩
  · exact fun secrets nonce => ⟨_, rfl⟩

end VpnHub.Storage
