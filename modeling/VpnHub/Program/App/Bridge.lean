import VpnHub.Library.Ecma
import VpnHub.Program.App.Storage

/-! The profiles and settings of `packages/app/src/types/vpn.ts`, and what becomes of them on the
way to the storage commands and back in `packages/app/src/services/ipcBridge.ts`.

A union of string literals is erased when the program runs and casts let any string in, so its
values are texts. A missing field and `null` are both `none`. -/

namespace VpnHub.App

open Ecma (Number)
open Storage

/-! ## Profiles and settings -/

structure Credentials where
  username : Option Text := none
  password : Option Text := none
  passwordMode : Option Text := none
  totpSecret : Option Text := none
  totpFormat : Option Text := none
  hasPassword : Option Bool := none
  hasCert : Option Bool := none
  hasPrivateKey : Option Bool := none
  hasCaCert : Option Bool := none
  hasTlsAuth : Option Bool := none
  hasTlsCrypt : Option Bool := none
  privateKey : Option Text := none
  presharedKey : Option Text := none
  caCert : Option Text := none
  clientCert : Option Text := none
  clientKey : Option Text := none
  tlsAuthKey : Option Text := none
  tlsCryptKey : Option Text := none
  keyDirection : Option Text := none
  remoteCertTlsServer : Option Bool := none
  renegSec : Option Number := none
  deriving DecidableEq

structure VpnProfile where
  id : Text
  name : Text
  protocol : Text
  serverHost : Text
  serverPort : Number
  serverCountry : Text
  serverCity : Text
  serverFlag : Text
  virtualIp : Text
  isFavorite : Bool
  tags : List Text
  lastConnected : Option Text := none
  pingMs : Number
  credentials : Option Credentials := none
  rawConfig : Option Text := none
  useOnlyForNetworkResources : Option Bool := none
  customSubnets : Option (List Text) := none
  deriving DecidableEq

structure SecuritySettings where
  killSwitch : Text
  dnsProtection : Bool
  customDnsProvider : Text
  customDnsServers : Option (List Text) := none
  ipv6LeakProtection : Bool
  webRtcProtection : Bool
  lanBypass : Bool
  defaultUseOnlyForNetworkResources : Option Bool := none
  deriving DecidableEq

/-! ## Payloads -/

structure UserPasswordSecret where
  username : Text
  password : Text
  totpSecret : Option Text := none
  totpFormat : Option Text := none
  caCert : Option Text := none
  clientCert : Option Text := none
  clientKey : Option Text := none
  tlsAuthKey : Option Text := none
  tlsCryptKey : Option Text := none
  keyDirection : Option Text := none
  remoteCertTlsServer : Option Bool := none
  renegSec : Option Number := none
  ovpnConfig : Option Text := none
  deriving DecidableEq

structure RawOvpnSecret where
  configContent : Text
  username : Option Text := none
  password : Option Text := none
  totpSecret : Option Text := none
  totpFormat : Option Text := none
  deriving DecidableEq

inductive ProfileSecretPayload where
  | wireguard (privateKey : Text) (presharedKey : Option Text)
  | userPassword (secret : UserPasswordSecret)
  | rawOvpnConfig (secret : RawOvpnSecret)
  deriving DecidableEq

structure CredentialsPayload where
  username : Option Text
  passwordMode : Option Text
  totpFormat : Option Text
  hasPassword : Bool
  hasPrivateKey : Bool
  hasClientCert : Bool
  hasCaCert : Option Bool := none
  hasTlsAuth : Option Bool := none
  hasTlsCrypt : Option Bool := none
  hasRawOvpn : Bool
  deriving DecidableEq

structure ProfilePayload where
  id : Text
  name : Text
  serverCountry : Text
  serverFlag : Text
  serverHost : Text
  serverPort : Number
  protocol : Text
  virtualIp : Text
  tags : List Text
  isFavorite : Bool
  pingMs : Option Number
  lastConnected : Option Text
  credentials : Option CredentialsPayload
  intranetOnly : Option Bool
  customSubnets : Option (List Text)
  deriving DecidableEq

structure SecuritySettingsPayload where
  killSwitch : Text
  dnsProtection : Bool
  customDnsProvider : Text
  customDnsServers : Option (List Text)
  ipv6LeakProtection : Bool
  webrtcLeakProtection : Bool
  lanTrafficBypass : Bool
  defaultIntranetOnly : Option Bool
  deriving DecidableEq

/-- The snapshot without the rules. The secrets are looked up by profile id. -/
structure FullStorageSnapshotPayload where
  profiles : List ProfilePayload
  secrets : Option (Text → Option ProfileSecretPayload)
  securitySettings : SecuritySettingsPayload

/-! ## Saving -/

namespace IpcBridge

def secretPassword : ProfileSecretPayload → Option Text
  | .wireguard _ _ => none
  | .userPassword secret => some secret.password
  | .rawOvpnConfig secret => secret.password

def secretPrivateKey : ProfileSecretPayload → Option Text
  | .wireguard privateKey _ => some privateKey
  | .userPassword _ | .rawOvpnConfig _ => none

def secretConfig : ProfileSecretPayload → Option Text
  | .wireguard _ _ => none
  | .userPassword secret => secret.ovpnConfig
  | .rawOvpnConfig secret => some secret.configContent

/-- Whether a text that is neither missing nor empty is on the way. -/
def given (text : Option Text) : Bool := (Ecma.truthy text).isSome

def storedCredentials (profile : VpnProfile) (secret : Option ProfileSecretPayload)
    (credentials : Credentials) : CredentialsPayload where
  username := credentials.username
  passwordMode := some ((Ecma.truthy credentials.passwordMode).getD "static".toList)
  totpFormat := some ((Ecma.truthy credentials.totpFormat).getD "append".toList)
  hasPassword := credentials.hasPassword.getD false || given credentials.password ||
    given (secret.bind secretPassword)
  hasPrivateKey := credentials.hasPrivateKey.getD false || given credentials.privateKey ||
    given (secret.bind secretPrivateKey)
  hasClientCert := credentials.hasCert.getD false
  hasRawOvpn := given profile.rawConfig || given (secret.bind secretConfig)

/-- The profile that `saveProfile` hands to `storage_save_profile`. -/
def storedPayload (profile : VpnProfile) (secret : Option ProfileSecretPayload) :
    ProfilePayload where
  id := profile.id
  name := profile.name
  serverCountry := profile.serverCountry
  serverFlag := profile.serverFlag
  serverHost := profile.serverHost
  serverPort := profile.serverPort
  protocol := profile.protocol
  virtualIp := profile.virtualIp
  tags := profile.tags
  isFavorite := profile.isFavorite
  pingMs := some profile.pingMs
  lastConnected := profile.lastConnected
  intranetOnly := some (profile.useOnlyForNetworkResources.getD false)
  customSubnets := some (profile.customSubnets.getD [])
  credentials := profile.credentials.map (storedCredentials profile secret)

/-- The settings that `saveSecuritySettings` hands to `storage_save_security_settings`. -/
def settingsPayload (settings : SecuritySettings) : SecuritySettingsPayload where
  killSwitch := settings.killSwitch
  dnsProtection := settings.dnsProtection
  customDnsProvider := settings.customDnsProvider
  customDnsServers := some (settings.customDnsServers.getD [])
  ipv6LeakProtection := settings.ipv6LeakProtection
  webrtcLeakProtection := settings.webRtcProtection
  lanTrafficBypass := settings.lanBypass
  defaultIntranetOnly := some (settings.defaultUseOnlyForNetworkResources.getD false)

end IpcBridge

/-! ## The arguments of the commands

A command is not run if one of its arguments does not fit its type. -/

def CredentialsPayload.deserialize (payload : CredentialsPayload) : StoredCredentialsMetadata where
  username := payload.username
  passwordMode := some (payload.passwordMode.getD "static".toList)
  totpFormat := some (payload.totpFormat.getD "append".toList)
  hasPassword := payload.hasPassword
  hasPrivateKey := payload.hasPrivateKey
  hasClientCert := payload.hasClientCert
  hasCaCert := payload.hasCaCert.getD false
  hasTlsAuth := payload.hasTlsAuth.getD false
  hasTlsCrypt := payload.hasTlsCrypt.getD false
  hasRawOvpn := payload.hasRawOvpn

def ProfilePayload.deserialize (payload : ProfilePayload) : Option StoredProfile := do
  let serverPort ← Ecma.toUnsigned (2 ^ 16) payload.serverPort
  let pingMs ← payload.pingMs.bind (Ecma.toUnsigned (2 ^ 32))
  return {
    id := payload.id
    name := payload.name
    serverCountry := payload.serverCountry
    serverFlag := payload.serverFlag
    serverHost := payload.serverHost
    serverPort := UInt16.ofNat serverPort
    protocol := payload.protocol
    virtualIp := payload.virtualIp
    tags := payload.tags
    isFavorite := payload.isFavorite
    pingMs := UInt32.ofNat pingMs
    lastConnected := payload.lastConnected
    credentials := payload.credentials.map CredentialsPayload.deserialize
    intranetOnly := payload.intranetOnly.getD false
    customSubnets := payload.customSubnets.getD [] }

def SecuritySettingsPayload.deserialize (payload : SecuritySettingsPayload) :
    StoredSecuritySettings where
  killSwitch := payload.killSwitch
  dnsProtection := payload.dnsProtection
  customDnsProvider := payload.customDnsProvider
  customDnsServers := payload.customDnsServers
  ipv6LeakProtection := payload.ipv6LeakProtection
  webrtcLeakProtection := payload.webrtcLeakProtection
  lanTrafficBypass := payload.lanTrafficBypass
  defaultIntranetOnly := payload.defaultIntranetOnly.getD false

/-- A number that is not finite is written as `null`. -/
def deserializeRenegSec (renegSec : Option Number) : Option (Option UInt32) :=
  renegSec.join.elim (some none) fun q =>
    (Ecma.toUnsigned (2 ^ 32) (some q)).map fun n => some (UInt32.ofNat n)

def UserPasswordSecret.deserialize (secret : UserPasswordSecret) : Option StoredProfileSecret := do
  let renegSec ← deserializeRenegSec secret.renegSec
  return .userPassword secret.username secret.password secret.totpSecret secret.totpFormat
    secret.caCert secret.clientCert secret.clientKey secret.tlsAuthKey secret.tlsCryptKey
    secret.keyDirection secret.remoteCertTlsServer renegSec secret.ovpnConfig

def ProfileSecretPayload.deserialize : ProfileSecretPayload → Option StoredProfileSecret
  | .wireguard privateKey presharedKey => some (.wireguard privateKey presharedKey)
  | .userPassword secret => secret.deserialize
  | .rawOvpnConfig secret => some (.rawOvpnConfig secret.configContent secret.username
      secret.password secret.totpSecret secret.totpFormat)

/-- A missing secret is passed as `null`. -/
def deserializeSecret : Option ProfileSecretPayload → Option (Option StoredProfileSecret)
  | none => some none
  | some secret => secret.deserialize.map some

/-- The arguments of `storage_save_profile`, if they fit. -/
def saveArguments (profile : VpnProfile) (secret : Option ProfileSecretPayload) :
    Option (StoredProfile × Option StoredProfileSecret) := do
  let stored ← (IpcBridge.storedPayload profile secret).deserialize
  let storedSecret ← deserializeSecret secret
  return (stored, storedSecret)

namespace IpcBridge

/-- The storage after the call, if it ends. -/
def saveProfile (env : StorageEnv) (input : ProfileInput) (profile : VpnProfile)
    (secret : Option ProfileSecretPayload) (m : StorageManager) : Option StorageManager :=
  (saveArguments profile secret).elim (some m) fun arguments =>
    ((StorageManager.saveProfile env input arguments.1 arguments.2).run m).map (·.2)

/-- The storage after the call, if it ends. -/
def saveSecuritySettings (env : StorageEnv) (fault : Option WriteFault)
    (settings : SecuritySettings) (m : StorageManager) : Option StorageManager :=
  ((StorageManager.saveSecuritySettings env fault (settingsPayload settings).deserialize).run
    m).map (·.2)

end IpcBridge

/-! ## The result of `storage_load_all` -/

def CredentialsPayload.ofStored (credentials : StoredCredentialsMetadata) : CredentialsPayload where
  username := credentials.username
  passwordMode := credentials.passwordMode
  totpFormat := credentials.totpFormat
  hasPassword := credentials.hasPassword
  hasPrivateKey := credentials.hasPrivateKey
  hasClientCert := credentials.hasClientCert
  hasCaCert := some credentials.hasCaCert
  hasTlsAuth := some credentials.hasTlsAuth
  hasTlsCrypt := some credentials.hasTlsCrypt
  hasRawOvpn := credentials.hasRawOvpn

def ProfilePayload.ofStored (profile : StoredProfile) : ProfilePayload where
  id := profile.id
  name := profile.name
  serverCountry := profile.serverCountry
  serverFlag := profile.serverFlag
  serverHost := profile.serverHost
  serverPort := some profile.serverPort.toNat
  protocol := profile.protocol
  virtualIp := profile.virtualIp
  tags := profile.tags
  isFavorite := profile.isFavorite
  pingMs := some (some profile.pingMs.toNat)
  lastConnected := profile.lastConnected
  credentials := profile.credentials.map .ofStored
  intranetOnly := some profile.intranetOnly
  customSubnets := some profile.customSubnets

def SecuritySettingsPayload.ofStored (settings : StoredSecuritySettings) :
    SecuritySettingsPayload where
  killSwitch := settings.killSwitch
  dnsProtection := settings.dnsProtection
  customDnsProvider := settings.customDnsProvider
  customDnsServers := settings.customDnsServers
  ipv6LeakProtection := settings.ipv6LeakProtection
  webrtcLeakProtection := settings.webrtcLeakProtection
  lanTrafficBypass := settings.lanTrafficBypass
  defaultIntranetOnly := some settings.defaultIntranetOnly

def ProfileSecretPayload.ofStored : StoredProfileSecret → ProfileSecretPayload
  | .wireguard privateKey presharedKey => .wireguard privateKey presharedKey
  | .userPassword username password totpSecret totpFormat caCert clientCert clientKey tlsAuthKey
      tlsCryptKey keyDirection remoteCertTlsServer renegSec ovpnConfig =>
    .userPassword { username, password, totpSecret, totpFormat, caCert, clientCert, clientKey,
                    tlsAuthKey, tlsCryptKey, keyDirection, remoteCertTlsServer,
                    renegSec := renegSec.map fun n => some n.toNat, ovpnConfig }
  | .rawOvpnConfig configContent username password totpSecret totpFormat =>
    .rawOvpnConfig { configContent, username, password, totpSecret, totpFormat }

def FullStorageSnapshotPayload.ofStored (snapshot : FullStorageSnapshot) :
    FullStorageSnapshotPayload where
  profiles := snapshot.profiles.map .ofStored
  secrets := some fun id => (snapshot.secrets.find? id).map .ofStored
  securitySettings := .ofStored snapshot.securitySettings

end VpnHub.App
