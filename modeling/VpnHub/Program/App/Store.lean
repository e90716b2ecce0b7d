import VpnHub.Program.App.Bridge
import VpnHub.Program.App.Totp

/-! The store of `packages/app/src/state/useVpnStore.ts`: the profiles, the selected one, and
connecting. What the actions log is left out. -/

namespace VpnHub.App

open Ecma (Number)
open IpcBridge (given)

/-- The fields that the modelled actions read or change, with `isStorageLoading` of the module. -/
structure VpnStore where
  connectionState : Text := "disconnected".toList
  activeProfileId : Text := []
  profiles : List VpnProfile := []
  securitySettings : SecuritySettings := {
    killSwitch := "strict".toList
    dnsProtection := true
    customDnsProvider := "cloudflare".toList
    ipv6LeakProtection := true
    webRtcProtection := true
    lanBypass := true }
  isStorageLoaded : Bool := false
  isStorageLoading : Bool := false
  mfaPromptProfile : Option VpnProfile := none
  deriving DecidableEq

namespace VpnStore

/-! ## Loading -/

/-- What the metadata of a profile tell about its credentials. -/
def metadataCredentials (p : ProfilePayload) : Credentials where
  username := p.credentials.bind (·.username)
  passwordMode :=
    some ((Ecma.truthy (p.credentials.bind (·.passwordMode))).getD "static".toList)
  totpFormat := some ((Ecma.truthy (p.credentials.bind (·.totpFormat))).getD "append".toList)

def withTotp (p : ProfilePayload) (totpSecret totpFormat : Option Text) (c : Credentials) :
    Credentials :=
  { c with
    totpSecret
    totpFormat := (Ecma.truthy totpFormat).or c.totpFormat
    passwordMode :=
      if given totpSecret then
        some ((Ecma.truthy (p.credentials.bind (·.passwordMode))).getD "totp_auto".toList)
      else c.passwordMode }

def loadedCredentials (p : ProfilePayload) : Option ProfileSecretPayload → Credentials
  | none => metadataCredentials p
  | some (.wireguard privateKey presharedKey) =>
    { metadataCredentials p with privateKey := some privateKey, presharedKey }
  | some (.userPassword secret) =>
    withTotp p secret.totpSecret secret.totpFormat
      { metadataCredentials p with
        username := (Ecma.truthy secret.username).or (metadataCredentials p).username
        password := some secret.password
        caCert := secret.caCert
        clientCert := secret.clientCert
        clientKey := secret.clientKey
        tlsAuthKey := secret.tlsAuthKey
        tlsCryptKey := secret.tlsCryptKey
        keyDirection := secret.keyDirection
        remoteCertTlsServer := secret.remoteCertTlsServer
        renegSec := secret.renegSec }
  | some (.rawOvpnConfig secret) =>
    withTotp p secret.totpSecret secret.totpFormat
      { metadataCredentials p with
        username := (Ecma.truthy secret.username).or (metadataCredentials p).username
        password := secret.password }

def loadedRawConfig : Option ProfileSecretPayload → Option Text
  | some (.userPassword secret) => secret.ovpnConfig
  | some (.rawOvpnConfig secret) => some secret.configContent
  | _ => none

def withFlags (p : ProfilePayload) (c : Credentials) : Credentials :=
  { c with
    hasPassword := some (given c.password || p.credentials.any (·.hasPassword))
    hasPrivateKey := some (given c.privateKey || p.credentials.any (·.hasPrivateKey))
    hasCert := some (given c.clientCert || p.credentials.any (·.hasClientCert))
    hasCaCert := some (given c.caCert || p.credentials.any (·.hasCaCert.getD false))
    hasTlsAuth := some (given c.tlsAuthKey || p.credentials.any (·.hasTlsAuth.getD false))
    hasTlsCrypt := some (given c.tlsCryptKey || p.credentials.any (·.hasTlsCrypt.getD false)) }

def mapProfile (secret : Option ProfileSecretPayload) (p : ProfilePayload) : VpnProfile where
  id := p.id
  name := p.name
  serverCountry := p.serverCountry
  serverCity := []
  serverFlag := p.serverFlag
  serverHost := p.serverHost
  serverPort := p.serverPort
  protocol := p.protocol
  virtualIp := p.virtualIp
  tags := p.tags
  isFavorite := p.isFavorite
  pingMs := p.pingMs.getD (some 20)
  lastConnected := p.lastConnected
  useOnlyForNetworkResources := some (p.intranetOnly.getD false)
  customSubnets := some (p.customSubnets.getD [])
  credentials := some (withFlags p (loadedCredentials p secret))
  rawConfig := loadedRawConfig secret

def mapSettings (settings : SecuritySettingsPayload) : SecuritySettings where
  killSwitch := settings.killSwitch
  dnsProtection := settings.dnsProtection
  customDnsProvider := (Ecma.truthy settings.customDnsProvider).getD "cloudflare".toList
  customDnsServers :=
    some (settings.customDnsServers.getD ["1.1.1.1".toList, "1.0.0.1".toList])
  ipv6LeakProtection := settings.ipv6LeakProtection
  webRtcProtection := settings.webrtcLeakProtection
  lanBypass := settings.lanTrafficBypass
  defaultUseOnlyForNetworkResources := some (settings.defaultIntranetOnly.getD false)

def mapProfiles (snapshot : FullStorageSnapshotPayload) : List VpnProfile :=
  snapshot.profiles.map fun p =>
    mapProfile (snapshot.secrets.bind fun secrets => secrets p.id) p

/-- The first favourite, else the first profile. -/
def initialActiveId (profiles : List VpnProfile) : Text :=
  ((Ecma.truthy ((profiles.find? (·.isFavorite)).map (·.id))).or
    (profiles.head?.map (·.id))).getD []

/-- Whether `loadStorage` asks for a snapshot. -/
def loads (s : VpnStore) (force : Bool) : Bool :=
  force || !(s.isStorageLoaded || s.isStorageLoading)

/-- What `loadStorage` sets when the snapshot has come. -/
def loadSnapshot (s : VpnStore) (snapshot : FullStorageSnapshotPayload) : VpnStore :=
  { s with
    profiles := mapProfiles snapshot
    securitySettings := mapSettings snapshot.securitySettings
    activeProfileId := initialActiveId (mapProfiles snapshot)
    isStorageLoaded := true }

/-! ## Editing -/

/-- A number that counts as true. -/
def truthyNumber (x : Option Number) : Option Number :=
  x.filter fun q => q.isSome && q != some 0

def withUserPassword (secret : UserPasswordSecret) (c : Credentials) : Credentials :=
  { c with
    username := (Ecma.truthy secret.username).or c.username
    password := (Ecma.truthy secret.password).or c.password
    totpSecret := (Ecma.truthy secret.totpSecret).or c.totpSecret
    totpFormat := (Ecma.truthy secret.totpFormat).or
      ((Ecma.truthy c.totpFormat).or "append".toList)
    caCert := (Ecma.truthy secret.caCert).or c.caCert
    clientCert := (Ecma.truthy secret.clientCert).or c.clientCert
    clientKey := (Ecma.truthy secret.clientKey).or c.clientKey
    tlsAuthKey := (Ecma.truthy secret.tlsAuthKey).or c.tlsAuthKey
    tlsCryptKey := (Ecma.truthy secret.tlsCryptKey).or c.tlsCryptKey
    keyDirection := (Ecma.truthy secret.keyDirection).or c.keyDirection
    remoteCertTlsServer := secret.remoteCertTlsServer.or c.remoteCertTlsServer
    renegSec := (truthyNumber secret.renegSec).or c.renegSec
    hasCaCert := some (given secret.caCert || given c.caCert)
    hasTlsAuth := some (given secret.tlsAuthKey || given c.tlsAuthKey)
    hasTlsCrypt := some (given secret.tlsCryptKey || given c.tlsCryptKey)
    hasCert := some (given secret.clientCert || given c.clientCert) }

def withRawOvpn (secret : RawOvpnSecret) (c : Credentials) : Credentials :=
  { c with
    username := (Ecma.truthy secret.username).or c.username
    password := (Ecma.truthy secret.password).or c.password
    totpSecret := (Ecma.truthy secret.totpSecret).or c.totpSecret
    totpFormat := (Ecma.truthy secret.totpFormat).or
      ((Ecma.truthy c.totpFormat).or "append".toList) }

/-- The profile that `addProfile` and `updateProfile` put into the store. -/
def fullProfile (profile : VpnProfile) : Option ProfileSecretPayload → VpnProfile
  | none => profile
  | some (.wireguard privateKey presharedKey) =>
    { profile with
      credentials :=
        some { profile.credentials.getD {} with privateKey := some privateKey, presharedKey } }
  | some (.userPassword secret) =>
    { profile with
      credentials := some (withUserPassword secret (profile.credentials.getD {})) }
  | some (.rawOvpnConfig secret) =>
    { profile with
      credentials := some (withRawOvpn secret (profile.credentials.getD {}))
      rawConfig := (Ecma.truthy secret.configContent).or profile.rawConfig }

def addProfile (s : VpnStore) (profile : VpnProfile) (secret : Option ProfileSecretPayload) :
    VpnStore :=
  { s with
    profiles := fullProfile profile secret :: s.profiles
    activeProfileId := (fullProfile profile secret).id }

/-- Changes the profiles with the id. -/
def mapWithId (s : VpnStore) (id : Text) (f : VpnProfile → VpnProfile) : VpnStore :=
  { s with profiles := s.profiles.map fun p => if p.id = id then f p else p }

def updateProfile (s : VpnStore) (profile : VpnProfile) (secret : Option ProfileSecretPayload) :
    VpnStore :=
  s.mapWithId (fullProfile profile secret).id fun _ => fullProfile profile secret

/-- The replacement for the selected profile is the first of the old list. -/
def deleteProfile (s : VpnStore) (profileId : Text) : VpnStore :=
  { s with
    profiles := s.profiles.filter (·.id ≠ profileId)
    activeProfileId :=
      if s.activeProfileId = profileId then (s.profiles.head?.map (·.id)).getD []
      else s.activeProfileId }

def selectProfile (s : VpnStore) (profileId : Text) : VpnStore :=
  { s with activeProfileId := profileId }

def toggleFavorite (s : VpnStore) (profileId : Text) : VpnStore :=
  s.mapWithId profileId fun p => { p with isFavorite := !p.isFavorite }

def setPing (s : VpnStore) (profileId : Text) (pingMs : Number) : VpnStore :=
  s.mapWithId profileId fun p => { p with pingMs }

/-- The latency that the daemon reports belongs to the selected profile. -/
def setActivePing (s : VpnStore) (pingMs : Number) : VpnStore :=
  if s.activeProfileId = [] then s else s.setPing s.activeProfileId pingMs

end VpnStore

/-! ## Connecting -/

structure UserPasswordAuth where
  username : Text
  password : Text
  caCert : Option Text
  clientCert : Option Text
  clientKey : Option Text
  tlsAuthKey : Option Text
  tlsCryptKey : Option Text
  keyDirection : Option Text
  remoteCertTlsServer : Option Bool
  renegSec : Option Number
  ovpnConfig : Option Text
  deriving DecidableEq

inductive AuthConfig where
  | wireguardKey (privateKey : Text) (presharedKey : Option Text)
  | userPassword (auth : UserPasswordAuth)
  deriving DecidableEq

structure SecurityPolicy where
  killSwitchMode : Text
  ipv6LeakProtection : Bool
  webrtcProtection : Bool
  lanBypass : Bool
  deriving DecidableEq

structure RoutingPolicy where
  intranetOnly : Bool
  customSubnets : List Text
  deriving DecidableEq

structure VpnConnectParams where
  profileId : Text
  protocol : Text
  serverEndpoint : Text
  serverPort : Number
  authConfig : AuthConfig
  enableKillSwitch : Bool
  securityPolicy : SecurityPolicy
  routingPolicy : RoutingPolicy
  deriving DecidableEq

namespace VpnStore

/-- The profile with the id, or the selected one if no id is given; else the first. -/
def profileFor (s : VpnStore) (targetProfileId : Option Text) : Option VpnProfile :=
  let profileToUse := (Ecma.truthy targetProfileId).getD s.activeProfileId
  (s.profiles.find? (·.id = profileToUse)).or s.profiles.head?

def isConnecting (s : VpnStore) : Bool :=
  s.connectionState = "connecting".toList || s.connectionState = "connected".toList

/-- The user is asked for the password. -/
def prompts (profile : VpnProfile) (overridePassword : Option Text) : Bool :=
  profile.credentials.bind (·.passwordMode) = some "dynamic_prompt".toList &&
    overridePassword.isNone

/-- The password with the one-time password of the moment; empty if none is configured. -/
def totpPassword (rt : TotpRuntime) (now : Number) (c : Credentials) : Text :=
  if c.passwordMode = some "totp_auto".toList ∧ given c.totpSecret then
    let liveOtp := TotpGenerator.generateCode rt (c.totpSecret.getD []) now
      TotpGenerator.defaultDigits TotpGenerator.defaultPeriodSeconds
    let basePass := c.password.getD []
    let format := (Ecma.truthy c.totpFormat).getD "append".toList
    if format = "append".toList then basePass ++ liveOtp
    else if format = "prefix".toList then liveOtp ++ basePass
    else (Ecma.truthy liveOtp).getD basePass
  else []

def authConfig (profile : VpnProfile) (finalAuthPassword : Text) : AuthConfig :=
  let c := profile.credentials.getD {}
  if profile.protocol = "wireguard".toList then .wireguardKey (c.privateKey.getD []) c.presharedKey
  else .userPassword {
    username := c.username.getD []
    password := finalAuthPassword
    caCert := c.caCert
    clientCert := c.clientCert
    clientKey := c.clientKey
    tlsAuthKey := c.tlsAuthKey
    tlsCryptKey := c.tlsCryptKey
    keyDirection := c.keyDirection
    remoteCertTlsServer := c.remoteCertTlsServer
    renegSec := c.renegSec
    ovpnConfig := profile.rawConfig }

def connectParams (rt : TotpRuntime) (now : Number) (settings : SecuritySettings)
    (profile : VpnProfile) (overridePassword : Option Text) : VpnConnectParams where
  profileId := profile.id
  protocol :=
    if profile.protocol = "ipsec".toList then "openvpn_udp".toList else profile.protocol
  serverEndpoint := profile.serverHost
  serverPort := profile.serverPort
  authConfig := authConfig profile ((Ecma.truthy overridePassword).getD
    (totpPassword rt now (profile.credentials.getD {})))
  enableKillSwitch := settings.killSwitch ≠ "off".toList
  securityPolicy := {
    killSwitchMode := settings.killSwitch
    ipv6LeakProtection := settings.ipv6LeakProtection
    webrtcProtection := settings.webRtcProtection
    lanBypass := settings.lanBypass }
  routingPolicy := {
    intranetOnly := profile.useOnlyForNetworkResources.getD
      (settings.defaultUseOnlyForNetworkResources.getD false)
    customSubnets := profile.customSubnets.getD [] }

/-- The store when the daemon is called, and the parameters of the call if there is one. -/
def connect (rt : TotpRuntime) (now : Number) (s : VpnStore)
    (targetProfileId overridePassword : Option Text) : VpnStore × Option VpnConnectParams :=
  if s.isConnecting then (s, none)
  else match s.profileFor targetProfileId with
    | none => (s, none)
    | some profile =>
      if prompts profile overridePassword then ({ s with mfaPromptProfile := profile }, none)
      else
        ({ s with connectionState := "connecting".toList, activeProfileId := profile.id },
          some (connectParams rt now s.securitySettings profile overridePassword))

end VpnStore

end VpnHub.App
