import VpnHub.Program.App.Store
import VpnHub.Program.Daemon.State

/-! The command `vpn_connect` (`commands/vpn.rs`): its argument, and the secret of the vault that
it puts into the request. -/

namespace VpnHub

def Storage.EncryptedVault.getSecret (v : Storage.EncryptedVault) (profileId : Text) :
    Option Storage.StoredProfileSecret := v.cache.find? profileId

namespace App

open Storage

/-! ## The argument

The command is not run if its argument does not fit. -/

def protocolType (protocol : Text) : Option Daemon.ProtocolType :=
  if protocol = "wireguard".toList then some .wireguard
  else if protocol = "openvpn_udp".toList then some .openvpnUdp
  else if protocol = "openvpn_tcp".toList then some .openvpnTcp
  else none

def killSwitchMode (mode : Text) : Option Daemon.KillSwitchMode :=
  if mode = "off".toList then some .off
  else if mode = "standard".toList then some .standard
  else if mode = "strict".toList then some .strict
  else none

/-- `remote_cert_tls_server` and `reneg_sec` have to fit, no driver reads them. -/
def AuthConfig.deserialize : AuthConfig → Option Daemon.AuthConfig
  | .wireguardKey privateKey presharedKey => some (.wireguardKey privateKey presharedKey)
  | .userPassword auth => (deserializeRenegSec auth.renegSec).map fun _ =>
    .userPassword auth.username auth.password auth.caCert auth.clientCert auth.clientKey
      auth.tlsAuthKey auth.tlsCryptKey auth.keyDirection auth.ovpnConfig

def VpnConnectParams.deserialize (params : VpnConnectParams) : Option Daemon.ConnectParams := do
  let protocol ← protocolType params.protocol
  let serverPort ← Ecma.toUnsigned (2 ^ 16) params.serverPort
  let authConfig ← params.authConfig.deserialize
  let killSwitchMode ← killSwitchMode params.securityPolicy.killSwitchMode
  return {
    profileId := params.profileId
    protocol
    serverEndpoint := params.serverEndpoint
    serverPort := UInt16.ofNat serverPort
    authConfig
    enableKillSwitch := params.enableKillSwitch
    securityPolicy := some {
      killSwitchMode
      ipv6LeakProtection := params.securityPolicy.ipv6LeakProtection
      webrtcProtection := params.securityPolicy.webrtcProtection
      lanBypass := params.securityPolicy.lanBypass }
    routingPolicy := some {
      intranetOnly := params.routingPolicy.intranetOnly
      customSubnets := params.routingPolicy.customSubnets } }

/-! ## The secret -/

/-- The authentication with the secret put in. A password that has been typed, or made of a one-time
password, goes before the stored one. -/
def withSecret (auth : Daemon.AuthConfig) : StoredProfileSecret → Daemon.AuthConfig
  | .wireguard privateKey presharedKey => .wireguardKey privateKey presharedKey
  | .userPassword username password _ _ caCert clientCert clientKey tlsAuthKey tlsCryptKey
      keyDirection _ _ ovpnConfig =>
    let finalPassword := match auth with
      | .userPassword _ p _ _ _ _ _ _ _ => if p ≠ [] then p else password
      | _ => password
    .userPassword username finalPassword caCert clientCert clientKey tlsAuthKey tlsCryptKey
      keyDirection ovpnConfig
  | .rawOvpnConfig configContent username password _ _ =>
    let final := match auth with
      | .userPassword u p _ _ _ _ _ _ _ =>
        if p ≠ [] then (if u ≠ [] then some u else username, some p) else (username, password)
      | _ => (username, password)
    .rawOvpnConfig configContent final.1 final.2

/-- The request that `vpn_connect` sends. -/
def vpnConnect (m : StorageManager) (params : Daemon.ConnectParams) : Daemon.ConnectParams :=
  match m.vault.getSecret params.profileId with
  | some secret => { params with authConfig := withSecret params.authConfig secret }
  | none => params

end App

end VpnHub
