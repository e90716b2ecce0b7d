import VpnHub.Program.App.Store
import VpnHub.Program.Daemon.Server

/-! The part of the store in `packages/app/src/state/useVpnStore.ts` that shows the connection: the
calls of the user, the events of the monitor and the timer. What an action does between two of its
awaits is one function. Logs, notifications and the tray are left out. -/

namespace VpnHub

/-- As it is serialized. -/
def Daemon.SessionState.name : Daemon.SessionState → Text
  | .disconnected => "disconnected".toList
  | .connecting => "connecting".toList
  | .connected => "connected".toList
  | .reconnecting => "reconnecting".toList
  | .disconnecting => "disconnecting".toList
  | .error => "error".toList

namespace App

open Ecma (Number)
open VpnStore (truthyNumber)

/-- The speeds and the latency of the moment. -/
structure LiveTelemetry where
  currentDownloadKbps : Number := some 0
  currentUploadKbps : Number := some 0
  currentPingMs : Number := some 0
  deriving DecidableEq

/-- Times are in milliseconds. -/
structure LiveStore extends VpnStore where
  daemonHealth : Text := "offline".toList
  connectedAt : Option ℤ := none
  uptimeSeconds : ℤ := 0
  telemetry : LiveTelemetry := {}
  deriving DecidableEq

namespace LiveStore

/-! ## Connecting -/

/-- Web Crypto is asked for a one-time password, and other events are handled before it answers. -/
def signs (rt : TotpRuntime) (profile : VpnProfile) (overridePassword : Option Text) : Bool :=
  let c := profile.credentials.getD {}
  let secret := c.totpSecret.getD []
  (Ecma.truthy overridePassword).isNone && c.passwordMode = some "totp_auto".toList &&
    Ecma.trim secret ≠ [] && TotpGenerator.base32ToBytes rt.cases secret ≠ []

/-- The store, the parameters of the call of the daemon if there is one, and whether the call has to
wait for a one-time password. -/
def connect (rt : TotpRuntime) (now : ℤ) (s : LiveStore)
    (targetProfileId overridePassword : Option Text) :
    LiveStore × Option (VpnConnectParams × Bool) :=
  let (store, params) := s.toVpnStore.connect rt (some now) targetProfileId overridePassword
  ({ s with toVpnStore := store }, params.map fun params =>
    (params, (s.profileFor targetProfileId).any (signs rt · overridePassword)))

/-- The daemon refused, or could not be asked. -/
def connectAnswered (s : LiveStore) (failed : Bool) : LiveStore :=
  if failed then { s with connectionState := "error".toList } else s

/-- The store, and `force` of the call of the daemon if there is one. -/
def disconnect (s : LiveStore) : LiveStore × Option Bool :=
  if s.connectionState = "disconnected".toList ∨ s.connectionState = "disconnecting".toList then
    (s, none)
  else if s.connectionState = "connecting".toList then
    ({ s with
      connectionState := "disconnected".toList
      connectedAt := none
      uptimeSeconds := 0 }, some true)
  else ({ s with connectionState := "disconnecting".toList }, some false)

/-- An abort leaves the store as it is. -/
def disconnectAnswered (s : LiveStore) (force : Bool) : LiveStore :=
  if force then s
  else { s with
    connectionState := "disconnected".toList
    connectedAt := none
    uptimeSeconds := 0 }

/-- The second half of `retryDaemonIpc`. It goes by the state from before the ping. -/
def daemonProbed (s : LiveStore) (wasError alive : Bool) : LiveStore :=
  { s with
    daemonHealth := if alive then "connected".toList else "offline".toList
    connectionState :=
      if alive ∧ wasError then "disconnected".toList else s.connectionState }

/-! ## Events -/

def setDaemonHealth (s : LiveStore) (daemonHealth : Text) : LiveStore := { s with daemonHealth }

/-- The listener for the health of the daemon, and whether it asks for the status. -/
def onDaemonStatusChange (s : LiveStore) (status : Text) : LiveStore × Bool :=
  let prevDaemon := s.daemonHealth
  let s := s.setDaemonHealth status
  if status = "offline".toList then
    if s.connectionState = "connected".toList ∨ s.connectionState = "connecting".toList then
      ({ s with
        connectionState := "error".toList
        uptimeSeconds := 0
        connectedAt := none
        telemetry := {} }, false)
    else (s, false)
  else (s, status = "connected".toList ∧ prevDaemon = "offline".toList)

/-- What the listener makes of the status it has asked for. -/
def statusRestored (s : LiveStore) : Option Ipc.DaemonResponse → LiveStore
  | some (.status snap) => { s with connectionState := snap.state.name }
  | _ => s

def onVpnStatusUpdate (now : ℤ) (s : LiveStore) : Ipc.DaemonResponse → LiveStore
  | .status snap =>
    let sessionSecs : ℤ := snap.sessionDurationSecs.toNat
    if snap.state.name ≠ s.connectionState then
      { s with
        connectionState := snap.state.name
        connectedAt := if snap.state = .connected then some (now - sessionSecs * 1000) else none
        uptimeSeconds := sessionSecs }
    else s
  | _ => s

/-- The speeds come as rounded. -/
def onMetricsUpdate (s : LiveStore) (rxKbps txKbps : Number) (latencyRttMs : Option UInt32) :
    LiveStore :=
  let ping := ((truthyNumber (latencyRttMs.map fun ms => some (ms.toNat : ℚ))).or
    (truthyNumber s.telemetry.currentPingMs)).getD (some 24)
  { s with
    toVpnStore := s.setActivePing ping
    telemetry := ⟨rxKbps, txKbps, ping⟩ }

/-- The uptime at a tick. A time of zero counts as none. -/
def realUptime (now : ℤ) (connectedAt : Option ℤ) (uptimeSeconds : ℤ) : ℤ :=
  ((connectedAt.filter (· ≠ 0)).map fun t => (now - t) / 1000).getD uptimeSeconds

def tickTelemetry (now : ℤ) (s : LiveStore) : LiveStore :=
  if s.connectionState ≠ "connected".toList then
    if s.telemetry.currentDownloadKbps ≠ some 0 ∨ s.telemetry.currentUploadKbps ≠ some 0 ∨
        s.uptimeSeconds ≠ 0 then
      { s with
        uptimeSeconds := 0
        connectedAt := none
        telemetry :=
          { s.telemetry with currentDownloadKbps := some 0, currentUploadKbps := some 0 } }
    else s
  else
    let activeProf := s.profiles.find? (·.id = s.activeProfileId)
    let currentPing := ((truthyNumber (activeProf.map (·.pingMs))).or
      (truthyNumber s.telemetry.currentPingMs)).getD (some 25)
    { s with
      uptimeSeconds := realUptime now s.connectedAt s.uptimeSeconds
      telemetry := { s.telemetry with currentPingMs := currentPing } }

end LiveStore

end App

end VpnHub
