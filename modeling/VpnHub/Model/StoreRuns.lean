import VpnHub.Library.Transition
import VpnHub.Program.App.LiveStore

/-! Runs of the store: the actions of the interface, the answers and the events it waits for, in any
order. First what is edited, then the connection that is shown. -/

namespace VpnHub.App

/-- The store, with the calls of `loadStorage` that wait for a snapshot, those that have one and
have not returned, and whether the active profile has been set by any action. -/
structure StoreRun where
  store : VpnStore := {}
  waiting : ℕ := 0
  returning : ℕ := 0
  wasSet : Bool := false
  deriving DecidableEq

inductive StoreAction where
  | loadStorage (force : Bool)
  | snapshotArrives (snapshot : Option FullStorageSnapshotPayload)
  | loadReturns
  | addProfile (profile : VpnProfile) (secret : Option ProfileSecretPayload)
  | updateProfile (profile : VpnProfile) (secret : Option ProfileSecretPayload)
  | deleteProfile (profileId : Text)
  | selectProfile (profileId : Text)
  | connect (now : Ecma.Number) (targetProfileId overridePassword : Option Text)
  | toggleFavorite (profileId : Text)
  | hostPinged (profileId : Text) (pingMs : Ecma.Number)
  | metricsArrive (pingMs : Ecma.Number)
  | connectionChanges (connectionState : Text)
  | promptCloses

def VpnStore.ids (s : VpnStore) : List Text := s.profiles.map (·.id)

namespace StoreRun

/-- The active profile may have been set by the action. -/
def update (s : StoreRun) (store : VpnStore) (sets : Bool) : StoreRun :=
  { s with store, wasSet := s.wasSet || sets }

/-- A profile is selected only if it exists. -/
def step (rt : TotpRuntime) (s : StoreRun) : StoreAction → Option StoreRun
  | .loadStorage force =>
    if s.store.loads force then
      some { s with store := { s.store with isStorageLoading := true }, waiting := s.waiting + 1 }
    else some s
  | .snapshotArrives snapshot =>
    if s.waiting = 0 then none
    else
      let store := snapshot.elim s.store s.store.loadSnapshot
      some { s.update store snapshot.isSome with
        waiting := s.waiting - 1
        returning := s.returning + 1 }
  | .loadReturns =>
    if s.returning = 0 then none
    else some { s with
      store := { s.store with isStorageLoading := false }
      returning := s.returning - 1 }
  | .addProfile profile secret => some (s.update (s.store.addProfile profile secret) true)
  | .updateProfile profile secret => some (s.update (s.store.updateProfile profile secret) false)
  | .deleteProfile profileId =>
    some (s.update (s.store.deleteProfile profileId) (s.store.activeProfileId = profileId))
  | .selectProfile profileId =>
    if profileId ∈ s.store.ids then some (s.update (s.store.selectProfile profileId) true)
    else none
  | .connect now targetProfileId overridePassword =>
    let outcome := s.store.connect rt now targetProfileId overridePassword
    some (s.update outcome.1 outcome.2.isSome)
  | .toggleFavorite profileId => some (s.update (s.store.toggleFavorite profileId) false)
  | .hostPinged profileId pingMs => some (s.update (s.store.setPing profileId pingMs) false)
  | .metricsArrive pingMs => some (s.update (s.store.setActivePing pingMs) false)
  | .connectionChanges connectionState => some (s.update { s.store with connectionState } false)
  | .promptCloses => some (s.update { s.store with mfaPromptProfile := none } false)

/-- The active profile exists, and there is one as soon as one has been set. -/
structure ActiveExists (s : StoreRun) : Prop where
  exists_or_empty : s.store.activeProfileId = [] ∨ s.store.activeProfileId ∈ s.store.ids
  never_set_or_none : s.store.activeProfileId = [] → s.wasSet = false ∨ s.store.profiles = []

/-! ## The actions that keep it -/

/-- One of the profiles that a snapshot may select has an id. -/
def SelectsNamed (snapshot : FullStorageSnapshotPayload) : Prop :=
  snapshot.profiles = [] ∨ (∃ p ∈ snapshot.profiles.find? (·.isFavorite), p.id ≠ []) ∨
    ∃ p ∈ snapshot.profiles.head?, p.id ≠ []

/-- An empty id is not selected, and the active profile is not deleted while it is the first. -/
def Safe (s : StoreRun) : StoreAction → Prop
  | .snapshotArrives snapshot => ∀ loaded ∈ snapshot, SelectsNamed loaded
  | .addProfile profile _ => profile.id ≠ []
  | .deleteProfile profileId => s.store.activeProfileId = profileId →
      s.store.profiles = [] ∨ ∃ p ∈ s.store.profiles.head?, p.id ≠ profileId ∧ p.id ≠ []
  | .selectProfile profileId => profileId ≠ []
  | .connect _ targetProfileId overridePassword =>
      s.store.isConnecting = false → ∀ target ∈ Ecma.truthy targetProfileId, target ∉ s.store.ids →
        ∀ p ∈ s.store.profiles.head?, VpnStore.prompts p overridePassword = false → p.id ≠ []
  | _ => True

end StoreRun

/-! ## The connection -/

/-- Where a call stands at its next `await`. -/
inductive ViewCall where
  /-- Web Crypto is at work on the one-time password. -/
  | signing (params : VpnConnectParams)
  | connecting
  | disconnecting (force : Bool)
  | probing (wasError : Bool)
  | restoring
  | returned
  deriving DecidableEq

inductive Answer where
  | signed
  | connected (failed : Bool)
  | disconnected
  | pinged (alive : Bool)
  | status (response : Option Ipc.DaemonResponse)

/-- The requests that change the daemon. -/
inductive DaemonCall where
  | connect (params : VpnConnectParams)
  | disconnect (force : Bool)
  deriving DecidableEq

/-- The store, the calls so far, and the requests that have gone out. -/
structure View where
  store : LiveStore := {}
  calls : List ViewCall := []
  sent : List DaemonCall := []
  deriving DecidableEq

inductive ViewAction where
  | connect (now : ℤ) (targetProfileId overridePassword : Option Text)
  | disconnect
  | trayToggle (now : ℤ)
  | retryDaemonIpc
  | answer (i : ℕ) (answer : Answer)
  /-- Two listeners hear it: the one of the module may come before that of the store. -/
  | daemonStatus (status : Text) (moduleFirst : Bool)
  /-- The answer to the ping when the module is loaded. -/
  | daemonPinged (alive : Bool)
  | vpnStatus (now : ℤ) (response : Ipc.DaemonResponse)
  | metrics (rxKbps txKbps : Ecma.Number) (latencyRttMs : Option UInt32)
  | tick (now : ℤ)
  /-- What all other actions may do. -/
  | edit (profiles : List VpnProfile) (activeProfileId : Text) (settings : SecuritySettings)
      (mfaPromptProfile : Option VpnProfile)

namespace View

/-- A call comes to its first `await`. -/
def push (v : View) (store : LiveStore) (call : ViewCall) (requests : List DaemonCall) : View where
  store := store
  calls := v.calls ++ [call]
  sent := v.sent ++ requests

def connect (rt : TotpRuntime) (v : View) (now : ℤ)
    (targetProfileId overridePassword : Option Text) : View :=
  match v.store.connect rt now targetProfileId overridePassword with
  | (store, none) => { v with store }
  | (store, some (params, true)) => v.push store (.signing params) []
  | (store, some (params, false)) => v.push store .connecting [.connect params]

def disconnect (v : View) : View :=
  match v.store.disconnect with
  | (store, none) => { v with store }
  | (store, some force) => v.push store (.disconnecting force) [.disconnect force]

/-- Whether the tray disconnects. -/
def trayDisconnects (v : View) : Bool :=
  v.store.connectionState = "connected".toList || v.store.connectionState = "connecting".toList ||
    v.store.connectionState = "reconnecting".toList

def trayToggle (rt : TotpRuntime) (v : View) (now : ℤ) : View :=
  if v.trayDisconnects then v.disconnect else v.connect rt now (some v.store.activeProfileId) none

/-- What a call does after an answer, up to its next `await`. -/
def resume (store : LiveStore) : ViewCall → Answer →
    Option (LiveStore × ViewCall × List DaemonCall)
  | .signing params, .signed => some (store, .connecting, [.connect params])
  | .connecting, .connected failed => some (store.connectAnswered failed, .returned, [])
  | .disconnecting force, .disconnected => some (store.disconnectAnswered force, .returned, [])
  | .probing wasError, .pinged alive => some (store.daemonProbed wasError alive, .returned, [])
  | .restoring, .status response => some (store.statusRestored response, .returned, [])
  | _, _ => none

def answer (v : View) (i : ℕ) (a : Answer) : Option View :=
  v.calls[i]?.bind fun call => (resume v.store call a).map fun (store, call, requests) =>
    { store, calls := v.calls.set i call, sent := v.sent ++ requests }

def daemonStatus (v : View) (status : Text) (moduleFirst : Bool) : View :=
  let before := if moduleFirst then v.store.setDaemonHealth status else v.store
  match before.onDaemonStatusChange status with
  | (store, true) => v.push store .restoring []
  | (store, false) => { v with store }

def step (rt : TotpRuntime) (v : View) : ViewAction → Option View
  | .connect now targetProfileId overridePassword =>
    some (v.connect rt now targetProfileId overridePassword)
  | .disconnect => some v.disconnect
  | .trayToggle now => some (v.trayToggle rt now)
  | .retryDaemonIpc =>
    some (v.push v.store (.probing (v.store.connectionState = "error".toList)) [])
  | .answer i a => v.answer i a
  | .daemonStatus status moduleFirst => some (v.daemonStatus status moduleFirst)
  | .daemonPinged alive =>
    some { v with store :=
      v.store.setDaemonHealth (if alive then "connected".toList else "offline".toList) }
  | .vpnStatus now response => some { v with store := v.store.onVpnStatusUpdate now response }
  | .metrics rxKbps txKbps latencyRttMs =>
    some { v with store := v.store.onMetricsUpdate rxKbps txKbps latencyRttMs }
  | .tick now => some { v with store := v.store.tickTelemetry now }
  | .edit profiles activeProfileId securitySettings mfaPromptProfile =>
    some { v with store := { v.store with
      profiles, activeProfileId, securitySettings, mfaPromptProfile } }

end View

/-- Runs from `v` to `w`. -/
abbrev ViewRun (rt : TotpRuntime) := Transition.Run (View.step rt) fun _ _ => True

namespace View

def shown (v : View) : Text := v.store.connectionState

def Connected (v : View) : Prop := v.shown = "connected".toList

instance (v : View) : Decidable v.Connected := inferInstanceAs (Decidable (_ = _))

end View

namespace Sample

/-- A runtime that makes no codes. -/
def runtime : TotpRuntime where
  cases := .ascii
  sign _ _ := none

def profile (id : Text) : VpnProfile where
  id := id
  name := "Office".toList
  protocol := "openvpn_udp".toList
  serverHost := "vpn.example.com".toList
  serverPort := some 1194
  serverCountry := "Germany".toList
  serverCity := "Berlin".toList
  serverFlag := "DE".toList
  virtualIp := "10.8.0.2".toList
  isFavorite := false
  tags := []
  pingMs := some 12

/-- The daemon reports a connection of twelve seconds, and the timer runs later. -/
def reportActions : List ViewAction :=
  [.vpnStatus 5000000 (.status { state := .connected, sessionDurationSecs := 12 }), .tick 5003500]

def connectedView : View where
  store := { connectionState := "connected".toList, connectedAt := some 1000, uptimeSeconds := 7 }

/-- A view with a profile that has a secret for one-time passwords. -/
def totpView : View where
  store :=
    { profiles := [{ profile "office".toList with
        credentials := some {
          username := some "alice".toList
          password := some "s3cret".toList
          passwordMode := some "totp_auto".toList
          totpSecret := some "MZXW6YQ=".toList } }] }

/-- The call of a connection waits for its one-time password. -/
def signingView : View := (totpView.step runtime (.connect 0 none none)).getD totpView

end Sample

end VpnHub.App
