import VpnHub.Program.Errors

/-! The daemon's requests, session states and the transitions between them:
`ipc/protocol.rs`, `core/state.rs` and the driver events of `engine/mod.rs`. -/

namespace VpnHub.Daemon

/-! ## Requests -/

inductive SessionState where
  | disconnected
  | connecting
  | connected
  | reconnecting
  | disconnecting
  | error
  deriving DecidableEq, Repr

inductive ProtocolType where
  | wireguard
  | openvpnUdp
  | openvpnTcp
  deriving DecidableEq, Repr

inductive AuthConfig where
  | wireguardKey (privateKey : Text) (presharedKey : Option Text)
  | userPassword (username password : Text) (caCert clientCert clientKey tlsAuthKey tlsCryptKey
      keyDirection ovpnConfig : Option Text)
  | rawOvpnConfig (configContent : Text) (username password : Option Text)
  deriving DecidableEq, Repr

inductive KillSwitchMode where
  | off
  | standard
  | strict
  deriving DecidableEq, Repr

structure SecurityPolicy where
  killSwitchMode : KillSwitchMode := .strict
  ipv6LeakProtection : Bool := true
  webrtcProtection : Bool := true
  lanBypass : Bool := true
  deriving DecidableEq, Repr

structure RoutingPolicy where
  intranetOnly : Bool := false
  customSubnets : List Text := []
  deriving DecidableEq, Repr

structure ConnectParams where
  profileId : Text
  protocol : ProtocolType
  serverEndpoint : Text
  serverPort : UInt16
  authConfig : AuthConfig
  enableKillSwitch : Bool := false
  securityPolicy : Option SecurityPolicy := none
  routingPolicy : Option RoutingPolicy := none
  deriving DecidableEq, Repr

/-- The requests that change something; the others only read. -/
inductive DaemonRequest where
  | connect (params : ConnectParams)
  | disconnect (force : Bool)
  | setKillSwitch (enabled : Bool) (mode : Option KillSwitchMode)
  deriving DecidableEq, Repr

/-! ## Errors and driver events -/

inductive DriverError where
  | initializationFailed (message : Text)
  | connectionTimeout (timeoutSecs : UInt64)
  | authenticationFailed (message : Text)
  | interfaceError (message : Text)
  | processTerminated (message : Text)
  | unsupported (message : Text)
  deriving DecidableEq, Repr

inductive DaemonError where
  | driver (error : DriverError)
  | invalidState (message : Text)
  deriving DecidableEq, Repr

structure BandwidthMetrics where
  rxBytes : UInt64 := 0
  txBytes : UInt64 := 0
  uptimeSeconds : UInt64 := 0
  deriving DecidableEq, Repr

inductive DriverEvent where
  | stateChanged (state : SessionState)
  | metrics (metrics : BandwidthMetrics)
  | log (level message : Text)
  | fatalError (error : DriverError)
  deriving DecidableEq, Repr

/-! ## The state machine -/

namespace SessionState

/-- The name that `{:?}` prints. -/
def debug : SessionState → Text
  | disconnected => "Disconnected".toList
  | connecting => "Connecting".toList
  | connected => "Connected".toList
  | reconnecting => "Reconnecting".toList
  | disconnecting => "Disconnecting".toList
  | error => "Error".toList

def isValidTransition : SessionState → SessionState → Bool
  | disconnected, connecting => true
  | connecting, connected => true
  | connecting, error => true
  | connecting, disconnecting => true
  | connecting, reconnecting => true
  | connected, reconnecting => true
  | connected, disconnecting => true
  | connected, error => true
  | reconnecting, connected => true
  | reconnecting, disconnecting => true
  | reconnecting, error => true
  | disconnecting, disconnected => true
  | disconnecting, error => true
  | error, disconnected => true
  | error, connecting => true
  | error, disconnecting => true
  | _, _ => false

/-- `StateManager::transition_to`: the state afterwards, or the error that leaves it as it
is. -/
def transitionTo (current next : SessionState) : Except DaemonError SessionState :=
  if current = next then .ok current
  else if !isValidTransition current next then
    .error (.invalidState ("Cannot transition from ".toList ++ current.debug ++ " to ".toList ++
      next.debug))
  else .ok next

/-- The state after `let _ = state_mgr.transition_to(next, _)`. -/
def attempt (current next : SessionState) : SessionState :=
  match current.transitionTo next with
  | .ok state => state
  | .error _ => current

theorem transitionTo_eq_ok {current next state : SessionState} :
    current.transitionTo next = .ok state ↔
      state = next ∧ (current = next ∨ current.isValidTransition next = true) := by
  simp only [transitionTo]
  split
  · rename_i h
    subst h
    constructor
    · rintro ⟨⟩
      exact ⟨rfl, .inl rfl⟩
    · rintro ⟨rfl, -⟩
      rfl
  · rename_i h
    cases hv : current.isValidTransition next with
    | false => simp [h]
    | true =>
        constructor
        · rintro ⟨⟩
          exact ⟨rfl, .inr rfl⟩
        · rintro ⟨rfl, -⟩
          rfl

theorem attempt_eq (current next : SessionState) : current.attempt next =
    if current = next ∨ current.isValidTransition next = true then next else current := by
  simp only [attempt]
  cases h : current.transitionTo next with
  | ok state =>
      rw [transitionTo_eq_ok] at h
      rw [if_pos h.2, h.1]
  | error e =>
      rw [if_neg]
      intro hv
      rw [transitionTo_eq_ok.mpr ⟨rfl, hv⟩] at h
      cases h

end SessionState

end VpnHub.Daemon
