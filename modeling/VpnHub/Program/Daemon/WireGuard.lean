import VpnHub.Library.Text
import VpnHub.Program.Daemon.State

/-! The WireGuard driver (`engine/wireguard/driver.rs`) on Linux: the configuration that it writes
for `wg-quick`. The results of `wg-quick` are only logged. -/

namespace VpnHub.Daemon

structure WireGuardDriver where
  params : ConnectParams
  interfaceName : Text := "wg0".toList
  assignedIp : Option Text := none
  isRunning : Bool := false
  deriving DecidableEq, Repr

/-- What the driver leaves on the host: the file at `WG_CONFIG_PATH`. -/
structure WireGuardHost where
  config : Option Text := none
  deriving DecidableEq, Repr

/-- What a write that fails leaves of the file, and its error. -/
structure ConfigFault where
  left : Option Text
  message : Text
  deriving DecidableEq, Repr

namespace WireGuardDriver

def new (params : ConnectParams) : WireGuardDriver := { params }

def validateCredentials (driver : WireGuardDriver) : Except DriverError Unit :=
  match driver.params.authConfig with
  | .wireguardKey privateKey _ =>
    if Text.trim privateKey = [] then
      .error (.authenticationFailed "WireGuard private key cannot be empty".toList)
    else .ok ()
  | _ => .error (.unsupported "Non-WireGuard credentials provided to WireGuard driver".toList)

def generateConfig (driver : WireGuardDriver) : Except DriverError Text :=
  match driver.params.authConfig with
  | .wireguardKey privateKey presharedKey =>
    let address := driver.assignedIp.getD "10.14.0.2/24".toList
    let conf := "[Interface]\nPrivateKey = ".toList ++ Text.trim privateKey ++
      "\nAddress = ".toList ++ address ++ "\n\n[Peer]\nEndpoint = ".toList ++
      driver.params.serverEndpoint ++ ":".toList ++
      Text.ofNat driver.params.serverPort.toNat ++ "\nAllowedIPs = 0.0.0.0/0, ::/0\n".toList
    match presharedKey with
    | some psk =>
      if Text.trim psk ≠ [] then
        .ok (conf ++ "PresharedKey = ".toList ++ Text.trim psk ++ "\n".toList)
      else .ok conf
    | none => .ok conf
  | _ => .error (.unsupported "Unsupported auth configuration for WireGuard".toList)

/-- The result, the driver, the host, and the events that are sent. -/
structure Started where
  result : Except DriverError Unit
  driver : WireGuardDriver
  host : WireGuardHost
  events : List DriverEvent

def start (driver : WireGuardDriver) (host : WireGuardHost) (fault : Option ConfigFault) :
    Started :=
  match driver.validateCredentials with
  | .error e => ⟨.error e, driver, host, []⟩
  | .ok _ =>
    let driver := { driver with assignedIp := some "10.14.0.2".toList }
    let connecting : DriverEvent := .stateChanged .connecting
    match driver.generateConfig with
    | .error e => ⟨.error e, driver, host, [connecting]⟩
    | .ok content =>
      match fault with
      | some fault =>
        ⟨.error (.initializationFailed
            ("Failed to write WireGuard config: ".toList ++ fault.message)),
          driver, ⟨fault.left⟩, [connecting]⟩
      | none =>
        ⟨.ok (), { driver with isRunning := true }, ⟨some content⟩,
          [connecting, .stateChanged .connected, .log "INFO".toList
            ("WireGuard tunnel established for peer ".toList ++ driver.params.serverEndpoint ++
              ":".toList ++ Text.ofNat driver.params.serverPort.toNat)]⟩

end WireGuardDriver

end VpnHub.Daemon
