import VpnHub.Program.Daemon.State

/-! What the daemon answers to the requests of a client: the requests and responses of
`ipc/protocol.rs` and `DaemonOrchestrator::handle_request`. -/

namespace VpnHub.Ipc

open Daemon

/-- All requests: those that change something, and those that only read. -/
inductive DaemonRequest where
  | change (request : Daemon.DaemonRequest)
  | getStatus
  | getMetrics
  | ping
  deriving DecidableEq, Repr

structure DaemonStatusSnapshot where
  state : SessionState := .disconnected
  activeProfile : Option Text := none
  assignedIp : Option Text := none
  virtualInterface : Option Text := none
  killSwitchActive : Bool := false
  dnsServers : List Text := []
  sessionDurationSecs : UInt64 := 0
  ipv6Protected : Bool := false
  intranetOnly : Bool := false
  deriving DecidableEq, Repr

inductive DaemonResponse where
  | success
  | pong
  | status (snapshot : DaemonStatusSnapshot)
  | metrics (metrics : BandwidthMetrics)
  | error (code : UInt32) (message : Text)
  deriving DecidableEq, Repr

/-- What the operations of the orchestrator return to `handle_request`, errors as they
print. -/
structure Operations where
  connect : Except Text Unit := .ok ()
  disconnect : Except Text Unit := .ok ()
  setKillSwitch : Except Text Unit := .ok ()
  getStatus : DaemonStatusSnapshot := {}
  queryMetrics : BandwidthMetrics := {}

/-- The response to an operation with nothing to report but its failure. -/
def DaemonResponse.ofResult (code : UInt32) : Except Text Unit → DaemonResponse
  | .ok _ => .success
  | .error message => .error code message

def handleRequest (operations : Operations) : DaemonRequest → DaemonResponse
  | .ping => .pong
  | .getStatus => .status operations.getStatus
  | .getMetrics => .metrics operations.queryMetrics
  | .change (.connect _) => .ofResult 100 operations.connect
  | .change (.disconnect _) => .ofResult 101 operations.disconnect
  | .change (.setKillSwitch _ _) => .ofResult 102 operations.setKillSwitch

end VpnHub.Ipc
