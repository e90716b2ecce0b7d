import VpnHub.Program.Daemon.Server

/-! The application's client of the daemon (`ipc/client.rs`) and the worker that polls it
(`ipc/worker.rs`): what each does between two of its await points. -/

namespace VpnHub.Ipc

inductive AppError where
  | daemonOffline (message : Text)
  | ipc (message : Text)
  | daemonError (code : UInt32) (message : Text)
  deriving DecidableEq, Repr

/-- The path of the socket, as `display()` and `{:?}` print it. -/
structure SocketPath where
  display : Text
  debug : Text
  deriving DecidableEq, Repr

/-- Streams are told apart by the order in which they were connected. -/
abbrev StreamId := ℕ

structure DaemonClient where
  socketPath : SocketPath
  stream : Option StreamId := none
  isConnected : Bool := false
  deriving DecidableEq, Repr

/-- What waiting for a response ends with: what `framed.next()` gives, or the timeout. -/
inductive Received where
  | response (response : DaemonResponse)
  | malformed (message : Text)
  | closed
  | timedOut
  deriving DecidableEq, Repr

/-- The result of `send_request`. -/
abbrev RequestResult := Except AppError DaemonResponse

/-- 10 seconds. -/
def requestTimeout : Duration := 10000000000

namespace DaemonClient

/-- `ensure_connected` returns at once. -/
def isLive (client : DaemonClient) : Bool := client.stream.isSome && client.isConnected

/-- The end of `ensure_connected`, once `connect` has returned. -/
def connected (client : DaemonClient) : Except Text StreamId → Except AppError Unit × DaemonClient
  | .ok stream => (.ok (), { client with stream := some stream, isConnected := true })
  | .error e =>
    (.error (.daemonOffline ("Failed to connect to ".toList ++ client.socketPath.debug ++
      ": ".toList ++ e)), { client with stream := none, isConnected := false })

/-- The stream is dropped, and the next request connects anew. -/
def dropStream (client : DaemonClient) : DaemonClient :=
  { client with stream := none, isConnected := false }

def sendFailed (client : DaemonClient) (e : Text) : RequestResult × DaemonClient :=
  (.error (.ipc ("Socket write error: ".toList ++ e)), client.dropStream)

/-- The end of `send_request`. A timeout keeps the stream. -/
def conclude (client : DaemonClient) : Received → RequestResult × DaemonClient
  | .response (.error code message) => (.error (.daemonError code message), client)
  | .response other => (.ok other, client)
  | .malformed e => (.error (.ipc ("Codec decode failure: ".toList ++ e)), client.dropStream)
  | .closed => (.error (.daemonOffline "Daemon closed IPC stream".toList), client.dropStream)
  | .timedOut => (.error (.ipc "IPC Request timed out".toList), client)

end DaemonClient

/-- `ping`, given what `send_request` returns. -/
def isPong : RequestResult → Bool
  | .ok .pong => true
  | _ => false

/-! ## The worker -/

/-- What the worker shows: its events for the window, and the state in the tray. -/
inductive Emission where
  | daemonStatus (status : Text)
  | vpnStatusUpdate (response : DaemonResponse)
  | vpnMetricsUpdate (response : DaemonResponse)
  | trayStatus (state : Text)
  deriving DecidableEq, Repr

structure Worker where
  wasOnline : Bool := false
  firstTick : Bool := true
  lastVpnState : Option Text := none
  deriving DecidableEq, Repr

namespace Worker

/-- The ping of a tick has returned. -/
def pinged (worker : Worker) (isAlive : Bool) : Worker × List Emission :=
  let changed := isAlive != worker.wasOnline || worker.firstTick
  let shown : List Emission :=
    if changed then [.daemonStatus (if isAlive then "connected".toList else "offline".toList)]
    else []
  let worker : Worker :=
    if changed then { worker with firstTick := false, wasOnline := isAlive } else worker
  if isAlive then (worker, shown)
  else if worker.lastVpnState ≠ some "Disconnected".toList then
    ({ worker with lastVpnState := some "Disconnected".toList },
      shown ++ [.trayStatus "disconnected".toList])
  else (worker, shown)

/-- The status request has returned. -/
def gotStatus (worker : Worker) : RequestResult → Worker × List Emission
  | .ok (.status snapshot) =>
    let state := snapshot.state.debug
    if worker.lastVpnState ≠ some state then
      ({ worker with lastVpnState := some state },
        [.trayStatus state, .vpnStatusUpdate (.status snapshot)])
    else (worker, [.vpnStatusUpdate (.status snapshot)])
  | .ok response => (worker, [.vpnStatusUpdate response])
  | .error _ => (worker, [])

/-- The metrics request has returned. -/
def gotMetrics : RequestResult → List Emission
  | .ok response => [.vpnMetricsUpdate response]
  | .error _ => []

end Worker

end VpnHub.Ipc
