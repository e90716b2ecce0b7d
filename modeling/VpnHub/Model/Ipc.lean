import VpnHub.Library.Exchange
import VpnHub.Library.Transition
import VpnHub.Program.App.Client

/-! The application and the daemon as a transition system: any number of calls of
`send_request`, the worker's among them, interleaved at their await points, and one handler in
the daemon for every stream, each as slow as it likes. -/

namespace VpnHub.Ipc

/-- Calls of `send_request` are told apart by the order in which they were made. -/
abbrev CallId := ℕ

/-- Where a call stands. -/
inductive Phase where
  /-- In `ensure_connected`, at `self.stream.lock().await`. -/
  | ensuring
  /-- In `ensure_connected`, at `UnixStream::connect(..).await`, holding the lock. -/
  | connecting
  /-- At `self.stream.lock().await`. -/
  | locking
  /-- At `framed.send(request).await`, holding the lock. -/
  | sending
  /-- At `timeout(.., framed.next()).await`, holding the lock. -/
  | awaiting (deadline : Instant)
  | returned (result : RequestResult)

structure Call where
  request : DaemonRequest
  phase : Phase := .ensuring

/-- Where the worker stands: at its interval, or at one of its calls. -/
inductive WorkerPc where
  | tick
  | pinging (call : CallId)
  | status (call : CallId)
  | metrics (call : CallId)
  deriving DecidableEq, Repr

/-- The stream between the client and a handler. -/
abbrev Stream := Exchange CallId DaemonRequest DaemonResponse

structure System where
  client : DaemonClient
  /-- The call that holds the lock of the stream. -/
  holder : Option CallId := none
  calls : List Call := []
  streams : List Stream := []
  now : Instant := 0
  worker : Worker := {}
  workerPc : WorkerPc := .tick
  emitted : List Emission := []

inductive Event where
  /-- A task calls `send_request`. -/
  | call (request : DaemonRequest)
  /-- A call gets the lock in `ensure_connected`. -/
  | ensure (call : CallId)
  /-- The connection of a call is made or fails. -/
  | connected (call : CallId) (result : Except Text Unit)
  /-- A call gets the lock for its request. -/
  | lock (call : CallId)
  /-- The request is written. -/
  | sent (call : CallId)
  /-- Writing the request fails; the daemon may have got it all the same. -/
  | sendFailed (call : CallId) (message : Text) (arrived : Bool)
  /-- The wait for a response ends with a frame, -/
  | received (call : CallId)
  /-- with an error of the socket or of the codec, -/
  | malformed (call : CallId) (message : Text)
  /-- with the end of the stream, -/
  | closed (call : CallId)
  /-- or with the timeout. -/
  | timedOut (call : CallId)
  /-- Time passes. -/
  | elapse (duration : Duration)
  /-- A handler takes the next request. -/
  | take (stream : StreamId)
  /-- A handler has its response and sends it. -/
  | respond (stream : StreamId) (operations : Operations)
  /-- A handler returns. -/
  | hangUp (stream : StreamId)
  /-- The worker runs to its next await point. -/
  | worker

namespace System

/-- The phase of a call. -/
def phase (s : System) (c : CallId) : Option Phase := (s.calls[c]?).map (·.phase)

def goto (s : System) (c : CallId) (phase : Phase) : System :=
  { s with calls := s.calls.modify c fun call => { call with phase } }

def begin (s : System) (request : DaemonRequest) : System :=
  { s with calls := s.calls ++ [{ request }] }

/-- A call returns and releases the lock. -/
def finish (s : System) (c : CallId) (outcome : RequestResult × DaemonClient) : System :=
  { s.goto c (.returned outcome.1) with client := outcome.2, holder := none }

/-- An operation on a stream. -/
def onStream (s : System) (k : StreamId) (f : Stream → Option Stream) : Option System := do
  let stream ← s.streams[k]?
  let stream' ← f stream
  some { s with streams := s.streams.set k stream' }

/-- The stream that the client has. -/
def current (s : System) : Option Stream := s.client.stream.bind (s.streams[·]?)

def ensure (s : System) (c : CallId) : Option System :=
  match s.phase c, s.holder with
  | some .ensuring, none =>
    if s.client.isLive then some (s.goto c .locking)
    else some { s.goto c .connecting with holder := some c }
  | _, _ => none

def connected (s : System) (c : CallId) (result : Except Text Unit) : Option System :=
  match s.phase c with
  | some .connecting =>
    match s.client.connected (result.map fun _ => s.streams.length) with
    | (.ok _, client) =>
      some { s.goto c .locking with client, holder := none, streams := s.streams ++ [{}] }
    | (.error e, client) => some (s.finish c (.error e, client))
  | _ => none

def lock (s : System) (c : CallId) : Option System :=
  match s.phase c, s.holder with
  | some .locking, none =>
    if s.client.stream.isSome then some { s.goto c .sending with holder := some c }
    else some (s.finish c (.error (.daemonOffline s.client.socketPath.display), s.client))
  | _, _ => none

/-- The request of a call gets on the stream that the client has. -/
def write (s : System) (c : CallId) : Option System := do
  let call ← s.calls[c]?
  let k ← s.client.stream
  s.onStream k fun stream => some (stream.write c call.request)

def sent (s : System) (c : CallId) : Option System :=
  match s.phase c with
  | some .sending => (s.write c).map fun s => s.goto c (.awaiting (s.now + requestTimeout))
  | _ => none

def sendFailed (s : System) (c : CallId) (message : Text) (arrived : Bool) : Option System :=
  match s.phase c with
  | some .sending =>
    (if arrived then s.write c else some s).map fun s =>
      s.finish c (s.client.sendFailed message)
  | _ => none

/-- A frame is there. -/
def received (s : System) (c : CallId) : Option System :=
  match s.phase c with
  | some (.awaiting _) => do
    let k ← s.client.stream
    let stream ← s.streams[k]?
    let (response, stream') ← stream.read
    some ({ s with streams := s.streams.set k stream' }.finish c
      (s.client.conclude (.response response)))
  | _ => none

def malformed (s : System) (c : CallId) (message : Text) : Option System :=
  match s.phase c with
  | some (.awaiting _) => some (s.finish c (s.client.conclude (.malformed message)))
  | _ => none

/-- No frame is there, and none will be. -/
def closed (s : System) (c : CallId) : Option System :=
  match s.phase c, s.current with
  | some (.awaiting _), some stream =>
    if stream.responses = [] ∧ stream.closed = true then
      some (s.finish c (s.client.conclude .closed))
    else none
  | _, _ => none

/-- No frame is there, the stream is open, and the deadline has passed. -/
def timedOut (s : System) (c : CallId) : Option System :=
  match s.phase c with
  | some (.awaiting deadline) => do
    let k ← s.client.stream
    let stream ← s.streams[k]?
    if stream.responses = [] ∧ stream.closed = false ∧ deadline ≤ s.now then
      some ({ s with streams := s.streams.set k stream.giveUp }.finish c
        (s.client.conclude .timedOut))
    else none
  | _ => none

/-- The result of a call that has returned. -/
def result (s : System) (c : CallId) : Option RequestResult :=
  match s.phase c with
  | some (.returned result) => some result
  | _ => none

def present (s : System) (shown : Worker × List Emission) (pc : WorkerPc) : System :=
  { s with worker := shown.1, workerPc := pc, emitted := s.emitted ++ shown.2 }

def runWorker (s : System) : Option System :=
  match s.workerPc with
  | .tick => some { s.begin .ping with workerPc := .pinging s.calls.length }
  | .pinging c =>
    (s.result c).map fun result =>
      if isPong result then
        (s.begin .getStatus).present (s.worker.pinged true) (.status s.calls.length)
      else s.present (s.worker.pinged false) .tick
  | .status c =>
    (s.result c).map fun result =>
      (s.begin .getMetrics).present (s.worker.gotStatus result) (.metrics s.calls.length)
  | .metrics c =>
    (s.result c).map fun result => s.present (s.worker, Worker.gotMetrics result) .tick

def step (s : System) : Event → Option System
  | .call request => some (s.begin request)
  | .ensure c => s.ensure c
  | .connected c result => s.connected c result
  | .lock c => s.lock c
  | .sent c => s.sent c
  | .sendFailed c message arrived => s.sendFailed c message arrived
  | .received c => s.received c
  | .malformed c message => s.malformed c message
  | .closed c => s.closed c
  | .timedOut c => s.timedOut c
  | .elapse duration => some { s with now := s.now + duration }
  | .take k => s.onStream k Exchange.take
  | .respond k operations => s.onStream k (·.respond (handleRequest operations))
  | .hangUp k => s.onStream k fun stream => some stream.hangUp
  | .worker => s.runWorker

end System

/-- A state of the application and the daemon, from the start of the application on. -/
def Reachable (path : SocketPath) (s : System) : Prop :=
  ∃ events, Transition.Run System.step (fun _ _ => True) { client := { socketPath := path } } events s

/-! ## Pairing -/

/-- A response as `send_request` returns it. -/
def reply : DaemonResponse → RequestResult
  | .error code message => .error (.daemonError code message)
  | other => .ok other

/-- The call returned a response of the daemon, and not a failure of its own. -/
def isReply : RequestResult → Bool
  | .ok _ => true
  | .error (.daemonError _ _) => true
  | .error _ => false

namespace System

/-- Every call that returned a response was given the one that a handler produced for its own
request. -/
def Paired (s : System) : Prop :=
  ∀ c call result, s.calls[c]? = some call → call.phase = .returned result →
    isReply result = true →
    ∃ stream ∈ s.streams, (c, some c) ∈ stream.log ∧
      ∃ response, (c, call.request, response) ∈ stream.produced ∧ result = reply response

/-- A request is written only if none on the stream has timed out before. -/
def Untroubled (s : System) : Event → Prop
  | .sent _ => ∀ stream ∈ s.current, ∀ entry ∈ stream.log, entry.2 ≠ none
  | _ => True

instance (s : System) (event : Event) : Decidable (s.Untroubled event) :=
  match event with
  | .sent _ => inferInstanceAs (Decidable (∀ stream ∈ s.current, ∀ entry ∈ stream.log, entry.2 ≠ none))
  | .call _ | .ensure _ | .connected _ _ | .lock _ | .sendFailed _ _ _ | .received _
  | .malformed _ _ | .closed _ | .timedOut _ | .elapse _ | .take _ | .respond _ _ | .hangUp _
  | .worker => .isTrue trivial

end System

end VpnHub.Ipc
