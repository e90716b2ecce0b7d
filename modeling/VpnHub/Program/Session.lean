import VpnHub.Program.Engine

/-! The client session pipeline of `ovpn-core/src/session.rs`: `run_pipeline_loop` and
`drain_engine_actions`. -/

namespace VpnHub.Core

open Config Protocol

inductive CoreError where
  | config (error : ConfigError)
  | protocol (error : ProtocolError)
  | transport (message : Text)
  | tun (message : Text)
  | io (message : Text)
  | allRemotesFailed
  | sessionClosed (reason : Text)
  deriving DecidableEq, Repr

structure SessionStats where
  bytesIn : UInt64 := 0
  bytesOut : UInt64 := 0
  packetsIn : UInt64 := 0
  packetsOut : UInt64 := 0
  uptimeSecs : UInt64 := 0
  deriving DecidableEq, Repr

inductive SessionEvent where
  | stateChanged (state : EngineState)
  | networkConfigured (config : NetworkProvisioningConfig)
  | authChallenge (challenge : AuthChallenge)
  | statsUpdated (stats : SessionStats)
  | disconnected (reason : Text)
  | error (message : Text)
  deriving DecidableEq

inductive ClientCommand where
  | submitCredentials (username password : Text)
  | submitChallengeResponse (stateId response : Text)
  | disconnect (reason : Text)
  deriving DecidableEq, Repr

/-- What the loop does to the world: packets handed to the transport and the TUN device, and
events broadcast. -/
inductive Effect where
  | network (packet : Bytes)
  | tun (packet : Bytes)
  | event (event : SessionEvent)
  deriving DecidableEq

/-- The engine's environment, and the outcomes of the transport and TUN writes: write `n`
fails with the given error, if any. -/
structure SessionEnv (Conn : Type) extends Env Conn where
  writeError : ℕ → Option CoreError

structure Pipeline (Conn : Type) where
  engine : ProtocolEngine Conn
  stats : SessionStats
  startTime : Instant
  effects : List Effect
  writes : ℕ

abbrev PipelineM (Conn : Type) := Prog (Pipeline Conn) CoreError

namespace Pipeline

variable {Conn : Type}

def emit (effect : Effect) : PipelineM Conn Unit :=
  modify fun p => { p with effects := p.effects ++ [effect] }

/-- An asynchronous write that may fail. -/
def write (env : SessionEnv Conn) (effect : Effect) : PipelineM Conn Unit := do
  let p ← get
  set { p with writes := p.writes + 1 }
  match env.writeError p.writes with
  | some e => throw e
  | none => emit effect

def dispatch (env : SessionEnv Conn) : OutputAction → PipelineM Conn Unit
  | .sendToNetwork packet => write env (.network packet)
  | .sendToTun packet => write env (.tun packet)
  | .configureNetwork config => emit (.event (.networkConfigured config))
  | .requestAuthChallenge challenge => emit (.event (.authChallenge challenge))
  | .stateChange state => emit (.event (.stateChanged state))
  | .closeSession reason => do
    emit (.event (.disconnected reason))
    throw (.sessionClosed reason)

/-- `drain_engine_actions` over the actions queued when it is called: dispatching queues no
further ones. -/
def drainActions (env : SessionEnv Conn) : List OutputAction → PipelineM Conn Unit
  | [] => pure ()
  | action :: rest => do
    modify fun p => { p with engine := p.engine.pollOutputAction.2 }
    dispatch env action
    drainActions env rest

def drainEngineActions (env : SessionEnv Conn) : PipelineM Conn Unit := do
  let p ← get
  drainActions env p.engine.outbox

/-- A method of the engine; its error ends the pipeline through `?`. -/
def onEngine (method : EngineM Conn Unit) : PipelineM Conn Unit :=
  ExceptT.mk fun p =>
    (method.run p.engine).map fun (result, engine) =>
      (result.mapError CoreError.protocol, { p with engine })

def uptime (p : Pipeline Conn) (now : Instant) : UInt64 :=
  UInt64.ofNat ((now - p.startTime) / 1000000000)

def countIn (n : ℕ) (now : Instant) : PipelineM Conn Unit :=
  modify fun p => { p with stats := { p.stats with
    bytesIn := p.stats.bytesIn + UInt64.ofNat n
    packetsIn := p.stats.packetsIn + 1
    uptimeSecs := p.uptime now } }

def countOut (n : ℕ) (now : Instant) : PipelineM Conn Unit :=
  modify fun p => { p with stats := { p.stats with
    bytesOut := p.stats.bytesOut + UInt64.ofNat n
    packetsOut := p.stats.packetsOut + 1
    uptimeSecs := p.uptime now } }

/-- The branch of the `select!` that a turn of the loop takes, with what it delivers. -/
inductive Input where
  | network (result : Except CoreError Bytes) (now : Instant)
  | tun (result : Except CoreError Bytes) (now : Instant)
  | command (command : Option ClientCommand) (now : Instant)
  | tick (now : Instant)

/-- One turn of the loop. The value says whether the loop goes on; `false` is a return with
`Ok`, and an error leaves the loop. -/
def turn (env : SessionEnv Conn) : Input → PipelineM Conn Bool
  | .network result now => do
    let packet ← Prog.ofExcept result
    onEngine (ProtocolEngine.processNetworkPacket env.toEnv now packet)
    countIn packet.length now
    drainEngineActions env
    return true
  | .tun result now => do
    let packet ← Prog.ofExcept result
    if packet ≠ [] then
      onEngine (ProtocolEngine.processTunPacket env.toEnv now packet)
      countOut packet.length now
      drainEngineActions env
    return true
  | .command (some (.submitCredentials _ _)) _ => do
    drainEngineActions env
    return true
  | .command (some (.submitChallengeResponse stateId response)) now => do
    onEngine (ProtocolEngine.submitChallengeResponse env.toEnv now stateId response)
    drainEngineActions env
    return true
  | .command (some (.disconnect reason)) _ => do
    emit (.event (.disconnected reason))
    return false
  | .command none _ => pure false
  | .tick now => do
    onEngine (ProtocolEngine.handleTimeout env.toEnv now)
    drainEngineActions env
    let p ← get
    emit (.event (.statsUpdated p.stats))
    if p.engine.state = .error then
      throw (.sessionClosed "Protocol engine entered Error state".toList)
    return true

/-- The part of `run_pipeline_loop` before the loop; `startTime` is when the loop begins. -/
def start (env : SessionEnv Conn) (config : OpenVpnConfig) (now : Instant) (sessionId : UInt64)
    (stats : SessionStats) (startTime : Instant) : Option (Except CoreError (Pipeline Conn)) :=
  match ProtocolEngine.new env.toEnv config now sessionId with
  | .error e => some (.error (.protocol e))
  | .ok engine =>
    let opening : PipelineM Conn Unit := do
      onEngine (ProtocolEngine.startConnect env.toEnv now)
      drainEngineActions env
    (opening.run { engine, stats, startTime, effects := [], writes := 0 }).map fun
      | (.ok (), p) => .ok p
      | (.error e, _) => .error e

/-- The pipeline after a turn after which the loop goes on. -/
def next (env : SessionEnv Conn) (p : Pipeline Conn) (input : Input) : Option (Pipeline Conn) :=
  match (turn env input).run p with
  | some (.ok true, p) => some p
  | _ => none

end Pipeline

end VpnHub.Core
