import VpnHub.Model.Loopback

/-! The byte stream that a TLS connection produces, what of it the connection still holds, and
what of it the engine has queued. -/

namespace VpnHub.Protocol

section Stream

variable {Conn : Type}

/-- A call that may add to what a connection has produced; what it adds is held. -/
def Adds (produced held : Conn → Bytes) (conn conn' : Conn) : Prop :=
  ∃ new, produced conn' = produced conn ++ new ∧ held conn' = held conn ++ new

/-- What a connection has produced and what of it it still holds. A write takes bytes from the
front of what is held, and does not fail into a buffer in memory; every other call can only add.
A read fails with `WouldBlock` only, as the end of the input is never reported to it. -/
structure Rustls.Output (tls : Rustls Conn) where
  produced : Conn → Bytes
  held : Conn → Bytes
  connect : ∀ config name draw conn, tls.connect config name draw = .ok conn →
    held conn = produced conn
  readTls : ∀ conn data, Adds produced held conn (tls.readTls conn data).2
  processNewPackets : ∀ conn, Adds produced held conn (tls.processNewPackets conn).2
  read : ∀ conn, Adds produced held conn (tls.read conn).2
  writeAll : ∀ conn data, Adds produced held conn (tls.writeAll conn data).2
  writeTls : ∀ conn, ∃ written conn', tls.writeTls conn = (.ok written, conn') ∧
    produced conn' = produced conn ∧ held conn = written ++ held conn'
  readError : ∀ conn err, (tls.read conn).1 = .error err → err = .wouldBlock

/-- The payload of a `ControlV1` packet that was queued. -/
def TraceEvent.controlPayload : TraceEvent → Option Bytes
  | .enqueued _ .controlV1 payload => some payload
  | _ => none

def TraceEvent.queuedId : TraceEvent → Option UInt32
  | .enqueued packetId _ _ => some packetId
  | _ => none

/-- The payloads of all `ControlV1` packets that were ever queued. -/
def streamed (trace : List TraceEvent) : Bytes := (trace.filterMap TraceEvent.controlPayload).flatten

/-- The ids of all packets that were ever queued. -/
def queuedIds (trace : List TraceEvent) : List UInt32 := trace.filterMap TraceEvent.queuedId

namespace ProtocolEngine

/-- What the TLS adapter has produced, and what of it it still holds. -/
def produced {tls : Rustls Conn} (out : tls.Output) (e : ProtocolEngine Conn) : Bytes :=
  (e.tlsAdapter.map fun adapter => out.produced adapter.conn).getD []

def held {tls : Rustls Conn} (out : tls.Output) (e : ProtocolEngine Conn) : Bytes :=
  (e.tlsAdapter.map fun adapter => out.held adapter.conn).getD []

/-- No byte that the TLS adapter has produced is lost: it is in a packet, or still held. The
packets on record are in the order of their ids, which count up and wrap around. -/
structure Retains {tls : Rustls Conn} (out : tls.Output) (e : ProtocolEngine Conn) : Prop where
  order : queuedIds e.trace = (List.range (queuedIds e.trace).length).map UInt32.ofNat
  bytes : streamed e.trace ++ e.held out = e.produced out

end ProtocolEngine

end Stream

/-! ## A connection that keeps record -/

namespace Loopback

/-- A connection with all that it has written. -/
structure Recorded where
  conn : Conn
  written : Bytes

/-- The connection after a call that does not write. -/
def Recorded.on {α : Type} (c : Recorded) (result : α × Conn) : α × Recorded :=
  (result.1, { c with conn := result.2 })

def recordedTls : Rustls Recorded where
  pemCerts := tls.pemCerts
  pemPrivateKey := tls.pemPrivateKey
  webpkiRoots := tls.webpkiRoots
  addRoot := tls.addRoot
  clientAuthCert := tls.clientAuthCert
  serverName := tls.serverName
  webpkiVerify := tls.webpkiVerify
  display := tls.display
  connect config name draw := (tls.connect config name draw).map fun conn => ⟨conn, []⟩
  readTls c data := c.on (tls.readTls c.conn data)
  processNewPackets c := c.on (tls.processNewPackets c.conn)
  wantsWrite c := tls.wantsWrite c.conn
  writeTls c := (.ok c.conn.outgoing, ⟨{ c.conn with outgoing := [] }, c.written ++ c.conn.outgoing⟩)
  read c := c.on (tls.read c.conn)
  writeAll c data := c.on (tls.writeAll c.conn data)
  isHandshaking c := tls.isHandshaking c.conn
  exportKeyingMaterial c := tls.exportKeyingMaterial c.conn

def recordedEnv : Env Recorded := { env with tls := recordedTls }

theorem adds_process (c : Recorded) :
    Adds (fun c : Recorded => c.written ++ c.conn.outgoing) (·.conn.outgoing) c
      { c with conn := c.conn.process } := by
  unfold Conn.process
  split
  · exact ⟨[], by simp, by simp⟩
  · split
    · exact ⟨[], by simp, by simp⟩
    · exact ⟨[0x14], by simp, rfl⟩

/-- A recording connection has produced what it has written and what it holds. -/
def recordedOutput : recordedTls.Output where
  produced c := c.written ++ c.conn.outgoing
  held c := c.conn.outgoing
  connect := by
    intro config name draw conn h
    obtain rfl := Except.ok.inj h
    rfl
  readTls c data := ⟨[], by simp [recordedTls, Recorded.on, tls], by simp [recordedTls, Recorded.on, tls]⟩
  processNewPackets c := adds_process c
  read := by
    intro c
    refine ⟨[], ?_, ?_⟩
    · by_cases h : c.conn.appData = [] <;> simp [recordedTls, Recorded.on, tls, h]
    · by_cases h : c.conn.appData = [] <;> simp [recordedTls, Recorded.on, tls, h]
  writeAll c data := ⟨data, by simp [recordedTls, Recorded.on, tls], rfl⟩
  writeTls c := ⟨_, _, rfl, by simp, by simp⟩
  readError := by
    intro c err h
    by_cases happ : c.conn.appData = []
    · have hblocked : Except.error .wouldBlock = (.error err : Except IoError Bytes) := by
        simpa [recordedTls, Recorded.on, tls, happ] using h
      exact (Except.error.inj hblocked).symm
    · simp [recordedTls, Recorded.on, tls, happ] at h

end Loopback

end VpnHub.Protocol
