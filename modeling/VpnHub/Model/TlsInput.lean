import VpnHub.Library.Loop
import VpnHub.Model.Loopback
import VpnHub.Program.Tls

/-! Feeding a TLS connection: what `rustls` promises about reading, and the turns of the loop of
`feed_tls_bytes`. -/

namespace VpnHub.Protocol

section

variable {Conn : Type}

/-- `read_tls` of `rustls` takes some of the given bytes or fails. Once a `close_notify` has been
received it takes none, and without new bytes `process_new_packets` has nothing to do. -/
structure ReadContract (tls : Rustls Conn) (closed : Conn → Bool) : Prop where
  takes_some : ∀ conn data n conn', closed conn = false → data ≠ [] →
    tls.readTls conn data = (.ok n, conn') → 0 < n ∧ n ≤ data.length
  takes_none : ∀ conn data n conn', closed conn = true →
    tls.readTls conn data = (.ok n, conn') → n = 0 ∧ conn' = conn
  idle : ∀ conn conn', closed conn = true →
    tls.processNewPackets conn = (.ok (), conn') → conn' = conn

namespace TlsStreamAdapter

/-- The body of the loop: the adapter and the bytes left, or the error. -/
def feedOnce (tls : Rustls Conn) (a : TlsStreamAdapter Conn) (data : Bytes) :
    (TlsStreamAdapter Conn × Bytes) ⊕ (Except ProtocolError Unit × TlsStreamAdapter Conn) :=
  match tls.readTls a.conn data with
  | (.error e, conn) => .inr (.error (.io e), { a with conn })
  | (.ok n, conn) =>
    match tls.processNewPackets conn with
    | (.error e, conn) => .inr (.error (.tls e), { a with conn })
    | (.ok (), conn) => .inl ({ a with conn }, data.drop n)

/-- One turn of the loop. -/
def feedTurn (tls : Rustls Conn) : TlsStreamAdapter Conn × Bytes →
    (TlsStreamAdapter Conn × Bytes) ⊕ (Except ProtocolError Unit × TlsStreamAdapter Conn)
  | (a, data) => if data.isEmpty then .inr (.ok (), a) else feedOnce tls a data

/-- The loop comes to an end, whatever its outcome. -/
def FeedEnds (tls : Rustls Conn) (a : TlsStreamAdapter Conn) (data : Bytes) : Prop :=
  ∃ turns outcome, (feedLoop tls turns data).run a = some outcome

/-- While bytes are left, the connection is not closed, or reading or processing fails. -/
def OpenWhileFed (tls : Rustls Conn) (closed : Conn → Bool) (a : TlsStreamAdapter Conn)
    (data : Bytes) : Prop :=
  ∀ a' rest, Loop.Leads (feedTurn tls) (a, data) (a', rest) → rest ≠ [] →
    closed a'.conn = true →
      (∃ e conn, tls.readTls a'.conn rest = (.error e, conn)) ∨
        ∃ e conn, tls.processNewPackets a'.conn = (.error e, conn)

end TlsStreamAdapter

end

/-! ## A connection that can be closed -/

namespace Loopback

/-- An alert has been received. -/
def closed (conn : Conn) : Bool := conn.received.head? = some 0x15

def closingTls : Rustls Conn := { tls with
  readTls := fun conn data =>
    if closed conn then (.ok 0, conn)
    else (.ok data.length, { conn with received := conn.received ++ data })
  processNewPackets := fun conn => (.ok (), if closed conn then conn else conn.process) }

theorem closingTls_contract : ReadContract closingTls closed where
  takes_some conn data n conn' hopen hne h := by
    simp only [closingTls, hopen, Bool.false_eq_true, if_false] at h
    obtain ⟨hn, -⟩ := Prod.mk.inj h
    obtain rfl := Except.ok.inj hn
    exact ⟨List.length_pos_iff.mpr hne, le_rfl⟩
  takes_none conn data n conn' hclosed h := by
    simp only [closingTls, hclosed, if_true] at h
    obtain ⟨hn, rfl⟩ := Prod.mk.inj h
    exact ⟨(Except.ok.inj hn).symm, rfl⟩
  idle conn conn' hclosed h := by
    simp only [closingTls, hclosed, if_true] at h
    exact (Prod.mk.inj h).2.symm

/-- An adapter around a connection that is being set up. -/
def newAdapter : TlsStreamAdapter Conn where
  config := { verifier := { rootStore := [], verifyX509Name := none }, clientAuth := none }
  conn := { received := [], outgoing := [0x16], appData := [], complete := false }

/-- The adapter after it has been fed an alert. -/
def alertedAdapter : TlsStreamAdapter Conn :=
  { newAdapter with conn := { newAdapter.conn with received := [0x15] } }

end Loopback

end VpnHub.Protocol
