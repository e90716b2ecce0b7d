import VpnHub.Model.TlsInput
import VpnHub.Program.Engine

/-! # Feeding a TLS connection

The loop of `feed_tls_bytes` goes on while bytes are left. A connection that has received a
`close_notify` takes none of them any more. -/

namespace VpnHub.Protocol

variable {Conn : Type} {tls : Rustls Conn} {closed : Conn → Bool}
variable {a a' : TlsStreamAdapter Conn} {data rest : Bytes}

namespace TlsStreamAdapter

/-! ## Turns -/

theorem feedTurn_of_ne (a : TlsStreamAdapter Conn) (hne : data ≠ []) :
    feedTurn tls (a, data) = feedOnce tls a data :=
  if_neg (by simpa using hne)

/-- A turn that goes on has read and processed. -/
theorem feedTurn_eq_inl (h : feedTurn tls (a, data) = .inl (a', rest)) :
    data ≠ [] ∧ ∃ n conn conn', tls.readTls a.conn data = (.ok n, conn) ∧
      tls.processNewPackets conn = (.ok (), conn') ∧ a' = { a with conn := conn' } ∧
      rest = data.drop n := by
  have hne : data ≠ [] := by
    rintro rfl
    cases h
  rw [feedTurn_of_ne a hne, feedOnce] at h
  cases hread : tls.readTls a.conn data with
  | mk result conn =>
      cases result with
      | error e =>
          rw [hread] at h
          cases h
      | ok n =>
          cases hprocess : tls.processNewPackets conn with
          | mk result conn' =>
              cases result with
              | error e =>
                  simp only [hread, hprocess] at h
                  cases h
              | ok _ =>
                  simp only [hread, hprocess] at h
                  obtain ⟨rfl, rfl⟩ := Prod.mk.inj (Sum.inl.inj h)
                  exact ⟨hne, n, conn, conn', rfl, hprocess, rfl, rfl⟩

theorem feedTurn_of_ok {n : ℕ} {conn conn' : Conn} (hne : data ≠ [])
    (hread : tls.readTls a.conn data = (.ok n, conn))
    (hprocess : tls.processNewPackets conn = (.ok (), conn')) :
    feedTurn tls (a, data) = .inl ({ a with conn := conn' }, data.drop n) := by
  rw [feedTurn_of_ne a hne, feedOnce, hread]
  simp only [hprocess]

/-- A turn takes some bytes, unless the connection is closed and stays as it is. -/
theorem feedTurn_progress (contract : ReadContract tls closed)
    (h : feedTurn tls (a, data) = .inl (a', rest)) :
    (a', rest) = (a, data) ∨ rest.length < data.length := by
  obtain ⟨hne, n, conn, conn', hread, hprocess, rfl, rfl⟩ := feedTurn_eq_inl h
  cases hclosed : closed a.conn with
  | true =>
      obtain ⟨rfl, rfl⟩ := contract.takes_none _ _ _ _ hclosed hread
      obtain rfl := contract.idle _ _ hclosed hprocess
      exact .inl rfl
  | false =>
      obtain ⟨hpos, hle⟩ := contract.takes_some _ _ _ _ hclosed hne hread
      right
      rw [List.length_drop]
      omega

/-! ## The loop -/

/-- The loop of the adapter takes these turns. -/
theorem feedLoop_run (tls : Rustls Conn) (turns : ℕ) (a : TlsStreamAdapter Conn) (data : Bytes) :
    (feedLoop tls (turns + 1) data).run a =
      (feedTurn tls (a, data)).elim (fun next => (feedLoop tls turns next.2).run next.1) some := by
  by_cases hne : data = []
  · subst hne
    rfl
  have hempty : data.isEmpty = false := by simpa using hne
  rw [feedTurn_of_ne a hne, feedOnce, feedLoop, if_neg (by simp [hempty])]
  cases hread : tls.readTls a.conn data with
  | mk result conn =>
      cases result with
      | error e =>
          rw [Prog.run_bind_of_error (t := { a with conn }) (e := .io e)]
          · rfl
          · simp [call, hread, Except.mapError]
      | ok n =>
          rw [Prog.run_bind_of_ok (t := { a with conn }) (a := n)]
          · cases hprocess : tls.processNewPackets conn with
            | mk result conn' =>
                cases result with
                | error e =>
                    rw [Prog.run_bind_of_error (t := { a with conn := conn' }) (e := .tls e)]
                    · simp [hprocess]
                    · simp [call, hprocess, Except.mapError]
                | ok _ =>
                    rw [Prog.run_bind_of_ok (t := { a with conn := conn' }) (a := ())]
                    · simp [hprocess]
                    · simp [call, hprocess, Except.mapError]
          · simp [call, hread, Except.mapError]

theorem feedLoop_of_iterate {turns : ℕ} {outcome : Except ProtocolError Unit × TlsStreamAdapter Conn}
    (h : Loop.iterate (feedTurn tls) turns (a, data) = some outcome) :
    (feedLoop tls turns data).run a = some outcome := by
  induction turns generalizing a data with
  | zero => cases h
  | succ turns ih =>
      rw [feedLoop_run]
      cases hturn : feedTurn tls (a, data) with
      | inl next =>
          rw [Loop.iterate_of_inl hturn] at h
          exact ih h
      | inr outcome' =>
          rw [Loop.iterate_of_inr hturn] at h
          exact h

theorem iterate_of_feedLoop {turns : ℕ} {outcome : Except ProtocolError Unit × TlsStreamAdapter Conn}
    (h : (feedLoop tls turns data).run a = some outcome) :
    Loop.iterate (feedTurn tls) (turns + 1) (a, data) = some outcome := by
  induction turns generalizing a data with
  | zero =>
      rw [feedLoop, Prog.run_ite] at h
      split at h
      · rw [Loop.iterate_of_inr (r := outcome)]
        rw [feedTurn, if_pos ‹_›]
        exact congrArg Sum.inr (Option.some.inj h)
      · cases h
  | succ turns ih =>
      rw [feedLoop_run] at h
      cases hturn : feedTurn tls (a, data) with
      | inl next =>
          rw [hturn] at h
          rw [Loop.iterate_of_inl hturn]
          exact ih h
      | inr outcome' =>
          rw [hturn] at h
          rw [Loop.iterate_of_inr hturn]
          exact h

theorem feedEnds_iff_ends : FeedEnds tls a data ↔ Loop.Ends (feedTurn tls) (a, data) := by
  constructor
  · rintro ⟨turns, outcome, h⟩
    exact ⟨turns + 1, outcome, iterate_of_feedLoop h⟩
  · rintro ⟨turns, outcome, h⟩
    exact ⟨turns, outcome, feedLoop_of_iterate h⟩

/-- A turn that stays where it is has found the connection closed. -/
theorem feedTurn_spins_iff (contract : ReadContract tls closed) :
    feedTurn tls (a, data) = .inl (a, data) ↔ data ≠ [] ∧ closed a.conn = true ∧
      (∀ e conn, tls.readTls a.conn data ≠ (.error e, conn)) ∧
      ∀ e conn, tls.processNewPackets a.conn ≠ (.error e, conn) := by
  constructor
  · intro h
    obtain ⟨hne, n, conn, conn', hread, hprocess, -, hrest⟩ := feedTurn_eq_inl h
    have hclosed : closed a.conn = true := by
      by_contra hopen
      have hopen : closed a.conn = false := by simpa using hopen
      obtain ⟨hpos, hle⟩ := contract.takes_some _ _ _ _ hopen hne hread
      have hlen := congrArg List.length hrest
      rw [List.length_drop] at hlen
      omega
    obtain ⟨rfl, rfl⟩ := contract.takes_none _ _ _ _ hclosed hread
    refine ⟨hne, hclosed, fun e conn h => ?_, fun e conn h => ?_⟩
    · cases hread.symm.trans h
    · cases hprocess.symm.trans h
  · rintro ⟨hne, hclosed, hread, hprocess⟩
    cases hread' : tls.readTls a.conn data with
    | mk result conn =>
        cases result with
        | error e => exact absurd hread' (hread e conn)
        | ok n =>
            obtain ⟨rfl, rfl⟩ := contract.takes_none _ _ _ _ hclosed hread'
            cases hprocess' : tls.processNewPackets a.conn with
            | mk result conn' =>
                cases result with
                | error e => exact absurd hprocess' (hprocess e conn')
                | ok _ =>
                    obtain rfl := contract.idle _ _ hclosed hprocess'
                    exact feedTurn_of_ok hne hread' hprocess'

/-- Feeding ends exactly when no bytes are left over for a connection that has been closed, or
reading or processing fails there. -/
theorem feedEnds_iff (contract : ReadContract tls closed) (a : TlsStreamAdapter Conn)
    (data : Bytes) : FeedEnds tls a data ↔ OpenWhileFed tls closed a data := by
  rw [feedEnds_iff_ends, Loop.ends_iff (fun state => state.2.length)
    fun t u _ hturn => feedTurn_progress contract hturn]
  constructor
  · intro hnot a' rest leads hne hclosed
    by_contra hfails
    push Not at hfails
    exact hnot _ leads ((feedTurn_spins_iff contract).mpr ⟨hne, hclosed, hfails.1, hfails.2⟩)
  · rintro hopen ⟨a', rest⟩ leads hspins
    obtain ⟨hne, hclosed, hread, hprocess⟩ := (feedTurn_spins_iff contract).mp hspins
    obtain ⟨e, conn, h⟩ | ⟨e, conn, h⟩ := hopen a' rest leads hne hclosed
    · exact hread e conn h
    · exact hprocess e conn h

end TlsStreamAdapter

/-! ## The control channel -/

/-- A chunk that is fed for ever holds up the flush of the control channel. -/
theorem flushControlChannel_hangs {env : Env Conn} {e : ProtocolEngine Conn} {chunk : Bytes}
    {chunks : List Bytes} (hadapter : e.tlsAdapter = some a)
    (hready : e.recvQueue.drainReady.1 = chunk :: chunks)
    (hhangs : ¬ TlsStreamAdapter.FeedEnds env.tls a chunk) (now : Instant) :
    (ProtocolEngine.flushControlChannel env now).run e = none := by
  have hfeed : (TlsStreamAdapter.feedLoop env.tls env.loopTurns chunk).run a = none := by
    cases h : (TlsStreamAdapter.feedLoop env.tls env.loopTurns chunk).run a with
    | none => rfl
    | some outcome => exact absurd ⟨_, outcome, h⟩ hhangs
  have hpump (connecting : Bool) :
      (ProtocolEngine.pumpTls env (chunk :: chunks) connecting).run a = none := by
    simp [ProtocolEngine.pumpTls, Prog.run_bind, hfeed]
  simp [ProtocolEngine.flushControlChannel, ProtocolEngine.flushWith, ProtocolEngine.withTls,
    Prog.run_bind, hready, hadapter, hpump]

namespace Loopback

open TlsStreamAdapter

/-- The bytes of a handshake message. -/
theorem feedEnds_greeting : FeedEnds closingTls newAdapter [0x16] := by
  refine (feedEnds_iff closingTls_contract newAdapter [0x16]).mpr ?_
  intro a' rest leads hne hclosed
  obtain h | ⟨next, hturn, leads⟩ := leads.cases_head
  · obtain ⟨rfl, rfl⟩ := Prod.mk.inj h
    cases hclosed
  · have hfirst : feedTurn closingTls (newAdapter, [0x16]) =
        .inl ({ newAdapter with conn :=
          { newAdapter.conn with outgoing := [0x16, 0x14], complete := true } }, []) := rfl
    obtain rfl := Sum.inl.inj (hfirst.symm.trans hturn)
    obtain h | ⟨next, hturn, -⟩ := leads.cases_head
    · exact absurd (Prod.mk.inj h).2.symm hne
    · exact absurd rfl (feedTurn_eq_inl hturn).1

/-- A chunk that follows an alert. -/
theorem feed_after_close_hangs :
    ¬ ∀ (Conn : Type) (tls : Rustls Conn) (closed : Conn → Bool), ReadContract tls closed →
      ∀ a data, FeedEnds tls a data := by
  intro hclaim
  have hends := hclaim _ closingTls closed closingTls_contract alertedAdapter [0x17]
  have hspins : feedTurn closingTls (alertedAdapter, [0x17]) = .inl (alertedAdapter, [0x17]) := rfl
  exact Loop.not_ends_of_spins hspins (feedEnds_iff_ends.mp hends)

end Loopback

end VpnHub.Protocol
