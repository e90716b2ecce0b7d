import VpnHub.Model.Loopback
import VpnHub.Verification.AntiReplay.Refinement
import VpnHub.Verification.Engine.DataChannel

/-! What a rejected datagram does to the session that receives it. -/

namespace VpnHub

open Config Crypto Protocol ProtocolEngine

/-! ## Reasons to reject a datagram -/

namespace Protocol.ProtocolEngine

variable {Conn : Type} {env : Env Conn} {e : ProtocolEngine Conn} {packet : Bytes}

/-- The content of a datagram that makes the engine reject it: an unknown opcode, a truncated
data header, a control packet that is truncated or fails the `tls-auth` check, a key id no
slot has, a packet id the window refuses, or a payload that is too short or not authentic. -/
inductive BadContent (env : Env Conn) (e : ProtocolEngine Conn) (packet : Bytes) : Prop where
  | unknownOpcode {headerByte : UInt8} {rest : Bytes} {err : ProtocolError}
      (hp : packet = headerByte :: rest) (h : parseHeaderByte headerByte = .error err)
  | truncated {keyId : UInt8} {err : ProtocolError} (hk : dataKeyId packet = some keyId)
      (h : DataPacket.decode packet = .error err)
  | control {err : ProtocolError} (hc : startsControl packet = true)
      (h : decodeControl env e.tlsAuth packet = .error err)
  | noKeySlot {keyId : UInt8} (hk : dataKeyId packet = some keyId)
      (h : e.keyManager.getRxSlot keyId = none)
  | replayed {keyId : UInt8} {op kid peerId packetId payload ref slot} {err : CryptoError}
      (hk : dataKeyId packet = some keyId)
      (hd : DataPacket.decode packet = .ok (op, kid, peerId, packetId, payload))
      (hs : e.keyManager.getRxSlot keyId = some (ref, slot))
      (h : slot.antiReplay.checkOnly packetId.toUInt64 = .error err)
  | short {keyId : UInt8} {op kid peerId packetId payload}
      (hk : dataKeyId packet = some keyId)
      (hd : DataPacket.decode packet = .ok (op, kid, peerId, packetId, payload))
      (h : payload.length < 16)
  | forged {keyId : UInt8} {op kid peerId packetId payload ref slot} {err : CryptoError}
      (hk : dataKeyId packet = some keyId)
      (hd : DataPacket.decode packet = .ok (op, kid, peerId, packetId, payload))
      (hs : e.keyManager.getRxSlot keyId = some (ref, slot))
      (h : openPayload env slot packetId packet payload = .error err)

/-- A data packet that does not end as an authentic one is rejected. -/
theorem exists_rejected_of_data {keyId : UInt8} (hk : dataKeyId packet = some keyId)
    (now : Instant)
    (h : ∀ op kid peerId packetId payload ref slot plaintext,
      DataPacket.decode packet = .ok (op, kid, peerId, packetId, payload) →
      e.keyManager.getRxSlot keyId = some (ref, slot) →
      (slot.antiReplay.checkAndUpdate packetId.toUInt64).1 = .ok () → 16 ≤ payload.length →
      openPayload env slot packetId packet payload ≠ .ok plaintext) :
    ∃ err e', (processNetworkPacket env now packet).run e = some (.error err, e') := by
  rw [run_processNetworkPacket_data hk]
  obtain ⟨r, e', hrun, hout⟩ :=
    exists_dataOutcome env { e with lastPacketRecv := now } keyId packet
  cases hout with
  | badHeader hd => exact ⟨_, _, hrun⟩
  | noSlot hd hs => exact ⟨_, _, hrun⟩
  | replayed hd hs hw => exact ⟨_, _, hrun⟩
  | short hd hs hw hlen => exact ⟨_, _, hrun⟩
  | forged hd hs hw hlen hopen => exact ⟨_, _, hrun⟩
  | authentic hd hs hw hlen hopen => exact absurd hopen (h _ _ _ _ _ _ _ _ hd hs hw hlen)

theorem BadContent.exists_rejected (h : BadContent env e packet) (now : Instant) :
    ∃ err e', (processNetworkPacket env now packet).run e = some (.error err, e') := by
  cases h with
  | @unknownOpcode headerByte rest err hp h =>
      subst hp
      refine ⟨err, { e with lastPacketRecv := now }, ?_⟩
      simp only [processNetworkPacket, Prog.run_modify_bind, h, Prog.run_ofExcept_error_bind]
  | truncated hk hd =>
      refine exists_rejected_of_data hk now ?_
      intro op kid peerId packetId payload ref slot plaintext hd'
      rw [hd] at hd'
      cases hd'
  | @control err hc h =>
      refine ⟨err, { e with lastPacketRecv := now }, ?_⟩
      rw [run_processNetworkPacket_control hc]
      simp only [processIncomingControlPacket, Prog.run_get_bind, h, Prog.run_ofExcept_error_bind]
  | noKeySlot hk hs =>
      refine exists_rejected_of_data hk now ?_
      intro op kid peerId packetId payload ref slot plaintext _ hs'
      rw [hs] at hs'
      cases hs'
  | replayed hk hd hs h =>
      refine exists_rejected_of_data hk now ?_
      intro op kid peerId packetId payload ref slot plaintext hd' hs' hw'
      rw [hd] at hd'
      rw [hs] at hs'
      obtain ⟨-, -, -, rfl, -⟩ : _ ∧ _ ∧ _ ∧ _ = packetId ∧ _ := by simpa using hd'
      obtain ⟨-, rfl⟩ : _ ∧ _ = slot := by simpa using hs'
      rw [AntiReplayWindow.checkOnly_eq, hw'] at h
      cases h
  | short hk hd h =>
      refine exists_rejected_of_data hk now ?_
      intro op kid peerId packetId payload ref slot plaintext hd' hs' hw' hlen
      rw [hd] at hd'
      obtain ⟨-, -, -, -, rfl⟩ : _ ∧ _ ∧ _ ∧ _ ∧ _ = payload := by simpa using hd'
      omega
  | forged hk hd hs h =>
      refine exists_rejected_of_data hk now ?_
      intro op kid peerId packetId payload ref slot plaintext hd' hs' hw' hlen hopen
      rw [hd] at hd'
      rw [hs] at hs'
      obtain ⟨-, -, -, rfl, rfl⟩ : _ ∧ _ ∧ _ ∧ _ = packetId ∧ _ = payload := by simpa using hd'
      obtain ⟨-, rfl⟩ : _ ∧ _ = slot := by simpa using hs'
      rw [h] at hopen
      cases hopen

end Protocol.ProtocolEngine

/-! ## The pipeline -/

namespace Core.Pipeline

variable {Conn : Type} {env : SessionEnv Conn} {p : Pipeline Conn}

/-- The states of the loop: whatever the turns of it deliver, as long as it goes on. -/
def Reachable (env : SessionEnv Conn) (config : OpenVpnConfig) (p : Pipeline Conn) : Prop :=
  ∃ now sessionId stats startTime p₀ inputs,
    start env config now sessionId stats startTime = some (.ok p₀) ∧
    Transition.Run (next env) (fun _ _ => True) p₀ inputs p

/-- Statistics are no actions of the engine. -/
def isAction : Effect → Bool
  | .event (.statsUpdated _) => false
  | _ => true

/-- The actions carried out while the loop takes the given inputs, until it ends. -/
def actions (env : SessionEnv Conn) : Pipeline Conn → List Input → List Effect
  | _, [] => []
  | p, input :: rest =>
    match (turn env input).run p with
    | some (result, p') =>
      (p'.effects.drop p.effects.length).filter isAction ++
        (match result with
          | .ok true => actions env p' rest
          | _ => [])
    | none => []

/-- The loop goes on after the datagram, and whatever comes next, it does what it would have
done without it. -/
def Survives (env : SessionEnv Conn) (p : Pipeline Conn) (packet : Bytes) (now : Instant) : Prop :=
  ∃ p', next env p (.network (.ok packet) now) = some p' ∧
    ∀ inputs, actions env p' inputs = actions env p inputs

/-- The error of the engine leaves the loop through `?`. -/
theorem run_turn_of_rejected {packet : Bytes} {now : Instant} {err : ProtocolError}
    {engine : ProtocolEngine Conn}
    (h : (processNetworkPacket env.toEnv now packet).run p.engine = some (.error err, engine)) :
    (turn env (.network (.ok packet) now)).run p =
      some (.error (.protocol err), { p with engine }) := by
  have hengine : (onEngine (processNetworkPacket env.toEnv now packet)).run p =
      some (.error (.protocol err), { p with engine }) := by
    change ((processNetworkPacket env.toEnv now packet).run p.engine).map _ = _
    rw [h]
    rfl
  simp only [turn, Prog.run_ofExcept_ok_bind]
  exact Prog.run_bind_of_error hengine

theorem not_survives_of_rejected (env : SessionEnv Conn) {packet : Bytes} {now : Instant}
    {err : ProtocolError}
    {engine : ProtocolEngine Conn}
    (h : (processNetworkPacket env.toEnv now packet).run p.engine = some (.error err, engine)) :
    ¬ Survives env p packet now := by
  intro hsurvives
  obtain ⟨p', hnext, -⟩ := hsurvives
  simp [next, run_turn_of_rejected h] at hnext

/-- No session survives a datagram with bad content, or any other that the engine rejects:
the error of the engine ends the loop. -/
theorem rejected_datagram_ends_session (env : SessionEnv Conn) (p : Pipeline Conn)
    (packet : Bytes) (now : Instant) :
    (BadContent env.toEnv p.engine packet → ¬ Survives env p packet now) ∧
    ∀ err engine,
      (processNetworkPacket env.toEnv now packet).run p.engine = some (.error err, engine) →
        (turn env (.network (.ok packet) now)).run p =
          some (.error (.protocol err), { p with engine }) ∧
        ¬ Survives env p packet now := by
  constructor
  · intro hbad
    obtain ⟨err, engine, hrun⟩ := hbad.exists_rejected now
    exact not_survives_of_rejected env hrun
  · intro err engine hrun
    exact ⟨run_turn_of_rejected hrun, not_survives_of_rejected env hrun⟩

/-- The inputs that connect a session on the loopback and deliver one data frame. -/
def sampleInputs : List Input :=
  (Loopback.serverFlight ++ [Loopback.peerFrame 1 Loopback.ipPacket]).map
    fun packet => .network (.ok packet) 0

/-- A state of a session on the loopback, with a property that can be checked. -/
theorem exists_reachable_loopback (check : Pipeline Loopback.Conn → Bool)
    (h : ((start Loopback.sessionEnv {} 0 42 {} 0).any fun
      | .ok p₀ => (Transition.runList (next Loopback.sessionEnv) (fun _ _ => True) p₀
          sampleInputs).any check
      | .error _ => false) = true) :
    ∃ p, Reachable Loopback.sessionEnv {} p ∧ check p = true := by
  rw [Option.any_eq_true] at h
  obtain ⟨result, hstart, hcheck⟩ := h
  cases result with
  | error err => cases hcheck
  | ok p₀ =>
      obtain ⟨p, run, hp⟩ := Transition.exists_run_of_any hcheck
      exact ⟨p, ⟨0, 42, {}, 0, p₀, sampleInputs, hstart, run⟩, hp⟩

/-- A genuine frame that the network delivers twice ends the session. -/
theorem duplicate_ends_session :
    ∃ p, Reachable Loopback.sessionEnv {} p ∧
      (∃ err engine, (processNetworkPacket Loopback.env 0
        (Loopback.peerFrame 1 Loopback.ipPacket)).run p.engine = some (.error err, engine)) ∧
      ¬ Survives Loopback.sessionEnv p (Loopback.peerFrame 1 Loopback.ipPacket) 0 := by
  obtain ⟨p, hreach, hcheck⟩ := exists_reachable_loopback (fun p =>
    (processNetworkPacket Loopback.env 0 (Loopback.peerFrame 1 Loopback.ipPacket)).fails p.engine)
    (by decide +kernel)
  obtain ⟨err, engine, hrun⟩ := Prog.exists_of_fails hcheck
  exact ⟨p, hreach, ⟨err, engine, hrun⟩, not_survives_of_rejected _ hrun⟩

theorem rejected_datagram_ends_session_unknown_opcode :
    ∃ p, Reachable Loopback.sessionEnv {} p ∧ BadContent Loopback.env p.engine [0] ∧
      ¬ Survives Loopback.sessionEnv p [0] 0 := by
  obtain ⟨p, hreach, -⟩ := exists_reachable_loopback (fun _ => true) (by decide +kernel)
  have hheader : parseHeaderByte 0 = .error (.unknownOpcode 0) := by decide
  have hbad : BadContent Loopback.env p.engine [0] := .unknownOpcode rfl hheader
  exact ⟨p, hreach, hbad,
    (rejected_datagram_ends_session Loopback.sessionEnv p [0] 0).1 hbad⟩

end Core.Pipeline

end VpnHub
