import VpnHub.Model.Loopback
import VpnHub.Verification.AntiReplay.Position
import VpnHub.Verification.Engine.DataChannel

/-! Rejected data packets and the anti-replay windows of the key slots. -/

namespace VpnHub.Protocol

open Config Crypto

/-! ## Statistics of the windows -/

def KeySlot.position (slot : KeySlot) : KeySlot :=
  { slot with antiReplay := slot.antiReplay.position }

/-- The slots without the statistics of their windows. -/
def KeySlotManager.position (m : KeySlotManager) : KeySlotManager :=
  { m with primary := m.primary.map KeySlot.position, secondary := m.secondary.map KeySlot.position }

@[simp] theorem KeySlot.position_position (slot : KeySlot) :
    slot.position.position = slot.position := rfl

theorem KeySlotManager.position_setSlot (m : KeySlotManager) (ref : SlotRef) (slot : KeySlot) :
    (m.setSlot ref slot).position = m.position.setSlot ref slot.position := by
  cases ref <;> rfl

theorem KeySlotManager.getRxSlot_position (m : KeySlotManager) (keyId : UInt8) :
    m.position.getRxSlot keyId = (m.getRxSlot keyId).map fun (ref, slot) => (ref, slot.position) := by
  have hfilter (o : Option KeySlot) :
      (o.map KeySlot.position).filter (·.keyId = keyId) =
        (o.filter (·.keyId = keyId)).map KeySlot.position := by
    cases o with
    | none => rfl
    | some slot =>
        by_cases h : slot.keyId = keyId
        · simp [Option.filter, KeySlot.position, h]
        · simp [Option.filter, KeySlot.position, h]
  simp only [getRxSlot, position, hfilter]
  cases m.primary.filter (·.keyId = keyId) with
  | some slot => rfl
  | none => cases m.secondary.filter (·.keyId = keyId) <;> rfl

theorem KeySlotManager.setSlot_eq_self {m : KeySlotManager} {keyId : UInt8} {ref : SlotRef}
    {slot slot' : KeySlot} (h : m.getRxSlot keyId = some (ref, slot)) :
    m.setSlot ref slot' = m ↔ slot' = slot := by
  rcases (getRxSlot_eq_some h).2 with ⟨rfl, hm⟩ | ⟨rfl, hm⟩
  · cases m
    simp_all [setSlot]
  · cases m
    simp_all [setSlot]

namespace ProtocolEngine

variable {Conn : Type} {env : Env Conn} {e e' : ProtocolEngine Conn} {packet : Bytes}

/-! ## Datagrams of the data channel -/

/-- The key slots and the outbox are exactly as before. -/
def Untouched (e e' : ProtocolEngine Conn) : Prop :=
  e'.keyManager = e.keyManager ∧ e'.outbox = e.outbox

/-- The key slots and the outbox are as before, up to the statistics of the windows. -/
def UntouchedUpToStats (e e' : ProtocolEngine Conn) : Prop :=
  e'.keyManager.position = e.keyManager.position ∧ e'.outbox = e.outbox

/-- A datagram that finds no key slot: its header does not decode, or no slot has its key. -/
def FindsNoSlot (e : ProtocolEngine Conn) (packet : Bytes) : Prop :=
  (∃ err, DataPacket.decode packet = .error err) ∨
    ∃ keyId, dataKeyId packet = some keyId ∧ e.keyManager.getRxSlot keyId = none

/-- A datagram whose packet id the window of its key slot refuses. -/
def WindowRefuses (e : ProtocolEngine Conn) (packet : Bytes) : Prop :=
  ∃ keyId op kid peerId packetId payload ref slot err,
    dataKeyId packet = some keyId ∧
    DataPacket.decode packet = .ok (op, kid, peerId, packetId, payload) ∧
    e.keyManager.getRxSlot keyId = some (ref, slot) ∧
    slot.antiReplay.checkOnly packetId.toUInt64 = .error err

/-! ## One rejected datagram -/

/-- A packet id that the window takes leaves the window in another position, whatever comes of
the packet. -/
theorem not_untouched_of_checked {keyId : UInt8} {packetId : UInt32} {ref : SlotRef}
    {slot : KeySlot} (hs : e.keyManager.getRxSlot keyId = some (ref, slot))
    (hw : (slot.antiReplay.checkAndUpdate packetId.toUInt64).1 = .ok ()) :
    (e.keyManager.setSlot ref (checkedSlot slot packetId)).position ≠ e.keyManager.position := by
  have hs' : e.keyManager.position.getRxSlot keyId = some (ref, slot.position) := by
    rw [KeySlotManager.getRxSlot_position, hs]
    rfl
  rw [KeySlotManager.position_setSlot, Ne, KeySlotManager.setSlot_eq_self hs']
  intro heq
  exact AntiReplayWindow.position_ne_of_accepted hw (congrArg KeySlot.antiReplay heq)

theorem rejected_untouched_iff {keyId : UInt8} {now : Instant} {err : ProtocolError}
    (hk : dataKeyId packet = some keyId)
    (hrun : (processNetworkPacket env now packet).run e = some (.error err, e')) :
    (Untouched e e' ↔ FindsNoSlot e packet) ∧
      (UntouchedUpToStats e e' ↔ FindsNoSlot e packet ∨ WindowRefuses e packet) := by
  have hout := dataOutcome_of_run hk hrun
  -- a packet that has reached the window has found a slot
  have hfound {op kid peerId packetId payload ref slot}
      (hd : DataPacket.decode packet = .ok (op, kid, peerId, packetId, payload))
      (hs : e.keyManager.getRxSlot keyId = some (ref, slot)) : ¬ FindsNoSlot e packet := by
    rintro (⟨err, herr⟩ | ⟨k, hk', hnone⟩)
    · simp [hd] at herr
    · obtain rfl : keyId = k := by simpa [hk] using hk'
      simp [hs] at hnone
  have hpasses {op kid peerId packetId payload ref slot}
      (hd : DataPacket.decode packet = .ok (op, kid, peerId, packetId, payload))
      (hs : e.keyManager.getRxSlot keyId = some (ref, slot))
      (hw : (slot.antiReplay.checkAndUpdate packetId.toUInt64).1 = .ok ()) :
      ¬ WindowRefuses e packet := by
    rintro ⟨k, op', kid', peerId', id', payload', ref', slot', err', hk', hd', hs', hc⟩
    obtain rfl : keyId = k := by simpa [hk] using hk'
    obtain ⟨-, -, -, rfl, -⟩ : op = op' ∧ kid = kid' ∧ peerId = peerId' ∧ packetId = id' ∧
        payload = payload' := by simpa [hd] using hd'
    obtain ⟨-, rfl⟩ : ref = ref' ∧ slot = slot' := by simpa [hs] using hs'
    rw [AntiReplayWindow.checkOnly_eq, hw] at hc
    cases hc
  cases hout with
  | badHeader hd =>
      have hno : FindsNoSlot e packet := .inl ⟨_, hd⟩
      simp [Untouched, UntouchedUpToStats, hno]
  | noSlot hd hs =>
      have hno : FindsNoSlot e packet := .inr ⟨keyId, hk, hs⟩
      simp [Untouched, UntouchedUpToStats, hno]
  | @replayed op kid peerId packetId payload ref slot err hd hs hw =>
      have href : WindowRefuses e packet :=
        ⟨keyId, _, _, _, _, _, _, _, err, hk, hd, hs, by rw [AntiReplayWindow.checkOnly_eq, hw]⟩
      have hchanged : e.keyManager.setSlot ref (checkedSlot slot packetId) ≠ e.keyManager := by
        rw [Ne, KeySlotManager.setSlot_eq_self hs]
        intro heq
        exact AntiReplayWindow.ne_of_refused hw (congrArg KeySlot.antiReplay heq)
      have hsame : (e.keyManager.setSlot ref (checkedSlot slot packetId)).position =
          e.keyManager.position := by
        have hs' : e.keyManager.position.getRxSlot keyId = some (ref, slot.position) := by
          rw [KeySlotManager.getRxSlot_position, hs]
          rfl
        rw [KeySlotManager.position_setSlot, KeySlotManager.setSlot_eq_self hs', checkedSlot,
          AntiReplayWindow.checkAndUpdate_of_refused hw]
        rfl
      simp [Untouched, UntouchedUpToStats, withSlot, hfound hd hs, href, hchanged, hsame]
  | short hd hs hw _ | forged hd hs hw _ _ =>
      have hmoved := not_untouched_of_checked hs hw
      have hchanged : e.keyManager.setSlot _ (checkedSlot _ _) ≠ e.keyManager :=
        fun heq => hmoved (congrArg _ heq)
      simp [Untouched, UntouchedUpToStats, withSlot, hfound hd hs, hpasses hd hs hw, hmoved,
        hchanged]

/-- A rejected data packet changes nothing but the key slots and the time of the last
packet. -/
theorem rejected_eq {keyId : UInt8} {now : Instant} {err : ProtocolError}
    (hk : dataKeyId packet = some keyId)
    (hrun : (processNetworkPacket env now packet).run e = some (.error err, e')) :
    e' = { e with lastPacketRecv := now, keyManager := e'.keyManager } := by
  cases dataOutcome_of_run hk hrun with
  | badHeader => rfl
  | noSlot => rfl
  | replayed => rfl
  | short => rfl
  | forged => rfl

/-! ## Forged datagrams among genuine ones -/

/-- The engine up to the time of the last packet and the statistics of the windows. -/
def blur (e : ProtocolEngine Conn) : ProtocolEngine Conn :=
  { e with keyManager := e.keyManager.position, lastPacketRecv := 0 }

theorem blur_withSlot (e : ProtocolEngine Conn) (ref : SlotRef) (slot : KeySlot) :
    (e.withSlot ref slot).blur = e.blur.withSlot ref slot.position := by
  simp only [blur, withSlot, KeySlotManager.position_setSlot]

theorem position_checkedSlot (slot : KeySlot) (packetId : UInt32) :
    (checkedSlot slot.position packetId).position = (checkedSlot slot packetId).position := by
  have h := slot.antiReplay.checkAndUpdate_position_snd packetId.toUInt64
  simp only [KeySlot.position, checkedSlot] at h ⊢
  rw [h]

theorem blur_blur (e : ProtocolEngine Conn) : e.blur.blur = e.blur := by
  have h (o : Option KeySlot) :
      (o.map KeySlot.position).map KeySlot.position = o.map KeySlot.position := by
    cases o <;> rfl
  simp only [blur, KeySlotManager.position, h]

/-- A data packet has the same result on the blurred engine, and leaves the same engine up to
the blur. -/
theorem run_blur {keyId : UInt8} {r : Except ProtocolError Unit}
    (hrun : (processIncomingDataPacket env keyId packet).run e = some (r, e')) :
    ∃ e'', (processIncomingDataPacket env keyId packet).run e.blur = some (r, e'') ∧
      e''.blur = e'.blur := by
  have hslot {ref : SlotRef} {slot : KeySlot}
      (hs : e.keyManager.getRxSlot keyId = some (ref, slot)) :
      e.blur.keyManager.getRxSlot keyId = some (ref, slot.position) := by
    change e.keyManager.position.getRxSlot keyId = _
    rw [KeySlotManager.getRxSlot_position, hs]
    rfl
  have hcheck (slot : KeySlot) (id : UInt32) {out : Except CryptoError Unit}
      (hw : (slot.antiReplay.checkAndUpdate id.toUInt64).1 = out) :
      (slot.position.antiReplay.checkAndUpdate id.toUInt64).1 = out :=
    (slot.antiReplay.checkAndUpdate_position_fst id.toUInt64).trans hw
  have hblur {slot slot' : KeySlot} (ref : SlotRef) (h : slot.position = slot'.position) :
      (e.blur.withSlot ref slot).blur = (e.withSlot ref slot').blur := by
    rw [blur_withSlot, blur_withSlot, blur_blur, h]
  obtain ⟨r₁, e₁, hrun₁, hout⟩ := exists_dataOutcome env e keyId packet
  obtain ⟨rfl, rfl⟩ : r₁ = r ∧ e₁ = e' := by simpa using hrun₁.symm.trans hrun
  cases hout with
  | badHeader hd => exact ⟨_, data_run_of_decode_error hd, e.blur_blur⟩
  | noSlot hd hs =>
      refine ⟨_, data_run_of_no_slot hd ?_, e.blur_blur⟩
      change e.keyManager.position.getRxSlot keyId = none
      rw [KeySlotManager.getRxSlot_position, hs]
      rfl
  | replayed hd hs hw =>
      exact ⟨_, data_run_of_replayed env hd (hslot hs) (hcheck _ _ hw),
        hblur _ (position_checkedSlot _ _)⟩
  | short hd hs hw hlen =>
      exact ⟨_, data_run_of_short hd (hslot hs) (hcheck _ _ hw) hlen,
        hblur _ (position_checkedSlot _ _)⟩
  | forged hd hs hw hlen hopen =>
      exact ⟨_, data_run_of_forged hd (hslot hs) (hcheck _ _ hw) hlen hopen,
        hblur _ (position_checkedSlot _ _)⟩
  | @authentic op kid peerId packetId payload ref slot plaintext hd hs hw hlen hopen =>
      have hrun' := data_run_of_authentic hd (hslot hs) (hcheck _ _ hw) hlen hopen
      rw [run_deliverToTun] at hrun'
      refine ⟨_, hrun', ?_⟩
      let count (s : KeySlot) : KeySlot :=
        { s with bytesReceived := slot.bytesReceived + UInt64.ofNat plaintext.length }
      have hpos : (count (checkedSlot slot.position packetId)).position =
          (count (checkedSlot slot packetId)).position :=
        congrArg count (position_checkedSlot slot packetId)
      exact congrArg (fun e : ProtocolEngine Conn =>
        { e with outbox := e.outbox ++ tunActions plaintext }) (hblur ref hpos)

/-- Engines that differ only in the blurred parts give the same results. -/
theorem run_of_blur_eq {e₁ e₂ e₁' : ProtocolEngine Conn} {keyId : UInt8} {now : Instant}
    {r : Except ProtocolError Unit} (now' : Instant) (hk : dataKeyId packet = some keyId)
    (heq : e₁.blur = e₂.blur)
    (hrun : (processNetworkPacket env now packet).run e₁ = some (r, e₁')) :
    ∃ e₂', (processNetworkPacket env now' packet).run e₂ = some (r, e₂') ∧
      e₁'.blur = e₂'.blur := by
  rw [run_processNetworkPacket_data hk] at hrun ⊢
  obtain ⟨f₁, hf₁, hb₁⟩ := run_blur hrun
  obtain ⟨r₂, e₂', hrun₂, -⟩ :=
    exists_dataOutcome env { e₂ with lastPacketRecv := now' } keyId packet
  obtain ⟨f₂, hf₂, hb₂⟩ := run_blur hrun₂
  have hsame : ({ e₁ with lastPacketRecv := now } : ProtocolEngine Conn).blur =
      ({ e₂ with lastPacketRecv := now' } : ProtocolEngine Conn).blur := heq
  rw [hsame, hf₂] at hf₁
  obtain ⟨rfl, rfl⟩ : r₂ = r ∧ f₂ = f₁ := by simpa using hf₁
  exact ⟨e₂', hrun₂, by rw [← hb₁, hb₂]⟩

/-- A datagram of the data channel as it arrives; `forged` marks those an attacker has put
among the others. -/
structure Arrival where
  now : Instant
  packet : Bytes
  forged : Bool
  deriving DecidableEq, Repr

/-- The results of the genuine datagrams, and the engine in the end. -/
def receiveAll (env : Env Conn) :
    ProtocolEngine Conn → List Arrival → List (Except ProtocolError Unit) × ProtocolEngine Conn
  | e, [] => ([], e)
  | e, a :: rest =>
    match (processNetworkPacket env a.now a.packet).run e with
    | some (r, e) =>
      let (results, e) := receiveAll env e rest
      (if a.forged then results else r :: results, e)
    | none => ([], e)

/-- Every forged datagram is rejected, and meets no slot or a window that refuses it. -/
def ForgeriesHarmless (env : Env Conn) : ProtocolEngine Conn → List Arrival → Prop
  | _, [] => True
  | e, a :: rest =>
    match (processNetworkPacket env a.now a.packet).run e with
    | some (r, e') =>
      (a.forged = true →
        (∃ err, r = .error err) ∧ (FindsNoSlot e a.packet ∨ WindowRefuses e a.packet)) ∧
      ForgeriesHarmless env e' rest
    | none => False

theorem receiveAll_of_blur_eq {e₁ e₂ : ProtocolEngine Conn} {arrivals : List Arrival}
    (hdata : ∀ a ∈ arrivals, (dataKeyId a.packet).isSome) (heq : e₁.blur = e₂.blur)
    (hforged : ForgeriesHarmless env e₁ arrivals) :
    (receiveAll env e₁ arrivals).1 = (receiveAll env e₂ (arrivals.filter (!·.forged))).1 ∧
      (receiveAll env e₁ arrivals).2.blur =
        (receiveAll env e₂ (arrivals.filter (!·.forged))).2.blur := by
  induction arrivals generalizing e₁ e₂ with
  | nil => exact ⟨rfl, heq⟩
  | cons a rest ih =>
      obtain ⟨keyId, hk⟩ := Option.isSome_iff_exists.mp (hdata a (by simp))
      have hrest : ∀ b ∈ rest, (dataKeyId b.packet).isSome :=
        fun b hb => hdata b (List.mem_cons_of_mem a hb)
      simp only [ForgeriesHarmless] at hforged
      cases hrun : (processNetworkPacket env a.now a.packet).run e₁ with
      | none => simp [hrun] at hforged
      | some out =>
          obtain ⟨r, e₁'⟩ := out
          rw [hrun] at hforged
          obtain ⟨hharmless, hforged⟩ := hforged
          by_cases hf : a.forged = true
          · -- a forged datagram leaves the engine as it was, up to the blur
            obtain ⟨⟨err, rfl⟩, hcond⟩ := hharmless hf
            obtain ⟨hkeys, -⟩ := (rejected_untouched_iff hk hrun).2.mpr hcond
            have hsame : e₁'.blur = e₂.blur := by
              rw [← heq, rejected_eq hk hrun]
              simp only [blur, hkeys]
            have hnext := ih hrest hsame hforged
            simpa [receiveAll, hrun, hf] using hnext
          · obtain ⟨e₂', hrun₂, heq'⟩ := run_of_blur_eq a.now hk heq hrun
            have hnext := ih hrest heq' hforged
            simpa [receiveAll, hrun, hrun₂, hf] using hnext

/-- A rejected datagram of the data channel leaves key slots and outbox exactly as they were
if and only if it finds no key slot, and up to the statistics of the windows if and only if
moreover the window refuses its packet id: in every other case the window has moved. Forged
datagrams that all meet this condition are invisible to the genuine ones among them. -/
theorem rejected_datagram_moves_window (env : Env Conn) (e : ProtocolEngine Conn) :
    (∀ now packet err e', (dataKeyId packet).isSome →
      (processNetworkPacket env now packet).run e = some (.error err, e') →
        (Untouched e e' ↔ FindsNoSlot e packet) ∧
        (UntouchedUpToStats e e' ↔ FindsNoSlot e packet ∨ WindowRefuses e packet)) ∧
    (∀ arrivals, (∀ a ∈ arrivals, (dataKeyId a.packet).isSome) →
      ForgeriesHarmless env e arrivals →
        (receiveAll env e arrivals).1 = (receiveAll env e (arrivals.filter (!·.forged))).1 ∧
        UntouchedUpToStats (receiveAll env e (arrivals.filter (!·.forged))).2
          (receiveAll env e arrivals).2) := by
  constructor
  · intro now packet err e' hdata hrun
    obtain ⟨keyId, hk⟩ := Option.isSome_iff_exists.mp hdata
    exact rejected_untouched_iff hk hrun
  · intro arrivals hdata hforged
    obtain ⟨hresults, hblur⟩ := receiveAll_of_blur_eq hdata rfl hforged
    have hkeys := congrArg keyManager hblur
    have hout := congrArg outbox hblur
    exact ⟨hresults, hkeys, hout⟩

/-- A datagram for a key id that no slot has. -/
def strayFrame : Bytes := 0x35 :: 0 :: 0 :: 0 :: 1 :: List.replicate 16 0

theorem rejected_datagram_moves_window_stray :
    ∃ e, Reachable Loopback.env {} e ∧ ∃ err e₁,
      (processNetworkPacket Loopback.env 0 strayFrame).run e = some (.error err, e₁) ∧
      Untouched e e₁ ∧
      (receiveAll Loopback.env e
          [⟨0, strayFrame, true⟩, ⟨0, Loopback.peerFrame 1 Loopback.ipPacket, false⟩]).1 =
        (receiveAll Loopback.env e
          [⟨0, Loopback.peerFrame 1 Loopback.ipPacket, false⟩]).1 := by
  obtain ⟨e, hreach, hcheck⟩ := Loopback.exists_connected (p := fun e =>
    (processNetworkPacket Loopback.env 0 strayFrame).fails e &&
      (e.keyManager.getRxSlot 5).isNone) {} (by decide +kernel)
  rw [Bool.and_eq_true] at hcheck
  obtain ⟨err, e₁, hrun⟩ := Prog.exists_of_fails hcheck.1
  have hk : dataKeyId strayFrame = some 5 := by decide
  have hk' : (dataKeyId (Loopback.peerFrame 1 Loopback.ipPacket)).isSome := by decide
  have hno : FindsNoSlot e strayFrame := .inr ⟨5, hk, by simpa using hcheck.2⟩
  obtain ⟨hone, hall⟩ := rejected_datagram_moves_window Loopback.env e
  refine ⟨e, hreach, err, e₁, hrun, (hone _ _ _ _ (by simp [hk]) hrun).1.mpr hno, ?_⟩
  refine (hall [⟨0, strayFrame, true⟩, ⟨0, Loopback.peerFrame 1 Loopback.ipPacket, false⟩]
    (by simp [hk, hk']) ?_).1
  obtain ⟨keyId, hk'⟩ := Option.isSome_iff_exists.mp hk'
  obtain ⟨r, e₂, hrun₂, -⟩ := exists_dataOutcome Loopback.env { e₁ with lastPacketRecv := 0 } keyId
    (Loopback.peerFrame 1 Loopback.ipPacket)
  rw [← run_processNetworkPacket_data hk'] at hrun₂
  simp [ForgeriesHarmless, hrun, hrun₂, hno]

/-- A forged datagram with packet id 1000 is rejected and moves the window past the genuine
packet 1, which would have been accepted. -/
theorem forged_datagram_blocks_genuine :
    ∃ e, Reachable Loopback.env {} e ∧ ∃ err e₁,
      (processNetworkPacket Loopback.env 0 (Loopback.forgedFrame 1000 Loopback.ipPacket)).run e =
        some (.error err, e₁) ∧
      ¬ Untouched e e₁ ∧
      (∃ err' e₂, (processNetworkPacket Loopback.env 0
        (Loopback.peerFrame 1 Loopback.ipPacket)).run e₁ = some (.error err', e₂)) ∧
      ∃ e₂, (processNetworkPacket Loopback.env 0
        (Loopback.peerFrame 1 Loopback.ipPacket)).run e = some (.ok (), e₂) := by
  let forged := processNetworkPacket Loopback.env 0 (Loopback.forgedFrame 1000 Loopback.ipPacket)
  let genuine := processNetworkPacket Loopback.env 0 (Loopback.peerFrame 1 Loopback.ipPacket)
  obtain ⟨e, hreach, hcheck⟩ := Loopback.exists_connected (p := fun e =>
    forged.fails e && genuine.succeeds e &&
      (forged.run e).any fun (_, e₁) => e₁.keyManager ≠ e.keyManager && genuine.fails e₁) {}
    (by decide +kernel)
  simp only [Bool.and_eq_true] at hcheck
  obtain ⟨⟨hfails, hsucceeds⟩, hafter⟩ := hcheck
  obtain ⟨err, e₁, hrun⟩ := Prog.exists_of_fails hfails
  obtain ⟨_, e₂, hrun₂⟩ := Prog.exists_of_succeeds hsucceeds
  rw [hrun] at hafter
  simp only [Option.any_some, Bool.and_eq_true, decide_eq_true_eq] at hafter
  exact ⟨e, hreach, err, e₁, hrun, fun h => hafter.1 h.1, Prog.exists_of_fails hafter.2, e₂, hrun₂⟩

end ProtocolEngine

end VpnHub.Protocol
