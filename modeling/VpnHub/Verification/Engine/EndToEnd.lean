import Mathlib.Data.List.Nodup
import VpnHub.Model.Loopback
import VpnHub.Model.Tunnel
import VpnHub.Verification.AntiReplay.Refinement
import VpnHub.Verification.Engine.Steps
import VpnHub.Verification.Frame

/-! The data channel from one engine to the other. -/

namespace VpnHub.Protocol

open Config Crypto ProtocolEngine

/-! ## Key ids -/

namespace ProtocolEngine

variable {Conn : Type} {env : Env Conn} {config : OpenVpnConfig} {e : ProtocolEngine Conn}

/-- The engine installs keys under the key id 0 only. -/
def KeyIdZero (e : ProtocolEngine Conn) : Prop :=
  ∀ slot, e.keyManager.primary = some slot → slot.keyId = 0

theorem keyIdZero_installs {m m' : KeySlotManager} (h : m.Installs m')
    (hm : ∀ slot, m.primary = some slot → slot.keyId = 0) :
    ∀ slot, m'.primary = some slot → slot.keyId = 0 := by
  refine h.invariant (P := fun m => ∀ slot, m.primary = some slot → slot.keyId = 0) hm ?_
  intro m slot hid _ _ _ _ slot' hs
  obtain rfl : slot = slot' := by simpa using hs
  exact hid

theorem keyIdZero_of_reachable (h : Reachable env config e) : KeyIdZero e := by
  refine h.invariant ?_ ?_
  · intro now sessionId slot hs
    simp [initial, KeySlotManager.new] at hs
  · intro e op e' hstep hinv
    cases step_cases hstep with
    | control hframe => exact keyIdZero_installs hframe.keys hinv
    | connect hframe hnew => exact keyIdZero_installs hframe.keys hinv
    | receive hframe =>
        intro slot hs
        have hsender := hframe.sender
        rw [hs] at hsender
        obtain ⟨slot₀, hs₀, heq⟩ := Option.map_eq_some_iff.mp hsender.symm
        rw [KeySlot.eq_of_sender heq.symm]
        exact hinv slot₀ hs₀
    | @send _ e₁ e₂ _ hop hframe hkeys hsends hframe' =>
        refine keyIdZero_installs hframe'.keys ?_
        rw [KeyIdZero, ← hkeys] at hinv
        intro slot hs
        obtain ⟨slot₀, bytesSent, hs₀, hs'⟩ := hsends.exists_slot
        obtain rfl := Option.some.inj (hs'.symm.trans hs)
        exact hinv slot₀ hs₀
    | poll =>
        intro slot hs
        refine hinv slot ?_
        rw [← hs]
        unfold pollOutputAction
        split <;> rfl

end ProtocolEngine

namespace Tunnel

/-! ## Sending -/

section Sending

variable {Conn : Type} {env : Env Conn} {e : ProtocolEngine Conn} {slot : KeySlot}

/-- An engine that sends every packet as it is, with the given slot. -/
structure CanSend (e : ProtocolEngine Conn) (slot : KeySlot) : Prop where
  isUp : IsUp e
  mssFix : e.mssFix = none
  primary : e.keyManager.primary = some slot

/-- The header of a frame with the given packet id. -/
def headerOf (peerId : Option UInt32) (keyId : UInt8) (packetId : UInt32) : Bytes :=
  DataPacket.encodeHeader (if peerId.isSome then .dataV2 else .dataV1) keyId peerId packetId

/-- The frame seals its packet under the given id with the sending half of the slot. -/
def Carries (aead : Aead) (peerId : Option UInt32) (slot : KeySlot) (frame : Frame)
    (packetId : UInt32) : Prop :=
  ∃ ciphertext tag,
    slot.txCipher.encryptInPlace aead (nonceOf packetId slot.txImplicitIv)
      (headerOf peerId slot.keyId packetId) frame.outgoing.plaintext = .ok (ciphertext, tag) ∧
    frame.bytes = headerOf peerId slot.keyId packetId ++ tag.val ++ ciphertext

theorem Carries.decode {aead : Aead} {peerId : Option UInt32} {frame : Frame} {packetId : UInt32}
    (h : Carries aead peerId slot frame packetId) :
    ∃ op peerId' payload, DataPacket.decode frame.bytes =
      .ok (op, slot.keyId &&& 0x07, peerId', packetId, payload) := by
  obtain ⟨ciphertext, tag, -, hbytes⟩ := h
  rw [hbytes, List.append_assoc]
  exact ⟨_, _, _,
    DataPacket.decode_encodeHeader_append peerId slot.keyId packetId (tag.val ++ ciphertext)⟩

theorem Carries.packetId_eq {aead : Aead} {peerId : Option UInt32} {frame : Frame} {packetId : UInt32}
    (h : Carries aead peerId slot frame packetId) : frame.packetId = packetId.toNat := by
  obtain ⟨op, peerId', payload, hdecode⟩ := h.decode
  rw [Frame.packetId, hdecode]

/-- Sending takes the next packet id, and queues one frame unless the encryption fails. -/
theorem exists_run_outgoing (env : Env Conn) (h : CanSend e slot) (o : Outgoing) :
    ∃ r e' packets slot', (exec env o.op).run e = some (r, e') ∧
      e'.outbox = e.outbox ++ packets.map .sendToNetwork ∧
      e'.peerId = e.peerId ∧ CanSend e' slot' ∧
      (∃ bytesSent, slot' = { slot.nextTxPacketId.2 with bytesSent }) ∧
      ∀ p ∈ packets, Carries env.aead e.peerId slot ⟨o, p⟩ slot.txPacketId ∧ packets = [p] := by
  have hup : ¬ (e.state ≠ .connected ∧ e.state ≠ .rekeying) :=
    fun hdown => not_isUp_iff.mpr hdown h.isUp
  have hslot : e.keyManager.getTxSlot = some slot := h.primary
  have hexec : (exec env o.op).run e = (sealAndSend env slot o.plaintext).run e ∨
      ∃ now, (exec env o.op).run e = ((do
        sealAndSend env slot o.plaintext
        modify fun e => { e with lastPingSent := now }) : EngineM Conn Unit).run e := by
    cases o with
    | ip now packet =>
        refine .inl ?_
        simp only [Outgoing.op, exec, processTunPacket, Prog.run_get_bind, if_neg hup, h.mssFix,
          clampBuffer, Prog.run_pure_bind, hslot]
        rfl
    | ping now =>
        refine .inr ⟨now, ?_⟩
        simp only [Outgoing.op, exec, sendKeepalivePing, Prog.run_get_bind, if_neg hup, hslot]
        rfl
  cases hseal : sealPayload env e slot o.plaintext with
  | error err =>
      have hrun := run_sealAndSend_of_error hseal
      have hexec : (exec env o.op).run e =
          some (.error (.crypto err), e.withSlot .primary slot.nextTxPacketId.2) := by
        rcases hexec with hexec | ⟨now, hexec⟩
        · rw [hexec, hrun]
        · rw [hexec, Prog.run_bind_of_error hrun]
      exact ⟨_, _, [], _, hexec, by simp [withSlot], rfl, ⟨h.isUp, h.mssFix, rfl⟩,
        ⟨slot.bytesSent, rfl⟩, by simp⟩
  | ok out =>
      obtain ⟨ciphertext, tag⟩ := out
      have hrun := run_sealAndSend_of_ok hseal
      have hcarries : Carries env.aead e.peerId slot ⟨o, e.txHeader slot ++ tag.val ++ ciphertext⟩
          slot.txPacketId := ⟨ciphertext, tag, hseal, rfl⟩
      rcases hexec with hexec | ⟨now, hexec⟩
      · rw [hrun] at hexec
        exact ⟨_, _, [e.txHeader slot ++ tag.val ++ ciphertext], _, hexec, rfl, rfl,
          ⟨h.isUp, h.mssFix, rfl⟩, ⟨_, rfl⟩, by simpa using hcarries⟩
      · rw [Prog.run_bind_of_ok hrun] at hexec
        exact ⟨_, _, [e.txHeader slot ++ tag.val ++ ciphertext], _, hexec, rfl, rfl,
          ⟨h.isUp, h.mssFix, rfl⟩, ⟨_, rfl⟩, by simpa using hcarries⟩

theorem networkPackets_sendToNetwork (packets : List Bytes) :
    networkPackets (packets.map .sendToNetwork) = packets := by
  induction packets with
  | nil => rfl
  | cons p packets ih =>
      simp only [networkPackets, List.map_cons, List.filterMap_cons] at ih ⊢
      rw [ih]

/-- Every frame carries its own packet id, from the slot's counter on, in increasing order. -/
theorem sendAll_frames (env : Env Conn) (items : List Outgoing) (h : CanSend e slot)
    (hcount : slot.txPacketId.toNat + items.length < 2 ^ 32) :
    (∀ f ∈ (sendAll env e items).1, ∃ packetId, slot.txPacketId.toNat ≤ packetId.toNat ∧
      Carries env.aead e.peerId slot f packetId) ∧
    (sendAll env e items).1.Pairwise fun f g => f.packetId < g.packetId := by
  induction items generalizing e slot with
  | nil => simp [sendAll]
  | cons o items ih =>
      obtain ⟨r, e', packets, slot', hrun, hout, hpeer, hsend, ⟨bytesSent, rfl⟩, hpackets⟩ :=
        exists_run_outgoing env h o
      have hnext : (slot.txPacketId + 1).toNat = slot.txPacketId.toNat + 1 := by
        rw [List.length_cons] at hcount
        rw [UInt32.toNat_add]
        exact Nat.mod_eq_of_lt (by simpa using by omega)
      have hrest : (slot.txPacketId + 1).toNat + items.length < 2 ^ 32 := by
        rw [List.length_cons] at hcount
        omega
      obtain ⟨ihcarries, ihsorted⟩ := ih hsend hrest
      have hqueued : networkPackets (queued e e') = packets := by
        rw [queued, hout, List.drop_left, networkPackets_sendToNetwork]
      simp only [sendAll, hrun, hqueued]
      have hcarries : ∀ f ∈ (sendAll env e' items).1, ∃ packetId,
          slot.txPacketId.toNat < packetId.toNat ∧ Carries env.aead e.peerId slot f packetId := by
        intro f hf
        obtain ⟨packetId, hle, hf⟩ := ihcarries f hf
        rw [hpeer] at hf
        refine ⟨packetId, ?_, hf⟩
        change (slot.txPacketId + 1).toNat ≤ _ at hle
        omega
      constructor
      · intro f hf
        rcases List.mem_append.mp hf with hf | hf
        · obtain ⟨p, hp, rfl⟩ := List.mem_map.mp hf
          exact ⟨_, le_rfl, (hpackets p hp).1⟩
        · obtain ⟨packetId, hlt, hf⟩ := hcarries f hf
          exact ⟨packetId, hlt.le, hf⟩
      · refine List.pairwise_append.mpr ⟨?_, ihsorted, ?_⟩
        · cases packets with
          | nil => exact List.Pairwise.nil
          | cons p rest =>
              rw [(hpackets p List.mem_cons_self).2]
              exact List.pairwise_singleton _ _
        · intro f hf g hg
          obtain ⟨p, hp, rfl⟩ := List.mem_map.mp hf
          obtain ⟨packetId, hlt, hg⟩ := hcarries g hg
          rw [(hpackets p hp).1.packetId_eq, hg.packetId_eq]
          exact hlt

end Sending

/-! ## Receiving -/

section Receiving

variable {Conn : Type} {env : Env Conn} {e : ProtocolEngine Conn} {tx : KeySlot}
  {peerId : Option UInt32} {frame : Frame} {packetId : UInt32} {admitted : Finset ℕ}

/-- The primary slot mirrors `tx`, and its window has admitted the given ids. -/
def CanReceive (e : ProtocolEngine Conn) (tx : KeySlot) (admitted : Finset ℕ) : Prop :=
  ∃ rx, e.keyManager.primary = some rx ∧ rx.keyId = tx.keyId ∧ rx.rxCipher = tx.txCipher ∧
    rx.rxImplicitIv = tx.txImplicitIv ∧ rx.antiReplay.Refines admitted

theorem startsWithMagic_eq_false {first : UInt8} {rest magic : Bytes}
    (h : magic.head? ≠ some first) : startsWithMagic (first :: rest) magic = false := by
  cases hs : startsWithMagic (first :: rest) magic with
  | false => rfl
  | true =>
      obtain ⟨-, heq⟩ : _ ∧ (first :: rest).take 16 = magic := by
        simpa [startsWithMagic] using hs
      exact absurd (by rw [← heq]; rfl) h

/-- No IP packet looks like a ping or an exit notification: their first bytes have the high
nibble 2. -/
theorem tunActions_plaintext (o : Outgoing) : tunActions o.plaintext = o.delivered := by
  cases o with
  | ping now => rfl
  | ip now packet =>
      obtain ⟨first, rest, hbytes, hversion⟩ := packet.version
      have hlen := packet.length_bytes
      have hping : keepaliveMagic.head? ≠ some first := by
        intro h
        obtain rfl : 0x2a = first := Option.some.inj h
        revert hversion
        decide
      have hexit : explicitExitNotifyMagic.head? ≠ some first := by
        intro h
        obtain rfl : 0x28 = first := Option.some.inj h
        revert hversion
        decide
      have hip : isIpPacket (first :: rest) = true := by
        rw [hbytes] at hlen
        simp only [isIpPacket, Bool.and_eq_true, decide_eq_true_eq, Bool.or_eq_true, beq_iff_eq]
        exact ⟨hlen, hversion⟩
      simp only [Outgoing.plaintext, Outgoing.delivered, hbytes, tunActions,
        startsWithMagic_eq_false hping, startsWithMagic_eq_false hexit, hip]
      rfl

theorem Carries.dataKeyId {aead : Aead} (h : Carries aead peerId tx frame packetId) :
    dataKeyId frame.bytes = some (tx.keyId &&& 0x07) := by
  obtain ⟨ciphertext, tag, -, hbytes⟩ := h
  rw [hbytes]
  cases peerId with
  | none => simp [headerOf, DataPacket.encodeHeader, ProtocolEngine.dataKeyId,
      parseHeaderByte_encodeHeaderByte, Opcode.isData]
  | some pid => simp [headerOf, DataPacket.encodeHeader, ProtocolEngine.dataKeyId,
      parseHeaderByte_encodeHeaderByte, Opcode.isData]

theorem decryptInPlace_of_encryptInPlace {aead : Aead} (hinv : Inverts aead) {cipher : SymmCipher}
    {nonce aad plaintext ciphertext : Bytes} {tag : FixedBytes 16}
    (h : cipher.encryptInPlace aead nonce aad plaintext = .ok (ciphertext, tag)) :
    cipher.decryptInPlace aead nonce aad ciphertext tag.val = .ok plaintext := by
  unfold SymmCipher.encryptInPlace at h
  unfold SymmCipher.decryptInPlace
  split at h
  · cases h
  · rename_i hlen
    rw [if_neg hlen]
    cases henc : aead.encryptInPlaceDetached cipher.suite cipher.key nonce aad plaintext with
    | error err => simp [henc] at h
    | ok out =>
        obtain rfl : out = (ciphertext, tag) := by simpa [henc] using h
        rw [hinv _ _ _ _ _ _ _ henc]

/-- The receiver reads off a frame what the sender has put into it. -/
theorem Carries.exists_open (hinv : Inverts env.aead) {rx : KeySlot}
    (hcipher : rx.rxCipher = tx.txCipher) (hiv : rx.rxImplicitIv = tx.txImplicitIv)
    (h : Carries env.aead peerId tx frame packetId) :
    ∃ op peerId' payload,
      DataPacket.decode frame.bytes = .ok (op, tx.keyId &&& 0x07, peerId', packetId, payload) ∧
      16 ≤ payload.length ∧
      openPayload env rx packetId frame.bytes payload = .ok frame.outgoing.plaintext := by
  obtain ⟨ciphertext, tag, hseal, hbytes⟩ := h
  have hdecode :=
    DataPacket.decode_encodeHeader_append peerId tx.keyId packetId (tag.val ++ ciphertext)
  have htag : tag.val.length = 16 := tag.property
  have hheader : (headerOf peerId tx.keyId packetId ++ (tag.val ++ ciphertext)).take
      ((headerOf peerId tx.keyId packetId ++ (tag.val ++ ciphertext)).length -
        (tag.val ++ ciphertext).length) = headerOf peerId tx.keyId packetId := by
    rw [List.length_append, Nat.add_sub_cancel]
    exact List.take_left
  rw [hbytes, List.append_assoc]
  refine ⟨_, _, _, hdecode, by simp [htag], ?_⟩
  rw [openPayload, hheader, List.drop_left' htag, List.take_left' htag, hcipher, hiv]
  exact decryptInPlace_of_encryptInPlace hinv hseal

/-- The first delivery of a frame that is not too old. -/
theorem exists_run_first (hinv : Inverts env.aead) (hkey : tx.keyId &&& 0x07 = tx.keyId)
    (he : CanReceive e tx admitted) (hf : Carries env.aead peerId tx frame packetId)
    (hfresh : SlidingWindow.Fresh 128 admitted packetId.toNat) (now : Instant) :
    ∃ e', (processNetworkPacket env now frame.bytes).run e = some (.ok (), e') ∧
      e'.outbox = e.outbox ++ frame.outgoing.delivered ∧
      CanReceive e' tx (insert packetId.toNat admitted) := by
  obtain ⟨rx, hrx, hid, hcipher, hiv, hwindow⟩ := he
  obtain ⟨op, peerId', payload, hdecode, hlen, hopen⟩ := hf.exists_open hinv hcipher hiv
  have hslot : e.keyManager.getRxSlot (tx.keyId &&& 0x07) = some (.primary, rx) := by
    simp [KeySlotManager.getRxSlot, hrx, Option.filter, hid, hkey]
  have hcheck := AntiReplayWindow.checkAndUpdate_spec hwindow packetId.toUInt64
  rw [UInt32.toNat_toUInt64] at hcheck
  rcases hcheck with ⟨-, hok, hrefines⟩ | ⟨hstale, -⟩
  · have hrun := data_run_of_authentic (e := { e with lastPacketRecv := now })
      hdecode hslot hok hlen hopen
    rw [run_deliverToTun, tunActions_plaintext] at hrun
    rw [run_processNetworkPacket_data hf.dataKeyId]
    exact ⟨_, hrun, rfl, _, rfl, hid, hcipher, hiv, hrefines⟩
  · exact absurd hfresh hstale

/-- Any other delivery of a frame. -/
theorem exists_run_again (hinv : Inverts env.aead) (hkey : tx.keyId &&& 0x07 = tx.keyId)
    (he : CanReceive e tx admitted) (hf : Carries env.aead peerId tx frame packetId)
    (hstale : ¬ SlidingWindow.Fresh 128 admitted packetId.toNat) (now : Instant) :
    ∃ err e', (processNetworkPacket env now frame.bytes).run e = some (.error err, e') ∧
      e'.outbox = e.outbox ∧ CanReceive e' tx admitted := by
  obtain ⟨rx, hrx, hid, hcipher, hiv, hwindow⟩ := he
  obtain ⟨op, peerId', payload, hdecode, -, -⟩ := hf.exists_open hinv hcipher hiv
  have hslot : e.keyManager.getRxSlot (tx.keyId &&& 0x07) = some (.primary, rx) := by
    simp [KeySlotManager.getRxSlot, hrx, Option.filter, hid, hkey]
  have hcheck := AntiReplayWindow.checkAndUpdate_spec hwindow packetId.toUInt64
  have hrefines := AntiReplayWindow.checkAndUpdate_refines hwindow packetId.toUInt64
  rw [UInt32.toNat_toUInt64] at hcheck hrefines
  rw [SlidingWindow.record, if_neg hstale] at hrefines
  rcases hcheck with ⟨hfresh, -, -⟩ | ⟨-, hreject⟩
  · exact absurd hfresh hstale
  · have hrun := data_run_of_replayed env (e := { e with lastPacketRecv := now })
      hdecode hslot (congrArg Prod.fst hreject)
    rw [run_processNetworkPacket_data hf.dataKeyId]
    exact ⟨_, _, hrun, rfl, _, rfl, hid, hcipher, hiv, hrefines⟩

/-- By induction on the deliveries: the window has admitted the ids of the frames seen, on
top of older ids that are all below those of the frames. -/
theorem receiveEach_exactlyOnce (hinv : Inverts env.aead) (hkey : tx.keyId &&& 0x07 = tx.keyId)
    {frames : List Frame} {older : Finset ℕ}
    (hframes : ∀ f ∈ frames, ∃ packetId, tx.txPacketId.toNat ≤ packetId.toNat ∧
      Carries env.aead peerId tx f packetId)
    (hsorted : frames.Pairwise fun f g => f.packetId < g.packetId)
    (holder : ∀ m ∈ older, m < tx.txPacketId.toNat) (deliveries : List Delivery) :
    ∀ {e : ProtocolEngine Conn} {seen : List Frame}, (∀ f ∈ seen, f ∈ frames) →
      (∀ d ∈ deliveries, d.frame ∈ frames) → WithinWindow seen deliveries →
      CanReceive e tx (older ∪ (seen.map Frame.packetId).toFinset) →
      ExactlyOnce seen deliveries (receiveEach env e deliveries).1 ∧
        (receiveEach env e deliveries).2.outbox =
          e.outbox ++ (receiveEach env e deliveries).1.flatMap (·.2) := by
  have hinjective (f g : Frame) (hf : f ∈ frames) (hg : g ∈ frames)
      (h : f.packetId = g.packetId) : f = g := by
    have hnodup : (frames.map Frame.packetId).Nodup :=
      List.pairwise_map.mpr (hsorted.imp fun hlt => Nat.ne_of_lt hlt)
    exact List.inj_on_of_nodup_map hnodup hf hg h
  induction deliveries with
  | nil => simp [ExactlyOnce, receiveEach]
  | cons d rest ih =>
      intro e seen hseen hdeliv hwithin he
      obtain ⟨hwindow, hwithin⟩ := hwithin
      have hd : d.frame ∈ frames := hdeliv d List.mem_cons_self
      obtain ⟨packetId, hle, hcarries⟩ := hframes d.frame hd
      have hid := hcarries.packetId_eq
      have hseen' : ∀ f ∈ seen ++ [d.frame], f ∈ frames := by
        intro f hf
        rcases List.mem_append.mp hf with hf | hf
        · exact hseen f hf
        · exact List.mem_singleton.mp hf ▸ hd
      have hrest : ∀ c ∈ rest, c.frame ∈ frames :=
        fun c hc => hdeliv c (List.mem_cons_of_mem d hc)
      have hset : older ∪ ((seen ++ [d.frame]).map Frame.packetId).toFinset =
          insert packetId.toNat (older ∪ (seen.map Frame.packetId).toFinset) := by
        ext m
        simp only [List.map_append, List.map_cons, List.map_nil, hid, Finset.mem_union,
          List.mem_toFinset, List.mem_append, List.mem_singleton, Finset.mem_insert]
        tauto
      by_cases hmem : d.frame ∈ seen
      · have hin : packetId.toNat ∈ older ∪ (seen.map Frame.packetId).toFinset := by
          rw [← hid]
          exact Finset.mem_union_right _ (List.mem_toFinset.mpr (List.mem_map_of_mem hmem))
        obtain ⟨err, e', hrun, hout, he'⟩ :=
          exists_run_again hinv hkey he hcarries (fun hfresh => hfresh.1 hin) d.now
        rw [← Finset.insert_eq_of_mem hin, ← hset] at he'
        obtain ⟨hrec, hbox⟩ := ih hseen' hrest hwithin he'
        simp only [receiveEach, hrun, queued, hout, List.drop_length]
        refine ⟨⟨fun hnew => absurd hmem hnew, fun _ => ⟨⟨err, rfl⟩, rfl⟩, hrec⟩, ?_⟩
        rw [hbox, hout]
        rfl
      · have hfresh : SlidingWindow.Fresh 128 (older ∪ (seen.map Frame.packetId).toFinset)
            packetId.toNat := by
          constructor
          · intro hin
            rcases Finset.mem_union.mp hin with hin | hin
            · exact absurd (holder _ hin) (Nat.not_lt.mpr hle)
            · obtain ⟨f, hf, heq⟩ := List.mem_map.mp (List.mem_toFinset.mp hin)
              have hsame := hinjective f d.frame (hseen f hf) hd (heq.trans hid.symm)
              exact hmem (hsame ▸ hf)
          · intro m hin
            rcases Finset.mem_union.mp hin with hin | hin
            · exact (holder m hin).trans_le (hle.trans (Nat.le_add_right _ _))
            · obtain ⟨f, hf, rfl⟩ := List.mem_map.mp (List.mem_toFinset.mp hin)
              rw [← hid]
              exact hwindow hmem f hf
        obtain ⟨e', hrun, hout, he'⟩ := exists_run_first hinv hkey he hcarries hfresh d.now
        rw [← hset] at he'
        obtain ⟨hrec, hbox⟩ := ih hseen' hrest hwithin he'
        simp only [receiveEach, hrun, queued, hout, List.drop_left]
        refine ⟨⟨fun _ => rfl, fun hold => absurd hold hmem, hrec⟩, ?_⟩
        rw [hbox, hout, List.flatMap_cons, List.append_assoc]

end Receiving

/-! ## From one engine to the other -/

/-- Every frame of a reachable engine that is up is handed over exactly once, on whatever
order of deliveries in which no first delivery comes 128 or more packet ids late. -/
theorem frames_delivered_exactly_once {ConnA ConnB : Type} {envA : Env ConnA} {envB : Env ConnB}
    {config : OpenVpnConfig} {a : ProtocolEngine ConnA} {b : ProtocolEngine ConnB}
    {tx rx : KeySlot} (hreach : Reachable envA config a) (hup : a.state = .connected)
    (hmss : a.mssFix = none) (hprimaryA : a.keyManager.primary = some tx)
    (hprimaryB : b.keyManager.primary = some rx) (hmirrored : Mirrored tx rx)
    (haead : envB.aead = envA.aead) (hinv : Inverts envA.aead) (items : List Outgoing)
    (hcount : tx.txPacketId.toNat + items.length < 2 ^ 32) (deliveries : List Delivery)
    (hfrom : ∀ d ∈ deliveries, d.frame ∈ (sendAll envA a items).1)
    (hwithin : WithinWindow [] deliveries) :
    ExactlyOnce [] deliveries (receiveEach envB b deliveries).1 ∧
      (receiveEach envB b deliveries).2.outbox =
        b.outbox ++ (receiveEach envB b deliveries).1.flatMap (·.2) := by
  have hkey : tx.keyId &&& 0x07 = tx.keyId := by
    rw [keyIdZero_of_reachable hreach tx hprimaryA]
    rfl
  obtain ⟨hframes, hsorted⟩ := sendAll_frames envA items
    ⟨.inl hup, hmss, hprimaryA⟩ hcount
  obtain ⟨history, hwindow, holder⟩ := hmirrored.window
  have hreceive : CanReceive b tx (AntiReplayWindow.new.acceptedSet history ∪
      (([] : List Frame).map Frame.packetId).toFinset) := by
    refine ⟨rx, hprimaryB, hmirrored.keyId, hmirrored.cipher, hmirrored.implicitIv, ?_⟩
    rw [hwindow]
    simpa using AntiReplayWindow.feed_new_refines history
  rw [← haead] at hframes hinv
  refine receiveEach_exactlyOnce hinv hkey hframes hsorted ?_ deliveries (by simp) hfrom hwithin
    hreceive
  intro m hm
  obtain ⟨seq, hseq, rfl⟩ : ∃ seq ∈ AntiReplayWindow.new.accepted history, seq.toNat = m := by
    simpa [AntiReplayWindow.acceptedSet] using hm
  exact holder seq hseq

theorem inverts_loopback : Inverts Loopback.aead := by
  intro suite key nonce aad plaintext ciphertext tag h
  obtain ⟨rfl, rfl⟩ : plaintext = ciphertext ∧ _ = tag := by
    simpa [Loopback.aead] using h
  simp [Loopback.aead]

/-- An IP packet, a ping and another IP packet. -/
def sampleItems : List Outgoing :=
  [.ip 0 ⟨Loopback.ipPacket, by decide, 0x45, _, rfl, by decide⟩, .ping 0,
    .ip 0 ⟨0x60 :: List.replicate 39 1, by decide, 0x60, _, rfl, by decide⟩]

/-- All keys on the loopback are equal, so a connected engine is its own peer. The last frame
comes first, and the first one twice. -/
theorem frames_delivered_exactly_once_reordered :
    ∃ e first ping last, Reachable Loopback.env {} e ∧
      (sendAll Loopback.env e sampleItems).1 = [first, ping, last] ∧
      ExactlyOnce [] [⟨0, last⟩, ⟨1, first⟩, ⟨2, first⟩, ⟨3, ping⟩]
        (receiveEach Loopback.env e [⟨0, last⟩, ⟨1, first⟩, ⟨2, first⟩, ⟨3, ping⟩]).1 := by
  obtain ⟨e, hreach, hcheck⟩ := Loopback.exists_connected (p := fun e =>
    e.state = .connected && e.mssFix = none &&
      (e.keyManager.primary.any fun slot => slot.rxCipher = slot.txCipher &&
        slot.rxImplicitIv = slot.txImplicitIv && slot.antiReplay = .new && slot.txPacketId = 1) &&
      (sendAll Loopback.env e sampleItems).1.length = 3 &&
      (sendAll Loopback.env e sampleItems).1.all (·.packetId < 128)) {} (by decide +kernel)
  simp only [Bool.and_eq_true, decide_eq_true_eq, Option.any_eq_true] at hcheck
  obtain ⟨⟨⟨⟨hup, hmss⟩, slot, hs, ⟨⟨hcipher, hiv⟩, hwindow⟩, hid⟩, hlen⟩, hall⟩ := hcheck
  obtain ⟨first, ping, last, hframes⟩ := List.length_eq_three.mp hlen
  rw [hframes] at hall
  have hmirrored : Mirrored slot slot :=
    ⟨rfl, hcipher, hiv, [], hwindow, by simp [AntiReplayWindow.accepted]⟩
  refine ⟨e, first, ping, last, hreach, hframes, ?_⟩
  refine (frames_delivered_exactly_once hreach hup hmss hs hs hmirrored rfl inverts_loopback
    sampleItems (by rw [hid]; decide) _ (by simp [hframes]) ?_).1
  simp only [List.all_cons, Bool.and_eq_true, decide_eq_true_eq] at hall
  obtain ⟨hfirst, hping, hlast, -⟩ := hall
  simp only [WithinWindow, List.nil_append, List.cons_append, List.mem_cons, List.not_mem_nil,
    or_false, forall_eq_or_imp, forall_eq, false_implies, implies_true, and_true, true_and]
  omega

end Tunnel

end VpnHub.Protocol
