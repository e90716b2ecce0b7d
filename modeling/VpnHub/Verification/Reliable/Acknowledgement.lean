import VpnHub.Verification.Reliable.Delivery

/-! # Acknowledged packets

`process_packet` records the acknowledgement before it looks for room in the reorder
buffer, so an acknowledged packet is still there exactly as long as no packet has been
refused for want of room. -/

namespace VpnHub.Protocol.Channel

open Transition

/-- Every id the receiver has acknowledged, or is about to, is one it still has, and the
sender has only forgotten acknowledged ids. -/
structure AcksHonest (c : Channel) : Prop where
  consistent : Consistent c
  bounded : c.enqueued.length < 2 ^ 32
  has : ∀ packetId, packetId ∈ c.acked ∨ packetId ∈ c.receiver.pendingAcks →
    c.receiver.Has packetId
  forgotten : ∀ packetId : UInt32, packetId.toNat < c.enqueued.length →
    (∀ pkt ∈ c.sender.unacked, pkt.packetId ≠ packetId) → packetId ∈ c.acked

theorem acksHonest_new (sessionId : UInt64) (windowSize : ℕ) :
    AcksHonest (new sessionId windowSize) := by
  refine ⟨consistent_new _ _, by simp [new], ?_, by simp [new]⟩
  simp [new, ReliableRecvQueue.new]

/-- Having a packet means holding the payload enqueued under its id. -/
theorem kept_iff_has {c : Channel} (h : Consistent c) (packetId : UInt32) :
    c.Kept packetId ↔ c.receiver.Has packetId := by
  obtain ⟨rest, hrest⟩ := h.receiver.moved
  have hexp := h.receiver.expected
  constructor
  · rintro ⟨hsome, hmoved | hbuf⟩
    · left
      rw [← hmoved, ne_eq, List.getElem?_eq_none_iff] at hsome
      omega
    · right
      rwa [hbuf]
  · rintro (hlow | hbuf)
    · have heq : (c.drained ++ c.receiver.readyStream)[packetId.toNat]? =
          c.enqueued[packetId.toNat]? := by
        have hlt : packetId.toNat < (c.drained ++ c.receiver.readyStream).length := hexp ▸ hlow
        rw [← hrest, List.getElem?_append_left hlt]
      refine ⟨?_, .inl heq⟩
      rw [← heq, ne_eq, List.getElem?_eq_none_iff]
      omega
    · obtain ⟨payload, hfind⟩ := Option.ne_none_iff_exists'.mp hbuf
      have hs := (h.receiver.buffered _ _ hfind).1
      exact ⟨by simp [hs], .inr (hfind.trans hs.symm)⟩

/-- After the acknowledgement is recorded, the pending ids are the old ones and the
packet's own. -/
theorem mem_pendingAcks_processPacket {q : ReliableRecvQueue} {packetId : UInt32}
    {payload : Bytes} (a : UInt32) :
    a ∈ (q.processPacket packetId payload).2.pendingAcks ↔
      a ∈ q.pendingAcks ∨ a = packetId := by
  have hdrain (turns : ℕ) (q : ReliableRecvQueue) :
      (ReliableRecvQueue.drainContiguous turns q).pendingAcks = q.pendingAcks := by
    induction turns generalizing q with
    | zero => rfl
    | succ turns ih =>
        rw [ReliableRecvQueue.drainContiguous]
        split
        · rfl
        · exact ih _
  obtain ⟨acks, hack, -, hmem⟩ := q.recordAck_eq packetId
  rw [← hmem a]
  rcases q.processPacket_cases packetId payload with
    ⟨-, he⟩ | ⟨-, he⟩ | ⟨-, -, he⟩ | ⟨-, -, he⟩
  · rw [he, hack]
  · rw [he, hdrain, hack]
  · rw [he, hack]
  · rw [he, hack]

theorem content_ne {packets packets' : List ReliablePacket} {packetId : UInt32}
    (h : packets'.map ReliableSendQueue.content = packets.map ReliableSendQueue.content)
    (hne : ∀ pkt ∈ packets', pkt.packetId ≠ packetId) :
    ∀ pkt ∈ packets, pkt.packetId ≠ packetId := by
  intro pkt hpkt
  obtain ⟨pkt', hpkt', heq⟩ := List.mem_map.mp (h.symm ▸ List.mem_map_of_mem hpkt)
  have hid : pkt'.packetId = pkt.packetId := congrArg Prod.fst heq
  exact hid ▸ hne pkt' hpkt'

/-- One step under the guard: only a delivery can add a pending id, and then the packet
is kept because it found room. -/
theorem step_acksHonest {c c' : Channel} {a : Action} (hg : c.Genuine a) (hr : c.HasRoom a)
    (hs : c.step a = some c') (h : AcksHonest c) : AcksHonest c' := by
  cases a with
  | enqueue opcode keyId payload now =>
      have hlen : c.enqueued.length + 1 < 2 ^ 32 := hg
      rcases step_enqueue hs with rfl | ⟨pkt, hid, hpay, heq⟩
      · exact h
      · have hcons : Consistent c' :=
          step_consistent hs (by rw [heq]; simpa using hlen) h.consistent
        subst heq
        refine ⟨hcons, by simpa using hlen, h.has, fun packetId hlt hne => ?_⟩
        by_cases hold : packetId.toNat < c.enqueued.length
        · exact h.forgotten packetId hold fun p hp => hne p (List.mem_append_left _ hp)
        · have hnew : pkt.packetId = packetId := by
            rw [hid, ← UInt32.toNat_inj, h.consistent.next_id]
            simp only [List.length_append, List.length_singleton] at hlt
            omega
          exact absurd hnew (hne pkt (by simp))
  | processAcks acks =>
      have hcons : Consistent c' :=
        step_consistent hs (by obtain rfl := Option.some.inj hs; exact h.bounded) h.consistent
      obtain rfl := Option.some.inj hs
      refine ⟨hcons, h.bounded, h.has, fun packetId hlt hne => ?_⟩
      by_cases hin : packetId ∈ acks
      · exact hg packetId hin
      · refine h.forgotten packetId hlt fun pkt hpkt heq => ?_
        refine hne pkt (List.mem_filter.mpr ⟨hpkt, ?_⟩) heq
        simpa [heq] using hin
  | pollRetransmissions now =>
      obtain ⟨packets, resends, hcontent, -, rfl⟩ := step_poll hs
      exact ⟨step_consistent hs h.bounded h.consistent, h.bounded, h.has,
        fun packetId hlt hne => h.forgotten packetId hlt (content_ne hcontent hne)⟩
  | deliver packetId payload =>
      obtain ⟨hmem, rfl⟩ := step_deliver hs
      have hp := h.consistent.sent _ hmem
      refine ⟨step_consistent hs h.bounded h.consistent, h.bounded, ?_, h.forgotten⟩
      intro other hother
      rw [mem_pendingAcks_processPacket, ← or_assoc] at hother
      rcases hother with hold | rfl
      · exact ReliableRecvQueue.processPacket_has h.consistent.receiver h.bounded hp
          (h.has other hold)
      · exact ReliableRecvQueue.processPacket_has_self h.consistent.receiver h.bounded hp hr
  | drainReady =>
      have hcons : Consistent c' :=
        step_consistent hs (by obtain rfl := Option.some.inj hs; exact h.bounded) h.consistent
      obtain rfl := Option.some.inj hs
      exact ⟨hcons, h.bounded, h.has, h.forgotten⟩
  | drainAcks =>
      have hcons : Consistent c' :=
        step_consistent hs (by obtain rfl := Option.some.inj hs; exact h.bounded) h.consistent
      obtain rfl := Option.some.inj hs
      refine ⟨hcons, h.bounded, fun packetId hp => ?_, fun packetId hlt hne => ?_⟩
      · rcases hp with hp | hp
        · exact h.has packetId (List.mem_append.mp hp)
        · cases hp
      · exact List.mem_append_left _ (h.forgotten packetId hlt hne)

theorem run_acksHonest {sessionId : UInt64} {windowSize : ℕ} {actions : List Action}
    {c : Channel}
    (run : Run step (fun c a => c.Genuine a ∧ c.HasRoom a) (new sessionId windowSize) actions c) :
    AcksHonest c :=
  run.invariant (fun _ _ _ hg hs h => step_acksHonest hg.1 hg.2 hs h) (acksHonest_new _ _)

/-- A delivery that hits the full buffer is acknowledged by the next `drain_acks` and its
payload is gone. -/
theorem acked_lost_without_room {c c' : Channel} {packetId : UInt32} {payload : Bytes}
    (h : Consistent c) (hlen : c.enqueued.length < 2 ^ 32)
    (hs : c.step (.deliver packetId payload) = some c')
    (hfull : ¬ c.HasRoom (.deliver packetId payload)) :
    ∃ c'', c'.step .drainAcks = some c'' ∧ packetId ∈ c''.acked ∧ ¬ c''.Kept packetId := by
  simp only [HasRoom, not_or, UInt32.not_le, not_not] at hfull
  obtain ⟨hgt, hsize, hfind⟩ := hfull
  have hcons : Consistent c' :=
    step_consistent hs (by obtain ⟨-, rfl⟩ := step_deliver hs; exact hlen) h
  obtain ⟨c'', hdrain⟩ : ∃ c'', c'.step .drainAcks = some c'' := ⟨_, rfl⟩
  obtain ⟨hmem, rfl⟩ := step_deliver hs
  have hcons' : Consistent c'' :=
    step_consistent hdrain (by obtain rfl := Option.some.inj hdrain; exact hlen) hcons
  refine ⟨c'', hdrain, ?_, ?_⟩
  · obtain rfl := Option.some.inj hdrain
    exact List.mem_append_right _ ((mem_pendingAcks_processPacket _).mpr (.inr rfl))
  · rw [kept_iff_has hcons']
    obtain rfl := Option.some.inj hdrain
    obtain ⟨acks, hack, -, -⟩ := c.receiver.recordAck_eq packetId
    rcases c.receiver.processPacket_cases packetId payload with
      ⟨hlt, -⟩ | ⟨rfl, -⟩ | ⟨-, -, he⟩ | ⟨-, hsmall, -⟩
    · exact absurd (UInt32.lt_trans hlt hgt) (UInt32.lt_irrefl _)
    · exact absurd hgt (UInt32.lt_irrefl _)
    · simp only [he, hack, ReliableRecvQueue.drainAcks]
      rintro (hlow | hbuf)
      · exact absurd hlow (Nat.lt_asymm (UInt32.lt_iff_toNat_lt.mp hgt))
      · exact hbuf hfind
    · omega

/-- While no delivery hits the full reorder buffer, every acknowledged id and every id the
sender has forgotten is kept. The first delivery that does hit it is acknowledged and
lost. -/
theorem acked_kept_while_room (sessionId : UInt64) (actions : List Action) (c : Channel)
    (run : Run step (fun c a => c.Genuine a ∧ c.HasRoom a) (new sessionId 16) actions c) :
    (∀ packetId ∈ c.acked, c.Kept packetId) ∧
    (∀ packetId : UInt32, packetId.toNat < c.enqueued.length →
      (∀ pkt ∈ c.sender.unacked, pkt.packetId ≠ packetId) → c.Kept packetId) ∧
    (∀ packetId payload c', c.step (.deliver packetId payload) = some c' →
      ¬ c.HasRoom (.deliver packetId payload) →
      ∃ c'', c'.step .drainAcks = some c'' ∧ packetId ∈ c''.acked ∧ ¬ c''.Kept packetId) := by
  have h := run_acksHonest run
  have hkept := kept_iff_has h.consistent
  refine ⟨fun packetId hp => ?_, fun packetId hlt hne => ?_, fun packetId payload c' hs hfull => ?_⟩
  · exact (hkept _).mpr (h.has _ (.inl hp))
  · exact (hkept _).mpr (h.has _ (.inl (h.forgotten _ hlt hne)))
  · exact acked_lost_without_room h.consistent h.bounded hs hfull

theorem acked_kept_while_room_reordered :
    ∃ c, runList step (fun c a => c.Genuine a ∧ c.HasRoom a) (new 7 16) reordered = some c ∧
      c.acked = [2, 0, 1] ∧ ∀ packetId ∈ c.acked, c.Kept packetId := by
  have heval : ((runList step (fun c a => c.Genuine a ∧ c.HasRoom a) (new 7 16) reordered).any
      fun c => c.acked = [2, 0, 1]) = true := by
    decide +kernel
  rw [Option.any_eq_true] at heval
  obtain ⟨c, hrun, hacked⟩ := heval
  exact ⟨c, hrun, of_decide_eq_true hacked,
    (acked_kept_while_room 7 reordered c (run_of_runList hrun)).1⟩

/-- The first packet is lost and the next 66 are each delivered, acknowledged and forgotten
by the sender before another one is sent. -/
def overrun : List Action :=
  .enqueue .controlV1 0 [0] 0 ::
    (List.range 66).flatMap fun i =>
      [.enqueue .controlV1 0 [UInt8.ofNat (i + 1)] 0,
        .deliver (UInt32.ofNat (i + 1)) [UInt8.ofNat (i + 1)],
        .drainAcks, .processAcks [UInt32.ofNat (i + 1)]]

/-- Packet 66 finds 65 packets buffered. It is refused, acknowledged all the same, and
dropped by the sender. -/
theorem overrun_acked_lost :
    ∃ c, Run step Genuine (new 1 16) overrun c ∧ 66 ∈ c.acked ∧ ¬ c.Kept 66 ∧
      c.enqueued[66]? = some [66] ∧ ∀ pkt ∈ c.sender.unacked, pkt.packetId ≠ 66 := by
  have heval : ((runList step Genuine (new 1 16) overrun).any fun c =>
      decide (66 ∈ c.acked ∧ ¬ c.Kept 66 ∧ c.enqueued[66]? = some [66] ∧
        ∀ pkt ∈ c.sender.unacked, pkt.packetId ≠ 66)) = true := by
    decide +kernel
  obtain ⟨c, run, hc⟩ := exists_run_of_any heval
  exact ⟨c, run, of_decide_eq_true hc⟩

end VpnHub.Protocol.Channel
