import VpnHub.Model.Channel
import VpnHub.Verification.Reliable.Queues

/-! # Delivery over a lossy network

Every packet in flight, queued, buffered or moved carries the payload that was enqueued
under its id. -/

namespace VpnHub.Protocol.Channel

open Transition

/-- What ties sender, network and receiver to the list of enqueued payloads. -/
structure Consistent (c : Channel) : Prop where
  next_id : c.sender.nextPacketId.toNat = c.enqueued.length
  unacked : ∀ pkt ∈ c.sender.unacked, c.enqueued[pkt.packetId.toNat]? = some pkt.payload
  sent : ∀ e ∈ c.sent, c.enqueued[e.1.toNat]? = some e.2
  receiver : c.receiver.Tracks c.enqueued c.drained 1

theorem consistent_new (sessionId : UInt64) (windowSize : ℕ) :
    Consistent (new sessionId windowSize) :=
  ⟨rfl, by simp [new, ReliableSendQueue.new], by simp [new], ReliableRecvQueue.tracks_new⟩

/-! ## The effect of each action -/

/-- `enqueue` either refuses or hands a packet with the next id to the network. -/
theorem step_enqueue {c c' : Channel} {opcode : Opcode} {keyId : UInt8} {payload : Bytes}
    {now : Instant} (h : c.step (.enqueue opcode keyId payload now) = some c') :
    c' = c ∨ ∃ pkt : ReliablePacket,
      pkt.packetId = c.sender.nextPacketId ∧ pkt.payload = payload ∧
      c' = { c with
        sender := { c.sender with
          nextPacketId := c.sender.nextPacketId + 1, unacked := c.sender.unacked ++ [pkt] }
        sent := c.sent ++ [(c.sender.nextPacketId, payload)]
        enqueued := c.enqueued ++ [payload] } := by
  simp only [step, ReliableSendQueue.enqueue] at h
  split at h
  · rename_i heq
    split at heq
    · cases heq
    · cases heq
      exact .inr ⟨_, rfl, rfl, (Option.some.inj h).symm⟩
  · rename_i heq
    split at heq
    · cases heq
      exact .inl (Option.some.inj h).symm
    · cases heq

/-- Polling keeps the queued packets apart from their timers, and hands nothing to the
network but copies of them. -/
theorem step_poll {c c' : Channel} {now : Instant}
    (h : c.step (.pollRetransmissions now) = some c') :
    ∃ packets resends,
      packets.map ReliableSendQueue.content = c.sender.unacked.map ReliableSendQueue.content ∧
      (∀ e ∈ resends, e ∈ c.sender.unacked.map ReliableSendQueue.content) ∧
      c' = { c with
        sender := { c.sender with unacked := packets }, sent := c.sent ++ resends } := by
  have hcontent := c.sender.pollLoop_content now c.sender.unacked
  cases hloop : (c.sender.pollLoop now c.sender.unacked).1 with
  | error e =>
      refine ⟨_, [], hcontent, by simp, ?_⟩
      simpa [step, ReliableSendQueue.pollRetransmissions, hloop] using h.symm
  | ok resends =>
      refine ⟨_, resent resends, hcontent, ?_, ?_⟩
      · intro e he
        obtain ⟨cp, hcp, hpair⟩ := List.mem_filterMap.mp he
        obtain ⟨pkt, hpkt, hform, hpay⟩ := c.sender.pollLoop_resent now _ hloop cp hcp
        have hid : cp.packetId = some pkt.packetId := congrArg (·.2.2) hform
        refine List.mem_map.mpr ⟨pkt, hpkt, ?_⟩
        rw [hid, hpay] at hpair
        exact Option.some.inj hpair
      · simpa [step, ReliableSendQueue.pollRetransmissions, hloop] using h.symm

theorem step_deliver {c c' : Channel} {packetId : UInt32} {payload : Bytes}
    (h : c.step (.deliver packetId payload) = some c') :
    (packetId, payload) ∈ c.sent ∧
      c' = { c with receiver := (c.receiver.processPacket packetId payload).2 } := by
  simp only [step] at h
  split at h
  · rename_i hmem
    exact ⟨hmem, (Option.some.inj h).symm⟩
  · cases h

theorem enqueued_length_le {c c' : Channel} {a : Action} (h : c.step a = some c') :
    c.enqueued.length ≤ c'.enqueued.length := by
  cases a with
  | enqueue opcode keyId payload now =>
      rcases step_enqueue h with rfl | ⟨pkt, -, -, rfl⟩
      · exact le_rfl
      · simp
  | pollRetransmissions now =>
      obtain ⟨packets, resends, -, -, rfl⟩ := step_poll h
      exact le_rfl
  | deliver packetId payload =>
      obtain ⟨-, rfl⟩ := step_deliver h
      exact le_rfl
  | processAcks acks => obtain rfl := Option.some.inj h; exact le_rfl
  | drainReady => obtain rfl := Option.some.inj h; exact le_rfl
  | drainAcks => obtain rfl := Option.some.inj h; exact le_rfl

/-- Queued packets agree with the enqueued payloads when their contents do. -/
theorem Consistent.of_content {c : Channel} (h : Consistent c) {e : UInt32 × Bytes}
    (he : e ∈ c.sender.unacked.map ReliableSendQueue.content) :
    c.enqueued[e.1.toNat]? = some e.2 := by
  obtain ⟨pkt, hpkt, rfl⟩ := List.mem_map.mp he
  exact h.unacked pkt hpkt

theorem getElem?_concat_of_some {l : List Bytes} {i : ℕ} {a b : Bytes} (h : l[i]? = some a) :
    (l ++ [b])[i]? = some a := by
  rw [List.getElem?_append_left (List.getElem?_eq_some_iff.mp h).1]
  exact h

/-- Each action keeps the channel consistent as long as packet ids have not run out. -/
theorem step_consistent {c c' : Channel} {a : Action} (hs : c.step a = some c')
    (hlen : c'.enqueued.length < 2 ^ 32) (h : Consistent c) : Consistent c' := by
  cases a with
  | enqueue opcode keyId payload now =>
      rcases step_enqueue hs with rfl | ⟨pkt, hid, hpay, rfl⟩
      · exact h
      · simp only [List.length_append, List.length_singleton] at hlen
        have hnew : (c.enqueued ++ [payload])[c.sender.nextPacketId.toNat]? = some payload := by
          simp [h.next_id]
        refine ⟨?_, ?_, ?_, h.receiver.mono [payload]⟩
        · rw [toNat_add_one (by have := h.next_id; omega), h.next_id]
          simp
        · intro p hp
          rcases List.mem_append.mp hp with hp | hp
          · exact getElem?_concat_of_some (h.unacked p hp)
          · obtain rfl := List.mem_singleton.mp hp
            rw [hid, hpay]
            exact hnew
        · intro e he
          rcases List.mem_append.mp he with he | he
          · exact getElem?_concat_of_some (h.sent e he)
          · obtain rfl := List.mem_singleton.mp he
            exact hnew
  | processAcks acks =>
      obtain rfl := Option.some.inj hs
      exact ⟨h.next_id, fun p hp => h.unacked p (List.mem_of_mem_filter hp), h.sent, h.receiver⟩
  | pollRetransmissions now =>
      obtain ⟨packets, resends, hcontent, hresends, rfl⟩ := step_poll hs
      refine ⟨h.next_id, fun p hp => ?_, fun e he => ?_, h.receiver⟩
      · exact h.of_content (hcontent ▸ List.mem_map_of_mem hp)
      · rcases List.mem_append.mp he with he | he
        · exact h.sent e he
        · exact h.of_content (hresends e he)
  | deliver packetId payload =>
      obtain ⟨hmem, rfl⟩ := step_deliver hs
      exact ⟨h.next_id, h.unacked, h.sent,
        ReliableRecvQueue.processPacket_tracks h.receiver hlen (h.sent _ hmem)⟩
  | drainReady =>
      obtain rfl := Option.some.inj hs
      refine ⟨h.next_id, h.unacked, h.sent, ?_, ?_, h.receiver.buffered⟩
      · simpa [ReliableRecvQueue.drainReady] using h.receiver.moved
      · simpa [ReliableRecvQueue.drainReady] using h.receiver.expected
  | drainAcks =>
      obtain rfl := Option.some.inj hs
      exact ⟨h.next_id, h.unacked, h.sent, h.receiver.pendingAcks []⟩

/-- Whatever the guard, a run that enqueues fewer than `2 ^ 32` packets stays consistent. -/
theorem run_consistent {guard : Channel → Action → Prop} {sessionId : UInt64} {windowSize : ℕ}
    {actions : List Action} {c : Channel}
    (run : Run step guard (new sessionId windowSize) actions c)
    (hlen : c.enqueued.length < 2 ^ 32) : Consistent c := by
  have hall : c.enqueued.length < 2 ^ 32 → Consistent c := by
    refine run.invariant (I := fun c => c.enqueued.length < 2 ^ 32 → Consistent c) ?_
      (fun _ => consistent_new _ _)
    intro s a t _ hs ih ht
    exact step_consistent hs ht (ih ((enqueued_length_le hs).trans_lt ht))
  exact hall hlen

/-! ## In order, exactly once -/

/-- Along every schedule of both ends and every behaviour of the network, the chunks handed
to the upper layer are a prefix of what was enqueued, the next expected id counts the
payloads moved, and everything buffered lies strictly ahead. Acknowledgements are
unconstrained: `process_acks` may be called with any list. -/
theorem drained_prefix_enqueued (sessionId : UInt64) (windowSize : ℕ) (actions : List Action)
    (c : Channel) (run : Run step (fun _ _ => True) (new sessionId windowSize) actions c)
    (hlen : c.enqueued.length < 2 ^ 32) :
    c.drained <+: c.enqueued ∧
    c.receiver.nextExpectedId.toNat = (c.drained ++ c.receiver.readyStream).length ∧
    ∀ k payload, c.receiver.outOfOrder.find? k = some payload →
      c.receiver.nextExpectedId.toNat < k := by
  have h := (run_consistent run hlen).receiver
  exact ⟨(List.prefix_append _ _).trans h.moved, h.expected,
    fun k payload hk => (h.buffered k payload hk).2⟩

/-- Three packets sent, the last delivered first and twice, the first drained alone. -/
def reordered : List Action :=
  [.enqueue .controlV1 0 [10] 0, .enqueue .controlV1 0 [11] 0, .enqueue .controlV1 0 [12] 0,
    .deliver 2 [12], .deliver 2 [12], .deliver 0 [10], .drainReady, .pollRetransmissions 2000000000,
    .deliver 1 [11], .drainReady, .drainAcks, .processAcks [2, 0, 1]]

theorem drained_prefix_enqueued_reordered :
    ∃ c, runList step (fun _ _ => True) (new 7 16) reordered = some c ∧
      c.drained = [[10], [11], [12]] ∧ c.drained <+: c.enqueued := by
  have heval : ((runList step (fun _ _ => True) (new 7 16) reordered).any fun c =>
      c.enqueued.length = 3 ∧ c.drained = [[10], [11], [12]]) = true := by
    decide +kernel
  rw [Option.any_eq_true] at heval
  obtain ⟨c, hrun, hcheck⟩ := heval
  obtain ⟨hcount, hdrained⟩ := of_decide_eq_true hcheck
  exact ⟨c, hrun, hdrained,
    (drained_prefix_enqueued 7 16 reordered c (run_of_runList hrun) (by simp [hcount])).1⟩

end VpnHub.Protocol.Channel
