import VpnHub.Program.Reliable
import Mathlib.Data.List.Infix

/-! # Specifications of the two queues

The receiver is related to the stream of payloads the sender has enqueued: what it has
moved is a prefix of the stream, and what it buffers belongs further ahead. -/

namespace VpnHub.Protocol

theorem toNat_add_one {x : UInt32} (h : x.toNat + 1 < 2 ^ 32) : (x + 1).toNat = x.toNat + 1 := by
  rw [UInt32.toNat_add]
  exact Nat.mod_eq_of_lt h

theorem concat_prefix {α : Type*} {l s : List α} {a : α} (h : l <+: s)
    (ha : s[l.length]? = some a) : l ++ [a] <+: s := by
  obtain ⟨t, rfl⟩ := h
  cases t with
  | nil => simp at ha
  | cons b t =>
      obtain rfl : b = a := by simpa using ha
      exact ⟨t, by simp⟩

namespace ReliableRecvQueue

/-- `stream` is what the sender has enqueued, `drained` what earlier calls of `drain_ready`
returned, and `ahead` how far above the next expected id buffered packets lie at least. -/
structure Tracks (stream drained : List Bytes) (ahead : ℕ) (q : ReliableRecvQueue) : Prop where
  moved : drained ++ q.readyStream <+: stream
  expected : q.nextExpectedId.toNat = (drained ++ q.readyStream).length
  buffered : ∀ k p, q.outOfOrder.find? k = some p →
    stream[k]? = some p ∧ q.nextExpectedId.toNat + ahead ≤ k

variable {stream drained : List Bytes} {q : ReliableRecvQueue}

theorem tracks_new : Tracks [] [] 1 new :=
  ⟨by simp [new], rfl, by simp [new]⟩

/-- A longer stream only adds payloads the receiver has not seen. -/
theorem Tracks.mono {ahead : ℕ} (h : q.Tracks stream drained ahead) (more : List Bytes) :
    q.Tracks (stream ++ more) drained ahead := by
  refine ⟨h.moved.trans (List.prefix_append _ _), h.expected, fun k p hk => ?_⟩
  obtain ⟨hs, hle⟩ := h.buffered k p hk
  have hlt := (List.getElem?_eq_some_iff.mp hs).1
  exact ⟨by rwa [List.getElem?_append_left hlt], hle⟩

/-- Appending the payload that belongs at the next expected id. -/
theorem Tracks.push {ahead : ℕ} {payload : Bytes} {outOfOrder : OrdMap ℕ Bytes}
    (h : q.Tracks stream drained ahead) (hlen : stream.length < 2 ^ 32)
    (hp : stream[q.nextExpectedId.toNat]? = some payload)
    (hsub : ∀ k p, outOfOrder.find? k = some p →
      stream[k]? = some p ∧ q.nextExpectedId.toNat + 1 ≤ k) :
    Tracks stream drained 0
      { q with
        outOfOrder := outOfOrder
        readyStream := q.readyStream ++ [payload]
        nextExpectedId := q.nextExpectedId + 1 } := by
  have hlt := (List.getElem?_eq_some_iff.mp hp).1
  have hnext : (q.nextExpectedId + 1).toNat = q.nextExpectedId.toNat + 1 :=
    toNat_add_one (by omega)
  refine ⟨?_, ?_, ?_⟩
  · rw [← List.append_assoc]
    exact concat_prefix h.moved (h.expected ▸ hp)
  · rw [hnext, h.expected]
    simp [Nat.add_assoc]
  · intro k p hk
    rw [hnext]
    exact hsub k p hk

/-- One turn of the drain loop. -/
theorem Tracks.drainOne {payload : Bytes} (h : q.Tracks stream drained 0)
    (hlen : stream.length < 2 ^ 32)
    (hfind : q.outOfOrder.find? q.nextExpectedId.toNat = some payload) :
    Tracks stream drained 0
      { q with
        outOfOrder := q.outOfOrder.erase q.nextExpectedId.toNat
        readyStream := q.readyStream ++ [payload]
        nextExpectedId := q.nextExpectedId + 1 } := by
  apply h.push hlen (h.buffered _ _ hfind).1
  intro k p hk
  rw [OrdMap.find?_erase] at hk
  split at hk
  · cases hk
  · rename_i hne
    obtain ⟨hs, hle⟩ := h.buffered k p hk
    exact ⟨hs, by omega⟩

/-- By induction on the turns left. The loop stops at the first id that is not buffered,
which is why everything left lies strictly ahead. -/
theorem drainContiguous_tracks (hlen : stream.length < 2 ^ 32) (turns : ℕ) :
    ∀ q : ReliableRecvQueue, q.Tracks stream drained 0 → q.outOfOrder.size ≤ turns →
      (drainContiguous turns q).Tracks stream drained 1 := by
  induction turns with
  | zero =>
      intro q h hsize
      refine ⟨h.moved, h.expected, fun k p hk => ?_⟩
      have hpos := OrdMap.size_erase_lt hk
      simp only [drainContiguous] at hpos
      omega
  | succ turns ih =>
      intro q h hsize
      rw [drainContiguous]
      cases hfind : q.outOfOrder.find? q.nextExpectedId.toNat with
      | none =>
          refine ⟨h.moved, h.expected, fun k p hk => ?_⟩
          obtain ⟨hs, hle⟩ := h.buffered k p hk
          have hne : q.nextExpectedId.toNat ≠ k := by
            intro he
            rw [he, hk] at hfind
            cases hfind
          exact ⟨hs, Nat.lt_of_le_of_ne hle hne⟩
      | some payload =>
          have hdec := OrdMap.size_erase_lt hfind
          apply ih _ (h.drainOne hlen hfind)
          change (q.outOfOrder.erase q.nextExpectedId.toNat).size ≤ turns
          omega

/-- Recording an acknowledgement touches nothing else. -/
theorem Tracks.pendingAcks {ahead : ℕ} (h : q.Tracks stream drained ahead)
    (acks : List UInt32) : Tracks stream drained ahead { q with pendingAcks := acks } :=
  ⟨h.moved, h.expected, h.buffered⟩

/-- The queue after `process_packet` has recorded the acknowledgement. -/
def recordAck (q : ReliableRecvQueue) (packetId : UInt32) : ReliableRecvQueue :=
  if q.pendingAcks.contains packetId then q
  else { q with pendingAcks := q.pendingAcks ++ [packetId] }

theorem recordAck_eq (q : ReliableRecvQueue) (packetId : UInt32) :
    ∃ acks, q.recordAck packetId = { q with pendingAcks := acks } ∧ packetId ∈ acks ∧
      (∀ a, a ∈ acks ↔ a ∈ q.pendingAcks ∨ a = packetId) := by
  by_cases h : packetId ∈ q.pendingAcks
  · refine ⟨q.pendingAcks, by simp [recordAck, h], h, fun a => ?_⟩
    simp only [iff_self_or]
    rintro rfl
    exact h
  · exact ⟨q.pendingAcks ++ [packetId], by simp [recordAck, h], by simp, by simp⟩

/-- Everything one call can do: ignore a duplicate, move the expected packet and what
follows it, refuse a packet for want of room, or buffer it. -/
theorem processPacket_cases (q : ReliableRecvQueue) (packetId : UInt32) (payload : Bytes) :
    (packetId < q.nextExpectedId ∧
      q.processPacket packetId payload = (.ok (), q.recordAck packetId)) ∨
    (packetId = q.nextExpectedId ∧
      q.processPacket packetId payload =
        (.ok (), drainContiguous q.outOfOrder.size
          { q.recordAck packetId with
            readyStream := q.readyStream ++ [payload]
            nextExpectedId := q.nextExpectedId + 1 })) ∨
    (q.nextExpectedId < packetId ∧ q.outOfOrder.size > 64 ∧
      q.processPacket packetId payload =
        (.error .reliableWindowOverflow, q.recordAck packetId)) ∨
    (q.nextExpectedId < packetId ∧ q.outOfOrder.size ≤ 64 ∧
      q.processPacket packetId payload =
        (.ok (), { q.recordAck packetId with
          outOfOrder := q.outOfOrder.insert packetId.toNat payload })) := by
  obtain ⟨acks, hack, -, -⟩ := recordAck_eq q packetId
  have hdef : q.processPacket packetId payload =
      if packetId < (q.recordAck packetId).nextExpectedId then (.ok (), q.recordAck packetId)
      else if packetId = (q.recordAck packetId).nextExpectedId then
        (.ok (), drainContiguous (q.recordAck packetId).outOfOrder.size
          { q.recordAck packetId with
            readyStream := (q.recordAck packetId).readyStream ++ [payload]
            nextExpectedId := (q.recordAck packetId).nextExpectedId + 1 })
      else if (q.recordAck packetId).outOfOrder.size > 64 then
        (.error .reliableWindowOverflow, q.recordAck packetId)
      else (.ok (), { q.recordAck packetId with
        outOfOrder := (q.recordAck packetId).outOfOrder.insert packetId.toNat payload }) := rfl
  rw [hdef, hack]
  dsimp only
  by_cases hlt : packetId < q.nextExpectedId
  · exact .inl ⟨hlt, if_pos hlt⟩
  · by_cases heq : packetId = q.nextExpectedId
    · refine .inr (.inl ⟨heq, ?_⟩)
      rw [if_neg hlt, if_pos heq]
    · have hgt : q.nextExpectedId < packetId := by
        rw [UInt32.lt_iff_toNat_lt] at hlt ⊢
        rw [← UInt32.toNat_inj] at heq
        omega
      by_cases hsize : q.outOfOrder.size > 64
      · refine .inr (.inr (.inl ⟨hgt, hsize, ?_⟩))
        rw [if_neg hlt, if_neg heq, if_pos hsize]
      · refine .inr (.inr (.inr ⟨hgt, by omega, ?_⟩))
        rw [if_neg hlt, if_neg heq, if_neg hsize]

/-- A packet ahead of a full reorder buffer is refused; its acknowledgement is recorded. -/
theorem processPacket_refused {packetId : UInt32} (hahead : q.nextExpectedId < packetId)
    (hfull : 64 < q.outOfOrder.size) (hnew : packetId ∉ q.pendingAcks) (payload : Bytes) :
    q.processPacket packetId payload = (.error .reliableWindowOverflow,
      { q with pendingAcks := q.pendingAcks ++ [packetId] }) := by
  have hack : q.recordAck packetId = { q with pendingAcks := q.pendingAcks ++ [packetId] } := by
    simp [recordAck, hnew]
  rw [← hack]
  rw [UInt32.lt_iff_toNat_lt] at hahead
  rcases q.processPacket_cases packetId payload with
    ⟨hless, -⟩ | ⟨hsame, -⟩ | ⟨-, -, hres⟩ | ⟨-, hroom, -⟩
  · rw [UInt32.lt_iff_toNat_lt] at hless
    omega
  · rw [hsame] at hahead
    omega
  · exact hres
  · omega

/-- A packet of the stream keeps the receiver on track, whether or not it is accepted. -/
theorem processPacket_tracks {packetId : UInt32} {payload : Bytes}
    (h : q.Tracks stream drained 1) (hlen : stream.length < 2 ^ 32)
    (hp : stream[packetId.toNat]? = some payload) :
    (q.processPacket packetId payload).2.Tracks stream drained 1 := by
  obtain ⟨acks, hack, -, -⟩ := recordAck_eq q packetId
  have hq : (q.recordAck packetId).Tracks stream drained 1 := hack ▸ h.pendingAcks acks
  rcases processPacket_cases q packetId payload with
    ⟨-, he⟩ | ⟨rfl, he⟩ | ⟨-, -, he⟩ | ⟨hgt, -, he⟩
  · rw [he]
    exact hq
  · rw [he, hack]
    exact drainContiguous_tracks hlen _ _
      ((h.pendingAcks acks).push hlen hp fun k p hk => h.buffered k p hk) le_rfl
  · rw [he]
    exact hq
  · rw [he, hack]
    refine ⟨h.moved, h.expected, fun k p hk => ?_⟩
    rw [OrdMap.find?_insert] at hk
    split at hk
    · rename_i hkey
      obtain rfl := hkey
      obtain rfl := Option.some.inj hk
      exact ⟨hp, UInt32.lt_iff_toNat_lt.mp hgt⟩
    · exact h.buffered k p hk

/-! ## Packets the receiver still has -/

/-- The packet has been moved to the ready stream or is waiting in the reorder buffer. -/
def Has (q : ReliableRecvQueue) (packetId : UInt32) : Prop :=
  packetId.toNat < q.nextExpectedId.toNat ∨ q.outOfOrder.find? packetId.toNat ≠ none

/-- Moving buffered packets to the ready stream loses none of them. The length bound rules
out that the expected id wraps round. -/
theorem drainContiguous_has (hlen : stream.length < 2 ^ 32) (turns : ℕ) :
    ∀ q : ReliableRecvQueue, q.Tracks stream drained 0 → ∀ packetId, q.Has packetId →
      (drainContiguous turns q).Has packetId := by
  induction turns with
  | zero => exact fun q _ packetId h => h
  | succ turns ih =>
      intro q h packetId hhas
      rw [drainContiguous]
      cases hfind : q.outOfOrder.find? q.nextExpectedId.toNat with
      | none => exact hhas
      | some payload =>
          obtain ⟨hs, -⟩ := h.buffered _ _ hfind
          have hlt := (List.getElem?_eq_some_iff.mp hs).1
          have hnext : (q.nextExpectedId + 1).toNat = q.nextExpectedId.toNat + 1 :=
            toNat_add_one (by omega)
          apply ih _ (h.drainOne hlen hfind)
          by_cases he : packetId.toNat = q.nextExpectedId.toNat
          · exact .inl (by simp only [hnext]; omega)
          · rcases hhas with hlow | hbuf
            · exact .inl (by simp only [hnext]; omega)
            · refine .inr ?_
              simp only [OrdMap.find?_erase]
              rwa [if_neg (Ne.symm he)]

/-- No call makes the receiver forget a packet it has. -/
theorem processPacket_has {packetId : UInt32} {payload : Bytes}
    (h : q.Tracks stream drained 1) (hlen : stream.length < 2 ^ 32)
    (hp : stream[packetId.toNat]? = some payload) {other : UInt32} (hhas : q.Has other) :
    (q.processPacket packetId payload).2.Has other := by
  obtain ⟨acks, hack, -, -⟩ := recordAck_eq q packetId
  rcases processPacket_cases q packetId payload with
    ⟨-, he⟩ | ⟨rfl, he⟩ | ⟨-, -, he⟩ | ⟨-, -, he⟩
  · rw [he, hack]
    exact hhas
  · rw [he, hack]
    apply drainContiguous_has hlen _ _
      ((h.pendingAcks acks).push hlen hp fun k p hk => h.buffered k p hk)
    have hlt := (List.getElem?_eq_some_iff.mp hp).1
    have hnext : (q.nextExpectedId + 1).toNat = q.nextExpectedId.toNat + 1 :=
      toNat_add_one (by omega)
    rcases hhas with hlow | hbuf
    · exact .inl (by simp only [hnext]; omega)
    · exact .inr hbuf
  · rw [he, hack]
    exact hhas
  · rw [he, hack]
    rcases hhas with hlow | hbuf
    · exact .inl hlow
    · refine .inr ?_
      simp only [OrdMap.find?_insert]
      split
      · simp
      · exact hbuf

/-- A packet that does not hit the full buffer is there after the call. -/
theorem processPacket_has_self {packetId : UInt32} {payload : Bytes}
    (h : q.Tracks stream drained 1) (hlen : stream.length < 2 ^ 32)
    (hp : stream[packetId.toNat]? = some payload)
    (hroom : packetId ≤ q.nextExpectedId ∨ q.outOfOrder.size ≤ 64 ∨
      q.outOfOrder.find? packetId.toNat ≠ none) :
    (q.processPacket packetId payload).2.Has packetId := by
  obtain ⟨acks, hack, -, -⟩ := recordAck_eq q packetId
  rcases processPacket_cases q packetId payload with
    ⟨hlt, -⟩ | ⟨rfl, he⟩ | ⟨hgt, hsize, -⟩ | ⟨hgt, -, he⟩
  · exact processPacket_has h hlen hp (.inl (UInt32.lt_iff_toNat_lt.mp hlt))
  · rw [he, hack]
    apply drainContiguous_has hlen _ _
      ((h.pendingAcks acks).push hlen hp fun k p hk => h.buffered k p hk)
    have hlt := (List.getElem?_eq_some_iff.mp hp).1
    exact .inl (by simp only [toNat_add_one (show q.nextExpectedId.toNat + 1 < 2 ^ 32 by omega)]
                   omega)
  · rcases hroom with hle | hsmall | hbuf
    · rw [UInt32.le_iff_toNat_le] at hle
      rw [UInt32.lt_iff_toNat_lt] at hgt
      omega
    · omega
    · exact processPacket_has h hlen hp (.inr hbuf)
  · rw [he, hack]
    refine .inr ?_
    simp [OrdMap.find?_insert]

end ReliableRecvQueue

namespace ReliableSendQueue

/-- What the network can learn from a queued packet. -/
def content (pkt : ReliablePacket) : UInt32 × Bytes := (pkt.packetId, pkt.payload)

/-- Opcode, key id and packet id of a queued packet, as its retransmissions have them. -/
def form (pkt : ReliablePacket) : Opcode × UInt8 × Option UInt32 :=
  (pkt.opcode, pkt.keyId, some pkt.packetId)

/-- Polling changes timers and counters only. -/
theorem pollLoop_map {β : Type} {f : ReliablePacket → β}
    (hf : ∀ (pkt : ReliablePacket) (count : UInt32) (rto : Duration) (last : Instant),
      f { pkt with retransmitCount := count, currentRto := rto, lastSentAt := last } = f pkt)
    (q : ReliableSendQueue) (now : Instant) (packets : List ReliablePacket) :
    (q.pollLoop now packets).2.map f = packets.map f := by
  induction packets with
  | nil => rfl
  | cons pkt packets ih =>
      simp only [pollLoop]
      split
      · split
        · rw [List.map_cons, List.map_cons, hf pkt]
        · rw [List.map_cons, List.map_cons, ih, hf pkt]
      · rw [List.map_cons, List.map_cons, ih]

theorem pollLoop_content (q : ReliableSendQueue) (now : Instant) (packets : List ReliablePacket) :
    (q.pollLoop now packets).2.map content = packets.map content :=
  pollLoop_map (fun _ _ _ _ => rfl) q now packets

theorem pollLoop_form (q : ReliableSendQueue) (now : Instant) (packets : List ReliablePacket) :
    (q.pollLoop now packets).2.map form = packets.map form :=
  pollLoop_map (fun _ _ _ _ => rfl) q now packets

/-! ### One poll -/

/-- The packet's timer has run out. -/
def expired (now : Instant) (pkt : ReliablePacket) : Bool := now - pkt.lastSentAt ≥ pkt.currentRto

/-- The retransmission of a packet. -/
def resend (q : ReliableSendQueue) (pkt : ReliablePacket) : ControlPacket where
  opcode := pkt.opcode
  keyId := pkt.keyId
  sessionId := q.sessionId
  ackArray := []
  remoteSessionId := q.remoteSessionId
  packetId := some pkt.packetId
  payload := pkt.payload

/-- A packet after a poll that goes through. -/
def polled (q : ReliableSendQueue) (now : Instant) (pkt : ReliablePacket) : ReliablePacket :=
  if expired now pkt then
    { pkt with
      retransmitCount := pkt.retransmitCount + 1
      currentRto := min (pkt.currentRto * 2) q.maxRto
      lastSentAt := now }
  else pkt

/-- The packet that makes a poll fail. -/
def Exhausted (q : ReliableSendQueue) (now : Instant) (pkt : ReliablePacket) : Prop :=
  expired now pkt = true ∧ pkt.retransmitCount + 1 > q.maxRetransmits

section Poll

variable {q : ReliableSendQueue} {now : Instant} {packets : List ReliablePacket}
  {pkt : ReliablePacket}

theorem pollLoop_cons_exhausted (h : q.Exhausted now pkt) :
    q.pollLoop now (pkt :: packets) = (.error (.handshakeTimeout (now - pkt.firstSentAt)),
      { pkt with retransmitCount := pkt.retransmitCount + 1 } :: packets) := by
  rw [pollLoop, if_pos (of_decide_eq_true h.1)]
  exact if_pos h.2

theorem pollLoop_cons_of_not (h : ¬ q.Exhausted now pkt) :
    q.pollLoop now (pkt :: packets) =
      ((q.pollLoop now packets).1.map (([pkt].filter (expired now)).map q.resend ++ ·),
        q.polled now pkt :: (q.pollLoop now packets).2) := by
  by_cases hexpired : expired now pkt = true
  · rw [pollLoop, if_pos (of_decide_eq_true hexpired), polled, if_pos hexpired]
    refine (if_neg fun hcount => h ⟨hexpired, hcount⟩).trans ?_
    simp [hexpired, resend]
  · have hwait : ¬ now - pkt.lastSentAt ≥ pkt.currentRto := fun h => hexpired (decide_eq_true h)
    rw [pollLoop, if_neg hwait, polled, if_neg hexpired]
    cases hrest : (q.pollLoop now packets).1 with
    | error err => simp [Except.map, ← hrest]
    | ok resends => simp [hexpired, Except.map, ← hrest]

/-- A poll that goes through returns what has expired, in order, and nothing is exhausted. -/
theorem pollLoop_of_ok {resends : List ControlPacket}
    (h : (q.pollLoop now packets).1 = .ok resends) :
    resends = (packets.filter (expired now)).map q.resend ∧
      (q.pollLoop now packets).2 = packets.map (q.polled now) ∧
      ∀ pkt ∈ packets, ¬ q.Exhausted now pkt := by
  induction packets generalizing resends with
  | nil =>
      obtain rfl : [] = resends := by simpa [pollLoop] using h
      exact ⟨rfl, rfl, by simp⟩
  | cons pkt packets ih =>
      by_cases hexhausted : q.Exhausted now pkt
      · rw [pollLoop_cons_exhausted hexhausted] at h
        cases h
      · rw [pollLoop_cons_of_not hexhausted] at h ⊢
        cases hrest : (q.pollLoop now packets).1 with
        | error err =>
            rw [hrest] at h
            cases h
        | ok rest =>
            rw [hrest] at h
            obtain rfl := Except.ok.inj h
            obtain ⟨hresends, hpackets, hnone⟩ := ih hrest
            refine ⟨?_, by rw [hpackets]; rfl, List.forall_mem_cons.mpr ⟨hexhausted, hnone⟩⟩
            change ([pkt].filter (expired now)).map q.resend ++ rest = _
            rw [hresends, ← List.map_append, ← List.filter_append]
            rfl

theorem pollLoop_error {err : ProtocolError} (h : (q.pollLoop now packets).1 = .error err) :
    (∃ elapsed, err = .handshakeTimeout elapsed) ∧ ∃ pkt ∈ packets, q.Exhausted now pkt := by
  induction packets with
  | nil => cases h
  | cons pkt packets ih =>
      by_cases hexhausted : q.Exhausted now pkt
      · rw [pollLoop_cons_exhausted hexhausted] at h
        exact ⟨⟨_, (Except.error.inj h).symm⟩, pkt, by simp, hexhausted⟩
      · rw [pollLoop_cons_of_not hexhausted] at h
        cases hrest : (q.pollLoop now packets).1 with
        | error err' =>
            rw [hrest] at h
            obtain rfl := Except.error.inj h
            obtain ⟨herr, pkt', hmem, hpkt⟩ := ih hrest
            exact ⟨herr, pkt', List.mem_cons_of_mem _ hmem, hpkt⟩
        | ok rest =>
            rw [hrest] at h
            cases h

end Poll

/-- Every retransmission is that of a queued packet, with its payload. -/
theorem pollLoop_resent (q : ReliableSendQueue) (now : Instant) (packets : List ReliablePacket)
    {resends : List ControlPacket} (h : (q.pollLoop now packets).1 = .ok resends) :
    ∀ cp ∈ resends, ∃ pkt ∈ packets, (cp.opcode, cp.keyId, cp.packetId) = form pkt ∧
      cp.payload = pkt.payload := by
  intro cp hcp
  rw [(pollLoop_of_ok h).1] at hcp
  obtain ⟨pkt, hpkt, rfl⟩ := List.mem_map.mp hcp
  exact ⟨pkt, (List.mem_filter.mp hpkt).1, rfl, rfl⟩

end ReliableSendQueue

end VpnHub.Protocol
