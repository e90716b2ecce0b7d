import Mathlib.Data.List.Forall2
import VpnHub.Model.SendQueueRuns
import VpnHub.Verification.Reliable.Queues

/-! The retransmission schedule: polls and deadlines agree on what is due, timeouts stay in their
bounds, and a packet is given up after its last retransmission as long as its counter does not
wrap round. -/

namespace VpnHub.Protocol

variable {pkt pkt' : ReliablePacket} {q : ReliableSendQueue} {now : Instant}
  {packets : List ReliablePacket}

/-- The same packet later on: its timeout has not gone down. -/
structure ReliablePacket.Continues (pkt pkt' : ReliablePacket) : Prop where
  packetId : pkt'.packetId = pkt.packetId
  opcode : pkt'.opcode = pkt.opcode
  keyId : pkt'.keyId = pkt.keyId
  payload : pkt'.payload = pkt.payload
  firstSentAt : pkt'.firstSentAt = pkt.firstSentAt
  currentRto : pkt.currentRto ≤ pkt'.currentRto

namespace ReliableSendQueue

/-- Every timeout is at least the initial one and at most the largest. -/
structure WellTimed (q : ReliableSendQueue) : Prop where
  positive : 0 < q.initialRto
  ordered : q.initialRto ≤ q.maxRto
  bounded : ∀ pkt ∈ q.unacked, q.initialRto ≤ pkt.currentRto ∧ pkt.currentRto ≤ q.maxRto

/-- No operation lowers the timeout of a packet that stays in the queue. -/
def KeepsTimeouts (q : ReliableSendQueue) : QueueOp → Prop
  | .enqueue opcode keyId payload now =>
    q.unacked <+: (q.step (.enqueue opcode keyId payload now)).unacked
  | .processAcks acks => (q.step (.processAcks acks)).unacked.Sublist q.unacked
  | .pollRetransmissions now =>
    List.Forall₂ ReliablePacket.Continues q.unacked (q.step (.pollRetransmissions now)).unacked

/-- What one poll makes of a packet. -/
inductive PolledTo (q : ReliableSendQueue) (now : Instant) (pkt : ReliablePacket) :
    ReliablePacket → Prop where
  | kept : PolledTo q now pkt pkt
  | exhausted (h : q.Exhausted now pkt) :
      PolledTo q now pkt { pkt with retransmitCount := pkt.retransmitCount + 1 }
  | returned (h : expired now pkt = true) :
      PolledTo q now pkt { pkt with
        retransmitCount := pkt.retransmitCount + 1
        currentRto := min (pkt.currentRto * 2) q.maxRto
        lastSentAt := now }

theorem polledTo_polled (q : ReliableSendQueue) (now : Instant) (pkt : ReliablePacket) :
    q.PolledTo now pkt (q.polled now pkt) := by
  unfold polled
  split
  · exact .returned ‹_›
  · exact .kept

theorem polledTo_pollLoop (q : ReliableSendQueue) (now : Instant) (packets : List ReliablePacket) :
    List.Forall₂ (q.PolledTo now) packets (q.pollLoop now packets).2 := by
  induction packets with
  | nil => exact .nil
  | cons pkt packets ih =>
      by_cases h : q.Exhausted now pkt
      · rw [pollLoop_cons_exhausted h]
        exact .cons (.exhausted h) (List.forall₂_same.mpr fun _ _ => .kept)
      · rw [pollLoop_cons_of_not h]
        exact .cons (q.polledTo_polled now pkt) ih

/-! ## Timeouts -/

theorem PolledTo.continues (h : q.PolledTo now pkt pkt') (hmax : pkt.currentRto ≤ q.maxRto) :
    pkt.Continues pkt' := by
  cases h with
  | kept => exact ⟨rfl, rfl, rfl, rfl, rfl, le_refl _⟩
  | exhausted h => exact ⟨rfl, rfl, rfl, rfl, rfl, le_refl _⟩
  | returned h =>
      refine ⟨rfl, rfl, rfl, rfl, rfl, le_min ?_ hmax⟩
      exact Nat.le_mul_of_pos_right _ Nat.two_pos

theorem PolledTo.currentRto_le (h : q.PolledTo now pkt pkt') (hmax : pkt.currentRto ≤ q.maxRto) :
    pkt'.currentRto ≤ q.maxRto := by
  cases h with
  | kept => exact hmax
  | exhausted h => exact hmax
  | returned h => exact min_le_right _ _

theorem wellTimed_new (sessionId : UInt64) (windowSize : ℕ) :
    (new sessionId windowSize).WellTimed :=
  ⟨show 0 < 1500000000 by decide, show 1500000000 ≤ 10000000000 by decide, by simp [new]⟩

theorem exists_of_forall₂ {α β : Type} {R : α → β → Prop} {l : List α} {l' : List β}
    (h : List.Forall₂ R l l') {b : β} (hb : b ∈ l') : ∃ a ∈ l, R a b := by
  induction h with
  | nil => cases hb
  | cons hfirst _ ih =>
      rcases List.mem_cons.mp hb with rfl | hb
      · exact ⟨_, by simp, hfirst⟩
      · obtain ⟨a, ha, hrel⟩ := ih hb
        exact ⟨a, List.mem_cons_of_mem _ ha, hrel⟩

theorem WellTimed.poll (h : q.WellTimed) (now : Instant) :
    (q.pollRetransmissions now).2.WellTimed := by
  refine ⟨h.positive, h.ordered, fun pkt' hpkt' => ?_⟩
  obtain ⟨pkt, hpkt, hpolled⟩ := exists_of_forall₂ (q.polledTo_pollLoop now q.unacked) hpkt'
  obtain ⟨hlow, hhigh⟩ := h.bounded pkt hpkt
  exact ⟨hlow.trans (hpolled.continues hhigh).currentRto, hpolled.currentRto_le hhigh⟩

theorem WellTimed.processAcks (h : q.WellTimed) (acks : List UInt32) :
    (q.processAcks acks).2.WellTimed :=
  ⟨h.positive, h.ordered, fun pkt hpkt => h.bounded pkt (List.mem_filter.mp hpkt).1⟩

theorem WellTimed.enqueue (h : q.WellTimed) (opcode : Opcode) (keyId : UInt8) (payload : Bytes)
    (now : Instant) : (q.enqueue opcode keyId payload now).2.WellTimed := by
  unfold ReliableSendQueue.enqueue
  split
  · exact h
  · refine ⟨h.positive, h.ordered, fun pkt hpkt => ?_⟩
    rcases List.mem_append.mp hpkt with hpkt | hpkt
    · exact h.bounded pkt hpkt
    · obtain rfl := List.mem_singleton.mp hpkt
      exact ⟨le_refl _, h.ordered⟩

theorem WellTimed.step (h : q.WellTimed) (op : QueueOp) : (q.step op).WellTimed := by
  cases op with
  | enqueue opcode keyId payload now => exact h.enqueue opcode keyId payload now
  | processAcks acks => exact h.processAcks acks
  | pollRetransmissions now => exact h.poll now

theorem WellTimed.keepsTimeouts (h : q.WellTimed) (op : QueueOp) : q.KeepsTimeouts op := by
  cases op with
  | enqueue opcode keyId payload now =>
      change q.unacked <+: (q.enqueue opcode keyId payload now).2.unacked
      unfold ReliableSendQueue.enqueue
      split
      · exact List.prefix_rfl
      · exact List.prefix_append _ _
  | processAcks acks => exact List.filter_sublist
  | pollRetransmissions now =>
      have hpolled := q.polledTo_pollLoop now q.unacked
      have hlength := hpolled.length_eq
      refine List.forall₂_iff_zip.mpr ⟨hlength, fun hmem => ?_⟩
      exact (List.forall₂_zip hpolled hmem).continues (h.bounded _ (List.of_mem_zip hmem).1).2

/-! ## Deadlines -/

theorem le_sub_iff {a b c : ℕ} (h : 0 < c) : c ≤ a - b ↔ b + c ≤ a := by omega

theorem expired_iff (h : 0 < pkt.currentRto) : expired now pkt = true ↔ pkt.deadline ≤ now :=
  decide_eq_true_iff.trans (le_sub_iff h)

theorem WellTimed.expired_iff (h : q.WellTimed) (hpkt : pkt ∈ q.unacked) :
    expired now pkt = true ↔ pkt.deadline ≤ now :=
  ReliableSendQueue.expired_iff (h.positive.trans_le (h.bounded pkt hpkt).1)

theorem lt_nearestDeadline_iff (q : ReliableSendQueue) (now : Instant) :
    (∀ d ∈ q.nearestDeadline, now < d) ↔ ∀ pkt ∈ q.unacked, now < pkt.deadline := by
  unfold nearestDeadline
  constructor
  · intro h pkt hpkt
    have hmem : pkt.deadline ∈ q.unacked.map fun pkt => pkt.lastSentAt + pkt.currentRto :=
      List.mem_map_of_mem hpkt
    cases hmin : (q.unacked.map fun pkt => pkt.lastSentAt + pkt.currentRto).min? with
    | none =>
        rw [List.min?_eq_none_iff.mp hmin] at hmem
        cases hmem
    | some d => exact (h d hmin).trans_le ((List.min?_eq_some_iff.mp hmin).2 _ hmem)
  · intro h d hd
    obtain ⟨pkt, hpkt, rfl⟩ := List.mem_map.mp (List.min?_eq_some_iff.mp hd).1
    exact h pkt hpkt

theorem polled_of_waiting (h : expired now pkt = false) : q.polled now pkt = pkt := by
  rw [polled, if_neg (by simp [h])]

/-- Nothing is returned and nothing changes while no packet has expired. -/
theorem poll_of_waiting (h : ∀ pkt ∈ q.unacked, expired now pkt = false) :
    q.pollRetransmissions now = (.ok [], q) := by
  cases hloop : (q.pollLoop now q.unacked).1 with
  | error err =>
      obtain ⟨-, pkt, hpkt, hexpired, -⟩ := pollLoop_error hloop
      rw [h pkt hpkt] at hexpired
      cases hexpired
  | ok resends =>
      obtain ⟨hresends, hunacked, -⟩ := pollLoop_of_ok hloop
      have hnone : q.unacked.filter (expired now) = [] :=
        List.filter_eq_nil_iff.mpr fun pkt hpkt => by simp [h pkt hpkt]
      have hsame : q.unacked.map (q.polled now) = q.unacked :=
        (List.map_congr_left fun pkt hpkt => polled_of_waiting (h pkt hpkt)).trans (List.map_id _)
      rw [hnone] at hresends
      rw [hsame] at hunacked
      unfold pollRetransmissions
      simp only [hloop, hresends, hunacked, List.map_nil]

/-- Before the nearest deadline a poll has nothing to do. -/
theorem WellTimed.poll_of_lt (h : q.WellTimed) (hnow : ∀ d ∈ q.nearestDeadline, now < d) :
    q.pollRetransmissions now = (.ok [], q) := by
  refine poll_of_waiting fun pkt hpkt => ?_
  rw [← Bool.not_eq_true, h.expired_iff hpkt, not_le]
  exact (q.lt_nearestDeadline_iff now).mp hnow pkt hpkt

/-- What one state promises about the polls and operations that may come next. -/
structure Schedule (q : ReliableSendQueue) : Prop where
  idle_iff : ∀ now, (q.pollRetransmissions now).1 = .ok [] ↔ ∀ d ∈ q.nearestDeadline, now < d
  lists_due : ∀ now resends, (q.pollRetransmissions now).1 = .ok resends →
    resends = (q.unacked.filter (·.deadline ≤ now)).map q.resend
  again : ∀ now resends, (q.pollRetransmissions now).1 = .ok resends →
    ((q.pollRetransmissions now).2.pollRetransmissions now).1 = .ok []
  bounded : ∀ pkt ∈ q.unacked, q.initialRto ≤ pkt.currentRto ∧ pkt.currentRto ≤ q.maxRto
  keeps : ∀ op, q.KeepsTimeouts op

theorem WellTimed.filter_expired (h : q.WellTimed) (now : Instant) :
    q.unacked.filter (expired now) = q.unacked.filter (·.deadline ≤ now) := by
  refine List.filter_congr fun pkt hpkt => ?_
  rw [Bool.eq_iff_iff, h.expired_iff hpkt, decide_eq_true_iff]

theorem not_expired_polled (hrto : 0 < pkt.currentRto) (hmax : 0 < q.maxRto) :
    expired now (q.polled now pkt) = false := by
  unfold polled
  by_cases hexpired : expired now pkt = true
  · rw [if_pos hexpired, ← Bool.not_eq_true, expired_iff, not_le]
    · exact Nat.lt_add_of_pos_right (lt_min (Nat.mul_pos hrto Nat.two_pos) hmax)
    · exact lt_min (Nat.mul_pos hrto Nat.two_pos) hmax
  · rw [if_neg hexpired]
    exact Bool.not_eq_true _ ▸ hexpired

theorem WellTimed.schedule (h : q.WellTimed) : q.Schedule := by
  refine ⟨fun now => ⟨fun hpoll => ?_, fun hnow => ?_⟩, fun now resends hpoll => ?_,
    fun now resends hpoll => ?_, h.bounded, h.keepsTimeouts⟩
  · obtain ⟨hresends, -, -⟩ := pollLoop_of_ok hpoll
    rw [h.filter_expired, eq_comm, List.map_eq_nil_iff, List.filter_eq_nil_iff] at hresends
    refine (q.lt_nearestDeadline_iff now).mpr fun pkt hpkt => ?_
    simpa using hresends pkt hpkt
  · exact congrArg Prod.fst (h.poll_of_lt hnow)
  · rw [← h.filter_expired]
    exact (pollLoop_of_ok hpoll).1
  · have hunacked : (q.pollRetransmissions now).2.unacked = q.unacked.map (q.polled now) :=
      (pollLoop_of_ok hpoll).2.1
    refine congrArg Prod.fst (poll_of_waiting fun pkt hpkt => ?_)
    rw [hunacked] at hpkt
    obtain ⟨before, hbefore, rfl⟩ := List.mem_map.mp hpkt
    exact not_expired_polled (h.positive.trans_le (h.bounded before hbefore).1)
      (h.positive.trans_le h.ordered)

end ReliableSendQueue

/-! ## Counting -/

namespace QueueHistory

open ReliableSendQueue

variable {h h' : QueueHistory} {record : SentPacket} {sent : List SentPacket}

/-- The packet is still what it was queued as. -/
structure Original (pkt : ReliablePacket) (record : SentPacket) : Prop where
  packetId : pkt.packetId = record.packetId
  opcode : pkt.opcode = record.opcode
  payload : pkt.payload = record.payload

/-- The counter of a packet has counted every time that it was returned. -/
structure Counted (maxRetransmits : UInt32) (pkt : ReliablePacket) (record : SentPacket) :
    Prop where
  counted : record.returned ≤ pkt.retransmitCount.toNat
  limited : record.returned ≤ maxRetransmits.toNat

theorem forall₂_pollLoop {R R' : ReliablePacket → SentPacket → Prop}
    (hstep : ∀ pkt ∈ packets, ∀ pkt' record, q.PolledTo now pkt pkt' → R pkt record →
      R' pkt' record)
    (hall : List.Forall₂ R packets sent) :
    List.Forall₂ R' (q.pollLoop now packets).2 sent := by
  have hpolled := q.polledTo_pollLoop now packets
  revert hpolled
  generalize (q.pollLoop now packets).2 = packets'
  intro hpolled
  induction hall generalizing packets' with
  | nil =>
      cases hpolled
      exact .nil
  | cons hfirst _ ih =>
      cases hpolled with
      | cons hpkt hrest =>
          exact .cons (hstep _ (by simp) _ _ hpkt hfirst)
            (ih (fun pkt hmem => hstep pkt (List.mem_cons_of_mem _ hmem)) _ hrest)

theorem forall₂_returnDue {R R' : ReliablePacket → SentPacket → Prop}
    (hdue : ∀ pkt ∈ packets, ∀ record, pkt.deadline ≤ now → R pkt record →
      R' (q.polled now pkt) { record with returned := record.returned + 1 })
    (hwait : ∀ pkt ∈ packets, ∀ record, ¬ pkt.deadline ≤ now → R pkt record →
      R' (q.polled now pkt) record)
    (hall : List.Forall₂ R packets sent) :
    List.Forall₂ R' (packets.map (q.polled now)) (returnDue now packets sent) := by
  induction hall with
  | nil => exact .nil
  | cons hfirst _ ih =>
      refine .cons ?_ (ih (fun pkt hmem => hdue pkt (List.mem_cons_of_mem _ hmem))
        fun pkt hmem => hwait pkt (List.mem_cons_of_mem _ hmem))
      dsimp only
      split
      · exact hdue _ (by simp) _ ‹_› hfirst
      · exact hwait _ (by simp) _ ‹_› hfirst

/-- What every operation keeps about a packet and its record holds of all of them after a step. -/
theorem forall₂_step {R : ReliablePacket → SentPacket → Prop} {op : QueueOp}
    (hstep : h.step op = some h') (hall : List.Forall₂ R h.queue.unacked h.sent)
    (horiginal : ∀ pkt record, R pkt record → Original pkt record)
    (hnew : ∀ packetId opcode keyId payload now rto,
      R ⟨packetId, opcode, keyId, payload, now, now, 0, rto⟩ ⟨packetId, opcode, payload, 0⟩)
    (hpoll : ∀ now, op = .pollRetransmissions now → ∀ pkt ∈ h.queue.unacked, ∀ pkt' record,
      h.queue.PolledTo now pkt pkt' → R pkt record → R pkt' record)
    (hreturn : ∀ now, op = .pollRetransmissions now → ∀ pkt ∈ h.queue.unacked, ∀ record,
      pkt.deadline ≤ now → ¬ h.queue.Exhausted now pkt → R pkt record →
        R (h.queue.polled now pkt) { record with returned := record.returned + 1 }) :
    List.Forall₂ R h'.queue.unacked h'.sent := by
  obtain rfl := Option.some.inj hstep
  cases op with
  | enqueue opcode keyId payload now =>
      dsimp only [ReliableSendQueue.step, ReliableSendQueue.enqueue]
      split
      · exact hall
      · exact List.rel_append hall (.cons (hnew _ _ _ _ _ _) .nil)
  | processAcks acks =>
      refine List.rel_filter (fun pkt record hrel => ?_) hall
      dsimp only
      rw [(horiginal pkt record hrel).packetId]
  | pollRetransmissions now =>
      have hpoll := hpoll now rfl
      cases hresult : (h.queue.pollRetransmissions now).1 with
      | error err =>
          simp only [hresult]
          exact forall₂_pollLoop hpoll hall
      | ok resends =>
          obtain ⟨-, hunacked, hnone⟩ := pollLoop_of_ok hresult
          have hqueue : (h.queue.step (.pollRetransmissions now)).unacked =
              h.queue.unacked.map (h.queue.polled now) := hunacked
          simp only [hresult, hqueue]
          exact forall₂_returnDue
            (fun pkt hpkt record hdue hrel =>
              hreturn now rfl pkt hpkt record hdue (hnone pkt hpkt) hrel)
            (fun pkt hpkt record _ hrel =>
              hpoll pkt hpkt _ record (polledTo_polled _ now pkt) hrel)
            hall

theorem Original.polledTo (horiginal : Original pkt record) (hpolled : q.PolledTo now pkt pkt') :
    Original pkt' record := by
  cases hpolled with
  | kept => exact horiginal
  | exhausted h => exact ⟨horiginal.packetId, horiginal.opcode, horiginal.payload⟩
  | returned h => exact ⟨horiginal.packetId, horiginal.opcode, horiginal.payload⟩

theorem Original.returned (horiginal : Original pkt record) (q : ReliableSendQueue)
    (now : Instant) :
    Original (q.polled now pkt) { record with returned := record.returned + 1 } := by
  have hpolled := horiginal.polledTo (q.polledTo_polled now pkt)
  exact ⟨hpolled.packetId, hpolled.opcode, hpolled.payload⟩

theorem original_step {op : QueueOp} (hstep : h.step op = some h')
    (hall : List.Forall₂ Original h.queue.unacked h.sent) :
    List.Forall₂ Original h'.queue.unacked h'.sent :=
  forall₂_step hstep hall (fun _ _ h => h) (fun _ _ _ _ _ _ => ⟨rfl, rfl, rfl⟩)
    (fun _ _ _ _ _ _ hpolled h => h.polledTo hpolled) fun now _ _ _ _ _ _ h => h.returned _ now

theorem Counted.polledTo {maxRetransmits : UInt32} (hcounted : Counted maxRetransmits pkt record)
    (hpolled : q.PolledTo now pkt pkt')
    (hfit : expired now pkt = true → pkt.retransmitCount.toNat + 1 < 2 ^ 32) :
    Counted maxRetransmits pkt' record := by
  have hup : expired now pkt = true → record.returned ≤ (pkt.retransmitCount + 1).toNat := by
    intro hexpired
    rw [toNat_add_one (hfit hexpired)]
    exact hcounted.counted.trans (Nat.le_succ _)
  cases hpolled with
  | kept => exact hcounted
  | exhausted h => exact ⟨hup h.1, hcounted.limited⟩
  | returned h => exact ⟨hup h, hcounted.limited⟩

theorem Counted.returned (hcounted : Counted q.maxRetransmits pkt record)
    (hexpired : expired now pkt = true) (hleft : ¬ q.Exhausted now pkt)
    (hfit : pkt.retransmitCount.toNat + 1 < 2 ^ 32) :
    Counted q.maxRetransmits (q.polled now pkt)
      { record with returned := record.returned + 1 } := by
  have hcount : (q.polled now pkt).retransmitCount.toNat = pkt.retransmitCount.toNat + 1 := by
    rw [polled, if_pos hexpired]
    exact toNat_add_one hfit
  have hmax : pkt.retransmitCount.toNat + 1 ≤ q.maxRetransmits.toNat := by
    rw [← toNat_add_one hfit, ← UInt32.le_iff_toNat_le]
    exact UInt32.not_lt.mp fun hgt => hleft ⟨hexpired, hgt⟩
  refine ⟨?_, (Nat.succ_le_succ hcounted.counted).trans hmax⟩
  rw [hcount]
  exact Nat.succ_le_succ hcounted.counted

theorem counted_step {op : QueueOp} (hstep : h.step op = some h') (hfits : h.CountersFit op)
    (htimed : h.queue.WellTimed)
    (hall : List.Forall₂ (fun pkt record => Original pkt record ∧
      Counted h.queue.maxRetransmits pkt record) h.queue.unacked h.sent) :
    List.Forall₂ (fun pkt record => Original pkt record ∧
      Counted h.queue.maxRetransmits pkt record) h'.queue.unacked h'.sent := by
  refine forall₂_step hstep hall (fun _ _ h => h.1)
    (fun _ _ _ _ _ _ => ⟨⟨rfl, rfl, rfl⟩, Nat.zero_le _, Nat.zero_le _⟩) ?_ ?_
  · rintro now rfl pkt hpkt pkt' record hpolled ⟨horiginal, hcounted⟩
    refine ⟨horiginal.polledTo hpolled, hcounted.polledTo hpolled fun hexpired => ?_⟩
    exact hfits pkt hpkt ((htimed.expired_iff hpkt).mp hexpired)
  · rintro now rfl pkt hpkt record hdue hleft ⟨horiginal, hcounted⟩
    exact ⟨horiginal.returned _ now,
      hcounted.returned ((htimed.expired_iff hpkt).mpr hdue) hleft (hfits pkt hpkt hdue)⟩

/-! ## Runs -/

/-- The packet has been returned at most as often as the queue allows, and once it has, the next
time it is due ends in a timeout. -/
structure Limited (h : QueueHistory) (pkt : ReliablePacket) (record : SentPacket) : Prop where
  returned_le : record.returned ≤ h.queue.maxRetransmits.toNat
  given_up : record.returned = h.queue.maxRetransmits.toNat → ∀ now, pkt.deadline ≤ now →
    h.CountersFit (.pollRetransmissions now) →
      ∃ elapsed, (h.queue.pollRetransmissions now).1 = .error (.handshakeTimeout elapsed)

theorem Counted.limited_of_mem (hcounted : Counted h.queue.maxRetransmits pkt record)
    (htimed : h.queue.WellTimed) (hpkt : pkt ∈ h.queue.unacked) : h.Limited pkt record := by
  refine ⟨hcounted.limited, fun hall now hdue hfits => ?_⟩
  have hexhausted : h.queue.Exhausted now pkt := by
    refine ⟨(htimed.expired_iff hpkt).mpr hdue, UInt32.lt_iff_toNat_lt.mpr ?_⟩
    rw [toNat_add_one (hfits pkt hpkt hdue), ← hall]
    exact Nat.lt_succ_of_le hcounted.counted
  cases hresult : (h.queue.pollRetransmissions now).1 with
  | error err =>
      obtain ⟨⟨elapsed, rfl⟩, -⟩ := pollLoop_error hresult
      exact ⟨elapsed, rfl⟩
  | ok resends => exact absurd hexhausted ((pollLoop_of_ok hresult).2.2 pkt hpkt)

theorem maxRetransmits_step (q : ReliableSendQueue) (op : QueueOp) :
    (q.step op).maxRetransmits = q.maxRetransmits := by
  cases op with
  | enqueue opcode keyId payload now =>
      dsimp only [ReliableSendQueue.step, ReliableSendQueue.enqueue]
      split <;> rfl
  | processAcks acks => rfl
  | pollRetransmissions now => rfl

variable {sessionId : UInt64} {windowSize : ℕ} {ops : List QueueOp}

theorem wellTimed_run
    (run : Transition.Run step (fun _ _ => True) (new sessionId windowSize) ops h) :
    h.queue.WellTimed := by
  refine run.invariant (I := fun h => h.queue.WellTimed) ?_ (wellTimed_new _ _)
  intro h op h' _ hstep htimed
  obtain rfl := Option.some.inj hstep
  exact htimed.step op

theorem original_run
    (run : Transition.Run step (fun _ _ => True) (new sessionId windowSize) ops h) :
    List.Forall₂ Original h.queue.unacked h.sent :=
  run.invariant (I := fun h => List.Forall₂ Original h.queue.unacked h.sent)
    (fun _ _ _ _ hstep hall => original_step hstep hall) .nil

theorem limited_run (run : Transition.Run step CountersFit (new sessionId windowSize) ops h) :
    List.Forall₂ h.Limited h.queue.unacked h.sent := by
  have hinvariant : h.queue.WellTimed ∧ List.Forall₂ (fun pkt record => Original pkt record ∧
      Counted h.queue.maxRetransmits pkt record) h.queue.unacked h.sent := by
    refine run.invariant (I := fun h => h.queue.WellTimed ∧
      List.Forall₂ (fun pkt record => Original pkt record ∧
        Counted h.queue.maxRetransmits pkt record) h.queue.unacked h.sent) ?_
      ⟨wellTimed_new _ _, .nil⟩
    rintro h op h' hfits hstep ⟨htimed, hall⟩
    have hcounted := counted_step hstep hfits htimed hall
    obtain rfl := Option.some.inj hstep
    refine ⟨htimed.step op, hcounted.imp fun pkt record hrel => ⟨hrel.1, ?_⟩⟩
    dsimp only
    rw [maxRetransmits_step h.queue op]
    exact hrel.2
  obtain ⟨htimed, hall⟩ := hinvariant
  refine List.forall₂_iff_zip.mpr ⟨hall.length_eq, fun hmem => ?_⟩
  exact (List.forall₂_zip hall hmem).2.limited_of_mem htimed (List.of_mem_zip hmem).1

/-- After any operations the polls, the deadlines and the timeouts agree, and the packets are what
they were queued as. A packet is returned no more than the allowed number of times, and then given
up, in every run in which no counter wraps round. -/
theorem schedule_holds
    (run : Transition.Run step (fun _ _ => True) (new sessionId windowSize) ops h) :
    h.queue.Schedule ∧ List.Forall₂ Original h.queue.unacked h.sent ∧
      (Transition.Run step CountersFit (new sessionId windowSize) ops h →
        List.Forall₂ h.Limited h.queue.unacked h.sent) :=
  ⟨(wellTimed_run run).schedule, original_run run, limited_run⟩

/-- A packet that is due at once, waits, is returned, and waits again. -/
theorem schedule_holds_once :
    ∃ h, Transition.Run step CountersFit (new 1 16)
        [.enqueue .controlV1 0 [7] 0, .pollRetransmissions 1500000000] h ∧
      (h.queue.pollRetransmissions 4499999999).1 = .ok [] ∧
      h.queue.nearestDeadline = some 4500000000 ∧
      ∀ record ∈ h.sent, record.returned ≤ 10 := by
  let h₁ : QueueHistory := ((new 1 16).step (.enqueue .controlV1 0 [7] 0)).get rfl
  let h₂ : QueueHistory := (h₁.step (.pollRetransmissions 1500000000)).get rfl
  have hfits : h₁.CountersFit (.pollRetransmissions 1500000000) := by
    change ∀ pkt ∈ h₁.queue.unacked, pkt.deadline ≤ 1500000000 →
      pkt.retransmitCount.toNat + 1 < 2 ^ 32
    decide +kernel
  have run : Transition.Run step CountersFit (new 1 16)
      [.enqueue .controlV1 0 [7] 0, .pollRetransmissions 1500000000] h₂ :=
    .cons trivial rfl (.cons hfits rfl (.nil _))
  obtain ⟨hschedule, -, hlimited⟩ := schedule_holds (run.mono fun _ _ _ => trivial)
  refine ⟨h₂, run, (hschedule.idle_iff _).mpr ?_, by decide +kernel, ?_⟩
  · have hdeadline : h₂.queue.nearestDeadline = some 4500000000 := by decide +kernel
    rw [hdeadline]
    decide
  · intro record hrecord
    obtain ⟨pkt, -, hlimit⟩ := exists_of_forall₂ (hlimited run) hrecord
    exact hlimit.returned_le

/-! ## A counter that wraps round -/

/-- A queue with one packet. -/
def single (pkt : ReliablePacket) (returned : ℕ) : QueueHistory where
  queue := { ReliableSendQueue.new 1 16 with nextPacketId := 1, unacked := [pkt] }
  sent := [{ packetId := 0, opcode := .controlV1, payload := [], returned }]

theorem step_exhausted {returned : ℕ} (h : (single pkt returned).queue.Exhausted now pkt) :
    (single pkt returned).step (.pollRetransmissions now) =
      some (single { pkt with retransmitCount := pkt.retransmitCount + 1 } returned) := by
  have hpoll : (single pkt returned).queue.pollRetransmissions now =
      (.error (.handshakeTimeout (now - pkt.firstSentAt)),
        (single { pkt with retransmitCount := pkt.retransmitCount + 1 } returned).queue) := by
    unfold pollRetransmissions
    rw [show (single pkt returned).queue.unacked = [pkt] from rfl, pollLoop_cons_exhausted h]
    rfl
  simp only [step, ReliableSendQueue.step, hpoll]
  rfl

theorem toNat_ofNat_add_one {count : ℕ} (h : count + 1 < 2 ^ 32) :
    (UInt32.ofNat count + 1).toNat = count + 1 := by
  have hsmall : (UInt32.ofNat count).toNat = count :=
    UInt32.toNat_ofNat_of_lt' (show count < 2 ^ 32 by omega)
  rw [toNat_add_one (by omega), hsmall]

/-- Polls of an exhausted packet only count. -/
theorem run_refused {returned : ℕ} (hdue : pkt.deadline ≤ now) (hrto : 0 < pkt.currentRto)
    (polls : ℕ) : ∀ count, 10 ≤ count → count + polls < 2 ^ 32 →
      Transition.Run step (fun _ _ => True)
        (single { pkt with retransmitCount := UInt32.ofNat count } returned)
        (List.replicate polls (.pollRetransmissions now))
        (single { pkt with retransmitCount := UInt32.ofNat (count + polls) } returned) := by
  induction polls with
  | zero => exact fun _ _ _ => .nil _
  | succ polls ih =>
      intro count hcount hroom
      have hexhausted :
          (single { pkt with retransmitCount := UInt32.ofNat count } returned).queue.Exhausted now
            { pkt with retransmitCount := UInt32.ofNat count } := by
        refine ⟨(expired_iff hrto).mpr hdue, UInt32.lt_iff_toNat_lt.mpr ?_⟩
        rw [toNat_ofNat_add_one (by omega)]
        exact Nat.lt_succ_of_le hcount
      have hstep := step_exhausted hexhausted
      have hnext : UInt32.ofNat count + 1 = UInt32.ofNat (count + 1) :=
        (UInt32.ofNat_add count 1).symm
      rw [hnext] at hstep
      have hrest := ih (count + 1) (by omega) (by omega)
      rw [Nat.add_assoc, Nat.add_comm 1 polls] at hrest
      exact .cons trivial hstep hrest

/-- The times at which a packet is returned for the last time it may be, and at which it is refused
from then on. -/
def lastReturn : Instant := 100000000000

def refusedAt : Instant := 200000000000

/-- A packet that has been returned ten times, and polled `count` times in all. -/
def worn (count : ℕ) : ReliablePacket where
  packetId := 0
  opcode := .controlV1
  keyId := 0
  payload := []
  firstSentAt := 0
  lastSentAt := lastReturn
  retransmitCount := UInt32.ofNat count
  currentRto := 10000000000

/-- After 2^32 polls the counter is zero again, and the packet is returned once more. -/
theorem returned_after_wrap :
    ∃ ops h, Transition.Run step (fun _ _ => True) (new 1 16) ops h ∧
      ∃ record ∈ h.sent, h.queue.maxRetransmits.toNat < record.returned := by
  have hfirst : Transition.Run step (fun _ _ => True) (new 1 16)
      (.enqueue .controlV1 0 [] 0 ::
        (List.range' 1 10).map fun i => .pollRetransmissions (i * 10000000000))
      (single (worn 10) 10) := Transition.run_of_runList (by decide +kernel)
  have hrefused : Transition.Run step (fun _ _ => True) (single (worn 10) 10)
      (List.replicate 4294967285 (.pollRetransmissions refusedAt))
      (single (worn 4294967295) 10) := by
    have hdue : (worn 0).deadline ≤ refusedAt := by decide
    have hrto : 0 < (worn 0).currentRto := by decide
    exact run_refused hdue hrto 4294967285 10 (le_refl _) (by decide)
  have hlast : Transition.Run step (fun _ _ => True) (single (worn 4294967295) 10)
      [.pollRetransmissions refusedAt]
      (single { worn 0 with lastSentAt := refusedAt } 11) :=
    Transition.run_of_runList (by decide +kernel)
  exact ⟨_, _, hfirst.append (hrefused.append hlast), _, List.mem_singleton_self _, by decide⟩

end QueueHistory

end VpnHub.Protocol
