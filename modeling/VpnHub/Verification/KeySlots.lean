import VpnHub.Model.SlotHistory

/-! A `KeySlotManager` keeps the two newest slots of its history. -/

namespace VpnHub.Protocol

open Crypto

variable {m : KeySlotManager} {h : SlotHistory} {cipherSuite : CipherSuite} {slot : KeySlot}
  {sessionKeys : SessionKeySet} {now : Instant} {e : ProtocolError}

/-! ## Installing -/

namespace KeySlot

/-- A new slot has sent and received nothing. -/
structure Unused (slot : KeySlot) : Prop where
  antiReplay : slot.antiReplay = .new
  txPacketId : slot.txPacketId = 1
  bytesSent : slot.bytesSent = 0
  bytesReceived : slot.bytesReceived = 0

theorem unused_of_new {serial : ℕ} (hnew : new sessionKeys cipherSuite now serial = .ok slot) :
    slot.Unused ∧ slot.keyId = sessionKeys.keyId := by
  rw [new] at hnew
  cases htx : cipherSuite.createCipher sessionKeys.txKey.cipherKey with
  | error e =>
      rw [htx] at hnew
      cases hnew
  | ok txCipher =>
      cases hrx : cipherSuite.createCipher sessionKeys.rxKey.cipherKey with
      | error e =>
          rw [htx, hrx] at hnew
          cases hnew
      | ok rxCipher =>
          rw [htx, hrx] at hnew
          obtain rfl := Except.ok.inj hnew
          exact ⟨⟨rfl, rfl, rfl, rfl⟩, rfl⟩

end KeySlot

namespace KeySlotManager

theorem installNewKey_of_error
    (hnew : KeySlot.new sessionKeys m.cipherSuite now m.installed = .error e) :
    m.installNewKey sessionKeys now = (.error e, m) := by
  rw [installNewKey, hnew]

theorem installNewKey_of_ok
    (hnew : KeySlot.new sessionKeys m.cipherSuite now m.installed = .ok slot) :
    m.installNewKey sessionKeys now = (.ok (), { m with
      secondary := m.primary.or m.secondary
      primary := some slot
      installed := m.installed + 1 }) := by
  rw [installNewKey, hnew]

/-- A failed installation changes nothing. -/
theorem installNewKey_failed (h : (m.installNewKey sessionKeys now).1 = .error e) :
    (m.installNewKey sessionKeys now).2 = m := by
  cases hnew : KeySlot.new sessionKeys m.cipherSuite now m.installed with
  | error e' => rw [installNewKey_of_error hnew]
  | ok slot =>
      rw [installNewKey_of_ok hnew] at h
      cases h

/-- A successful one starts with an unused slot. -/
theorem installNewKey_succeeded (h : (m.installNewKey sessionKeys now).1 = .ok ()) :
    (∃ slot, (m.installNewKey sessionKeys now).2.getTxSlot = some slot ∧ slot.Unused ∧
      slot.keyId = sessionKeys.keyId) ∧
    (m.installNewKey sessionKeys now).2.secondary = m.primary.or m.secondary := by
  cases hnew : KeySlot.new sessionKeys m.cipherSuite now m.installed with
  | error e =>
      rw [installNewKey_of_error hnew] at h
      cases h
  | ok slot =>
      rw [installNewKey_of_ok hnew]
      exact ⟨⟨slot, rfl, KeySlot.unused_of_new hnew⟩, rfl⟩

end KeySlotManager

/-! ## Histories -/

/-- The manager holds what the history says. -/
structure SlotHistory.Kept (cipherSuite : CipherSuite) (h : SlotHistory) (m : KeySlotManager) :
    Prop where
  cipherSuite : m.cipherSuite = cipherSuite
  installed : m.installed = h.installs.length
  primary : m.primary = h.newest
  secondary : m.secondary = h.previous

namespace SlotHistory.Kept

theorem new (cipherSuite : CipherSuite) : Kept cipherSuite {} (.new cipherSuite) :=
  ⟨rfl, rfl, rfl, rfl⟩

/-- The slot an installation displaces becomes the secondary one. -/
theorem displaced (kept : Kept cipherSuite h m) : m.primary.or m.secondary = h.newest := by
  rw [kept.primary, kept.secondary]
  cases hinstalls : h.installs with
  | nil => simp [newest, previous, hinstalls]
  | cons old installs => simp [newest, hinstalls]

theorem installNewKey (kept : Kept cipherSuite h m) (sessionKeys : SessionKeySet) (now : Instant) :
    Kept cipherSuite (h.step cipherSuite (.installNewKey sessionKeys now))
      (m.step (.installNewKey sessionKeys now)) := by
  cases hnew : KeySlot.new sessionKeys cipherSuite now h.installs.length with
  | error e =>
      have hnew' := hnew
      rw [← kept.cipherSuite, ← kept.installed] at hnew'
      simp only [SlotHistory.step, KeySlotManager.step, hnew,
        KeySlotManager.installNewKey_of_error hnew']
      exact kept
  | ok slot =>
      have hnew' := hnew
      rw [← kept.cipherSuite, ← kept.installed] at hnew'
      simp only [SlotHistory.step, KeySlotManager.step, hnew,
        KeySlotManager.installNewKey_of_ok hnew']
      refine ⟨kept.cipherSuite, ?_, rfl, ?_⟩
      · simp [kept.installed]
      · have hprevious : previous { installs := slot :: h.installs } = h.newest := by
          simp [previous, newest, List.head?_eq_getElem?]
        rw [hprevious]
        exact kept.displaced

theorem retireSecondary (kept : Kept cipherSuite h m) :
    Kept cipherSuite (h.step cipherSuite .retireSecondary) (m.step .retireSecondary) :=
  ⟨kept.cipherSuite, kept.installed, kept.primary, rfl⟩

theorem use (kept : Kept cipherSuite h m) (ref : SlotRef) (write : KeySlot → KeySlot) :
    Kept cipherSuite (h.step cipherSuite (.use ref write)) (m.step (.use ref write)) := by
  cases ref with
  | primary =>
      refine ⟨kept.cipherSuite, ?_, ?_, ?_⟩
      · simp [SlotHistory.step, KeySlotManager.step, kept.installed]
      · have hprimary := kept.primary
        simp only [newest, List.head?_eq_getElem?] at hprimary
        simp [SlotHistory.step, KeySlotManager.step, newest, List.head?_eq_getElem?, hprimary]
      · have hsecondary := kept.secondary
        simp only [previous] at hsecondary
        simp [SlotHistory.step, KeySlotManager.step, previous, hsecondary]
  | secondary =>
      have hsecondary := kept.secondary
      simp only [previous] at hsecondary
      by_cases hretired : h.retired = true
      · rw [if_pos hretired] at hsecondary
        simp only [SlotHistory.step, KeySlotManager.step, hretired, if_true]
        refine ⟨kept.cipherSuite, kept.installed, kept.primary, ?_⟩
        simp [hsecondary, previous, hretired]
      · rw [if_neg hretired] at hsecondary
        simp only [SlotHistory.step, KeySlotManager.step, hretired, Bool.false_eq_true, if_false]
        refine ⟨kept.cipherSuite, ?_, ?_, ?_⟩
        · simp [kept.installed]
        · have hprimary := kept.primary
          simp only [newest, List.head?_eq_getElem?] at hprimary
          simp [newest, List.head?_eq_getElem?, hprimary]
        · simp [previous, hsecondary]

theorem step (kept : Kept cipherSuite h m) (op : SlotOp) :
    Kept cipherSuite (h.step cipherSuite op) (m.step op) := by
  cases op with
  | installNewKey sessionKeys now => exact kept.installNewKey sessionKeys now
  | retireSecondary => exact kept.retireSecondary
  | use ref write => exact kept.use ref write

theorem foldl (kept : Kept cipherSuite h m) (ops : List SlotOp) :
    Kept cipherSuite (ops.foldl (SlotHistory.step cipherSuite) h)
      (ops.foldl KeySlotManager.step m) := by
  induction ops generalizing h m with
  | nil => exact kept
  | cons op ops ih => exact ih (kept.step op)

theorem find?_toList {α : Type} (o : Option α) (p : α → Bool) : o.toList.find? p = o.filter p := by
  cases o with
  | none => rfl
  | some a => cases hp : p a <;> simp [Option.filter, hp]

/-- The first live slot with the key id answers to it. -/
theorem getRxSlot (kept : Kept cipherSuite h m) (keyId : UInt8) :
    (m.getRxSlot keyId).map (·.2) = h.live.find? (·.keyId = keyId) := by
  rw [KeySlotManager.getRxSlot, SlotHistory.live, ← kept.primary, ← kept.secondary,
    List.find?_append, find?_toList, find?_toList]
  cases m.primary.filter (·.keyId = keyId) with
  | some primary => rfl
  | none => cases m.secondary.filter (·.keyId = keyId) <;> rfl

end SlotHistory.Kept

theorem kept_run (cipherSuite : CipherSuite) (ops : List SlotOp) :
    SlotHistory.Kept cipherSuite (.run cipherSuite ops) (.run cipherSuite ops) :=
  (SlotHistory.Kept.new cipherSuite).foldl ops

/-- After any calls the manager sends with the newest slot, keeps the one it displaced until it is
retired, and receives with the newer of the two that has the key id. An installation fails
without effect, or it adds an unused slot and leaves the one it displaces as it is. -/
theorem keeps_newest_slots (cipherSuite : CipherSuite) (ops : List SlotOp) :
    let m := KeySlotManager.run cipherSuite ops
    let h := SlotHistory.run cipherSuite ops
    m.getTxSlot = h.newest ∧ m.secondary = h.previous ∧
      (∀ keyId, (m.getRxSlot keyId).map (·.2) = h.live.find? (·.keyId = keyId) ∧
        (m.getRxSlot keyId = none ↔ ∀ slot ∈ h.live, slot.keyId ≠ keyId)) ∧
      ∀ sessionKeys now,
        (∀ e, (m.installNewKey sessionKeys now).1 = .error e →
          (m.installNewKey sessionKeys now).2 = m) ∧
        ((m.installNewKey sessionKeys now).1 = .ok () →
          (∃ slot, (m.installNewKey sessionKeys now).2.getTxSlot = some slot ∧ slot.Unused ∧
            slot.keyId = sessionKeys.keyId) ∧
          (m.installNewKey sessionKeys now).2.secondary = m.getTxSlot) := by
  intro m h
  have kept : h.Kept cipherSuite m := kept_run cipherSuite ops
  refine ⟨kept.primary, kept.secondary, fun keyId => ⟨kept.getRxSlot keyId, ?_⟩,
    fun sessionKeys now => ⟨fun e => KeySlotManager.installNewKey_failed, fun hok => ?_⟩⟩
  · rw [← Option.map_eq_none_iff, kept.getRxSlot]
    simp
  · obtain ⟨hnew, hsecondary⟩ := KeySlotManager.installNewKey_succeeded hok
    refine ⟨hnew, hsecondary.trans ?_⟩
    rw [kept.displaced]
    exact kept.primary.symm

end VpnHub.Protocol
