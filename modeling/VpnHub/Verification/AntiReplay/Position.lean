import VpnHub.Verification.AntiReplay.Refinement

/-! The accepted and rejected counters are statistics: no decision of the window depends on
them. What remains is the position of the window. -/

namespace VpnHub.Crypto.AntiReplayWindow

/-- The window with its statistics set to zero. -/
def position (w : AntiReplayWindow) : AntiReplayWindow :=
  { w with acceptedCount := 0, rejectedCount := 0 }

@[simp] theorem position_maxSeq (w : AntiReplayWindow) : w.position.maxSeq = w.maxSeq := rfl

@[simp] theorem position_initialized (w : AntiReplayWindow) :
    w.position.initialized = w.initialized := rfl

@[simp] theorem mask_position (w : AntiReplayWindow) : w.position.mask = w.mask := rfl

@[simp] theorem position_position (w : AntiReplayWindow) : w.position.position = w.position := rfl

theorem checkAndUpdate_position_fst (w : AntiReplayWindow) (seq : UInt64) :
    (w.position.checkAndUpdate seq).1 = (w.checkAndUpdate seq).1 := by
  rw [← checkOnly_eq, ← checkOnly_eq]
  rfl

theorem position_advance (w : AntiReplayWindow) (diff : UInt64) :
    (w.position.advance diff).position = (w.advance diff).position := by
  simp only [advance]
  split
  · rfl
  · split <;> rfl

theorem position_orWord (w : AntiReplayWindow) (i bit : UInt64) :
    (w.position.orWord i bit).position = (w.orWord i bit).position := by
  simp only [orWord]
  split <;> rfl

theorem position_with_maxSeq {w w' : AntiReplayWindow} (h : w.position = w'.position)
    (seq count count' : UInt64) :
    position { w with maxSeq := seq, acceptedCount := count } =
      position { w' with maxSeq := seq, acceptedCount := count' } := by
  simp only [position, mk.injEq] at h ⊢
  exact ⟨trivial, h.2.1, h.2.2.1, trivial, trivial, h.2.2.2.2.2⟩

theorem checkAndUpdate_position_snd (w : AntiReplayWindow) (seq : UInt64) :
    (w.position.checkAndUpdate seq).2.position = (w.checkAndUpdate seq).2.position := by
  have hword (i : UInt64) : w.position.word i = w.word i := rfl
  simp only [checkAndUpdate, position_initialized, position_maxSeq, hword]
  split
  · rfl
  · split
    · exact position_with_maxSeq (w.position_advance _) _ _ _
    · split
      · rfl
      · split
        · rfl
        · exact w.position_orWord _ _

/-- A refused number leaves the window where it is. -/
theorem checkAndUpdate_of_refused {w : AntiReplayWindow} {seq : UInt64} {err : CryptoError}
    (h : (w.checkAndUpdate seq).1 = .error err) :
    (w.checkAndUpdate seq).2 = { w with rejectedCount := w.rejectedCount + 1 } := by
  revert h
  simp only [checkAndUpdate]
  split
  · simp
  · split
    · simp
    · split
      · simp
      · split
        · simp
        · simp

theorem ne_of_refused {w : AntiReplayWindow} {seq : UInt64} {err : CryptoError}
    (h : (w.checkAndUpdate seq).1 = .error err) : (w.checkAndUpdate seq).2 ≠ w := by
  rw [checkAndUpdate_of_refused h]
  intro heq
  have hcount : w.rejectedCount + 1 = w.rejectedCount := congrArg rejectedCount heq
  simp at hcount

/-- An accepted number always moves the window: it becomes initialized, its maximum grows, or
a bit that was clear is set. -/
theorem position_ne_of_accepted {w : AntiReplayWindow} {seq : UInt64}
    (h : (w.checkAndUpdate seq).1 = .ok ()) :
    (w.checkAndUpdate seq).2.position ≠ w.position := by
  intro heq
  have hinit := congrArg initialized heq
  have hmax := congrArg maxSeq heq
  have hmask := congrArg mask heq
  simp only [position_initialized, position_maxSeq, mask_position] at hinit hmax hmask
  revert h hinit hmax hmask
  simp only [checkAndUpdate]
  split
  · intro _ hinit
    simp_all
  · split
    · rename_i hgt
      intro _ _ hmax
      simp only at hmax
      rw [hmax] at hgt
      exact absurd hgt (UInt64.lt_irrefl _)
    · split
      · simp
      · rename_i hold
        have hnew : (w.maxSeq - seq).toNat < 128 := by
          simpa [UInt64.le_iff_toNat_le, windowSize_toNat] using hold
        split
        · simp
        · rename_i hclear
          intro _ _ _ hmask
          change (w.orWord ((w.maxSeq - seq) / 64) (1 <<< ((w.maxSeq - seq) % 64))).mask =
            w.mask at hmask
          rw [w.mask_orWord hnew] at hmask
          have hbit : w.mask.testBit (w.maxSeq - seq).toNat = true := by
            rw [← hmask, SlidingWindow.testBit_or_shiftLeft_one]
            exact .inr rfl
          exact hclear ((w.word_test hnew).mpr hbit)

end VpnHub.Crypto.AntiReplayWindow
