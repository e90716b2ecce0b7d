import VpnHub.Library.SlidingWindow
import VpnHub.Program.AntiReplay

/-! The two bitmap words as one 128-bit mask. The four shift cases of the source all
compute the same slide of that mask. -/

namespace VpnHub.Crypto.AntiReplayWindow

open SlidingWindow

/-- The 128-bit value `bitmap[1] << 64 | bitmap[0]`. -/
def mask (w : AntiReplayWindow) : ℕ := join w.bitmap1.toNat w.bitmap0.toNat

theorem testBit_mask (w : AntiReplayWindow) (k : ℕ) :
    w.mask.testBit k =
      if k < 64 then w.bitmap0.toNat.testBit k else w.bitmap1.toNat.testBit (k - 64) :=
  testBit_join (UInt64.toNat_lt w.bitmap0)

theorem word_testBit_of_ge (a : UInt64) {k : ℕ} (hk : 64 ≤ k) : a.toNat.testBit k = false :=
  Nat.testBit_lt_two_pow
    ((UInt64.toNat_lt a).trans_le (Nat.pow_le_pow_right (by omega) hk))

theorem toNat_one_shiftLeft {b : UInt64} (hb : b.toNat < 64) :
    ((1 : UInt64) <<< b).toNat = 1 <<< b.toNat := by
  have hlt : 1 <<< b.toNat < 2 ^ 64 := by
    rw [Nat.one_shiftLeft]
    exact Nat.pow_lt_pow_right (by omega) hb
  rw [UInt64.toNat_shiftLeft, Nat.mod_eq_of_lt hb]
  exact Nat.mod_eq_of_lt hlt

theorem testBit_shiftLeft {a d : UInt64} (hd : d.toNat < 64) {k : ℕ} :
    (a <<< d).toNat.testBit k = true ↔
      k < 64 ∧ d.toNat ≤ k ∧ a.toNat.testBit (k - d.toNat) = true := by
  rw [UInt64.toNat_shiftLeft, Nat.mod_eq_of_lt hd, Nat.testBit_mod_two_pow,
    Nat.testBit_shiftLeft]
  simp

theorem testBit_shiftRight {a d : UInt64} (hd : d.toNat < 64) {k : ℕ} :
    (a >>> d).toNat.testBit k = a.toNat.testBit (d.toNat + k) := by
  simp [Nat.mod_eq_of_lt hd, Nat.testBit_shiftRight]

/-- Testing a word against a one-bit mask reads that bit. -/
theorem and_one_shiftLeft_ne_zero {a b : UInt64} (hb : b.toNat < 64) :
    a &&& (1 <<< b) ≠ 0 ↔ a.toNat.testBit b.toNat = true := by
  rw [Ne, ← UInt64.toNat_inj, UInt64.toNat_and, toNat_one_shiftLeft hb, Nat.one_shiftLeft,
    Nat.and_two_pow]
  cases a.toNat.testBit b.toNat <;> simp

theorem div_eq_zero_iff (diff : UInt64) : diff / 64 = 0 ↔ diff.toNat < 64 := by
  rw [← UInt64.toNat_inj]
  simp only [UInt64.toNat_div, UInt64.reduceToNat]
  omega

/-! ## Reading and setting a bit -/

theorem word_test (w : AntiReplayWindow) {diff : UInt64} (hd : diff.toNat < 128) :
    w.word (diff / 64) &&& (1 <<< (diff % 64)) ≠ 0 ↔ w.mask.testBit diff.toNat = true := by
  have hm : (diff % 64).toNat = diff.toNat % 64 := by simp
  rw [and_one_shiftLeft_ne_zero (by rw [hm]; omega), hm, testBit_mask, word]
  simp only [div_eq_zero_iff]
  by_cases h : diff.toNat < 64
  · rw [if_pos h, if_pos h, Nat.mod_eq_of_lt h]
  · rw [if_neg h, if_neg h, show diff.toNat % 64 = diff.toNat - 64 by omega]

theorem mask_orWord (w : AntiReplayWindow) {diff : UInt64} (hd : diff.toNat < 128) :
    (w.orWord (diff / 64) (1 <<< (diff % 64))).mask = w.mask ||| 1 <<< diff.toNat := by
  have hm : (diff % 64).toNat = diff.toNat % 64 := by simp
  apply Nat.eq_of_testBit_eq
  intro k
  rw [Bool.eq_iff_iff, testBit_or_shiftLeft_one, testBit_mask, testBit_mask, orWord]
  simp only [div_eq_zero_iff]
  by_cases h : diff.toNat < 64
  · rw [if_pos h]
    simp only [UInt64.toNat_or, toNat_one_shiftLeft (show (diff % 64).toNat < 64 by omega), hm]
    split
    · rw [testBit_or_shiftLeft_one, Nat.mod_eq_of_lt h]
    · simp only [iff_self_or]
      omega
  · rw [if_neg h]
    simp only [UInt64.toNat_or, toNat_one_shiftLeft (show (diff % 64).toNat < 64 by omega), hm]
    split
    · simp only [iff_self_or]
      omega
    · rw [testBit_or_shiftLeft_one]
      exact or_congr_right (by omega)

/-! ## Sliding -/

/-- All three forward cases move the 128-bit mask up by `diff` and mark the newest packet. -/
theorem mask_advance (w : AntiReplayWindow) {diff : UInt64} (hd : 0 < diff.toNat) :
    (w.advance diff).mask = slide 128 diff.toNat w.mask := by
  apply Nat.eq_of_testBit_eq
  intro k
  rw [Bool.eq_iff_iff, testBit_slide hd]
  simp only [advance, windowSize, ge_iff_le, UInt64.le_iff_toNat_le, UInt64.reduceToNat]
  split
  · -- the whole window is left behind
    rw [testBit_mask]
    simp only [UInt64.reduceToNat, Nat.zero_testBit]
    split
    · rw [testBit_one_iff]
      omega
    · simp only [Bool.false_eq_true, false_iff]
      omega
  · split
    · -- word 0 moves into word 1
      have hs : (diff - 64).toNat = diff.toNat - 64 :=
        UInt64.toNat_sub_of_le _ _ (by simp only [UInt64.le_iff_toNat_le, UInt64.reduceToNat]; omega)
      rw [testBit_mask, testBit_mask]
      split
      · rw [UInt64.toNat_one, testBit_one_iff]
        omega
      · rw [testBit_shiftLeft (by omega), hs,
          show k - 64 - (diff.toNat - 64) = k - diff.toNat by omega]
        constructor
        · rintro ⟨h1, h2, h3⟩
          refine ⟨by omega, .inr ⟨by omega, ?_⟩⟩
          rwa [if_pos (by omega)]
        · rintro ⟨h1, rfl | ⟨h2, h3⟩⟩
          · omega
          · rw [if_pos (by omega)] at h3
            exact ⟨by omega, by omega, h3⟩
    · -- both words shift, with a carry between them
      have hs : (64 - diff).toNat = 64 - diff.toNat :=
        UInt64.toNat_sub_of_le _ _ (by simp only [UInt64.le_iff_toNat_le, UInt64.reduceToNat]; omega)
      rw [testBit_mask, testBit_mask]
      split
      · rw [UInt64.toNat_or, Nat.testBit_or, Bool.or_eq_true, testBit_shiftLeft (by omega),
          UInt64.toNat_one, testBit_one_iff, if_pos (by omega)]
        have : k < 128 := by omega
        tauto
      · rw [UInt64.toNat_or, Nat.testBit_or, Bool.or_eq_true, testBit_shiftLeft (by omega),
          testBit_shiftRight (by omega), hs]
        by_cases hc : k - diff.toNat < 64
        · rw [if_pos hc, show 64 - diff.toNat + (k - 64) = k - diff.toNat by omega]
          constructor
          · rintro (⟨h1, h2, -⟩ | h)
            · omega
            · exact ⟨by omega, .inr ⟨by omega, h⟩⟩
          · rintro ⟨-, rfl | ⟨-, h⟩⟩
            · omega
            · exact .inr h
        · rw [if_neg hc, show k - 64 - diff.toNat = k - diff.toNat - 64 by omega,
            word_testBit_of_ge _ (show 64 ≤ 64 - diff.toNat + (k - 64) by omega)]
          constructor
          · rintro (⟨h1, h2, h⟩ | h)
            · exact ⟨by omega, .inr ⟨by omega, h⟩⟩
            · simp at h
          · rintro ⟨h1, rfl | ⟨h2, h⟩⟩
            · omega
            · exact .inl ⟨by omega, by omega, h⟩

end VpnHub.Crypto.AntiReplayWindow
