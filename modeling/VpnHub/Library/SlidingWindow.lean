import Mathlib.Data.Finset.Max
import Mathlib.Data.Nat.Bitwise
import Mathlib.Order.Bounds.Basic

/-! # Sliding acceptance windows

A window of a given size admits a number once, and only while it is less than `size`
below the greatest number admitted so far. The admitted numbers are represented by
their maximum and a mask whose bit `k` stands for the number `k` below it. -/

namespace VpnHub.SlidingWindow

/-! ## Masks -/

/-- Move a mask of `width` bits up by `d` and mark its lowest bit. -/
def slide (width d mask : ℕ) : ℕ := (mask <<< d ||| 1) % 2 ^ width

theorem testBit_one_iff (k : ℕ) : Nat.testBit 1 k = true ↔ k = 0 := by
  cases k with
  | zero => simp
  | succ k => simp [Nat.testBit_add_one]

theorem testBit_slide {width d mask k : ℕ} (hd : 0 < d) :
    (slide width d mask).testBit k = true ↔
      k < width ∧ (k = 0 ∨ d ≤ k ∧ mask.testBit (k - d) = true) := by
  have hk : k = 0 → ¬ d ≤ k := by omega
  simp only [slide, Nat.testBit_mod_two_pow, Nat.testBit_or, Nat.testBit_shiftLeft,
    Bool.and_eq_true, decide_eq_true_eq, Bool.or_eq_true, ge_iff_le, testBit_one_iff]
  tauto

theorem testBit_or_shiftLeft_one {mask j k : ℕ} :
    (mask ||| 1 <<< j).testBit k = true ↔ mask.testBit k = true ∨ k = j := by
  simp only [Nat.testBit_or, Nat.testBit_shiftLeft, Bool.or_eq_true, Bool.and_eq_true,
    decide_eq_true_eq, testBit_one_iff]
  constructor
  · rintro (h | ⟨h, h'⟩)
    · exact .inl h
    · exact .inr (by omega)
  · rintro (h | rfl)
    · exact .inl h
    · exact .inr ⟨le_rfl, by omega⟩

/-- The mask whose low 64 bits are `lo` and whose higher bits are `hi`. -/
def join (hi lo : ℕ) : ℕ := hi <<< 64 ||| lo

theorem testBit_join {hi lo k : ℕ} (hlo : lo < 2 ^ 64) :
    (join hi lo).testBit k = if k < 64 then lo.testBit k else hi.testBit (k - 64) := by
  simp only [join, Nat.testBit_or, Nat.testBit_shiftLeft, ge_iff_le]
  split
  · rename_i hk
    simp [Nat.not_le_of_gt hk]
  · rename_i hk
    have hz : lo.testBit k = false :=
      Nat.testBit_lt_two_pow (hlo.trans_le (Nat.pow_le_pow_right (by omega) (by omega)))
    simp [hz, Nat.le_of_not_gt hk]

/-! ## The set specification -/

/-- The number has not been admitted before and is not `size` or more below any
number that has. -/
def Fresh (size : ℕ) (admitted : Finset ℕ) (n : ℕ) : Prop :=
  n ∉ admitted ∧ ∀ m ∈ admitted, m < n + size

instance (size : ℕ) (admitted : Finset ℕ) (n : ℕ) : Decidable (Fresh size admitted n) :=
  inferInstanceAs (Decidable (_ ∧ _))

theorem fresh_empty (size n : ℕ) : Fresh size ∅ n := by
  simp [Fresh]

/-- Only the greatest admitted number matters for the age test. -/
theorem fresh_iff_of_isGreatest {size top n : ℕ} {admitted : Finset ℕ}
    (h : IsGreatest (admitted : Set ℕ) top) :
    Fresh size admitted n ↔ n ∉ admitted ∧ top < n + size := by
  refine and_congr_right fun _ => ⟨fun hm => hm top h.1, fun ht m hm => ?_⟩
  exact (h.2 hm).trans_lt ht

/-- One call: a fresh number joins the admitted ones. -/
def record (size : ℕ) (admitted : Finset ℕ) (n : ℕ) : Finset ℕ :=
  if Fresh size admitted n then insert n admitted else admitted

/-! ## Representation by a maximum and a mask -/

/-- `top` is the greatest admitted number, and bit `k` of `mask` tells whether the
number `k` below it has been admitted. -/
structure Represents (size top mask : ℕ) (admitted : Finset ℕ) : Prop where
  greatest : IsGreatest (admitted : Set ℕ) top
  bits : ∀ k < size, mask.testBit k = true ↔ k ≤ top ∧ top - k ∈ admitted

variable {size top mask n : ℕ} {admitted : Finset ℕ}

theorem represents_singleton (size n : ℕ) : Represents size n 1 {n} := by
  refine ⟨by simp, fun k hk => ?_⟩
  rw [testBit_one_iff, Finset.mem_singleton]
  omega

/-- A number above the maximum slides the mask and becomes the new maximum. -/
theorem Represents.slide (h : Represents size top mask admitted) (hn : top < n) :
    Represents size n (slide size (n - top) mask) (insert n admitted) := by
  constructor
  · refine ⟨by simp, fun m hm => ?_⟩
    rcases Finset.mem_insert.mp (Finset.mem_coe.mp hm) with rfl | hm
    · exact le_rfl
    · exact (h.greatest.2 hm).trans hn.le
  · intro k hk
    rw [testBit_slide (by omega), Finset.mem_insert]
    constructor
    · rintro ⟨-, rfl | ⟨hd, hb⟩⟩
      · simp
      · obtain ⟨hle, hmem⟩ := (h.bits (k - (n - top)) (by omega)).mp hb
        refine ⟨by omega, .inr ?_⟩
        rwa [show n - k = top - (k - (n - top)) by omega]
    · rintro ⟨hkn, hmem⟩
      refine ⟨hk, ?_⟩
      by_cases hk0 : k = 0
      · exact .inl hk0
      · have hmem' : n - k ∈ admitted := hmem.resolve_left (by omega)
        have htop : n - k ≤ top := h.greatest.2 hmem'
        refine .inr ⟨by omega, (h.bits _ (by omega)).mpr ⟨by omega, ?_⟩⟩
        rwa [show top - (k - (n - top)) = n - k by omega]

/-- A number inside the window is recorded by setting its bit. -/
theorem Represents.mark (h : Represents size top mask admitted) (hn : n ≤ top) :
    Represents size top (mask ||| 1 <<< (top - n)) (insert n admitted) := by
  constructor
  · refine ⟨by simp [Finset.mem_coe.mp h.greatest.1], fun m hm => ?_⟩
    rcases Finset.mem_insert.mp (Finset.mem_coe.mp hm) with rfl | hm
    · exact hn
    · exact h.greatest.2 hm
  · intro k hk
    rw [testBit_or_shiftLeft_one, h.bits k hk, Finset.mem_insert]
    constructor
    · rintro (⟨hle, hmem⟩ | rfl)
      · exact ⟨hle, .inr hmem⟩
      · exact ⟨by omega, .inl (by omega)⟩
    · rintro ⟨hle, hmem | hmem⟩
      · exact .inr (by omega)
      · exact .inl ⟨hle, hmem⟩

/-- Freshness can be read off the maximum and the mask. -/
theorem Represents.fresh_iff (h : Represents size top mask admitted) :
    Fresh size admitted n ↔
      top < n ∨ (top - n < size ∧ mask.testBit (top - n) = false) := by
  rw [fresh_iff_of_isGreatest h.greatest]
  by_cases hn : top < n
  · have hout : n ∉ admitted := fun hm => absurd (h.greatest.2 hm) (by omega)
    exact iff_of_true ⟨hout, by omega⟩ (.inl hn)
  · simp only [hn, false_or]
    by_cases hs : top - n < size
    · have hb := h.bits (top - n) hs
      rw [show top - (top - n) = n by omega] at hb
      have hbit : mask.testBit (top - n) = false ↔ n ∉ admitted := by
        rw [← Bool.not_eq_true, hb]
        have : top - n ≤ top := by omega
        tauto
      rw [hbit]
      have : top < n + size := by omega
      tauto
    · exact iff_of_false (by omega) (by omega)

end VpnHub.SlidingWindow
