import Mathlib.Data.Int.ModEq
import Mathlib.Data.UInt
import Mathlib.Algebra.BigOperators.Group.List.Basic
import Mathlib.Tactic.Linarith
import Mathlib.Tactic.Ring

/-! # One's-complement sums

Addition with end-around carry, below a largest word `m`, computes residues modulo `m` with two
representations of zero. Internet checksums sum the 16-bit words of a byte sequence that way. -/

namespace VpnHub.OnesComplement

/-! ## End-around carry -/

/-- A carry out of the largest word is added in again. -/
def add (m a b : ℕ) : ℕ := if a + b ≤ m then a + b else a + b - m

def sum (m : ℕ) (words : List ℕ) : ℕ := words.foldl (add m) 0

variable {m a b : ℕ}

theorem add_le (ha : a ≤ m) (hb : b ≤ m) : add m a b ≤ m := by
  unfold add
  split <;> omega

theorem add_modEq (m a b : ℕ) : add m a b ≡ a + b [MOD m] := by
  unfold add
  split
  · exact Nat.ModEq.refl _
  · rw [Nat.ModEq, ← Nat.mod_eq_sub_mod (by omega)]

/-- Zero is the sum of zeros only. -/
theorem add_eq_zero : add m a b = 0 ↔ a = 0 ∧ b = 0 := by
  unfold add
  split <;> omega

theorem foldl_add_spec (words : List ℕ) (h : ∀ w ∈ words, w ≤ m) (ha : a ≤ m) :
    words.foldl (add m) a ≤ m ∧ words.foldl (add m) a ≡ a + words.sum [MOD m] ∧
      (words.foldl (add m) a = 0 ↔ a + words.sum = 0) := by
  induction words generalizing a with
  | nil => exact ⟨ha, Nat.ModEq.refl _, by simp⟩
  | cons w words ih =>
      have hw : w ≤ m := h w (List.mem_cons_self ..)
      obtain ⟨hle, hmod, hzero⟩ :=
        ih (fun v hv => h v (List.mem_cons_of_mem _ hv)) (add_le ha hw)
      refine ⟨hle, ?_, ?_⟩
      · rw [List.sum_cons, ← add_assoc]
        exact hmod.trans ((add_modEq m a w).add_right _)
      · rw [List.foldl_cons, hzero, Nat.add_eq_zero_iff, add_eq_zero, List.sum_cons]
        omega

/-- The sum is the largest word exactly when the words add up to a positive multiple of it. -/
theorem sum_eq_max_iff (words : List ℕ) (h : ∀ w ∈ words, w ≤ m) (hm : 0 < m) :
    sum m words = m ↔ m ∣ words.sum ∧ 0 < words.sum := by
  obtain ⟨hle, hmod, hzero⟩ := foldl_add_spec words h (Nat.zero_le m)
  rw [zero_add] at hmod hzero
  change sum m words ≤ m at hle
  change sum m words = 0 ↔ _ at hzero
  change sum m words % m = words.sum % m at hmod
  constructor
  · intro hsum
    rw [hsum, Nat.mod_self] at hmod
    exact ⟨Nat.dvd_of_mod_eq_zero hmod.symm, by omega⟩
  · rintro ⟨hdvd, hpos⟩
    rw [Nat.mod_eq_zero_of_dvd hdvd] at hmod
    have hne : sum m words ≠ 0 := by omega
    exact le_antisymm hle (Nat.le_of_dvd (by omega) (Nat.dvd_of_mod_eq_zero hmod))

/-! ## Words of bytes -/

/-- The big-endian 16-bit words; a last byte alone is followed by a zero. -/
def words : List UInt8 → List ℕ
  | [] => []
  | [a] => [a.toNat * 256]
  | a :: b :: rest => (a.toNat * 256 + b.toNat) :: words rest

theorem words_le (bytes : List UInt8) : ∀ w ∈ words bytes, w ≤ 65535 := by
  induction bytes using words.induct with
  | case1 => simp [words]
  | case2 a =>
      have ha := a.toNat_lt
      simp only [words, List.mem_singleton]
      omega
  | case3 a b rest ih =>
      have ha := a.toNat_lt
      have hb := b.toNat_lt
      intro w hw
      obtain rfl | hw := List.mem_cons.mp hw
      · omega
      · exact ih w hw

/-- What a byte at place `i` weighs in the sum of the words. -/
def weight (i : ℕ) : ℕ := if i % 2 = 0 then 256 else 1

theorem weight_add_two (i : ℕ) : weight (i + 2) = weight i := by simp [weight]

/-- Changing a byte changes the sum by what the byte weighs. -/
theorem sum_words_set (bytes : List UInt8) (i : ℕ) (x b : UInt8) (h : bytes[i]? = some b) :
    ((words (bytes.set i x)).sum : ℤ) = (words bytes).sum + weight i * (x.toNat - b.toNat) := by
  induction bytes using words.induct generalizing i with
  | case1 => simp at h
  | case2 a =>
      obtain rfl : i = 0 := by simpa using (List.getElem?_eq_some_iff.mp h).1
      obtain rfl : a = b := by simpa using h
      simp [words, weight]
      ring
  | case3 a c rest ih =>
      cases i with
      | zero =>
          obtain rfl : a = b := by simpa using h
          simp [words, weight]
          ring
      | succ i =>
          cases i with
          | zero =>
              obtain rfl : c = b := by simpa using h
              simp [words, weight]
              ring
          | succ i =>
              have hrest := ih i (by simpa using h)
              simp only [List.set_cons_succ, words, List.sum_cons, Nat.cast_add, hrest,
                weight_add_two]
              ring

end VpnHub.OnesComplement
