import Mathlib.Data.Nat.Bitwise
import VpnHub.Library.IpAddr

/-! # Netmasks

A netmask picks the bits of an address that a network fixes. It is as good as a prefix length
where its ones come before its zeros, and only there. -/

namespace VpnHub

namespace Ipv4Addr

/-- The addresses that agree with `addr` in the bits of a netmask. -/
def Matches (mask addr a : Ipv4Addr) : Prop := a.toNat &&& mask.toNat = addr.toNat &&& mask.toNat

/-- The addresses that agree with `addr` in the first `len` bits. -/
def SharesPrefix (len : ℕ) (addr a : Ipv4Addr) : Prop :=
  a.toNat / 2 ^ (32 - len) = addr.toNat / 2 ^ (32 - len)

/-- The ones of a netmask come before its zeros: bit 31 is the first one. -/
def Contiguous (mask : Ipv4Addr) : Prop :=
  ∀ i < 32, ∀ j < 32, i < j → mask.toNat.testBit i = true → mask.toNat.testBit j = true

instance (mask : Ipv4Addr) : Decidable mask.Contiguous :=
  inferInstanceAs (Decidable (∀ i < 32, ∀ j < 32, _ → _ → _))

theorem toNat_lt (addr : Ipv4Addr) : addr.toNat < 2 ^ 32 := by
  have ha := addr.a.toNat_lt
  have hb := addr.b.toNat_lt
  have hc := addr.c.toNat_lt
  have hd := addr.d.toNat_lt
  unfold toNat
  omega

theorem toNat_ofNat {n : ℕ} (h : n < 2 ^ 32) : (ofNat n).toNat = n := by
  simp only [ofNat, toNat, UInt8.toNat_ofNat']
  omega

theorem testBit_eq_false (addr : Ipv4Addr) {i : ℕ} (h : 32 ≤ i) :
    addr.toNat.testBit i = false :=
  Nat.testBit_lt_two_pow (lt_of_lt_of_le addr.toNat_lt (Nat.pow_le_pow_right (by omega) h))

/-! ## Bits -/

theorem matches_iff {mask addr a : Ipv4Addr} : Matches mask addr a ↔
    ∀ i < 32, mask.toNat.testBit i = true → a.toNat.testBit i = addr.toNat.testBit i := by
  unfold Matches
  constructor
  · intro h i _ hi
    have hbit := congrArg (Nat.testBit · i) h
    simpa [Nat.testBit_and, hi] using hbit
  · intro h
    refine Nat.eq_of_testBit_eq fun i => ?_
    rw [Nat.testBit_and, Nat.testBit_and]
    by_cases hi : mask.toNat.testBit i = true
    · by_cases hlt : i < 32
      · rw [h i hlt hi]
      · have hle : 32 ≤ i := by omega
        rw [a.testBit_eq_false hle, addr.testBit_eq_false hle]
    · simp [hi]

theorem sharesPrefix_iff {len : ℕ} {addr a : Ipv4Addr} : SharesPrefix len addr a ↔
    ∀ i < 32, 32 - len ≤ i → a.toNat.testBit i = addr.toNat.testBit i := by
  unfold SharesPrefix
  constructor
  · intro h i _ hi
    have hbit := congrArg (Nat.testBit · (i - (32 - len))) h
    simpa [Nat.testBit_div_two_pow, Nat.sub_add_cancel hi] using hbit
  · intro h
    refine Nat.eq_of_testBit_eq fun i => ?_
    rw [Nat.testBit_div_two_pow, Nat.testBit_div_two_pow]
    by_cases hlt : i + (32 - len) < 32
    · exact h _ hlt (by omega)
    · rw [testBit_eq_false _ (by omega), testBit_eq_false _ (by omega)]

/-- A predicate that stays true once it is holds of the last numbers, as many as it holds of. -/
theorem iff_of_countP_range {p : ℕ → Bool} {n : ℕ}
    (h : ∀ i < n, ∀ j < n, i < j → p i = true → p j = true) :
    ∀ i < n, p i = true ↔ n - (List.range n).countP p ≤ i := by
  induction n with
  | zero => intro i hi; omega
  | succ n ih =>
      intro i hi
      have hle : (List.range n).countP p ≤ n := by
        simpa using List.countP_le_length (p := p) (l := List.range n)
      have ih := ih fun i hi j hj => h i (by omega) j (by omega)
      rw [List.range_succ, List.countP_append, List.countP_singleton]
      by_cases hn : p n = true
      · rw [if_pos hn]
        by_cases hlt : i < n
        · rw [ih i hlt]
          omega
        · obtain rfl : i = n := by omega
          exact iff_of_true hn (by omega)
      · rw [if_neg hn]
        have hnone : ∀ i < n, ¬ p i = true := fun i hi hp => hn (h i (by omega) n (by omega) hi hp)
        have hzero : (List.range n).countP p = 0 := by
          rw [List.countP_eq_zero]
          intro i hi
          exact hnone i (List.mem_range.mp hi)
        rw [hzero]
        by_cases hlt : i < n
        · exact iff_of_false (hnone i hlt) (by omega)
        · obtain rfl : i = n := by omega
          exact iff_of_false hn (by omega)

/-- The address that differs from `addr` in one bit. -/
def flipBit (addr : Ipv4Addr) (i : ℕ) : Ipv4Addr := ofNat (addr.toNat ^^^ 2 ^ i)

theorem forall_testBit_flipBit_iff (addr : Ipv4Addr) {i : ℕ} (hi : i < 32) (p : ℕ → Prop) :
    (∀ j < 32, p j → (addr.flipBit i).toNat.testBit j = addr.toNat.testBit j) ↔ ¬ p i := by
  have hlt : addr.toNat ^^^ 2 ^ i < 2 ^ 32 :=
    Nat.xor_lt_two_pow addr.toNat_lt (Nat.pow_lt_pow_right (by omega) hi)
  have hbit (j : ℕ) : (addr.flipBit i).toNat.testBit j =
      (addr.toNat.testBit j ^^ decide (i = j)) := by
    rw [flipBit, toNat_ofNat hlt, Nat.testBit_xor, Nat.testBit_two_pow]
  constructor
  · intro h hp
    have heq := h i hi hp
    rw [hbit i] at heq
    simp at heq
  · intro hp j _ hj
    have hne : i ≠ j := fun heq => hp (heq ▸ hj)
    rw [hbit j]
    simp [hne]

/-- Counting the ones of a netmask gives the network exactly for contiguous masks. -/
theorem sharesPrefix_countOnes_iff (mask addr : Ipv4Addr) :
    (∀ a, SharesPrefix mask.countOnes addr a ↔ Matches mask addr a) ↔ mask.Contiguous := by
  simp only [sharesPrefix_iff, matches_iff]
  constructor
  · intro h
    have hbit : ∀ i < 32, mask.toNat.testBit i = true ↔ 32 - mask.countOnes ≤ i := by
      intro i hi
      have hflip := h (addr.flipBit i)
      rw [forall_testBit_flipBit_iff addr hi, forall_testBit_flipBit_iff addr hi] at hflip
      exact (not_iff_not.mp hflip).symm
    intro i hi j hj hlt hone
    rw [hbit i hi] at hone
    rw [hbit j hj]
    omega
  · intro h a
    have hbit := iff_of_countP_range h
    constructor
    · intro heq i hi hone
      exact heq i hi ((hbit i hi).mp hone)
    · intro heq i hi hle
      exact heq i hi ((hbit i hi).mpr hle)

end Ipv4Addr

end VpnHub
