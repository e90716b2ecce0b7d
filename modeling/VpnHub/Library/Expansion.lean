import Mathlib.Data.List.Basic
import Mathlib.Data.List.Infix

/-! # Expansion

A sequence of blocks of one width is an endless stream; an expansion is its beginning. -/

namespace VpnHub.Expansion

universe u

variable {α : Type u}

/-- The blocks `0`, …, `k - 1`. -/
def blocks (block : ℕ → List α) (k : ℕ) : List α := (List.range k).flatMap block

/-- The first `n` elements of the stream of nonempty blocks. -/
def expand (block : ℕ → List α) (n : ℕ) : List α := (blocks block n).take n

variable {block : ℕ → List α} {w : ℕ}

theorem blocks_succ (k : ℕ) : blocks block (k + 1) = blocks block k ++ block k := by
  simp [blocks, List.range_succ]

theorem length_blocks (hw : ∀ i, (block i).length = w) (k : ℕ) :
    (blocks block k).length = k * w := by
  induction k with
  | zero => simp [blocks]
  | succ k ih => rw [blocks_succ, List.length_append, ih, hw, Nat.add_mul, Nat.one_mul]

theorem isPrefix_blocks (block : ℕ → List α) {k l : ℕ} (h : k ≤ l) :
    blocks block k <+: blocks block l := by
  induction l, h using Nat.le_induction with
  | base => exact List.prefix_refl _
  | succ l _ ih => exact ih.trans ⟨block l, (blocks_succ l).symm⟩

/-- Any number of blocks that is enough gives the expansion. -/
theorem take_blocks (hw : ∀ i, (block i).length = w) (hpos : 0 < w) {n k : ℕ} (h : n ≤ k * w) :
    (blocks block k).take n = expand block n := by
  have hn : n ≤ n * w := Nat.le_mul_of_pos_right n hpos
  rcases Nat.le_total k n with hkn | hnk
  · obtain ⟨rest, hrest⟩ := isPrefix_blocks block hkn
    have hlen : n ≤ (blocks block k).length := by rwa [length_blocks hw]
    rw [expand, ← hrest, List.take_append_of_le_length hlen]
  · obtain ⟨rest, hrest⟩ := isPrefix_blocks block hnk
    have hlen : n ≤ (blocks block n).length := by rwa [length_blocks hw]
    rw [expand, ← hrest, List.take_append_of_le_length hlen]

theorem length_expand (hw : ∀ i, (block i).length = w) (hpos : 0 < w) (n : ℕ) :
    (expand block n).length = n := by
  have hn : n ≤ n * w := Nat.le_mul_of_pos_right n hpos
  rw [expand, List.length_take, length_blocks hw, Nat.min_eq_left hn]

/-- A shorter expansion is the beginning of a longer one. -/
theorem take_expand (hw : ∀ i, (block i).length = w) (hpos : 0 < w) {n m : ℕ} (h : n ≤ m) :
    (expand block m).take n = expand block n := by
  have hn : n ≤ m * w := h.trans (Nat.le_mul_of_pos_right m hpos)
  rw [← take_blocks hw hpos hn, expand, List.take_take, Nat.min_eq_left h]

/-- Where a block begins, the expansion goes on with it. -/
theorem take_expand_add (hw : ∀ i, (block i).length = w) (hpos : 0 < w) {n k c : ℕ}
    (hc : c ≤ w) (h : k * w + c ≤ n) :
    (expand block n).take (k * w + c) = (expand block n).take (k * w) ++ (block k).take c := by
  have hlen := length_blocks hw k
  have hnext : k * w + c ≤ (k + 1) * w := by
    rw [Nat.add_mul]
    omega
  rw [take_expand hw hpos h, take_expand hw hpos (by omega), ← take_blocks hw hpos hnext,
    ← take_blocks hw hpos (Nat.le_refl (k * w)), blocks_succ, List.take_append, hlen,
    Nat.add_sub_cancel_left, List.take_of_length_le (by omega : (blocks block k).length ≤ k * w + c),
    List.take_of_length_le (Nat.le_of_eq hlen)]

end VpnHub.Expansion
