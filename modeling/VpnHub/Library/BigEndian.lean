import Mathlib.Data.List.Basic
import Mathlib.Data.UInt

/-! # Big-endian integers

Fixed-width big-endian encoding of natural numbers and its inverse. -/

namespace VpnHub.BigEndian

/-- The `n` low base-256 digits of `x`, most significant first. -/
def toBE : ℕ → ℕ → List UInt8
  | 0, _ => []
  | n + 1, x => toBE n (x / 256) ++ [UInt8.ofNat x]

/-- The number whose base-256 digits are given, most significant first. -/
def ofBE (bytes : List UInt8) : ℕ := bytes.foldl (fun acc b => acc * 256 + b.toNat) 0

@[simp] theorem length_toBE (n x : ℕ) : (toBE n x).length = n := by
  induction n generalizing x with
  | zero => rfl
  | succ n ih => simp [toBE, ih]

theorem toBE_add (m n x : ℕ) : toBE (m + n) x = toBE m (x / 256 ^ n) ++ toBE n x := by
  induction n generalizing x with
  | zero => simp [toBE]
  | succ n ih =>
      rw [← Nat.add_assoc, toBE, ih, toBE, Nat.div_div_eq_div_mul, ← pow_succ',
        List.append_assoc]

@[simp] theorem ofBE_nil : ofBE [] = 0 := rfl

theorem ofBE_concat (bytes : List UInt8) (b : UInt8) :
    ofBE (bytes ++ [b]) = ofBE bytes * 256 + b.toNat := by
  simp [ofBE, List.foldl_append]

theorem ofBE_toBE (n x : ℕ) : ofBE (toBE n x) = x % 256 ^ n := by
  induction n generalizing x with
  | zero => simp [toBE, Nat.mod_one]
  | succ n ih =>
      have hdigit : (UInt8.ofNat x).toNat = x % 256 := UInt8.toNat_ofNat'
      rw [toBE, ofBE_concat, ih, hdigit, pow_succ', Nat.mod_mul]
      omega

theorem ofBE_lt (bytes : List UInt8) : ofBE bytes < 256 ^ bytes.length := by
  induction bytes using List.reverseRecOn with
  | nil => simp
  | append_singleton bytes b ih =>
      have hb := UInt8.toNat_lt b
      rw [ofBE_concat, List.length_append, List.length_singleton, pow_succ]
      omega

theorem toBE_ofBE (bytes : List UInt8) : toBE bytes.length (ofBE bytes) = bytes := by
  induction bytes using List.reverseRecOn with
  | nil => rfl
  | append_singleton bytes b ih =>
      have hb := UInt8.toNat_lt b
      have hdiv : (ofBE bytes * 256 + b.toNat) / 256 = ofBE bytes := by omega
      have hlast : UInt8.ofNat (ofBE bytes * 256 + b.toNat) = b := by
        rw [← UInt8.toNat_inj, UInt8.toNat_ofNat']
        omega
      rw [List.length_append, List.length_singleton, toBE, ofBE_concat, hdiv, ih, hlast]

theorem toBE_ofBE_of_length {n : ℕ} {bytes : List UInt8} (h : bytes.length = n) :
    toBE n (ofBE bytes) = bytes := by
  rw [← h, toBE_ofBE]

end VpnHub.BigEndian
