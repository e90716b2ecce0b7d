import VpnHub.Model.TextCodes
import VpnHub.Program.Proxy

/-! # The Base64 encoder of the HTTP proxy client -/

namespace VpnHub.Transport.HttpConnectClient

open BitGroups

/-! ## The letters of a chunk

The shifts and masks of a chunk are divisions and remainders. -/

theorem b64Char_eq_letter (b : UInt8) : b64Char b = base64.letter b.toNat := rfl

theorem toNat_first (b0 : UInt8) : (b0 >>> 2).toNat = b0.toNat / 4 := by
  rw [UInt8.toNat_shiftRight, Nat.shiftRight_eq_div_pow]
  rfl

/-- The low bits of one byte before the high bits of the next. -/
theorem toNat_packed {low high : UInt8} {n : ℕ} (hn : n < 8) (hhigh : high.toNat < 2 ^ n)
    (hlow : low.toNat * 2 ^ n < 256) :
    ((low <<< UInt8.ofNat n) ||| high).toNat = 2 ^ n * low.toNat + high.toNat := by
  have hshift : (low <<< UInt8.ofNat n).toNat = 2 ^ n * low.toNat := by
    have hmod : (UInt8.ofNat n).toNat % 8 = n := by
      rw [UInt8.toNat_ofNat']
      omega
    rw [UInt8.toNat_shiftLeft, hmod, Nat.shiftLeft_eq, Nat.mod_eq_of_lt hlow, Nat.mul_comm]
  rw [UInt8.toNat_or, hshift, ← Nat.two_pow_add_eq_or_of_lt hhigh]

theorem toNat_second (b0 b1 : UInt8) :
    (((b0 &&& 0x03) <<< 4) ||| (b1 >>> 4)).toNat = 16 * (b0.toNat % 4) + b1.toNat / 16 := by
  have hlow : (b0 &&& 0x03).toNat = b0.toNat % 4 := by
    rw [UInt8.toNat_and]
    exact Nat.and_two_pow_sub_one_eq_mod b0.toNat 2
  have hhigh : (b1 >>> 4).toNat = b1.toNat / 16 := by
    rw [UInt8.toNat_shiftRight, Nat.shiftRight_eq_div_pow]
    rfl
  have hb1 := UInt8.toNat_lt b1
  rw [← hlow, ← hhigh]
  exact toNat_packed (n := 4) (by decide) (by omega) (by omega)

theorem toNat_third (b1 b2 : UInt8) :
    (((b1 &&& 0x0F) <<< 2) ||| (b2 >>> 6)).toNat = 4 * (b1.toNat % 16) + b2.toNat / 64 := by
  have hlow : (b1 &&& 0x0F).toNat = b1.toNat % 16 := by
    rw [UInt8.toNat_and]
    exact Nat.and_two_pow_sub_one_eq_mod b1.toNat 4
  have hhigh : (b2 >>> 6).toNat = b2.toNat / 64 := by
    rw [UInt8.toNat_shiftRight, Nat.shiftRight_eq_div_pow]
    rfl
  have hb2 := UInt8.toNat_lt b2
  rw [← hlow, ← hhigh]
  exact toNat_packed (n := 2) (by decide) (by omega) (by omega)

theorem toNat_fourth (b2 : UInt8) : (b2 &&& 0x3F).toNat = b2.toNat % 64 := by
  rw [UInt8.toNat_and]
  exact Nat.and_two_pow_sub_one_eq_mod b2.toNat 6

/-! ## The bits of a chunk -/

/-- The byte cut after its first `m` bits. -/
theorem toBits_byte (m n : ℕ) (h : m + n = 8) (b : UInt8) :
    toBits 8 b.toNat = toBits m (b.toNat / 2 ^ n) ++ toBits n (b.toNat % 2 ^ n) := by
  rw [toBits_mod, ← toBits_add, h]

/-- The end of one byte before the start of the next. -/
theorem toBits_second (x : ℕ) {y : ℕ} (hy : y < 16) :
    toBits 6 (16 * x + y) = toBits 2 x ++ toBits 4 y := (toBits_append 2 4 x hy).symm

theorem toBits_third (x : ℕ) {y : ℕ} (hy : y < 4) :
    toBits 6 (4 * x + y) = toBits 4 x ++ toBits 2 y := (toBits_append 4 2 x hy).symm

/-- The encoder writes the letters of digits that have the bits of the bytes, filled with zeros,
and pads them. -/
theorem exists_digits (bytes : Bytes) :
    ∃ digits fill pad, b64 bytes = digits.map base64.letter ++ List.replicate pad '=' ∧
      (∀ d ∈ digits, d < 2 ^ 6) ∧ fill < 6 ∧
      bitsOf 6 digits = byteBits bytes ++ List.replicate fill false ∧
      pad < 3 ∧ (digits.length + pad) = 4 * ((bytes.length + 2) / 3) := by
  induction bytes using b64.induct with
  | case1 => exact ⟨[], 0, 0, rfl, by simp, by decide, rfl, by decide, rfl⟩
  | case2 b0 =>
    have hb0 := UInt8.toNat_lt b0
    refine ⟨[b0.toNat / 4, 16 * (b0.toNat % 4)], 4, 2, ?_, ?_, by decide, ?_, by decide, by simp⟩
    · have hsecond := toNat_second b0 0
      simp only [b64, b64Chunk, b64Char_eq_letter, toNat_first, Option.getD_none, hsecond]
      rfl
    · simp
      omega
    · have hsecond := toBits_second (b0.toNat % 4) (y := 0) (by decide)
      rw [Nat.add_zero] at hsecond
      simp only [bitsOf_cons, bitsOf_nil, byteBits_cons, byteBits_nil, hsecond,
        toBits_byte 6 2 rfl b0, List.append_nil, List.append_assoc]
      rfl
  | case3 b0 b1 =>
    have hb0 := UInt8.toNat_lt b0
    have hb1 := UInt8.toNat_lt b1
    refine ⟨[b0.toNat / 4, 16 * (b0.toNat % 4) + b1.toNat / 16, 4 * (b1.toNat % 16)], 2, 1,
      ?_, ?_, by decide, ?_, by decide, by simp⟩
    · have hthird := toNat_third b1 0
      simp only [b64, b64Chunk, b64Char_eq_letter, toNat_first, toNat_second, Option.getD_some,
        Option.getD_none, hthird]
      rfl
    · simp
      omega
    · have hthird := toBits_third (b1.toNat % 16) (y := 0) (by decide)
      rw [Nat.add_zero] at hthird
      simp only [bitsOf_cons, bitsOf_nil, byteBits_cons, byteBits_nil, hthird,
        toBits_second (b0.toNat % 4) (show b1.toNat / 16 < 16 by omega),
        toBits_byte 6 2 rfl b0, toBits_byte 4 4 rfl b1, List.append_nil, List.append_assoc]
      rfl
  | case4 b0 b1 b2 rest ih =>
    obtain ⟨digits, fill, pad, htext, hlt, hfill, hbits, hpad, hlen⟩ := ih
    have hb0 := UInt8.toNat_lt b0
    have hb1 := UInt8.toNat_lt b1
    have hb2 := UInt8.toNat_lt b2
    refine ⟨[b0.toNat / 4, 16 * (b0.toNat % 4) + b1.toNat / 16,
      4 * (b1.toNat % 16) + b2.toNat / 64, b2.toNat % 64] ++ digits, fill, pad, ?_, ?_, hfill, ?_,
      hpad, ?_⟩
    · simp only [b64, b64Chunk, b64Char_eq_letter, toNat_first, toNat_second, toNat_third,
        toNat_fourth, Option.getD_some, htext]
      rfl
    · intro d hd
      rcases List.mem_append.mp hd with hd | hd
      · simp only [List.mem_cons, List.not_mem_nil, or_false] at hd
        omega
      · exact hlt d hd
    · simp only [bitsOf_append, bitsOf_cons, bitsOf_nil, byteBits_cons, hbits,
        toBits_second (b0.toNat % 4) (show b1.toNat / 16 < 16 by omega),
        toBits_third (b1.toNat % 16) (show b2.toNat / 64 < 4 by omega),
        toBits_byte 6 2 rfl b0, toBits_byte 4 4 rfl b1, toBits_byte 2 6 rfl b2, List.append_nil,
        List.append_assoc, Nat.reducePow]
    · simp only [List.length_append, List.length_cons, List.length_nil]
      omega

/-- The encoder writes the Base64 encoding. -/
theorem b64_eq_encode (bytes : Bytes) : b64 bytes = base64.encode bytes := by
  obtain ⟨digits, fill, pad, htext, hlt, hfill, hbits, hpad, hlen⟩ := exists_digits bytes
  have hdigits : toDigits 6 bytes = digits := toDigits_eq hlt hbits hfill
  have hletters : base64.letters bytes = digits.map base64.letter :=
    congrArg (List.map base64.letter) hdigits
  have hpadding : base64.padding digits.length = List.replicate pad '=' := by
    have hcount : (4 - digits.length % 4) % 4 = pad := by omega
    exact congrArg (List.replicate · '=') hcount
  rw [htext, TextCode.encode, hletters, List.length_map, hpadding]

theorem length_b64 (bytes : Bytes) : (b64 bytes).length = 4 * ((bytes.length + 2) / 3) := by
  obtain ⟨digits, fill, pad, htext, -, -, -, -, hlen⟩ := exists_digits bytes
  rw [htext, List.length_append, List.length_map, List.length_replicate, hlen]

/-- The text is letters of the standard alphabet and then at most two signs of padding, four for
each three bytes begun, and decodes to the bytes. -/
theorem b64_decodes (bytes : Bytes) :
    (∃ letters pad, b64 bytes = letters ++ List.replicate pad '=' ∧
      (∀ c ∈ letters, c ∈ base64.alphabet) ∧ pad ≤ 2) ∧
      (b64 bytes).length = 4 * ((bytes.length + 2) / 3) ∧
      base64.decode (b64 bytes) = some bytes := by
  refine ⟨?_, length_b64 bytes, ?_⟩
  · obtain ⟨digits, fill, pad, htext, hlt, -, -, hpad, -⟩ := exists_digits bytes
    refine ⟨digits.map base64.letter, pad, htext, ?_, Nat.le_of_lt_succ hpad⟩
    intro c hc
    obtain ⟨d, hd, rfl⟩ := List.mem_map.mp hc
    exact base64.letter_mem (hlt d hd)
  · rw [b64_eq_encode, base64.decode_encode]

end VpnHub.Transport.HttpConnectClient
