import VpnHub.Library.Text

/-! # UTF-8

Which bytes the encoding of a text has, and that it determines the text. -/

namespace VpnHub.Text

variable {s t : List Char} {c : Char}

theorem utf8Encode_cons (c : Char) (s : List Char) :
    utf8Encode (c :: s) = String.utf8EncodeChar c ++ utf8Encode s := rfl

theorem utf8Encode_inj (h : utf8Encode s = utf8Encode t) : s = t := by
  have hbytes : List.utf8Encode s = List.utf8Encode t := congrArg List.toByteArray h
  have hdecode := congrArg ByteArray.utf8Decode? hbytes
  rw [List.utf8Decode?_utf8Encode, List.utf8Decode?_utf8Encode] at hdecode
  simpa using hdecode

/-- A character that is not ASCII has no byte that is. -/
theorem le_of_mem_utf8EncodeChar {b : UInt8} (h : ¬ c.toNat < 128)
    (hb : b ∈ String.utf8EncodeChar c) : 128 ≤ b.toNat := by
  have hv : ¬ c.val.toNat ≤ 0x7f := fun hle => h (Nat.lt_succ_of_le hle)
  rw [String.utf8EncodeChar, if_neg hv] at hb
  split_ifs at hb
  all_goals
    simp only [List.mem_cons, List.not_mem_nil, or_false] at hb
    rcases hb with rfl | rfl | rfl | rfl
  all_goals
    rw [UInt8.toNat_ofNat']
    omega

theorem ascii_of_utf8Encode (h : ∀ b ∈ utf8Encode s, b.toNat < 128) : ∀ c ∈ s, c.toNat < 128 := by
  intro c hc
  by_contra hlarge
  obtain ⟨b, hb⟩ := List.exists_mem_of_ne_nil _ (String.utf8EncodeChar_ne_nil (c := c))
  have hlow := h b (List.mem_flatMap_of_mem hc hb)
  have hhigh := le_of_mem_utf8EncodeChar hlarge hb
  omega

theorem utf8EncodeChar_of_ascii (h : c.toNat < 128) :
    String.utf8EncodeChar c = [UInt8.ofNat c.toNat] := if_pos (Nat.le_of_lt_succ h)

theorem toNat_ofNat_of_ascii (h : c.toNat < 128) : (UInt8.ofNat c.toNat).toNat = c.toNat := by
  rw [UInt8.toNat_ofNat']
  omega

/-- Only the character zero has a byte zero. -/
theorem zero_notMem_utf8Encode (h : Char.ofNat 0 ∉ s) : 0 ∉ utf8Encode s := by
  intro hzero
  obtain ⟨c, hc, hzero⟩ := List.mem_flatMap.mp hzero
  by_cases hascii : c.toNat < 128
  · rw [utf8EncodeChar_of_ascii hascii, List.mem_singleton] at hzero
    have hnat := toNat_ofNat_of_ascii hascii
    rw [← hzero] at hnat
    have hchar : c = Char.ofNat 0 := by
      rw [← Char.ofNat_toNat c, ← hnat]
      rfl
    exact h (hchar ▸ hc)
  · have hhigh := le_of_mem_utf8EncodeChar hascii hzero
    cases hhigh

end VpnHub.Text
