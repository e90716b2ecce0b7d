import VpnHub.Model.TcpChecksum
import VpnHub.Verification.MssFix.Clamping

/-! # The checksum after clamping

The incremental update replaces one 16-bit word of the sum by another. That is what happens to
an MSS option at an even place; at an odd place its bytes belong to two words. -/

namespace VpnHub.Protocol.MssFix

open OnesComplement (words weight)

variable {maxMss mss checksum old : UInt16} {buffer tcp packet packet' : Bytes} {i start : ℕ}
variable {clamped : Bool}

/-! ## The incremental update -/

theorem toNat_fold (sum : UInt32) (h : sum.toNat < 2 ^ 18) :
    ((sum &&& (0xFFFF : UInt32)) + sum >>> 16).toNat = sum.toNat % 65536 + sum.toNat / 65536 := by
  have hand : (sum &&& (0xFFFF : UInt32)).toNat = sum.toNat % 65536 := by
    rw [UInt32.toNat_and]
    exact Nat.and_two_pow_sub_one_eq_mod sum.toNat 16
  have hshift : (sum >>> 16).toNat = sum.toNat / 65536 := by
    rw [UInt32.toNat_shiftRight]
    exact Nat.shiftRight_eq_div_pow sum.toNat 16
  rw [UInt32.toNat_add, hand, hshift]
  omega

theorem shift_eq_zero_iff (sum : UInt32) : sum >>> 16 = 0 ↔ sum.toNat < 65536 := by
  rw [← UInt32.toNat_inj, UInt32.toNat_shiftRight]
  change sum.toNat >>> 16 = 0 ↔ _
  rw [Nat.shiftRight_eq_div_pow]
  omega

/-- Two turns fold every sum of three words, and keep it modulo `0xFFFF`. -/
theorem foldCarry_spec (sum : UInt32) (h : sum.toNat ≤ 3 * 65535) :
    (foldCarry 2 sum).toNat ≤ 65535 ∧ (foldCarry 2 sum).toNat % 65535 = sum.toNat % 65535 := by
  simp only [foldCarry, ne_eq, shift_eq_zero_iff]
  have hfirst := toNat_fold sum (by omega)
  split
  · split
    · have hsecond := toNat_fold ((sum &&& (0xFFFF : UInt32)) + sum >>> 16) (by omega)
      omega
    · omega
  · omega

theorem toNat_updateSum (checksum old new : UInt16) :
    ((~~~checksum).toUInt32 + (~~~old).toUInt32 + new.toUInt32).toNat =
      65535 - checksum.toNat + (65535 - old.toNat) + new.toNat := by
  have hchecksum := checksum.toNat_lt
  have hold := old.toNat_lt
  have hnew := new.toNat_lt
  have hnot (x : UInt16) : (~~~x).toNat = 65535 - x.toNat := by simp [UInt16.toNat_not]
  rw [UInt32.toNat_add, UInt32.toNat_add, UInt16.toNat_toUInt32, UInt16.toNat_toUInt32,
    UInt16.toNat_toUInt32, hnot, hnot]
  omega

/-- The new checksum makes up for the difference of the two values. -/
theorem updateChecksum_modEq (checksum old new : UInt16) :
    ((updateChecksum checksum old new).toNat : ℤ) ≡
      checksum.toNat + old.toNat - new.toNat [ZMOD 65535] := by
  have hchecksum := checksum.toNat_lt
  have hold := old.toNat_lt
  have hnew := new.toNat_lt
  have htotal := toNat_updateSum checksum old new
  obtain ⟨hle, hmod⟩ := foldCarry_spec _ (by omega :
    ((~~~checksum).toUInt32 + (~~~old).toUInt32 + new.toUInt32).toNat ≤ 3 * 65535)
  rw [htotal] at hmod
  have hresult : (updateChecksum checksum old new).toNat = 65535 -
      (foldCarry 2 ((~~~checksum).toUInt32 + (~~~old).toUInt32 + new.toUInt32)).toNat := by
    have hsize : UInt32.size = 4294967296 := rfl
    rw [updateChecksum, UInt32.toNat_toUInt16, UInt32.toNat_not]
    omega
  rw [hresult]
  generalize (foldCarry 2 _).toNat = folded at hle hmod
  rw [Int.ModEq]
  omega

/-! ## The words of a segment -/

theorem toNat_word (h : wordAt buffer i = .ok old) :
    ∃ hi lo, buffer[i]? = some hi ∧ buffer[i + 1]? = some lo ∧
      highByte old = hi.toNat ∧ lowByte old = lo.toNat := by
  obtain ⟨hi, lo, hhi, hlo, rfl⟩ := wordAt_eq_ok.mp h
  have hbound := lo.toNat_lt
  refine ⟨hi, lo, hhi, hlo, ?_, ?_⟩
  · rw [highByte, toNat_join]
    omega
  · rw [lowByte, toNat_join]
    omega

/-- A rewritten number changes the sum by what its bytes weigh. -/
theorem sum_words_putWord (new : UInt16) (h : wordAt buffer i = .ok old) :
    ((words (putWord buffer i new)).sum : ℤ) = (words buffer).sum +
      weight i * (highByte new - highByte old) + weight (i + 1) * (lowByte new - lowByte old) := by
  obtain ⟨hi, lo, hhi, hlo, hhigh, hlow⟩ := toNat_word h
  have hlo' : (buffer.set i (new >>> 8).toUInt8)[i + 1]? = some lo := by
    rw [List.getElem?_set_ne (by omega), hlo]
  have hnewHigh : highByte new = ((new >>> 8).toUInt8.toNat : ℤ) := by
    have hbound := new.toNat_lt
    rw [highByte, UInt16.toNat_toUInt8, UInt16.toNat_shiftRight]
    change _ = ((new.toNat >>> 8 % 256 : ℕ) : ℤ)
    rw [Nat.shiftRight_eq_div_pow]
    omega
  have hnewLow : lowByte new = (new.toUInt8.toNat : ℤ) := by
    rw [lowByte, UInt16.toNat_toUInt8]
    norm_cast
  rw [putWord, OnesComplement.sum_words_set _ _ _ _ hlo', OnesComplement.sum_words_set _ _ _ _ hhi,
    hhigh, hlow, hnewHigh, hnewLow]

theorem sum_words_putWord_even (new : UInt16) (h : wordAt buffer i = .ok old) (heven : Even i) :
    ((words (putWord buffer i new)).sum : ℤ) = (words buffer).sum + new.toNat - old.toNat := by
  have hi : weight i = 256 := if_pos (Nat.even_iff.mp heven)
  have hi' : weight (i + 1) = 1 := if_neg (by have := Nat.even_iff.mp heven; omega)
  rw [sum_words_putWord new h, hi, hi', highByte, highByte, lowByte, lowByte]
  omega

theorem sum_words_putWord_odd (new : UInt16) (h : wordAt buffer i = .ok old) (hodd : Odd i) :
    ((words (putWord buffer i new)).sum : ℤ) = (words buffer).sum +
      (highByte new - highByte old) + 256 * (lowByte new - lowByte old) := by
  have hi : weight i = 1 := if_neg (by have := Nat.odd_iff.mp hodd; omega)
  have hi' : weight (i + 1) = 256 := if_pos (by have := Nat.odd_iff.mp hodd; omega)
  rw [sum_words_putWord new h, hi, hi']
  push_cast
  ring

/-! ## Packets -/

theorem checksumWords_le (packet tcp : Bytes) : ∀ w ∈ checksumWords packet tcp, w ≤ 65535 := by
  intro w hw
  simp only [checksumWords, List.append_assoc, List.mem_append, List.mem_cons, List.not_mem_nil,
    or_false] at hw
  obtain hw | (rfl | rfl | rfl) | hw := hw
  · exact OnesComplement.words_le _ w hw
  · decide
  · omega
  · omega
  · exact OnesComplement.words_le _ w hw

/-- The protocol number is part of the sum, which is therefore not zero. -/
theorem checksumCorrect_iff : ChecksumCorrect packet ↔ ∃ start, tcpStart packet = some start ∧
    20 ≤ start ∧ 65535 ∣ (checksumWords packet (packet.drop start)).sum := by
  have hpos (start : ℕ) : 0 < (checksumWords packet (packet.drop start)).sum := by
    simp only [checksumWords, List.sum_append, List.sum_cons]
    omega
  have hsum (start : ℕ) : OnesComplement.sum 0xFFFF (checksumWords packet (packet.drop start)) =
      0xFFFF ↔ 65535 ∣ (checksumWords packet (packet.drop start)).sum := by
    rw [OnesComplement.sum_eq_max_iff _ (checksumWords_le _ _) (by decide)]
    exact and_iff_left (hpos start)
  simp only [ChecksumCorrect, hsum]

theorem checksumCorrect_of_options (h : HasOptions packet start tcp) (hstart : 20 ≤ start) :
    ChecksumCorrect packet ↔ (65535 : ℤ) ∣ (checksumWords packet tcp).sum := by
  rw [checksumCorrect_iff]
  constructor
  · rintro ⟨start', hstarts, -, hdvd⟩
    obtain rfl := Option.some.inj (h.starts.symm.trans hstarts)
    rw [h.rest] at hdvd
    exact_mod_cast hdvd
  · intro hdvd
    refine ⟨start, h.starts, hstart, ?_⟩
    rw [h.rest]
    exact_mod_cast hdvd

theorem take_behind {n : ℕ} (h : HasOptions packet start tcp) (hn : n ≤ start) (tcp' : Bytes) :
    (packet.take start ++ tcp').take n = packet.take n := by
  have hlen : (packet.take start).length = start := by
    rw [List.length_take, Nat.min_eq_left h.le]
  rw [List.take_append_of_le_length (by omega), List.take_take, Nat.min_eq_left hn]

/-- The addresses stand before the TCP part. -/
theorem addresses_behind (h : HasOptions packet start tcp) (hstart : 20 ≤ start) (tcp' : Bytes) :
    addresses (packet.take start ++ tcp') = addresses packet := by
  have hhead : (packet.take start ++ tcp').headD 0 = packet.headD 0 := by
    have hone := take_behind h (by omega : 1 ≤ start) tcp'
    have hget := congrArg (fun bytes : Bytes => bytes[0]?) hone
    simp only [List.getElem?_take, Nat.lt_one_iff, if_true] at hget
    rw [headD_eq, headD_eq, hget]
  have hversion := h.starts
  rw [addresses, addresses, hhead]
  split
  · rw [take_behind h hstart]
  · rename_i h4
    simp only [tcpStart, h4, if_false, ipv6Start] at hversion
    obtain ⟨-, hversion⟩ := Option.ite_none_right_eq_some.mp hversion
    obtain ⟨-, hforty⟩ := Option.ite_none_right_eq_some.mp hversion
    obtain rfl := Option.some.inj hforty
    rw [take_behind h le_rfl]

/-- How the option at `i` and the updated checksum change the sum of all words. -/
theorem sum_clampedAt (h : HasOptions packet start tcp) (hstart : 20 ≤ start) (hi : 20 ≤ i)
    (hchecksum : wordAt tcp 16 = .ok checksum) :
    ((checksumWords (packet.take start ++ clampedAt maxMss tcp i mss checksum)
        (clampedAt maxMss tcp i mss checksum)).sum : ℤ) ≡
      (checksumWords packet tcp).sum + ((words (putWord tcp (i + 2) maxMss)).sum -
        (words tcp).sum) + (mss.toNat - maxMss.toNat) [ZMOD 65535] := by
  have hchecksum' : wordAt (putWord tcp (i + 2) maxMss) 16 = .ok checksum := by
    rw [wordAt_putWord_of_disjoint (by omega), hchecksum]
  have hwords := sum_words_putWord_even (updateChecksum checksum mss maxMss) hchecksum' (by decide)
  have hupdate := updateChecksum_modEq checksum mss maxMss
  rw [← clampedAt] at hwords
  simp only [checksumWords, addresses_behind h hstart, length_clampedAt, List.sum_append,
    List.sum_cons, List.sum_nil, Nat.cast_add, hwords]
  rw [Int.modEq_iff_dvd] at hupdate ⊢
  obtain ⟨q, hq⟩ := hupdate
  exact ⟨q, by linarith⟩

/-- The byte changes at an odd place make up for the update only in one case. -/
theorem odd_change_iff (old new : UInt16) :
    (65535 : ℤ) ∣ (highByte new - highByte old) + 256 * (lowByte new - lowByte old) +
        (old.toNat - new.toNat) ↔
      (257 : ℤ) ∣ (highByte new - highByte old) - (lowByte new - lowByte old) := by
  have hold : (old.toNat : ℤ) = 256 * highByte old + lowByte old := by
    rw [highByte, lowByte]
    omega
  have hnew : (new.toNat : ℤ) = 256 * highByte new + lowByte new := by
    rw [highByte, lowByte]
    omega
  rw [hold, hnew]
  omega

theorem checksumCorrect_clampedAt (h : HasOptions packet start tcp) (hstart : 20 ≤ start)
    (hi : 20 ≤ i) (hchecksum : wordAt tcp 16 = .ok checksum) (hcorrect : ChecksumCorrect packet) :
    ChecksumCorrect (packet.take start ++ clampedAt maxMss tcp i mss checksum) ↔
      (65535 : ℤ) ∣ ((words (putWord tcp (i + 2) maxMss)).sum - (words tcp).sum) +
        (mss.toNat - maxMss.toNat) := by
  have hbefore := (checksumCorrect_of_options h hstart).mp hcorrect
  have hsum : (65535 : ℤ) ∣ _ -
      ((checksumWords (packet.take start ++ clampedAt maxMss tcp i mss checksum)
        (clampedAt maxMss tcp i mss checksum)).sum : ℤ) :=
    (sum_clampedAt h hstart hi hchecksum).dvd
  rw [checksumCorrect_of_options (hasOptions_clampedAt h hi) hstart]
  omega

/-- Only one option is clamped. -/
theorem alignedOption_iff (h : HasOptions packet start tcp) (hreached : Reached maxMss tcp i)
    (hannounces : Announces tcp i mss) (hmss : maxMss < mss) :
    AlignedOption packet maxMss ↔ Even i ∨
      (257 : ℤ) ∣ (highByte maxMss - highByte mss) - (lowByte maxMss - lowByte mss) := by
  constructor
  · intro haligned
    exact haligned start tcp i mss h hreached hannounces hmss
  · intro hplace start' tcp' j first h' hreached' hannounces' hlt
    obtain ⟨rfl, rfl⟩ := h.unique h'
    obtain rfl := hreached.eq_of_exceeds ⟨mss, hannounces, hmss⟩ hreached'
      ⟨first, hannounces', hlt⟩
    rwa [← hannounces.unique hannounces']

/-- Clamping keeps the checksum of a TCP packet correct exactly when the option that it clamps
is at an even place, or its bytes change alike modulo 257. -/
theorem checksum_kept_iff (packet : Bytes) (maxMss : UInt16) (clamped : Bool) (packet' : Bytes)
    (hcorrect : ChecksumCorrect packet)
    (hcall : clampTcpMss packet maxMss = .ok (clamped, packet')) :
    ChecksumCorrect packet' ↔ AlignedOption packet maxMss := by
  by_cases hoptions : ∃ start tcp, HasOptions packet start tcp
  · obtain ⟨start, tcp, h⟩ := hoptions
    obtain ⟨rfl, rfl, hnone⟩ | ⟨i, mss, checksum, rfl, hreached, hannounces, hmss, hchecksum, rfl⟩ :=
      clampTcpMss_result h hcall
    · refine iff_of_true hcorrect ?_
      intro start' tcp' i mss h' hreached hannounces hmss
      obtain ⟨rfl, rfl⟩ := h.unique h'
      exact absurd ⟨mss, hannounces, hmss⟩ (hnone i hreached)
    · obtain ⟨start', hstarts, hstart, -⟩ := id hcorrect
      obtain rfl := Option.some.inj (h.starts.symm.trans hstarts)
      rw [checksumCorrect_clampedAt h hstart hreached.twenty_le hchecksum hcorrect,
        alignedOption_iff h hreached hannounces hmss]
      by_cases heven : Even i
      · rw [sum_words_putWord_even maxMss hannounces.2.2 (heven.add (by decide))]
        refine iff_of_true ?_ (.inl heven)
        ring_nf
        exact dvd_zero _
      · have hodd : Odd (i + 2) := (Nat.not_even_iff_odd.mp heven).add_even (by decide)
        rw [sum_words_putWord_odd maxMss hannounces.2.2 hodd, or_iff_right heven,
          ← odd_change_iff]
        ring_nf
  · push Not at hoptions
    rw [clampTcpMss_of_not hoptions] at hcall
    obtain ⟨rfl, rfl⟩ := Prod.mk.inj (Except.ok.inj hcall)
    exact iff_of_true hcorrect fun start tcp _ _ h => absurd h (hoptions start tcp)

/-- A SYN whose MSS option comes first, at place 20. -/
theorem checksum_kept_syn :
    ChecksumCorrect (putWord (synPacket 0x60 [2, 4, 0x05, 0x14]) 36 0xEB50) := by
  have hoptions : HasOptions (putWord (synPacket 0x60 [2, 4, 0x05, 0xB4]) 36 0xEAB0) 20
      ((putWord (synPacket 0x60 [2, 4, 0x05, 0xB4]) 36 0xEAB0).drop 20) := by
    constructor <;> decide +kernel
  have hcorrect : ChecksumCorrect (putWord (synPacket 0x60 [2, 4, 0x05, 0xB4]) 36 0xEAB0) :=
    ⟨20, by decide +kernel, le_rfl, by decide +kernel⟩
  have hannounces : Announces ((putWord (synPacket 0x60 [2, 4, 0x05, 0xB4]) 36 0xEAB0).drop 20)
      20 1460 := ⟨by decide +kernel, by decide +kernel, by decide +kernel⟩
  refine (checksum_kept_iff _ 1300 true _ hcorrect (by decide +kernel)).mpr ?_
  exact (alignedOption_iff hoptions ⟨.refl, by decide +kernel⟩ hannounces (by decide)).mpr
    (.inl (by decide))

/-- Behind one byte of padding the option is at an odd place. -/
theorem checksum_broken :
    ¬ ∀ packet maxMss clamped packet', ChecksumCorrect packet →
      clampTcpMss packet maxMss = .ok (clamped, packet') → ChecksumCorrect packet' := by
  intro hclaim
  have hcorrect :
      ChecksumCorrect (putWord (synPacket 0x70 [1, 2, 4, 0x05, 0xB4, 1, 1, 0]) 36 0x285C) :=
    ⟨20, by decide +kernel, le_rfl, by decide +kernel⟩
  obtain ⟨start, hstart, -, hsum⟩ := hclaim _ 1300 true
    (putWord (synPacket 0x70 [1, 2, 4, 0x05, 0x14, 1, 1, 0]) 36 0x28FC) hcorrect
    (by decide +kernel)
  have htwenty : tcpStart (putWord (synPacket 0x70 [1, 2, 4, 0x05, 0x14, 1, 1, 0]) 36 0x28FC) =
      some 20 := by decide +kernel
  obtain rfl := Option.some.inj (htwenty.symm.trans hstart)
  exact absurd hsum (by decide +kernel)

end VpnHub.Protocol.MssFix
