import VpnHub.Model.TcpOptions

/-! # The walk over the TCP options

The loop over the options takes the steps of the walk. It returns exactly when every MSS option
on the way has a length other than zero. -/

namespace VpnHub.Protocol.MssFix

variable {maxMss mss checksum : UInt16} {buffer tcp packet : Bytes} {i j turns : ℕ}

/-! ## Reading and writing -/

@[simp] theorem byteAt_eq_ok {b : UInt8} : byteAt buffer i = .ok b ↔ buffer[i]? = some b := by
  simp only [byteAt]
  split <;> simp_all

theorem byteAt_of_lt {buffer : Bytes} {i : ℕ} (h : i < buffer.length) :
    byteAt buffer i = .ok (buffer[i]?.getD 0) := by
  simp [byteAt, h]

theorem wordAt_eq_ok : wordAt buffer i = .ok mss ↔
    ∃ hi lo, buffer[i]? = some hi ∧ buffer[i + 1]? = some lo ∧
      mss = hi.toUInt16 <<< 8 ||| lo.toUInt16 := by
  constructor
  · intro h
    cases hhi : byteAt buffer i with
    | error e => simp [wordAt, hhi, bind, Except.bind] at h
    | ok hi =>
        cases hlo : byteAt buffer (i + 1) with
        | error e => simp [wordAt, hhi, hlo, bind, Except.bind] at h
        | ok lo =>
            refine ⟨hi, lo, byteAt_eq_ok.mp hhi, byteAt_eq_ok.mp hlo, ?_⟩
            simp only [wordAt, hhi, hlo, bind, Except.bind, pure, Except.pure] at h
            exact (Except.ok.inj h).symm
  · rintro ⟨hi, lo, hhi, hlo, rfl⟩
    simp [wordAt, byteAt, hhi, hlo, bind, Except.bind, pure, Except.pure]

theorem exists_wordAt {buffer : Bytes} (i : ℕ) (h : i + 2 ≤ buffer.length) :
    ∃ mss, wordAt buffer i = .ok mss := by
  have hi : i < buffer.length := by omega
  have hlo : i + 1 < buffer.length := by omega
  exact ⟨_, wordAt_eq_ok.mpr ⟨_, _, List.getElem?_eq_getElem hi, List.getElem?_eq_getElem hlo, rfl⟩⟩

@[simp] theorem length_putWord : (putWord buffer i mss).length = buffer.length := by
  simp [putWord]

theorem getElem?_putWord_of_ne (h : j ≠ i) (h' : j ≠ i + 1) :
    (putWord buffer i mss)[j]? = buffer[j]? := by
  rw [putWord, List.getElem?_set_ne (Ne.symm h'), List.getElem?_set_ne (Ne.symm h)]

theorem wordAt_putWord_of_disjoint (h : j + 2 ≤ i ∨ i + 2 ≤ j) :
    wordAt (putWord buffer i mss) j = wordAt buffer j := by
  simp only [wordAt, byteAt]
  rw [getElem?_putWord_of_ne (by omega) (by omega), getElem?_putWord_of_ne (by omega) (by omega)]

theorem toNat_join (hi lo : UInt8) :
    (hi.toUInt16 <<< 8 ||| lo.toUInt16).toNat = hi.toNat * 256 + lo.toNat := by
  have hhi := hi.toNat_lt
  have hlo := lo.toNat_lt
  have hshift : hi.toNat <<< 8 % 65536 = hi.toNat <<< 8 := by
    rw [Nat.shiftLeft_eq]
    omega
  simp only [UInt16.toNat_or, UInt16.toNat_shiftLeft, UInt8.toNat_toUInt16]
  change hi.toNat <<< 8 % 65536 ||| lo.toNat = _
  rw [hshift, ← Nat.shiftLeft_add_eq_or_of_lt hlo, Nat.shiftLeft_eq]

theorem join_split (mss : UInt16) :
    (mss >>> 8).toUInt8.toUInt16 <<< 8 ||| mss.toUInt8.toUInt16 = mss := by
  have hmss := mss.toNat_lt
  rw [← UInt16.toNat_inj, toNat_join, UInt16.toNat_toUInt8, UInt16.toNat_toUInt8,
    UInt16.toNat_shiftRight]
  change mss.toNat >>> 8 % 256 * 256 + mss.toNat % 256 = mss.toNat
  rw [Nat.shiftRight_eq_div_pow]
  omega

theorem wordAt_putWord_self (h : i + 2 ≤ buffer.length) :
    wordAt (putWord buffer i mss) i = .ok mss := by
  refine wordAt_eq_ok.mpr ⟨(mss >>> 8).toUInt8, mss.toUInt8, ?_, ?_, (join_split mss).symm⟩
  · rw [putWord, List.getElem?_set_ne (by omega), List.getElem?_set_self (by omega)]
  · rw [putWord, List.getElem?_set_self (by rw [List.length_set]; omega)]

/-! ## One option -/

theorem lt_length (h : ∃ k, tcp[i]? = some k) : i < tcp.length := by
  obtain ⟨k, hk⟩ := h
  exact (List.getElem?_eq_some_iff.mp hk).1

theorem Announces.end_le (h : Announces tcp i mss) : i + 4 ≤ tcp.length := by
  obtain ⟨hi, lo, -, hlo, -⟩ := wordAt_eq_ok.mp h.2.2
  have := lt_length ⟨lo, hlo⟩
  omega

theorem announces_iff : (∃ mss, Announces tcp i mss) ↔
    i + 4 ≤ tcp.length ∧ tcp[i]? = some 2 ∧ tcp[i + 1]? = some 4 := by
  constructor
  · rintro ⟨mss, h⟩
    exact ⟨h.end_le, h.1, h.2.1⟩
  · rintro ⟨hlen, hkind, hlength⟩
    obtain ⟨mss, hmss⟩ := exists_wordAt (i + 2) (by omega : i + 2 + 2 ≤ tcp.length)
    exact ⟨mss, hkind, hlength, hmss⟩

theorem Announces.unique {mss' : UInt16} (h : Announces tcp i mss) (h' : Announces tcp i mss') :
    mss = mss' :=
  Except.ok.inj (h.2.2.symm.trans h'.2.2)

variable {offset : ℕ}

theorem optionLoop_of_le (h : offset ≤ i) :
    optionLoop maxMss offset (turns + 1) i tcp = .ok (false, tcp) := by
  simp [optionLoop, h, pure, Except.pure]

theorem optionLoop_of_stops (h : Stops tcp i) :
    optionLoop maxMss offset (turns + 1) i tcp = .ok (false, tcp) := by
  by_cases hend : offset ≤ i
  · exact optionLoop_of_le hend
  obtain hkind | ⟨k, hkind, hk, hlong⟩ := h
  · have hread := byteAt_eq_ok.mpr hkind
    simp [optionLoop, hread, hend, bind, Except.bind, pure, Except.pure]
  · have hread := byteAt_eq_ok.mpr hkind
    have h0 : k ≠ 0 := by rintro rfl; cases hk
    have h1 : k ≠ 1 := by rintro rfl; exact absurd hk (by decide)
    have h2 : k ≠ 2 := by rintro rfl; exact absurd hk (by decide)
    by_cases hlast : tcp.length ≤ i + 1
    · simp [optionLoop, hread, hend, h0, h1, h2, hlast, bind, Except.bind, pure, Except.pure]
    · obtain ⟨len, hlen⟩ : ∃ len, tcp[i + 1]? = some len :=
        ⟨_, List.getElem?_eq_getElem (by omega)⟩
      have hshort := hlong len hlen
      have hreadLen := byteAt_eq_ok.mpr hlen
      simp [optionLoop, hread, hreadLen, hend, h0, h1, h2, hlast, hshort, bind, Except.bind,
        pure, Except.pure]

theorem optionLoop_of_exceeds (hi : i < offset) (h : Announces tcp i mss) (hmss : maxMss < mss)
    (hchecksum : wordAt tcp 16 = .ok checksum) (h20 : 20 ≤ i) :
    optionLoop maxMss offset (turns + 1) i tcp =
      .ok (true, clampedAt maxMss tcp i mss checksum) := by
  have hend := h.end_le
  have hchecksum' : wordAt (putWord tcp (i + 2) maxMss) 16 = .ok checksum := by
    rw [wordAt_putWord_of_disjoint (by omega), hchecksum]
  have hread := byteAt_eq_ok.mpr h.1
  have hlen := lt_length ⟨_, h.1⟩
  simp [optionLoop, hread, h.2.1, h.2.2, hchecksum', hmss, hend, Nat.not_le.mpr hi,
    Nat.not_le.mpr hlen, clampedAt, bind, Except.bind, pure, Except.pure]

/-- A step of the walk is a turn of the loop. -/
theorem optionLoop_of_passes (hi : i < offset) (hpasses : Passes tcp i j)
    (h : ¬ Exceeds maxMss tcp i) :
    optionLoop maxMss offset (turns + 1) i tcp = optionLoop maxMss offset turns j tcp := by
  cases hpasses with
  | nop hkind =>
      have hlen := lt_length ⟨_, hkind⟩
      have hread := byteAt_eq_ok.mpr hkind
      simp [optionLoop, hread, Nat.not_le.mpr hi, Nat.not_le.mpr hlen, bind, Except.bind]
  | mss hkind hlength =>
      rename_i len
      have hlen := lt_length ⟨_, hkind⟩
      have hread := byteAt_eq_ok.mpr hkind
      have hreadLen := byteAt_eq_ok.mpr hlength
      by_cases hannounced : i + 4 ≤ tcp.length ∧ tcp[i + 1]? = some 4
      · obtain ⟨mss, hmss⟩ := announces_iff.mpr ⟨hannounced.1, hkind, hannounced.2⟩
        have hle : ¬ maxMss < mss := fun hlt => h ⟨mss, hmss, hlt⟩
        simp [optionLoop, hread, hreadLen, hannounced, hmss.2.2, hle, Nat.not_le.mpr hi,
          Nat.not_le.mpr hlen, bind, Except.bind]
      · simp [optionLoop, hread, hreadLen, hannounced, Nat.not_le.mpr hi, Nat.not_le.mpr hlen, bind,
          Except.bind]
  | other hkind hk hlength hlong =>
      rename_i k len
      have hlen := lt_length ⟨_, hkind⟩
      have hlast := lt_length ⟨_, hlength⟩
      have hread := byteAt_eq_ok.mpr hkind
      have hreadLen := byteAt_eq_ok.mpr hlength
      have h0 : k ≠ 0 := by rintro rfl; cases hk
      have h1 : k ≠ 1 := by rintro rfl; exact absurd hk (by decide)
      have h2 : k ≠ 2 := by rintro rfl; exact absurd hk (by decide)
      simp [optionLoop, hread, hreadLen, h0, h1, h2, hlong, Nat.not_le.mpr hi, Nat.not_le.mpr hlen,
        Nat.not_le.mpr hlast, bind, Except.bind]

/-- An MSS option cut off behind its kind. -/
theorem optionLoop_of_cut (hi : i < offset) (hkind : tcp[i]? = some 2)
    (hcut : tcp[i + 1]? = none) :
    optionLoop maxMss offset (turns + 1) i tcp = .error .indexOutOfBounds := by
  have hlen := lt_length ⟨_, hkind⟩
  have hlast := List.getElem?_eq_none_iff.mp hcut
  have hread := byteAt_eq_ok.mpr hkind
  have hreadLen : byteAt tcp (i + 1) = .error .indexOutOfBounds := by simp [byteAt, hcut]
  simp [optionLoop, hread, hreadLen, hcut, Nat.not_le.mpr hi, Nat.not_le.mpr hlen, bind,
    Except.bind]

/-! ## The whole walk -/

theorem two_lt_of_ne {k : UInt8} (h0 : k ≠ 0) (h1 : k ≠ 1) (h2 : k ≠ 2) : 2 < k := by
  have h0 : k.toNat ≠ 0 := fun h => h0 (UInt8.toNat_inj.mp h)
  have h1 : k.toNat ≠ 1 := fun h => h1 (UInt8.toNat_inj.mp h)
  have h2 : k.toNat ≠ 2 := fun h => h2 (UInt8.toNat_inj.mp h)
  rw [UInt8.lt_iff_toNat_lt]
  change 2 < k.toNat
  omega

theorem option_cases (maxMss : UInt16) (hi : i < tcp.length) :
    Stops tcp i ∨ (∃ mss, Announces tcp i mss ∧ maxMss < mss) ∨
      (¬ Exceeds maxMss tcp i ∧ ∃ j, Passes tcp i j) ∨
      (tcp[i]? = some 2 ∧ tcp[i + 1]? = none) := by
  obtain ⟨k, hkind⟩ : ∃ k, tcp[i]? = some k := ⟨_, List.getElem?_eq_getElem hi⟩
  by_cases hexceeds : Exceeds maxMss tcp i
  · exact .inr (.inl hexceeds)
  by_cases h0 : k = 0
  · exact .inl (.inl (h0 ▸ hkind))
  by_cases h1 : k = 1
  · exact .inr (.inr (.inl ⟨hexceeds, _, .nop (h1 ▸ hkind)⟩))
  cases hlength : tcp[i + 1]? with
  | none =>
      by_cases h2 : k = 2
      · exact .inr (.inr (.inr ⟨h2 ▸ hkind, rfl⟩))
      · exact .inl (.inr ⟨k, hkind, two_lt_of_ne h0 h1 h2, fun len hlen => by simp [hlength] at hlen⟩)
  | some len =>
      by_cases h2 : k = 2
      · exact .inr (.inr (.inl ⟨hexceeds, _, .mss (h2 ▸ hkind) hlength⟩))
      by_cases hlong : 2 ≤ len
      · exact .inr (.inr (.inl ⟨hexceeds, _, .other hkind (two_lt_of_ne h0 h1 h2) hlength hlong⟩))
      · refine .inl (.inr ⟨k, hkind, two_lt_of_ne h0 h1 h2, fun len' hlen' => ?_⟩)
        obtain rfl : len = len' := by simpa [hlength] using hlen'
        exact UInt8.not_le.mp hlong

/-- What the loop returns when it gets to `j`. -/
def Returns (maxMss : UInt16) (tcp : Bytes) (j : ℕ) (result : Bool × Bytes) : Prop :=
  ((dataOffset tcp ≤ j ∨ Stops tcp j) ∧ result = (false, tcp)) ∨
    ∃ mss checksum, j < dataOffset tcp ∧ Announces tcp j mss ∧ maxMss < mss ∧
      wordAt tcp 16 = .ok checksum ∧ result = (true, clampedAt maxMss tcp j mss checksum)

variable {result : Bool × Bytes}

theorem Visits.lt (h : Visits maxMss tcp i j)
    (hgiven : tcp[i]? = some 2 → ∃ len, tcp[i + 1]? = some len ∧ len ≠ 0) : i < j := by
  obtain ⟨hi, -, hpasses⟩ := h
  cases hpasses with
  | nop => omega
  | mss hkind hlength =>
      obtain ⟨len, hlen, hne⟩ := hgiven hkind
      obtain rfl := Option.some.inj (hlen.symm.trans hlength)
      have hpos : 0 < len.toNat := Nat.pos_of_ne_zero fun h => hne (UInt8.toNat_inj.mp h)
      omega
  | other hkind hk hlength hlong =>
      have hpos : 2 ≤ UInt8.toNat _ := UInt8.le_iff_toNat_le.mp hlong
      omega

/-- A loop that returns does so at some place the walk gets to. -/
theorem returns_of_optionLoop (h20 : 20 ≤ tcp.length) (hle : dataOffset tcp ≤ tcp.length)
    (hi : 20 ≤ i) (h : optionLoop maxMss (dataOffset tcp) turns i tcp = .ok result) :
    ∃ j, Relation.ReflTransGen (Visits maxMss tcp) i j ∧ Returns maxMss tcp j result := by
  induction turns generalizing i with
  | zero => cases h
  | succ turns ih =>
      by_cases hend : dataOffset tcp ≤ i
      · rw [optionLoop_of_le hend] at h
        exact ⟨i, .refl, .inl ⟨.inl hend, (Except.ok.inj h).symm⟩⟩
      have hi' := not_le.mp hend
      obtain hstops | ⟨mss, hannounces, hmss⟩ | ⟨hnot, j, hpasses⟩ | ⟨hkind, hcut⟩ :=
        option_cases maxMss (hi'.trans_le hle)
      · rw [optionLoop_of_stops hstops] at h
        exact ⟨i, .refl, .inl ⟨.inr hstops, (Except.ok.inj h).symm⟩⟩
      · obtain ⟨checksum, hchecksum⟩ := exists_wordAt 16 (by omega : 16 + 2 ≤ tcp.length)
        rw [optionLoop_of_exceeds hi' hannounces hmss hchecksum hi] at h
        exact ⟨i, .refl,
          .inr ⟨mss, checksum, hi', hannounces, hmss, hchecksum, (Except.ok.inj h).symm⟩⟩
      · rw [optionLoop_of_passes hi' hpasses hnot] at h
        have hij : i ≤ j := by cases hpasses <;> omega
        obtain ⟨k, hwalk, hreturns⟩ := ih (hi.trans hij) h
        exact ⟨k, .head ⟨hi', hnot, hpasses⟩ hwalk, hreturns⟩
      · rw [optionLoop_of_cut hi' hkind hcut] at h
        cases h

/-- A loop that returns gets to every place of the walk, and returns the same from there. -/
theorem optionLoop_along (walk : Relation.ReflTransGen (Visits maxMss tcp) i j)
    (h : optionLoop maxMss (dataOffset tcp) turns i tcp = .ok result) :
    ∃ turns, optionLoop maxMss (dataOffset tcp) (turns + 1) j tcp = .ok result := by
  induction walk using Relation.ReflTransGen.head_induction_on generalizing turns with
  | refl =>
      cases turns with
      | zero => cases h
      | succ turns => exact ⟨turns, h⟩
  | head hstep _ ih =>
      cases turns with
      | zero => cases h
      | succ turns =>
          rw [optionLoop_of_passes hstep.1 hstep.2.2 hstep.2.1] at h
          exact ih h

/-- At an MSS option of length zero the loop stays where it is. -/
theorem optionLoop_of_zero (hi : i < dataOffset tcp) (hkind : tcp[i]? = some 2)
    (hlength : tcp[i + 1]? = some 0) (turns : ℕ) :
    optionLoop maxMss (dataOffset tcp) turns i tcp = .error .diverges := by
  have hnot : ¬ Exceeds maxMss tcp i := by
    rintro ⟨mss, hannounces, -⟩
    rw [hannounces.2.1] at hlength
    cases hlength
  induction turns with
  | zero => rfl
  | succ turns ih =>
      have hpasses : Passes tcp i i := .mss hkind hlength
      rw [optionLoop_of_passes hi hpasses hnot, ih]

theorem optionLoop_returns (h20 : 20 ≤ tcp.length) (hle : dataOffset tcp ≤ tcp.length)
    (hgiven : ∀ j, Relation.ReflTransGen (Visits maxMss tcp) i j → j < dataOffset tcp →
      tcp[j]? = some 2 → ∃ len, tcp[j + 1]? = some len ∧ len ≠ 0)
    (hi : 20 ≤ i) (hturns : tcp.length - i < turns) :
    ∃ result, optionLoop maxMss (dataOffset tcp) turns i tcp = .ok result := by
  induction turns generalizing i with
  | zero => omega
  | succ turns ih =>
      by_cases hend : dataOffset tcp ≤ i
      · exact ⟨_, optionLoop_of_le hend⟩
      have hi' := not_le.mp hend
      obtain hstops | ⟨mss, hannounces, hmss⟩ | ⟨hnot, j, hpasses⟩ | ⟨hkind, hcut⟩ :=
        option_cases maxMss (hi'.trans_le hle)
      · exact ⟨_, optionLoop_of_stops hstops⟩
      · obtain ⟨checksum, hchecksum⟩ := exists_wordAt 16 (by omega : 16 + 2 ≤ tcp.length)
        exact ⟨_, optionLoop_of_exceeds hi' hannounces hmss hchecksum hi⟩
      · have hvisits : Visits maxMss tcp i j := ⟨hi', hnot, hpasses⟩
        have hlt := hvisits.lt (hgiven i .refl hi')
        rw [optionLoop_of_passes hi' hpasses hnot]
        exact ih (fun k hwalk => hgiven k (.head hvisits hwalk)) (by omega) (by omega)
      · obtain ⟨len, hlen, -⟩ := hgiven i .refl hi' hkind
        rw [hcut] at hlen
        cases hlen

/-- The loop returns exactly when the lengths let the walk go on. -/
theorem optionLoop_returns_iff (h20 : 20 ≤ tcp.length) (hle : dataOffset tcp ≤ tcp.length) :
    (∃ result, optionLoop maxMss (dataOffset tcp) (tcp.length + 1) 20 tcp = .ok result) ↔
      LengthsGiven maxMss tcp := by
  constructor
  · rintro ⟨result, h⟩ j ⟨hwalk, hj⟩ hkind
    obtain ⟨turns, hloop⟩ := optionLoop_along hwalk h
    cases hlength : tcp[j + 1]? with
    | none =>
        rw [optionLoop_of_cut hj hkind hlength] at hloop
        cases hloop
    | some len =>
        refine ⟨len, rfl, ?_⟩
        rintro rfl
        rw [optionLoop_of_zero hj hkind hlength] at hloop
        cases hloop
  · intro hgiven
    exact optionLoop_returns h20 hle (fun j hwalk hj => hgiven j ⟨hwalk, hj⟩) le_rfl (by omega)

/-! ## Packets -/

variable {start : ℕ}

theorem clampTcpSegment_eq (tcp : Bytes) (maxMss : UInt16) : clampTcpSegment tcp maxMss =
    if 20 ≤ tcp.length ∧ isSyn tcp = true ∧ 20 < dataOffset tcp ∧ dataOffset tcp ≤ tcp.length then
      optionLoop maxMss (dataOffset tcp) (tcp.length + 1) 20 tcp
    else .ok (false, tcp) := by
  by_cases h20 : tcp.length < 20
  · simp [clampTcpSegment, h20, not_le.mpr h20, pure, Except.pure]
  simp only [clampTcpSegment, h20, byteAt_of_lt (by omega : 12 < tcp.length),
    byteAt_of_lt (by omega : 13 < tcp.length), bind, Except.bind, if_false, not_lt.mp h20,
    true_and]
  by_cases hsyn : (tcp[13]?.getD 0) &&& 0x02 = 0
  · simp [isSyn, hsyn, pure, Except.pure]
  have hsyn' : isSyn tcp = true := by simp [isSyn, hsyn]
  by_cases hin : 20 < dataOffset tcp ∧ dataOffset tcp ≤ tcp.length
  · have hin' : ¬ (tcp[13]?.getD 0 &&& 0x02 = 0 ∨ tcp.length < dataOffset tcp ∨
        dataOffset tcp ≤ 20) := by
      rintro (h | h)
      · exact hsyn h
      · omega
    exact (if_neg hin').trans (if_pos ⟨hsyn', hin⟩).symm
  · have hin' : tcp[13]?.getD 0 &&& 0x02 = 0 ∨ tcp.length < dataOffset tcp ∨
        dataOffset tcp ≤ 20 := by omega
    exact (if_pos hin').trans (if_neg fun h => hin h.2).symm

theorem clampIpv4TcpMss_eq (packet : Bytes) (maxMss : UInt16) : clampIpv4TcpMss packet maxMss =
    ((ipv4Start packet).map (clampAt packet · maxMss)).getD (.ok (false, packet)) := by
  by_cases h20 : packet.length < 20
  · simp [clampIpv4TcpMss, ipv4Start, h20, not_le.mpr h20, pure, Except.pure]
  have hhead : packet[0]?.getD 0 = packet.headD 0 := by cases packet <;> rfl
  have hprotocol : packet[9]? = some (packet[9]?.getD 0) := by
    rw [List.getElem?_eq_getElem (by omega), Option.getD_some]
  simp only [clampIpv4TcpMss, ipv4Start, h20, byteAt_of_lt (by omega : 0 < packet.length),
    byteAt_of_lt (by omega : 9 < packet.length), bind, Except.bind, if_false, not_lt.mp h20,
    true_and, hhead]
  by_cases htcp : packet[9]? = some 6 ∧
      ((packet.headD 0 &&& 0x0F) * 4).toNat + 20 ≤ packet.length
  · rw [if_pos htcp, if_neg]
    · rfl
    · rintro (h | h)
      · exact h (by rw [htcp.1, Option.getD_some])
      · exact absurd htcp.2 (not_le.mpr h)
  · rw [if_neg htcp, if_pos]
    · rfl
    · rw [hprotocol, Option.some_inj] at htcp
      by_contra h
      push Not at h
      exact htcp h

theorem clampIpv6TcpMss_eq (packet : Bytes) (maxMss : UInt16) : clampIpv6TcpMss packet maxMss =
    ((ipv6Start packet).map (clampAt packet · maxMss)).getD (.ok (false, packet)) := by
  by_cases h40 : packet.length < 40
  · have hshort : ¬ 40 + 20 ≤ packet.length := by omega
    simp [clampIpv6TcpMss, ipv6Start, h40, hshort, pure, Except.pure]
  have hnext : packet[6]? = some (packet[6]?.getD 0) := by
    rw [List.getElem?_eq_getElem (by omega), Option.getD_some]
  simp only [clampIpv6TcpMss, ipv6Start, h40, byteAt_of_lt (by omega : 6 < packet.length), bind,
    Except.bind, if_false]
  by_cases htcp : packet[6]? = some 6 ∧ 40 + 20 ≤ packet.length
  · rw [if_pos htcp, if_neg]
    · rfl
    · rw [htcp.1]
      simp [htcp.2]
  · rw [if_neg htcp, if_pos]
    · rfl
    · rw [hnext, Option.some_inj] at htcp
      by_contra h
      push Not at h
      exact htcp h

theorem clampTcpMss_eq (packet : Bytes) (maxMss : UInt16) : clampTcpMss packet maxMss =
    ((tcpStart packet).map (clampAt packet · maxMss)).getD (.ok (false, packet)) := by
  cases packet with
  | nil => rfl
  | cons b rest =>
      have hversion (n : UInt8) : (b >>> 4).toNat = n.toNat ↔ (b :: rest).headD 0 >>> 4 = n :=
        UInt8.toNat_inj
      unfold tcpStart
      simp only [clampTcpMss]
      split
      · rename_i h
        rw [if_pos ((hversion 4).mp h), clampIpv4TcpMss_eq]
      · rename_i h
        have h6 := (hversion 6).mp h
        have h4 : ¬ (b :: rest).headD 0 >>> 4 = 4 := by
          rw [h6]
          decide
        rw [if_neg h4, if_pos h6, clampIpv6TcpMss_eq]
      · rename_i h4 h6
        rw [if_neg fun h => h4 ((hversion 4).mpr h), if_neg fun h => h6 ((hversion 6).mpr h)]
        rfl
theorem clampAt_eq (packet : Bytes) (start : ℕ) (maxMss : UInt16) :
    clampAt packet start maxMss = (clampTcpSegment (packet.drop start) maxMss).map fun result =>
      (result.1, packet.take start ++ result.2) := by
  simp only [clampAt]
  cases clampTcpSegment (packet.drop start) maxMss <;> rfl

/-- Without the options of a TCP SYN there is nothing to do. -/
theorem clampTcpMss_of_not (h : ∀ start tcp, ¬ HasOptions packet start tcp) (maxMss : UInt16) :
    clampTcpMss packet maxMss = .ok (false, packet) := by
  rw [clampTcpMss_eq]
  cases hstart : tcpStart packet with
  | none => rfl
  | some start =>
      rw [Option.map_some, Option.getD_some, clampAt_eq, clampTcpSegment_eq, if_neg]
      · simp [Except.map]
      · rintro ⟨h20, hsyn, hsome, hle⟩
        exact h start _ ⟨hstart, rfl, h20, hsyn, hsome, hle⟩

theorem clampTcpMss_of_options (h : HasOptions packet start tcp) (maxMss : UInt16) :
    clampTcpMss packet maxMss = (optionLoop maxMss (dataOffset tcp) (tcp.length + 1) 20 tcp).map
      fun result => (result.1, packet.take start ++ result.2) := by
  obtain ⟨hstart, rfl, h20, hsyn, hsome, hle⟩ := h
  rw [clampTcpMss_eq, hstart, Option.map_some, Option.getD_some, clampAt_eq, clampTcpSegment_eq,
    if_pos ⟨h20, hsyn, hsome, hle⟩]

theorem HasOptions.unique {start' : ℕ} {tcp' : Bytes} (h : HasOptions packet start tcp)
    (h' : HasOptions packet start' tcp') : start = start' ∧ tcp = tcp' := by
  obtain rfl := Option.some.inj (h.starts.symm.trans h'.starts)
  exact ⟨rfl, h.rest.symm.trans h'.rest⟩

/-! ## Totality -/

/-- Clamping returns exactly when every MSS option on the way has its length byte, other than
zero. -/
theorem clampTcpMss_returns_iff (packet : Bytes) (maxMss : UInt16) :
    (∃ result, clampTcpMss packet maxMss = .ok result) ↔
      ∀ start tcp, HasOptions packet start tcp → LengthsGiven maxMss tcp := by
  constructor
  · rintro ⟨result, h⟩ start tcp hoptions
    rw [clampTcpMss_of_options hoptions] at h
    refine (optionLoop_returns_iff hoptions.complete hoptions.options_inside).mp ?_
    cases hloop : optionLoop maxMss (dataOffset tcp) (tcp.length + 1) 20 tcp with
    | error e =>
        rw [hloop] at h
        cases h
    | ok result => exact ⟨result, rfl⟩
  · intro hgiven
    by_cases hoptions : ∃ start tcp, HasOptions packet start tcp
    · obtain ⟨start, tcp, h⟩ := hoptions
      obtain ⟨result, hloop⟩ :=
        (optionLoop_returns_iff h.complete h.options_inside).mpr (hgiven start tcp h)
      exact ⟨_, by rw [clampTcpMss_of_options h, hloop]; rfl⟩
    · push Not at hoptions
      exact ⟨_, clampTcpMss_of_not hoptions maxMss⟩

/-- An IPv4 TCP SYN to port 443 whose header has `options`, padded to whole words. -/
def synPacket (dataOffsetByte : UInt8) (options : Bytes) : Bytes :=
  [0x45, 0x00, 0x00, 0x3C, 0x12, 0x34, 0x40, 0x00, 0x40, 0x06, 0x00, 0x00,
    0x0A, 0x08, 0x00, 0x02, 0x08, 0x08, 0x08, 0x08,
    0x1F, 0x90, 0x01, 0xBB, 0x00, 0x00, 0x00, 0x01, 0x00, 0x00, 0x00, 0x00,
    dataOffsetByte, 0x02, 0x72, 0x10, 0x00, 0x00, 0x00, 0x00] ++ options

/-- An MSS option that is cut off behind its kind is read past the end of the packet. -/
example : clampTcpMss (synPacket 0x60 [1, 1, 1, 2]) 1300 = .error .indexOutOfBounds := by
  decide +kernel

/-- An MSS option of length zero is looked at forever. -/
theorem clampTcpMss_not_total :
    ¬ ∀ packet maxMss, ∃ result, clampTcpMss packet maxMss = .ok result := by
  intro htotal
  have hzero : clampTcpMss (synPacket 0x60 [2, 0, 0, 0]) 1300 = .error .diverges := by
    decide +kernel
  obtain ⟨result, h⟩ := htotal (synPacket 0x60 [2, 0, 0, 0]) 1300
  rw [hzero] at h
  cases h

end VpnHub.Protocol.MssFix
