import VpnHub.Verification.MssFix.Walk

/-! # What clamping changes

A clamped packet differs from the given one in the checksum and in the MSS option that the walk
gets to first among those above the maximum. -/

namespace VpnHub.Protocol.MssFix

variable {maxMss mss checksum : UInt16} {buffer tcp packet packet' : Bytes} {i j k start : ℕ}
variable {clamped : Bool}

/-! ## One walk only -/

theorem Passes.right_unique (h : Passes tcp i j) (h' : Passes tcp i k) : j = k := by
  cases h with
  | nop hkind =>
      cases h' with
      | nop _ => rfl
      | mss hkind' _ => simp [hkind] at hkind'
      | other hkind' hother =>
          obtain rfl := Option.some.inj (hkind.symm.trans hkind')
          exact absurd hother (by decide)
  | mss hkind hlength =>
      cases h' with
      | nop hkind' => simp [hkind] at hkind'
      | mss _ hlength' =>
          obtain rfl := Option.some.inj (hlength.symm.trans hlength')
          rfl
      | other hkind' hother =>
          obtain rfl := Option.some.inj (hkind.symm.trans hkind')
          exact absurd hother (by decide)
  | other hkind hother hlength =>
      cases h' with
      | nop hkind' =>
          obtain rfl := Option.some.inj (hkind.symm.trans hkind')
          exact absurd hother (by decide)
      | mss hkind' =>
          obtain rfl := Option.some.inj (hkind.symm.trans hkind')
          exact absurd hother (by decide)
      | other _ _ hlength' =>
          obtain rfl := Option.some.inj (hlength.symm.trans hlength')
          rfl

theorem Passes.le (h : Passes tcp i j) : i ≤ j := by cases h <;> omega

/-- Where the walk stops at an option above the maximum, it got to no other such option. -/
theorem Reached.eq_of_exceeds (hi : Reached maxMss tcp i) (hexceeds : Exceeds maxMss tcp i)
    (hj : Reached maxMss tcp j) (hexceeds' : Exceeds maxMss tcp j) : i = j := by
  have hunique : Relator.RightUnique (Visits maxMss tcp) :=
    fun _ _ _ h h' => h.2.2.right_unique h'.2.2
  obtain hwalk | hwalk := Relation.ReflTransGen.total_of_right_unique hunique hi.1 hj.1
  · obtain rfl | ⟨k, hstep, -⟩ := hwalk.cases_head
    · rfl
    · exact absurd hexceeds hstep.2.1
  · obtain rfl | ⟨k, hstep, -⟩ := hwalk.cases_head
    · rfl
    · exact absurd hexceeds' hstep.2.1

theorem Reached.twenty_le (h : Reached maxMss tcp i) : 20 ≤ i := by
  obtain ⟨hwalk, -⟩ := h
  induction hwalk with
  | refl => exact le_rfl
  | tail _ hstep ih => exact ih.trans hstep.2.2.le

/-- The walk passes over an option that is above the maximum only at the end of the header. -/
theorem FirstMss.reached (maxMss : UInt16) (h : FirstMss tcp i mss) : Reached maxMss tcp i := by
  obtain ⟨hwalk, hannounces, hend⟩ := h
  have hi : i < dataOffset tcp := by omega
  refine ⟨?_, hi⟩
  clear hannounces hend
  induction hwalk with
  | refl => exact .refl
  | tail _ hstep ih =>
      obtain ⟨hb, hnone, hpasses⟩ := hstep
      refine .tail (ih hb) ⟨hb, ?_, hpasses⟩
      rintro ⟨mss, hannounces, -⟩
      obtain rfl := hpasses.right_unique (.mss hannounces.1 hannounces.2.1)
      have hend : _ + 4 < dataOffset tcp := hi
      exact hnone mss ⟨hannounces, hend.le⟩

/-! ## The bytes that are written -/

theorem getElem?_clampedAt (h16 : k ≠ 16) (h17 : k ≠ 17) (h2 : k ≠ i + 2) (h3 : k ≠ i + 3) :
    (clampedAt maxMss tcp i mss checksum)[k]? = tcp[k]? := by
  rw [clampedAt, getElem?_putWord_of_ne h16 h17, getElem?_putWord_of_ne h2 h3]

@[simp] theorem length_clampedAt :
    (clampedAt maxMss tcp i mss checksum).length = tcp.length := by
  simp [clampedAt]

theorem dataOffset_clampedAt (hi : 20 ≤ i) :
    dataOffset (clampedAt maxMss tcp i mss checksum) = dataOffset tcp := by
  rw [dataOffset, dataOffset, getElem?_clampedAt (by omega) (by omega) (by omega) (by omega)]

theorem isSyn_clampedAt (hi : 20 ≤ i) :
    isSyn (clampedAt maxMss tcp i mss checksum) = isSyn tcp := by
  rw [isSyn, isSyn, getElem?_clampedAt (by omega) (by omega) (by omega) (by omega)]

/-- The new value can be read back. -/
theorem wordAt_clampedAt (hi : 20 ≤ i) (h : Announces tcp i mss) :
    wordAt (clampedAt maxMss tcp i mss checksum) (i + 2) = .ok maxMss := by
  have hend := h.end_le
  rw [clampedAt, wordAt_putWord_of_disjoint (by omega), wordAt_putWord_self (by omega)]

/-! ## Packets -/

theorem headD_eq (packet : Bytes) : packet.headD 0 = packet[0]?.getD 0 := by cases packet <;> rfl

/-- The start of the TCP part depends on the first bytes and the length. -/
theorem tcpStart_congr (hlen : packet'.length = packet.length)
    (hsame : ∀ k < 16, packet'[k]? = packet[k]?) : tcpStart packet' = tcpStart packet := by
  simp only [tcpStart, ipv4Start, ipv6Start, headD_eq, hsame 0 (by decide), hsame 6 (by decide),
    hsame 9 (by decide), hlen]

theorem tcpStart_add_le (h : tcpStart packet = some start) : start + 20 ≤ packet.length := by
  simp only [tcpStart, ipv4Start, ipv6Start] at h
  split at h
  · obtain ⟨hguard, hstart⟩ := Option.ite_none_right_eq_some.mp h
    obtain rfl := Option.some.inj hstart
    exact hguard.2.2
  · split at h
    · obtain ⟨hguard, hstart⟩ := Option.ite_none_right_eq_some.mp h
      obtain rfl := Option.some.inj hstart
      exact hguard.2
    · cases h

theorem HasOptions.le (h : HasOptions packet start tcp) : start ≤ packet.length := by
  have := tcpStart_add_le h.starts
  omega

theorem getElem?_behind (h : HasOptions packet start tcp) (tcp' : Bytes) (k : ℕ) :
    (packet.take start ++ tcp')[start + k]? = tcp'[k]? := by
  have hlen : (packet.take start).length = start := by
    rw [List.length_take, Nat.min_eq_left h.le]
  rw [List.getElem?_append_right (by omega), hlen, Nat.add_sub_cancel_left]

theorem sameBut_clampedAt (h : HasOptions packet start tcp) :
    SameBut [start + 16, start + 17, start + i + 2, start + i + 3] packet
      (packet.take start ++ clampedAt maxMss tcp i mss checksum) := by
  have hrest : packet = packet.take start ++ tcp := by rw [← h.rest, List.take_append_drop]
  constructor
  · conv_rhs => rw [hrest]
    simp
  · intro k hk
    simp only [List.mem_cons, List.not_mem_nil, or_false, not_or] at hk
    by_cases hfront : k < start
    · have hlen : k < (packet.take start).length := by
        rw [List.length_take, Nat.min_eq_left h.le]
        exact hfront
      conv_rhs => rw [hrest]
      rw [List.getElem?_append_left hlen, List.getElem?_append_left hlen]
    · obtain ⟨d, rfl⟩ := Nat.exists_eq_add_of_le (not_lt.mp hfront)
      conv_rhs => rw [hrest]
      rw [getElem?_behind h, getElem?_behind h]
      exact getElem?_clampedAt (by omega) (by omega) (by omega) (by omega)

/-- The clamped packet has its options at the same place. -/
theorem hasOptions_clampedAt (h : HasOptions packet start tcp) (hi : 20 ≤ i) :
    HasOptions (packet.take start ++ clampedAt maxMss tcp i mss checksum) start
      (clampedAt maxMss tcp i mss checksum) := by
  have hsame : SameBut [start + 16, start + 17, start + i + 2, start + i + 3] packet
      (packet.take start ++ clampedAt maxMss tcp i mss checksum) := sameBut_clampedAt h
  constructor
  · rw [← h.starts]
    refine tcpStart_congr hsame.1 fun k hk => hsame.2 k ?_
    simp only [List.mem_cons, List.not_mem_nil, or_false, not_or]
    omega
  · rw [List.drop_append_of_le_length, List.drop_take_self, List.nil_append]
    rw [List.length_take, Nat.min_eq_left h.le]
  · rw [length_clampedAt]
    exact h.complete
  · rw [isSyn_clampedAt hi]
    exact h.syn
  · rw [dataOffset_clampedAt hi]
    exact h.some_options
  · rw [dataOffset_clampedAt hi, length_clampedAt]
    exact h.options_inside

/-! ## The first option -/

/-- Before the option that is clamped, the bytes of the options are as they were. -/
theorem passes_of_clampedAt (hi : 20 ≤ i) (hij : i ≤ j)
    (h : Passes (clampedAt maxMss tcp j mss checksum) i k) : Passes tcp i k := by
  have hkind : (clampedAt maxMss tcp j mss checksum)[i]? = tcp[i]? :=
    getElem?_clampedAt (by omega) (by omega) (by omega) (by omega)
  have hlength : (clampedAt maxMss tcp j mss checksum)[i + 1]? = tcp[i + 1]? :=
    getElem?_clampedAt (by omega) (by omega) (by omega) (by omega)
  cases h with
  | nop hk => exact .nop (hkind ▸ hk)
  | mss hk hl => exact .mss (hkind ▸ hk) (hlength ▸ hl)
  | other hk hother hl hlong => exact .other (hkind ▸ hk) hother (hlength ▸ hl) hlong

theorem announces_clampedAt (hi : 20 ≤ i) (h : Announces tcp i mss) :
    Announces (clampedAt maxMss tcp i mss checksum) i maxMss := by
  refine ⟨?_, ?_, wordAt_clampedAt hi h⟩
  · rw [getElem?_clampedAt (by omega) (by omega) (by omega) (by omega), h.1]
  · rw [getElem?_clampedAt (by omega) (by omega) (by omega) (by omega), h.2.1]

theorem announces_of_clampedAt {first : UInt16} (hi : 20 ≤ i) (hij : i + 4 ≤ j)
    (h : Announces (clampedAt maxMss tcp j mss checksum) i first) : Announces tcp i first := by
  obtain ⟨hkind, hlength, hvalue⟩ := h
  rw [getElem?_clampedAt (by omega) (by omega) (by omega) (by omega)] at hkind hlength
  rw [clampedAt, wordAt_putWord_of_disjoint (by omega), wordAt_putWord_of_disjoint (by omega)]
    at hvalue
  exact ⟨hkind, hlength, hvalue⟩

theorem walk_le (h : Relation.ReflTransGen (Visits maxMss tcp) i j) : i ≤ j := by
  induction h with
  | refl => exact le_rfl
  | tail _ hstep ih => exact ih.trans hstep.2.2.le

/-- A walk to the first well-formed option after the call leads on to the clamped one. -/
theorem FirstMss.leads {first : UInt16} (hreached : Reached maxMss tcp j)
    (hannounces : Announces tcp j mss)
    (h : FirstMss (clampedAt maxMss tcp j mss checksum) i first) :
    20 ≤ i ∧ Relation.ReflTransGen (Visits maxMss tcp) i j := by
  have hj := hreached.twenty_le
  obtain ⟨hwalk, hfirst, hend⟩ := h
  rw [dataOffset_clampedAt hj] at hend
  have hi : i < dataOffset tcp := by omega
  clear hfirst hend
  induction hwalk with
  | refl => exact ⟨le_rfl, hreached.1⟩
  | tail _ hstep ih =>
      obtain ⟨hb, hnone, hpasses⟩ := hstep
      rw [dataOffset_clampedAt hj] at hb
      obtain ⟨htwenty, hleads⟩ := ih hb
      refine ⟨htwenty.trans hpasses.le, ?_⟩
      have hbefore := passes_of_clampedAt htwenty (walk_le hleads) hpasses
      obtain rfl | ⟨c, hstep, hrest⟩ := hleads.cases_head
      · -- Only an option that crosses the end of the header is passed over.
        obtain rfl := hbefore.right_unique (.mss hannounces.1 hannounces.2.1)
        have hinside : _ + 4 < dataOffset tcp := hi
        refine absurd ⟨announces_clampedAt hj hannounces, ?_⟩ (hnone maxMss)
        rw [dataOffset_clampedAt hj]
        exact hinside.le
      · rw [hbefore.right_unique hstep.2.2]
        exact hrest

/-- After the call the first well-formed option is the clamped one, or one before it. -/
theorem FirstMss.le_of_clampedAt {first : UInt16} (hreached : Reached maxMss tcp j)
    (hannounces : Announces tcp j mss)
    (h : FirstMss (clampedAt maxMss tcp j mss checksum) i first) : first ≤ maxMss := by
  obtain ⟨htwenty, hleads⟩ := h.leads hreached hannounces
  obtain rfl | ⟨c, hstep, hrest⟩ := hleads.cases_head
  · rw [h.2.1.unique (announces_clampedAt htwenty hannounces)]
    exact UInt16.le_refl _
  · have hafter : Passes (clampedAt maxMss tcp j mss checksum) i (i + 4) :=
      .mss h.2.1.1 h.2.1.2.1
    have hnext := passes_of_clampedAt htwenty (walk_le hleads) hafter
    have hij : i + 4 ≤ j := by
      rw [hnext.right_unique hstep.2.2]
      exact walk_le hrest
    have hannounced := announces_of_clampedAt htwenty hij h.2.1
    exact UInt16.not_lt.mp fun hlt => hstep.2.1 ⟨first, hannounced, hlt⟩

/-! ## The frame -/

/-- What a call returns, in terms of the walk. -/
theorem clampTcpMss_result (h : HasOptions packet start tcp)
    (hcall : clampTcpMss packet maxMss = .ok (clamped, packet')) :
    (clamped = false ∧ packet' = packet ∧ ∀ i, Reached maxMss tcp i → ¬ Exceeds maxMss tcp i) ∨
    ∃ i mss checksum, clamped = true ∧ Reached maxMss tcp i ∧ Announces tcp i mss ∧
      maxMss < mss ∧ wordAt tcp 16 = .ok checksum ∧
      packet' = packet.take start ++ clampedAt maxMss tcp i mss checksum := by
  have hrest : packet = packet.take start ++ tcp := by rw [← h.rest, List.take_append_drop]
  rw [clampTcpMss_of_options h] at hcall
  cases hloop : optionLoop maxMss (dataOffset tcp) (tcp.length + 1) 20 tcp with
  | error e =>
      rw [hloop] at hcall
      cases hcall
  | ok result =>
      rw [hloop] at hcall
      obtain ⟨rfl, rfl⟩ := Prod.mk.inj (Except.ok.inj hcall)
      obtain ⟨j, hwalk, hreturns⟩ :=
        returns_of_optionLoop h.complete h.options_inside le_rfl hloop
      obtain ⟨-, rfl⟩ | ⟨mss, checksum, hj, hannounces, hmss, hchecksum, rfl⟩ := hreturns
      · refine .inl ⟨rfl, hrest.symm, ?_⟩
        rintro i hreached ⟨mss, hannounces, hmss⟩
        obtain ⟨turns, hthere⟩ := optionLoop_along hreached.1 hloop
        obtain ⟨checksum, hchecksum⟩ := exists_wordAt 16
          (by have := h.complete; omega : 16 + 2 ≤ tcp.length)
        rw [optionLoop_of_exceeds hreached.2 hannounces hmss hchecksum hreached.twenty_le]
          at hthere
        cases hthere
      · exact .inr ⟨j, mss, checksum, rfl, ⟨hwalk, hj⟩, hannounces, hmss, hchecksum, rfl⟩

theorem clampedInside_of (h : HasOptions packet start tcp) (hreached : Reached maxMss tcp i)
    (hexceeds : Exceeds maxMss tcp i) (hstart : 20 ≤ start) (hend : i + 4 ≤ dataOffset tcp) :
    ClampedInside packet maxMss := by
  intro start' tcp' j h' hreached' hexceeds'
  obtain ⟨rfl, rfl⟩ := h.unique h'
  obtain rfl := hreached.eq_of_exceeds hexceeds hreached' hexceeds'
  exact ⟨hstart, hend⟩

/-- A call that returns changes only what it should exactly when the option that it clamps is
behind a whole IP header and inside the TCP header. -/
theorem clean_iff (packet : Bytes) (maxMss : UInt16) (clamped : Bool) (packet' : Bytes)
    (hcall : clampTcpMss packet maxMss = .ok (clamped, packet')) :
    Clean packet maxMss clamped packet' ↔ ClampedInside packet maxMss := by
  by_cases hoptions : ∃ start tcp, HasOptions packet start tcp
  · obtain ⟨start, tcp, h⟩ := hoptions
    obtain ⟨rfl, rfl, hnone⟩ | ⟨i, mss, checksum, rfl, hreached, hannounces, hmss, hchecksum, rfl⟩ :=
      clampTcpMss_result h hcall
    · refine iff_of_true ⟨fun _ => rfl, fun h => absurd h (by decide), ?_⟩ ?_
      · intro start' tcp' i mss h' hfirst
        obtain ⟨rfl, rfl⟩ := h.unique h'
        have hreached := hfirst.reached maxMss
        exact UInt16.not_lt.mp fun hlt => hnone i hreached ⟨mss, hfirst.2.1, hlt⟩
      · intro start' tcp' i h' hreached hexceeds
        obtain ⟨rfl, rfl⟩ := h.unique h'
        exact absurd hexceeds (hnone i hreached)
    · have hexceeds : Exceeds maxMss tcp i := ⟨mss, hannounces, hmss⟩
      have htwenty := hreached.twenty_le
      constructor
      · rintro ⟨-, hrewrites, -⟩ start' tcp' j h' hreached' hexceeds'
        obtain ⟨rfl, rfl⟩ := h.unique h'
        obtain ⟨start', tcp', k, first, h', hstart, hk, -, hwell, hlt, -⟩ := hrewrites rfl
        obtain ⟨rfl, rfl⟩ := h.unique h'
        obtain rfl := hk.eq_of_exceeds ⟨first, hwell.1, hlt⟩ hreached' hexceeds'
        exact ⟨hstart, hwell.2⟩
      · intro hinside
        obtain ⟨hstart, hend⟩ := hinside start tcp i h hreached hexceeds
        refine ⟨fun h => absurd h (by decide), fun _ => ?_, ?_⟩
        · refine ⟨start, tcp, i, mss, h, hstart, hreached, htwenty, ⟨hannounces, hend⟩, hmss, ?_,
            sameBut_clampedAt h⟩
          have hvalue : wordAt (clampedAt maxMss tcp i mss checksum) (i + 2) = .ok maxMss :=
            wordAt_clampedAt htwenty hannounces
          obtain ⟨hi, lo, hhi, hlo, hword⟩ := wordAt_eq_ok.mp hvalue
          refine wordAt_eq_ok.mpr ⟨hi, lo, ?_, ?_, hword⟩
          · rw [add_assoc, getElem?_behind h, hhi]
          · rw [add_assoc, add_assoc, getElem?_behind h, ← add_assoc, hlo]
        · intro start' tcp' j first h' hfirst
          obtain ⟨rfl, rfl⟩ := (hasOptions_clampedAt h htwenty).unique h'
          exact hfirst.le_of_clampedAt hreached hannounces
  · push Not at hoptions
    rw [clampTcpMss_of_not hoptions] at hcall
    obtain ⟨rfl, rfl⟩ := Prod.mk.inj (Except.ok.inj hcall)
    refine iff_of_true ⟨fun _ => rfl, fun h => absurd h (by decide), ?_⟩ ?_
    · exact fun start tcp _ _ h => absurd h (hoptions start tcp)
    · exact fun start tcp _ h => absurd h (hoptions start tcp)

/-- The option of this SYN is inside its header. -/
theorem clean_syn : Clean (synPacket 0x60 [2, 4, 0x05, 0xB4]) 1300 true
    (((synPacket 0x60 [2, 4, 0x05, 0x14]).set 36 0x00).set 37 0xA0) := by
  have hoptions : HasOptions (synPacket 0x60 [2, 4, 0x05, 0xB4]) 20
      ((synPacket 0x60 [2, 4, 0x05, 0xB4]).drop 20) := by
    constructor <;> decide +kernel
  have hannounces : Announces ((synPacket 0x60 [2, 4, 0x05, 0xB4]).drop 20) 20 1460 :=
    ⟨by decide +kernel, by decide +kernel, by decide +kernel⟩
  have hinside := clampedInside_of hoptions ⟨.refl, by decide +kernel⟩
    ⟨1460, hannounces, (by decide : (1300 : UInt16) < 1460)⟩ le_rfl (by decide +kernel)
  exact (clean_iff _ _ _ _ (by decide +kernel)).mpr hinside

/-- An option at the end of the header, whose value is the first two bytes behind it. -/
theorem payload_rewritten :
    ¬ ∀ packet maxMss clamped packet', clampTcpMss packet maxMss = .ok (clamped, packet') →
      Clean packet maxMss clamped packet' := by
  intro hclaim
  obtain ⟨-, hrewrites, -⟩ := hclaim (synPacket 0x60 [1, 1, 2, 4, 0x05, 0xB4]) 1300 true
    (((synPacket 0x60 [1, 1, 2, 4, 0x05, 0x14]).set 36 0x00).set 37 0xA0) (by decide +kernel)
  obtain ⟨start, tcp, i, mss, hoptions, -, -, htwenty, ⟨hannounces, hend⟩, -⟩ := hrewrites rfl
  have hhere : HasOptions (synPacket 0x60 [1, 1, 2, 4, 0x05, 0xB4]) 20
      ((synPacket 0x60 [1, 1, 2, 4, 0x05, 0xB4]).drop 20) := by
    constructor <;> decide +kernel
  obtain ⟨rfl, rfl⟩ := hhere.unique hoptions
  have hoffset : dataOffset ((synPacket 0x60 [1, 1, 2, 4, 0x05, 0xB4]).drop 20) = 24 := by
    decide +kernel
  obtain rfl : i = 20 := by omega
  have hkind : ((synPacket 0x60 [1, 1, 2, 4, 0x05, 0xB4]).drop 20)[20]? = some 1 := by
    decide +kernel
  rw [hannounces.1] at hkind
  cases hkind

end VpnHub.Protocol.MssFix
