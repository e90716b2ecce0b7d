import VpnHub.Library.IpAddr

/-! # The text of an address

Printing an IPv4 address and reading it again, and what the text can be part of. -/

namespace VpnHub

namespace Text

variable {s t : List Char} {sep : Char}

theorem splitNAux_of_notMem (h : sep ∉ s) (n : ℕ) (acc t : List Char) :
    splitNAux sep (n + 2) acc (s ++ t) = splitNAux sep (n + 2) (s.reverse ++ acc) t := by
  induction s generalizing acc with
  | nil => rfl
  | cons c s ih =>
      rw [List.mem_cons, not_or] at h
      rw [List.cons_append, splitNAux, if_neg (Ne.symm h.1), ih h.2]
      simp

theorem splitN_append (h : sep ∉ s) (n : ℕ) (t : List Char) :
    splitN (s ++ sep :: t) (n + 2) sep = s :: splitN t (n + 1) sep := by
  rw [splitN, splitNAux_of_notMem h, splitNAux, if_pos rfl]
  simp [splitN]

theorem splitN_of_notMem (h : sep ∉ s) (n : ℕ) : splitN s (n + 2) sep = [s] := by
  have hsplit := splitNAux_of_notMem h n [] []
  rw [List.append_nil] at hsplit
  rw [splitN, hsplit]
  simp [splitNAux]

theorem splitN_one (s : List Char) : splitN s 1 sep = [s] := by
  simp [splitN, splitNAux]

/-- The parts before the last one end at the first separators. -/
theorem splitN_eq_cons {n : ℕ} {part next : List Char} {parts : List (List Char)} :
    splitN s (n + 2) sep = part :: next :: parts ↔
      ∃ rest, s = part ++ sep :: rest ∧ sep ∉ part ∧ splitN rest (n + 1) sep = next :: parts := by
  constructor
  · intro h
    by_cases hmem : sep ∈ s
    · obtain ⟨front, back, rfl, hfront⟩ := List.eq_append_cons_of_mem hmem
      rw [splitN_append hfront] at h
      obtain ⟨rfl, hback⟩ := List.cons.inj h
      exact ⟨back, rfl, hfront, hback⟩
    · rw [splitN_of_notMem hmem] at h
      cases h
  · rintro ⟨rest, rfl, hpart, hrest⟩
    rw [splitN_append hpart, hrest]

theorem splitOnce_append (h : sep ∉ s) (t : List Char) :
    splitOnce (s ++ sep :: t) sep = some (s, t) := by
  rw [splitOnce, splitN, splitNAux_of_notMem h, splitNAux, if_pos rfl]
  simp [splitNAux]

theorem splitOnce_of_notMem (h : sep ∉ s) : splitOnce s sep = none := by
  have hsplit := splitNAux_of_notMem h 0 [] []
  rw [List.append_nil] at hsplit
  rw [splitOnce, splitN, hsplit]
  rfl

/-- Prefix lengths, printed and read again. -/
theorem parseUnsigned_ofNat : ∀ n < 33, parseUnsigned 32 (ofNat n) = some n := by decide

theorem decimalAux_of_mem {c : Char} (hc : digit? c = none) (h : c ∈ s) (n : ℕ) :
    decimalAux n s = none := by
  induction s generalizing n with
  | nil => cases h
  | cons d s ih =>
      rw [decimalAux]
      rcases List.mem_cons.mp h with rfl | h
      · rw [hc, Option.bind_none]
      · cases digit? d with
        | none => rfl
        | some value => exact ih h _

/-- A number is made of digits, but for a sign. -/
theorem parseUnsigned_of_mem {c : Char} (hc : digit? c = none) (hplus : c ≠ '+') (h : c ∈ s)
    (max : ℕ) : parseUnsigned max s = none := by
  have hdigits : c ∈ (stripPrefix s ['+']).getD s := by
    unfold stripPrefix
    split
    · rename_i hstart
      obtain ⟨rest, rfl⟩ := List.isPrefixOf_iff_prefix.mp hstart
      simpa [hplus] using h
    · exact h
  unfold parseUnsigned
  simp only [decimalAux_of_mem hc hdigits, Option.filter_none, ite_self]

/-! ## Digits -/

theorem isDigit_of_mem_ofNat {n : ℕ} {c : Char} (h : c ∈ ofNat n) : c.isDigit = true :=
  Nat.isDigit_of_mem_toDigits (by decide) (by decide) h

theorem not_isWhitespace_of_isDigit {c : Char} (h : c.isDigit = true) : isWhitespace c = false := by
  have hrange : 48 ≤ c.toNat ∧ c.toNat ≤ 57 := by
    simpa [Char.isDigit, UInt32.le_iff_toNat_le] using h
  simp only [isWhitespace, Bool.or_eq_false_iff, Bool.and_eq_false_iff, decide_eq_false_iff_not,
    beq_eq_false_iff_ne, ne_eq]
  omega

end Text

namespace IpAddr

theorem leadingDigits_append {radix value count value' count' : ℕ} {s : List Char}
    (h : leadingDigits radix value count s = (value', count', [])) (rest : List Char) :
    leadingDigits radix value count (s ++ rest) = leadingDigits radix value' count' rest := by
  induction s generalizing value count with
  | nil =>
      obtain ⟨rfl, rfl⟩ : value = value' ∧ count = count' := by
        simpa [leadingDigits] using h
      rfl
  | cons c s ih =>
      rw [leadingDigits] at h
      rw [List.cons_append, leadingDigits]
      cases hd : radixDigit? radix c with
      | none => simp [hd] at h
      | some d =>
          simp only [hd] at h ⊢
          exact ih h

/-- The digits of an octet: one to three of them, and no leading zero. -/
theorem leadingDigits_octet : ∀ n < 256,
    leadingDigits 10 0 0 (Text.ofNat n) = (n, (Text.ofNat n).length, []) ∧
      (Text.ofNat n).length ≠ 0 ∧ (Text.ofNat n).length ≤ 3 ∧
      ((Text.ofNat n).head? = some '0' → (Text.ofNat n).length ≤ 1) := by
  decide +kernel

/-- The end of the text, or a character that is no digit. -/
def EndsOctet (rest : List Char) : Prop := ∀ c ∈ rest.head?, radixDigit? 10 c = none

theorem leadingDigits_of_ends {rest : List Char} (h : EndsOctet rest) (value count : ℕ) :
    leadingDigits 10 value count rest = (value, count, rest) := by
  cases rest with
  | nil => rfl
  | cons c rest => rw [leadingDigits, h c rfl]

theorem readNumber_octet (octet : UInt8) {rest : List Char} (hrest : EndsOctet rest) :
    readNumber 10 3 255 false (Text.ofNat octet.toNat ++ rest) = some (octet.toNat, rest) := by
  obtain ⟨hdigits, hpos, hlen, hzero⟩ := leadingDigits_octet octet.toNat octet.toNat_lt
  have hle := octet.toNat_lt
  have hhead : (Text.ofNat octet.toNat ++ rest).head? = (Text.ofNat octet.toNat).head? := by
    rw [List.head?_append_of_ne_nil]
    exact List.ne_nil_of_length_pos (Nat.pos_of_ne_zero hpos)
  unfold readNumber
  simp only [leadingDigits_append hdigits, leadingDigits_of_ends hrest, hhead]
  rw [if_neg (by omega), if_neg]
  simp only [Bool.not_false, Bool.true_and, Bool.and_eq_true, beq_iff_eq, decide_eq_true_eq,
    not_and, not_lt]
  exact hzero

theorem readNumber_dot (octet : UInt8) (rest : List Char) :
    readNumber 10 3 255 false (Text.ofNat octet.toNat ++ '.' :: rest) =
      some (octet.toNat, '.' :: rest) :=
  readNumber_octet octet (by simp [EndsOctet]; rfl)

theorem toText_eq (addr : Ipv4Addr) : addr.toText = Text.ofNat addr.a.toNat ++
    '.' :: (Text.ofNat addr.b.toNat ++ '.' :: (Text.ofNat addr.c.toNat ++
      '.' :: Text.ofNat addr.d.toNat)) := by
  simp [Ipv4Addr.toText, Text.join, List.intercalate]

/-- What is printed is read, up to what follows. -/
theorem readIpv4_toText (addr : Ipv4Addr) {rest : List Char} (hrest : EndsOctet rest) :
    readIpv4 (addr.toText ++ rest) = some (addr, rest) := by
  rw [toText_eq, readIpv4]
  simp [readSeparated, readGivenChar, readNumber_dot, readNumber_octet addr.d hrest]

theorem length_toText_le (addr : Ipv4Addr) : addr.toText.length ≤ 15 := by
  obtain ⟨-, -, ha, -⟩ := leadingDigits_octet addr.a.toNat addr.a.toNat_lt
  obtain ⟨-, -, hb, -⟩ := leadingDigits_octet addr.b.toNat addr.b.toNat_lt
  obtain ⟨-, -, hc, -⟩ := leadingDigits_octet addr.c.toNat addr.c.toNat_lt
  obtain ⟨-, -, hd, -⟩ := leadingDigits_octet addr.d.toNat addr.d.toNat_lt
  rw [toText_eq]
  simp only [List.length_append, List.length_cons]
  omega

theorem parseIpv4_toText (addr : Ipv4Addr) : parseIpv4 addr.toText = some addr := by
  have hle := length_toText_le addr
  have hread := readIpv4_toText addr (by simp [EndsOctet] : EndsOctet [])
  rw [List.append_nil] at hread
  rw [parseIpv4, if_neg (by omega), parseWith, hread]

theorem parseIpv4_toText_append (addr : Ipv4Addr) {c : Char} (hc : radixDigit? 10 c = none)
    (rest : List Char) : parseIpv4 (addr.toText ++ c :: rest) = none := by
  have hends : EndsOctet (c :: rest) := by simpa [EndsOctet] using hc
  have hread := readIpv4_toText addr hends
  rw [parseIpv4, parseWith, hread]
  split
  · rfl
  · rfl

/-! ## Its characters -/

theorem isDigit_or_dot_of_mem_toText {addr : Ipv4Addr} {c : Char} (h : c ∈ addr.toText) :
    c.isDigit = true ∨ c = '.' := by
  rw [toText_eq] at h
  simp only [List.mem_append, List.mem_cons] at h
  rcases h with h | rfl | h | rfl | h | rfl | h
  · exact .inl (Text.isDigit_of_mem_ofNat h)
  · exact .inr rfl
  · exact .inl (Text.isDigit_of_mem_ofNat h)
  · exact .inr rfl
  · exact .inl (Text.isDigit_of_mem_ofNat h)
  · exact .inr rfl
  · exact .inl (Text.isDigit_of_mem_ofNat h)

theorem not_isWhitespace_of_mem_toText {addr : Ipv4Addr} {c : Char} (h : c ∈ addr.toText) :
    Text.isWhitespace c = false := by
  rcases isDigit_or_dot_of_mem_toText h with hdigit | rfl
  · exact Text.not_isWhitespace_of_isDigit hdigit
  · decide

theorem slash_notMem_toText (addr : Ipv4Addr) : '/' ∉ addr.toText := by
  intro h
  rcases isDigit_or_dot_of_mem_toText h with hdigit | hdot
  · exact absurd hdigit (by decide)
  · exact absurd hdot (by decide)

theorem dot_mem_toText (addr : Ipv4Addr) : '.' ∈ addr.toText := by
  rw [toText_eq]
  simp

theorem toText_ne_nil (addr : Ipv4Addr) : addr.toText ≠ [] := by
  rw [toText_eq]
  simp

end IpAddr

end VpnHub
