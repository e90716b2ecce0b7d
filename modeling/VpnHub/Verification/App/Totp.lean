import VpnHub.Library.Trim
import VpnHub.Model.Totp
import VpnHub.Program.Aead
import VpnHub.Program.App.Totp

/-! # One-time passwords -/

namespace VpnHub.App.TotpGenerator

open BigEndian BitGroups

/-! ## The accumulator

The bits that are no byte of the output yet are the lowest of `value`; what the shifts have
pushed above them is never read. -/

/-- The state after the given digits. -/
structure Decoded (s : DecodeState) (digits : List ℕ) : Prop where
  bits_lt : s.bits < 8
  bits_eq : bitsOf 5 digits = byteBits s.output ++ toBits s.bits s.value.toNat

theorem toNat_shifted_or (value : BitVec 32) {d : ℕ} (hd : d < 32) :
    ((value <<< 5) ||| BitVec.ofNat 32 d).toNat = (2 ^ 5 * value.toNat + d) % 2 ^ 32 := by
  have hdigit : (BitVec.ofNat 32 d).toNat = d := by
    rw [BitVec.toNat_ofNat, Nat.mod_eq_of_lt (by omega)]
  have hshift : (value <<< 5).toNat = 2 ^ 5 * (value.toNat % 2 ^ 27) := by
    rw [BitVec.toNat_shiftLeft, Nat.shiftLeft_eq]
    omega
  rw [BitVec.toNat_or, hshift, hdigit, ← Nat.two_pow_add_eq_or_of_lt (i := 5) hd]
  omega

/-- The byte above the `r` pending bits. -/
theorem toBits_pushed {value : BitVec 32} {next r : ℕ} (hvalue : value.toNat = next % 2 ^ 32)
    (hr : r ≤ 24) :
    toBits 8 (UInt8.ofNat ((value >>> r) &&& 255).toNat).toNat = toBits 8 (next / 2 ^ r) := by
  have hmask : ((value >>> r) &&& 255).toNat = value.toNat / 2 ^ r % 2 ^ 8 := by
    rw [BitVec.toNat_and, BitVec.toNat_ushiftRight, Nat.shiftRight_eq_div_pow]
    exact Nat.and_two_pow_sub_one_eq_mod _ 8
  have hcut : next % 2 ^ 32 / 2 ^ r = next / 2 ^ r % 2 ^ (32 - r) := by
    rw [show 32 = r + (32 - r) by omega, pow_add, Nat.mod_mul_right_div_self,
      Nat.add_sub_cancel_left]
  rw [UInt8.toNat_ofNat', hmask, toBits_mod, toBits_mod, hvalue, hcut,
    toBits_mod_of_le (by omega)]

/-- One digit more. -/
theorem Decoded.push {s : DecodeState} {digits : List ℕ} {d : ℕ} (h : Decoded s digits)
    (hd : d < 32) : Decoded (s.push d) (digits ++ [d]) := by
  have hbits := h.bits_lt
  have hvalue := toNat_shifted_or s.value hd
  have hnext : bitsOf 5 (digits ++ [d]) =
      byteBits s.output ++ toBits (s.bits + 5) (2 ^ 5 * s.value.toNat + d) := by
    rw [bitsOf_append, h.bits_eq, bitsOf_cons, bitsOf_nil, List.append_nil, List.append_assoc,
      toBits_append s.bits 5 s.value.toNat hd]
  by_cases hfull : 8 ≤ s.bits + 5
  · rw [DecodeState.push, if_pos hfull]
    refine ⟨by simp only; omega, ?_⟩
    have hsplit : s.bits + 5 = 8 + (s.bits + 5 - 8) := by omega
    have hpending := toBits_mod_of_le (m := 32) (n := s.bits + 5 - 8) (by omega)
      (2 ^ 5 * s.value.toNat + d)
    rw [hnext, hsplit, toBits_add, ← hsplit]
    simp only [byteBits_append, byteBits_cons, byteBits_nil, List.append_nil, List.append_assoc]
    rw [toBits_pushed hvalue (by omega), hvalue, hpending]
  · rw [DecodeState.push, if_neg hfull]
    refine ⟨by simp only; omega, ?_⟩
    have hpending := toBits_mod_of_le (m := 32) (n := s.bits + 5) (by omega)
      (2 ^ 5 * s.value.toNat + d)
    rw [hnext]
    simp only
    rw [hvalue, hpending]

/-- The digits of the characters that are in the alphabet. -/
def digitsOf (s : Text) : List ℕ := (s.filter (· ∈ alphabet)).map alphabet.idxOf

theorem idxOf_lt {c : Char} (hc : c ∈ alphabet) : alphabet.idxOf c < 32 :=
  List.idxOf_lt_length_of_mem hc

theorem Decoded.foldl {s : DecodeState} {digits : List ℕ} (h : Decoded s digits) (text : Text) :
    Decoded (text.foldl DecodeState.next s) (digits ++ digitsOf text) := by
  induction text generalizing s digits with
  | nil => simpa [digitsOf] using h
  | cons c text ih =>
      rw [List.foldl_cons, DecodeState.next]
      by_cases hc : c ∈ alphabet
      · have hpush := ih (h.push (idxOf_lt hc))
        rw [if_pos hc]
        simpa [digitsOf, hc] using hpush
      · rw [if_neg hc]
        simpa [digitsOf, hc] using ih h

theorem output_foldl (text : Text) :
    (text.foldl DecodeState.next {}).output = ofDigits 5 (digitsOf text) := by
  have hstart : Decoded {} [] := ⟨by decide, rfl⟩
  have h := hstart.foldl text
  rw [List.nil_append] at h
  refine (ofDigits_eq h.bits_eq ?_).symm
  rw [length_toBits]
  exact h.bits_lt

/-! ## What the decoder passes over -/

variable {cases : Ecma.CaseMapping} {c : Char}

theorem filter_alphabet_trimEndMatches (s : Text) :
    (Text.trimEndMatches (· == '=') s).filter (· ∈ alphabet) = s.filter (· ∈ alphabet) := by
  obtain ⟨back, hs, hback⟩ := Text.exists_trimEndMatches (· == '=') s
  have hnone : back.filter (· ∈ alphabet) = [] := by
    refine List.filter_eq_nil_iff.mpr fun c hc => ?_
    rw [eq_of_beq (hback c hc)]
    decide
  conv_rhs => rw [hs, List.filter_append, hnone, List.append_nil]

/-- A character of the alphabet is no blank and no hyphen. -/
theorem not_blank_of_mem (hc : c ∈ alphabet) : (Ecma.isSpace c || c == '-') = false := by
  have hall : alphabet.all (fun c => !(Ecma.isSpace c || c == '-')) = true := by decide
  simpa using List.all_eq_true.mp hall c hc

/-- Cleaning removes no letters. -/
theorem digitsOf_cleanBase32 (cases : Ecma.CaseMapping) (text : Text) :
    digitsOf (cleanBase32 cases text) = digitsOf (cases.toUpperCase text) := by
  have hkeep : ((cases.toUpperCase text).filter fun c => !(Ecma.isSpace c || c == '-')).filter
      (· ∈ alphabet) = (cases.toUpperCase text).filter (· ∈ alphabet) := by
    rw [List.filter_filter]
    refine List.filter_congr fun c _ => ?_
    by_cases hc : c ∈ alphabet
    · simp [hc, not_blank_of_mem hc]
    · simp [hc]
  rw [digitsOf, cleanBase32, filter_alphabet_trimEndMatches, hkeep, digitsOf]

theorem base32ToBytes_eq (cases : Ecma.CaseMapping) (text : Text) :
    base32ToBytes cases text = ofDigits 5 (digitsOf (cases.toUpperCase text)) := by
  rw [base32ToBytes, output_foldl, digitsOf_cleanBase32]

/-- The characters that may stand anywhere between the letters. -/
def isFiller (c : Char) : Bool := Ecma.isSpace c || Text.isWhitespace c || c == '-'

/-- The text is the Base32 encoding of the key, with or without its padding, in any letter case
and with fillers in between. -/
def Spells (text : Text) (key : Bytes) : Prop :=
  let written := (text.filter fun c => !isFiller c).map Char.toUpper
  written = base32.encode key ∨ written = base32.letters key

theorem upper_of_isFiller (h : isFiller c = true) : cases.upper c = [c] := by
  by_cases hblank : Text.isWhitespace c = true ∨ Ecma.isSpace c = true
  · exact cases.upper_blank c hblank
  · have hhyphen : c = '-' := by
      simp only [isFiller, Bool.or_eq_true, beq_iff_eq] at h
      tauto
    rw [hhyphen]
    exact cases.upper_ascii '-' (by decide)

theorem notMem_of_isFiller (h : isFiller c = true) : c ∉ alphabet := by
  have hall : alphabet.all (fun c => !isFiller c) = true := by decide
  intro hc
  simpa [h] using List.all_eq_true.mp hall c hc

theorem toNat_lt_of_toUpper (h : c.toUpper.toNat < 128) : c.toNat < 128 := by
  by_cases hlower : 'a'.val ≤ c.val ∧ c.val ≤ 'z'.val
  · have hhigh : c.toNat ≤ 122 := hlower.2
    omega
  · have hupper : c.toUpper = c := dif_neg hlower
    rwa [hupper] at h

theorem digitsOf_append (s t : Text) : digitsOf (s ++ t) = digitsOf s ++ digitsOf t := by
  simp [digitsOf]

/-- In upper case, the letters are those of the characters that are no fillers. -/
theorem digitsOf_toUpperCase {text : Text}
    (hascii : ∀ c ∈ text, isFiller c = false → c.toNat < 128) :
    digitsOf (cases.toUpperCase text) =
      digitsOf ((text.filter fun c => !isFiller c).map Char.toUpper) := by
  induction text with
  | nil => rfl
  | cons c text ih =>
      have htail := ih fun d hd => hascii d (List.mem_cons_of_mem c hd)
      rw [Ecma.CaseMapping.toUpperCase, List.flatMap_cons, digitsOf_append]
      by_cases hc : isFiller c = true
      · have hnone : digitsOf [c] = [] := by simp [digitsOf, notMem_of_isFiller hc]
        rw [upper_of_isFiller hc, hnone, List.filter_cons_of_neg (by simpa using hc)]
        exact htail
      · have hc : isFiller c = false := by simpa using hc
        have hupper := cases.upper_ascii c (hascii c List.mem_cons_self hc)
        have hcons := digitsOf_append [c.toUpper]
          ((text.filter fun c => !isFiller c).map Char.toUpper)
        rw [hupper, List.filter_cons_of_pos (by simpa using hc), List.map_cons]
        exact (congrArg (digitsOf [c.toUpper] ++ ·) htail).trans hcons.symm

theorem digitsOf_letters (key : Bytes) : digitsOf (base32.letters key) = toDigits 5 key := by
  have hall : (base32.letters key).filter (· ∈ alphabet) = base32.letters key :=
    List.filter_eq_self.mpr fun c hc => decide_eq_true (base32.mem_alphabet_of_mem_letters hc)
  rw [digitsOf, hall]
  exact base32.idxOf_letters key

theorem digitsOf_padding (n : ℕ) : digitsOf (base32.padding n) = [] := by
  have hnone : (base32.padding n).filter (· ∈ alphabet) = [] := by
    refine List.filter_eq_nil_iff.mpr fun c hc => ?_
    rw [List.eq_of_mem_replicate hc]
    decide
  rw [digitsOf, hnone, List.map_nil]

theorem base32ToBytes_of_spells {text : Text} {key : Bytes} (h : Spells text key) :
    base32ToBytes cases text = key := by
  let written := (text.filter fun c => !isFiller c).map Char.toUpper
  have h : written = base32.encode key ∨ written = base32.letters key := h
  have hletter : ∀ c ∈ base32.letters key, c.toNat < 128 := by
    have hall : alphabet.all (fun c => decide (c.toNat < 128)) = true := by decide
    intro c hc
    simpa using List.all_eq_true.mp hall c (base32.mem_alphabet_of_mem_letters hc)
  have hwritten : ∀ c ∈ written, c.toNat < 128 := by
    intro c hc
    rcases h with h | h
    · rw [h] at hc
      rcases List.mem_append.mp hc with hc | hc
      · exact hletter c hc
      · obtain rfl := List.eq_of_mem_replicate hc
        decide
    · rw [h] at hc
      exact hletter c hc
  have hascii : ∀ c ∈ text, isFiller c = false → c.toNat < 128 := by
    intro c hc hfiller
    have hmem : c ∈ text.filter fun c => !isFiller c :=
      List.mem_filter.mpr ⟨hc, by simpa using hfiller⟩
    exact toNat_lt_of_toUpper (hwritten c.toUpper (List.mem_map_of_mem hmem))
  have hdigits : digitsOf written = toDigits 5 key := by
    rcases h with h | h
    · rw [h, TextCode.encode, digitsOf_append, digitsOf_letters, digitsOf_padding,
        List.append_nil]
    · rw [h, digitsOf_letters]
  rw [base32ToBytes_eq, digitsOf_toUpperCase hascii, hdigits,
    ofDigits_toDigits (by decide) (by decide)]

/-! ## The text of a code -/

theorem padStart_ofNat {d n : ℕ} (hd : 1 ≤ d) (hn : n < 10 ^ d) :
    Ecma.padStart (Text.ofNat n) d '0' = Rfc6238.decimal d n := by
  induction d, hd using Nat.le_induction generalizing n with
  | base =>
      have hdigit : Text.ofNat n = [Nat.digitChar n] := Nat.toDigits_of_lt_base hn
      rw [hdigit, Rfc6238.decimal, Nat.mod_eq_of_lt (by omega)]
      rfl
  | succ d hd ih =>
      have hlast : Rfc6238.decimal (d + 1) n =
          Ecma.padStart (Text.ofNat (n / 10)) d '0' ++ [Nat.digitChar (n % 10)] := by
        rw [ih (by omega), Rfc6238.decimal]
      by_cases hsmall : n < 10
      · have hdigit : Text.ofNat n = [Nat.digitChar n] := Nat.toDigits_of_lt_base hsmall
        have hzero : Text.ofNat (n / 10) = ['0'] := by
          rw [Nat.div_eq_of_lt hsmall]
          rfl
        rw [hlast, hdigit, hzero, Nat.mod_eq_of_lt hsmall]
        simp only [Ecma.padStart, List.length_singleton, Nat.add_sub_cancel,
          ← List.replicate_succ', Nat.sub_add_cancel hd]
      · have hdigits : Text.ofNat n = Text.ofNat (n / 10) ++ [Nat.digitChar (n % 10)] :=
          Nat.toDigits_of_base_le (by decide) (by omega)
        rw [hlast, hdigits]
        simp only [Ecma.padStart, List.length_append, List.length_singleton,
          Nat.add_sub_add_right, List.append_assoc]

theorem length_decimal (d n : ℕ) : (Rfc6238.decimal d n).length = d := by
  induction d generalizing n with
  | zero => rfl
  | succ d ih => simp [Rfc6238.decimal, ih]

theorem isDigit_of_mem_decimal {d n : ℕ} (h : c ∈ Rfc6238.decimal d n) : c.isDigit = true := by
  induction d generalizing n with
  | zero => cases h
  | succ d ih =>
      rcases List.mem_append.mp h with h | h
      · exact ih h
      · have hdigit : ∀ k < 10, (Nat.digitChar k).isDigit = true := by decide
        obtain rfl := List.mem_singleton.mp h
        exact hdigit (n % 10) (Nat.mod_lt n (by decide))

/-! ## Truncation -/

theorem toNat_shifted (hs : Bytes) (i : ℕ) (mask : UInt8) (shift : ℕ) (h : shift ≤ 24) :
    (shifted hs i mask shift).toNat = (hs.getD i 0 &&& mask).toNat * 2 ^ shift := by
  have hbyte := UInt8.toNat_lt (hs.getD i 0 &&& mask)
  have hpow : 2 ^ shift ≤ 2 ^ 24 := Nat.pow_le_pow_right Nat.two_pos h
  have hlt : (hs.getD i 0 &&& mask).toNat * 2 ^ shift < 2 ^ 32 :=
    (Nat.mul_lt_mul_of_lt_of_le hbyte hpow (by positivity)).trans_le (by decide)
  rw [shifted, BitVec.toNat_shiftLeft, BitVec.toNat_ofNat, Nat.shiftLeft_eq,
    Nat.mod_eq_of_lt (hbyte.trans (by decide)), Nat.mod_eq_of_lt hlt]

theorem toNat_or_of_dvd {x y : BitVec 32} {n : ℕ} (hx : 2 ^ n ∣ x.toNat) (hy : y.toNat < 2 ^ n) :
    (x ||| y).toNat = x.toNat + y.toNat := by
  obtain ⟨a, ha⟩ := hx
  rw [BitVec.toNat_or, ha, Nat.two_pow_add_eq_or_of_lt hy]

/-- The four bytes at an offset, the sign bit of the first left out. -/
theorem take_four {hs : Bytes} {i : ℕ} (h : i + 3 < hs.length) :
    (hs.drop i).take 4 =
      [hs.getD i 0, hs.getD (i + 1) 0, hs.getD (i + 2) 0, hs.getD (i + 3) 0] := by
  have hcons : ∀ j < hs.length, hs.drop j = hs.getD j 0 :: hs.drop (j + 1) := fun j hj => by
    rw [List.drop_eq_getElem_cons hj, List.getD_eq_getElem _ _ hj]
  rw [hcons i (by omega), hcons (i + 1) (by omega), hcons (i + 2) (by omega), hcons (i + 3) h]
  rfl

theorem toNat_shifted_four {hs : Bytes} {i : ℕ} (h : i + 3 < hs.length) :
    (shifted hs i 0x7f 24 ||| shifted hs (i + 1) 0xff 16 ||| shifted hs (i + 2) 0xff 8 |||
      shifted hs (i + 3) 0xff 0).toNat = ofBE ((hs.drop i).take 4) % 2 ^ 31 := by
  have hwhole : ∀ b : UInt8, (b &&& 0xff).toNat = b.toNat := fun b => by
    rw [UInt8.toNat_and]
    exact (Nat.and_two_pow_sub_one_eq_mod _ 8).trans (Nat.mod_eq_of_lt (UInt8.toNat_lt b))
  have hunsigned : (hs.getD i 0 &&& 0x7f).toNat = (hs.getD i 0).toNat % 128 := by
    rw [UInt8.toNat_and]
    exact Nat.and_two_pow_sub_one_eq_mod _ 7
  have h1 := toNat_shifted hs i 0x7f 24 (by decide)
  have h2 := toNat_shifted hs (i + 1) 0xff 16 (by decide)
  have h3 := toNat_shifted hs (i + 2) 0xff 8 (by decide)
  have h4 := toNat_shifted hs (i + 3) 0xff 0 (by decide)
  rw [hunsigned] at h1
  rw [hwhole] at h2 h3 h4
  have hb1 := UInt8.toNat_lt (hs.getD (i + 1) 0)
  have hb2 := UInt8.toNat_lt (hs.getD (i + 2) 0)
  have hb3 := UInt8.toNat_lt (hs.getD (i + 3) 0)
  have hor2 := toNat_or_of_dvd (x := shifted hs i 0x7f 24) (y := shifted hs (i + 1) 0xff 16)
    (n := 24) (by omega) (by omega)
  have hor3 := toNat_or_of_dvd (x := shifted hs i 0x7f 24 ||| shifted hs (i + 1) 0xff 16)
    (y := shifted hs (i + 2) 0xff 8) (n := 16) (by omega) (by omega)
  have hor4 := toNat_or_of_dvd (x := shifted hs i 0x7f 24 ||| shifted hs (i + 1) 0xff 16 |||
    shifted hs (i + 2) 0xff 8) (y := shifted hs (i + 3) 0xff 0) (n := 8) (by omega) (by omega)
  rw [hor4, hor3, hor2, h1, h2, h3, h4, take_four h]
  simp only [ofBE, List.foldl_cons, List.foldl_nil]
  omega

/-- The code is the 31 bits of the four bytes at the offset. -/
theorem binaryCode_eq {hs : Bytes} (hlen : hs.length = 20) :
    binaryCode hs = (Rfc6238.dynamicTruncation hs : ℤ) := by
  have hoffset : (hs.getLastD 0 &&& 0x0f).toNat = (hs.getLastD 0).toNat % 16 := by
    rw [UInt8.toNat_and]
    exact Nat.and_two_pow_sub_one_eq_mod _ 4
  have hinside : (hs.getLastD 0).toNat % 16 + 3 < hs.length := by omega
  have hcode := toNat_shifted_four hinside
  have hsigned : Rfc6238.dynamicTruncation hs < 2 ^ 31 := Nat.mod_lt _ (by decide)
  simp only [binaryCode, hoffset]
  rw [BitVec.toInt_eq_toNat_of_lt, hcode]
  · rfl
  · rw [hcode]
    simp only [Rfc6238.dynamicTruncation] at hsigned
    omega

theorem counterBuffer_natCast {counter : ℕ} (h : counter < 2 ^ 32) :
    counterBuffer (some (counter : ℚ)) = toBE 8 counter := by
  have hlow : (UInt32.ofNat counter).toNat = counter := by
    rw [UInt32.toNat_ofNat', Nat.mod_eq_of_lt h]
  have hhigh : counter / 256 ^ 4 = 0 := Nat.div_eq_of_lt h
  rw [counterBuffer, Ecma.toUint32_natCast h, hlow, show 8 = 4 + 4 from rfl, toBE_add, hhigh]
  rfl

/-! ## The code of a time step -/

theorem all_of_trimMatches_eq_nil {p : Char → Bool} {s : Text} (h : Text.trimMatches p s = []) :
    ∀ c ∈ s, p c = true := by
  obtain ⟨front, hs, hfront⟩ := Text.exists_trimStartMatches p s
  obtain ⟨back, hrest, hback⟩ := Text.exists_trimEndMatches p (Text.trimStartMatches p s)
  have hnil : Text.trimEndMatches p (Text.trimStartMatches p s) = [] := h
  intro c hc
  rw [hs, hrest, hnil, List.nil_append] at hc
  rcases List.mem_append.mp hc with hc | hc
  · exact hfront c hc
  · exact hback c hc

/-- White space holds no key. -/
theorem base32ToBytes_of_blank {secret : Text} (h : Ecma.trim secret = []) :
    base32ToBytes cases secret = [] := by
  have hfiller : ∀ c ∈ secret, isFiller c = true := fun c hc => by
    have hspace := all_of_trimMatches_eq_nil h c hc
    simp [isFiller, hspace]
  have hnone : secret.filter (fun c => !isFiller c) = [] :=
    List.filter_eq_nil_iff.mpr fun c hc => by simp [hfiller c hc]
  have hascii : ∀ c ∈ secret, isFiller c = false → c.toNat < 128 := fun c hc hnot => by
    simp [hfiller c hc] at hnot
  rw [base32ToBytes_eq, digitsOf_toUpperCase hascii, hnone]
  rfl

theorem generateCode_eq {rt : TotpRuntime} {hmacSha1 : Bytes → Bytes → FixedBytes 20}
    (hsign : ∀ key message, key ≠ [] → rt.sign key message = some (hmacSha1 key message).1)
    {secret : Text} {key : Bytes} (hsecret : base32ToBytes rt.cases secret = key)
    (hkey : key ≠ []) {timestampMs periodSeconds : Ecma.Number} {timeStep : ℕ}
    (hstep : counterOf timestampMs periodSeconds = some (timeStep : ℚ))
    (hlt : timeStep < 2 ^ 32) {digits : ℕ} (hdigits : 1 ≤ digits) :
    generateCode rt secret timestampMs digits periodSeconds =
      Rfc6238.totp (fun key message => (hmacSha1 key message).1) key timeStep digits := by
  have hblank : Ecma.trim secret ≠ [] := fun h =>
    hkey (hsecret.symm.trans (base32ToBytes_of_blank h))
  let hs := hmacSha1 key (toBE 8 timeStep)
  let code := Rfc6238.dynamicTruncation hs.1
  have hcode : (binaryCode hs.1).tmod (10 ^ digits) = ((code % 10 ^ digits : ℕ) : ℤ) := by
    rw [binaryCode_eq hs.2, Int.ofNat_tmod, Nat.cast_pow]
    rfl
  rw [generateCode, if_neg hblank]
  simp only [hsecret, if_neg hkey, hstep, hsign _ _ hkey, counterBuffer_natCast hlt]
  rw [hcode, Ecma.ofInt_natCast, padStart_ofNat hdigits (Nat.mod_lt _ (by positivity))]
  rfl

/-- The time step of a time in whole milliseconds and a period in whole seconds. -/
theorem counterOf_natCast {t p : ℕ} (ht : t < 2 ^ 53) (hp : 0 < p) (hp' : p < 2 ^ 53) :
    counterOf (some t) (some p) = some ((t / 1000 / p : ℕ) : ℚ) := by
  have hseconds := Ecma.floor_div (m := 1000) ht (by decide) (by decide)
  rw [Nat.cast_ofNat] at hseconds
  rw [counterOf, hseconds]
  exact Ecma.floor_div ((Nat.div_le_self t 1000).trans_lt ht) hp hp'

/-- Every spelling of a key decodes to it, the time step of a time in milliseconds is the one of
RFC 6238, and the code of a secret is the one of its key for the time step, in that many decimal
digits. -/
theorem totp_matches_rfc (rt : TotpRuntime) (hmacSha1 : Bytes → Bytes → FixedBytes 20)
    (hsign : ∀ key message, key ≠ [] → rt.sign key message = some (hmacSha1 key message).1)
    (key : Bytes) :
    (∀ text, Spells text key → base32ToBytes rt.cases text = key) ∧
      (∀ t < 2 ^ 53, ∀ p < 2 ^ 53, 0 < p →
        counterOf (some (t : ℕ)) (some (p : ℕ)) = some ((t / 1000 / p : ℕ) : ℚ)) ∧
      ∀ (secret : Text) (timestampMs periodSeconds : Ecma.Number) (timeStep digits : ℕ),
        base32ToBytes rt.cases secret = key → key ≠ [] →
        counterOf timestampMs periodSeconds = some (timeStep : ℚ) → timeStep < 2 ^ 32 →
        1 ≤ digits → digits ≤ 9 →
        generateCode rt secret timestampMs digits periodSeconds =
            Rfc6238.totp (fun key message => (hmacSha1 key message).1) key timeStep digits ∧
          (generateCode rt secret timestampMs digits periodSeconds).length = digits ∧
          ∀ c ∈ generateCode rt secret timestampMs digits periodSeconds, c.isDigit = true := by
  refine ⟨fun text => base32ToBytes_of_spells,
    fun t ht p hp' hp => counterOf_natCast ht hp hp', ?_⟩
  intro secret timestampMs periodSeconds timeStep digits hsecret hkey hstep hlt hdigits _
  rw [generateCode_eq hsign hsecret hkey hstep hlt hdigits]
  exact ⟨rfl, length_decimal _ _, fun c => isDigit_of_mem_decimal⟩

/-- The key of the test vectors of RFC 4226 and RFC 6238. -/
def testKey : Bytes := Text.utf8Encode "12345678901234567890".toList

/-- Its HMAC for the counter 1. -/
def testRuntime : TotpRuntime where
  cases := .ascii
  sign _ _ := some [0x75, 0xA4, 0x8A, 0x19, 0xD4, 0xCB, 0xE1, 0x00, 0x64, 0x4E, 0x8A, 0xC1, 0x39,
    0x7E, 0xEA, 0x74, 0x7A, 0x2D, 0x33, 0xAB]

theorem totp_matches_rfc_at_59_seconds :
    base32ToBytes .ascii "gezd gnbv-GY3T QOJQ\tGEZDGNBVGY3TQOJQ".toList = testKey ∧
      generateCode testRuntime "GEZDGNBVGY3TQOJQGEZDGNBVGY3TQOJQ".toList (some 59000) 8
        defaultPeriodSeconds = "94287082".toList := by
  let hmacSha1 : Bytes → Bytes → FixedBytes 20 := fun _ _ =>
    ⟨(testRuntime.sign [] []).getD [], by decide⟩
  have h := totp_matches_rfc testRuntime hmacSha1 (fun _ _ _ => rfl) testKey
  have hstep := h.2.1 59000 (by decide) 30 (by decide) (by decide)
  have hcode := h.2.2 "GEZDGNBVGY3TQOJQGEZDGNBVGY3TQOJQ".toList _ _ 1 8
    (h.1 _ (.inl (by decide +kernel))) (by decide) hstep (by decide) (by decide) (by decide)
  exact ⟨h.1 _ (.inl (by decide +kernel)), hcode.1.trans (by decide +kernel)⟩

end VpnHub.App.TotpGenerator
