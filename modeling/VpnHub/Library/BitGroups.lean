import Mathlib

/-! # Bytes as groups of bits

A sequence of bytes is a sequence of bits, the most significant of each byte first. A text code
of RFC 4648 cuts it into groups of another width and writes each group as a letter. -/

namespace VpnHub.BitGroups

/-! ## Bits of a number -/

/-- The `n` low bits of `x`, most significant first. -/
def toBits : ℕ → ℕ → List Bool
  | 0, _ => []
  | n + 1, x => toBits n (x / 2) ++ [decide (x % 2 = 1)]

def ofBits (bits : List Bool) : ℕ := bits.foldl (fun acc bit => 2 * acc + bit.toNat) 0

@[simp] theorem length_toBits (n x : ℕ) : (toBits n x).length = n := by
  induction n generalizing x with
  | zero => rfl
  | succ n ih => simp [toBits, ih]

theorem ofBits_concat (bits : List Bool) (bit : Bool) :
    ofBits (bits ++ [bit]) = 2 * ofBits bits + bit.toNat := by
  simp [ofBits, List.foldl_append]

theorem ofBits_toBits (n x : ℕ) : ofBits (toBits n x) = x % 2 ^ n := by
  induction n generalizing x with
  | zero => simp [toBits, ofBits, Nat.mod_one]
  | succ n ih =>
      have hbit : (decide (x % 2 = 1)).toNat = x % 2 := by
        rcases Nat.mod_two_eq_zero_or_one x with h | h <;> simp [h]
      rw [toBits, ofBits_concat, ih, hbit, pow_succ', Nat.mod_mul]
      omega

/-- Only the low bits count. -/
theorem toBits_mod (n x : ℕ) : toBits n (x % 2 ^ n) = toBits n x := by
  induction n generalizing x with
  | zero => rfl
  | succ n ih =>
      have hhalf : x % 2 ^ (n + 1) / 2 = x / 2 % 2 ^ n := by
        rw [pow_succ', Nat.mod_mul_right_div_self]
      have hlow : x % 2 ^ (n + 1) % 2 = x % 2 :=
        Nat.mod_mod_of_dvd x (Dvd.intro_left (2 ^ n) (pow_succ 2 n).symm)
      rw [toBits, toBits, hhalf, hlow, ih]

theorem toBits_mod_of_le {m n : ℕ} (h : n ≤ m) (x : ℕ) : toBits n (x % 2 ^ m) = toBits n x := by
  rw [← toBits_mod n (x % 2 ^ m), Nat.mod_mod_of_dvd x (Nat.pow_dvd_pow 2 h), toBits_mod]

theorem toBits_add (m n x : ℕ) : toBits (m + n) x = toBits m (x / 2 ^ n) ++ toBits n x := by
  induction n generalizing x with
  | zero => simp [toBits]
  | succ n ih =>
      rw [← Nat.add_assoc, toBits, ih, toBits, Nat.div_div_eq_div_mul, ← pow_succ',
        List.append_assoc]

/-- Two numbers packed into one. -/
theorem toBits_append (m n x : ℕ) {y : ℕ} (hy : y < 2 ^ n) :
    toBits m x ++ toBits n y = toBits (m + n) (2 ^ n * x + y) := by
  have hhigh : (2 ^ n * x + y) / 2 ^ n = x := by
    rw [Nat.mul_add_div (Nat.two_pow_pos n), Nat.div_eq_of_lt hy, Nat.add_zero]
  have hlow : (2 ^ n * x + y) % 2 ^ n = y := by
    rw [Nat.mul_add_mod, Nat.mod_eq_of_lt hy]
  rw [toBits_add, hhigh, ← toBits_mod n (2 ^ n * x + y), hlow]

theorem ofBits_lt (bits : List Bool) : ofBits bits < 2 ^ bits.length := by
  induction bits using List.reverseRecOn with
  | nil => simp [ofBits]
  | append_singleton bits bit ih =>
      have hbit := bit.toNat_le
      rw [ofBits_concat, List.length_append, List.length_singleton, pow_succ]
      omega

theorem toBits_ofBits (bits : List Bool) : toBits bits.length (ofBits bits) = bits := by
  induction bits using List.reverseRecOn with
  | nil => rfl
  | append_singleton bits bit ih =>
      have hhalf : (2 * ofBits bits + bit.toNat) / 2 = ofBits bits := by
        have hbit := bit.toNat_lt
        omega
      have hlast : decide ((2 * ofBits bits + bit.toNat) % 2 = 1) = bit := by
        cases bit <;> simp
      rw [List.length_append, List.length_singleton, toBits, ofBits_concat, hhalf, ih, hlast]

/-! ## Groups -/

/-- The first `n` groups of `w` bits. -/
def groups (w : ℕ) : ℕ → List Bool → List ℕ
  | 0, _ => []
  | n + 1, bits => ofBits (bits.take w) :: groups w n (bits.drop w)

/-- The bits of numbers of `w` bits each. -/
def bitsOf (w : ℕ) (digits : List ℕ) : List Bool := digits.flatMap (toBits w)

def byteBits (bytes : List UInt8) : List Bool := bitsOf 8 (bytes.map UInt8.toNat)

@[simp] theorem bitsOf_nil (w : ℕ) : bitsOf w [] = [] := rfl

@[simp] theorem bitsOf_cons (w d : ℕ) (digits : List ℕ) :
    bitsOf w (d :: digits) = toBits w d ++ bitsOf w digits := rfl

@[simp] theorem bitsOf_append (w : ℕ) (digits digits' : List ℕ) :
    bitsOf w (digits ++ digits') = bitsOf w digits ++ bitsOf w digits' := by
  simp [bitsOf]

@[simp] theorem length_bitsOf (w : ℕ) (digits : List ℕ) :
    (bitsOf w digits).length = digits.length * w := by
  induction digits with
  | nil => simp
  | cons d digits ih => simp [ih, Nat.add_mul, Nat.add_comm]

@[simp] theorem byteBits_nil : byteBits [] = [] := rfl

@[simp] theorem byteBits_cons (b : UInt8) (bytes : List UInt8) :
    byteBits (b :: bytes) = toBits 8 b.toNat ++ byteBits bytes := rfl

@[simp] theorem byteBits_append (bytes bytes' : List UInt8) :
    byteBits (bytes ++ bytes') = byteBits bytes ++ byteBits bytes' := by
  simp [byteBits]

@[simp] theorem length_byteBits (bytes : List UInt8) :
    (byteBits bytes).length = bytes.length * 8 := by
  simp [byteBits]

@[simp] theorem length_groups (w n : ℕ) (bits : List Bool) : (groups w n bits).length = n := by
  induction n generalizing bits with
  | zero => rfl
  | succ n ih => simp [groups, ih]

/-- The groups of the bits of digits are the digits, whatever stands behind them. -/
theorem groups_bitsOf (w : ℕ) (digits : List ℕ) (hlt : ∀ d ∈ digits, d < 2 ^ w)
    (rest : List Bool) : groups w digits.length (bitsOf w digits ++ rest) = digits := by
  induction digits with
  | nil => rfl
  | cons d digits ih =>
      have hd := hlt d List.mem_cons_self
      have htail := ih fun d' hd' => hlt d' (List.mem_cons_of_mem d hd')
      rw [List.length_cons, groups, bitsOf_cons, List.append_assoc,
        List.take_left' (length_toBits w d), List.drop_left' (length_toBits w d), ofBits_toBits,
        Nat.mod_eq_of_lt hd, htail]

/-- The digits cut from bits have these bits. -/
theorem bitsOf_groups (w n : ℕ) (bits : List Bool) (hn : n * w ≤ bits.length) :
    bitsOf w (groups w n bits) = bits.take (n * w) := by
  induction n generalizing bits with
  | zero => simp [groups]
  | succ n ih =>
      rw [Nat.add_mul, Nat.one_mul] at hn
      have hw : (bits.take w).length = w := by
        rw [List.length_take]
        omega
      have hgroup : toBits w (ofBits (bits.take w)) = bits.take w := by
        have h := toBits_ofBits (bits.take w)
        rwa [hw] at h
      have htail := ih (bits.drop w) (by rw [List.length_drop]; omega)
      rw [groups, bitsOf_cons, hgroup, htail, Nat.add_mul, Nat.one_mul, Nat.add_comm (n * w) w,
        List.take_add]

theorem groups_lt (w n : ℕ) (bits : List Bool) : ∀ d ∈ groups w n bits, d < 2 ^ w := by
  induction n generalizing bits with
  | zero => simp [groups]
  | succ n ih =>
      intro d hd
      rcases List.mem_cons.mp hd with rfl | hd
      · refine (ofBits_lt (bits.take w)).trans_le (Nat.pow_le_pow_right Nat.two_pos ?_)
        exact (List.length_take_le w bits)
      · exact ih (bits.drop w) d hd

/-! ## From bytes to digits and back -/

/-- The groups of `w` bits of the bytes, the last one filled with zeros. -/
def toDigits (w : ℕ) (bytes : List UInt8) : List ℕ :=
  groups w ((bytes.length * 8 + (w - 1)) / w) (byteBits bytes ++ List.replicate w false)

/-- The whole bytes in the bits of the digits. -/
def ofDigits (w : ℕ) (digits : List ℕ) : List UInt8 :=
  (groups 8 (digits.length * w / 8) (bitsOf w digits)).map UInt8.ofNat

/-- Bytes whose bits are those of the digits, but for less than a byte, are their value. -/
theorem ofDigits_eq {w : ℕ} {digits : List ℕ} {bytes : List UInt8} {rest : List Bool}
    (h : bitsOf w digits = byteBits bytes ++ rest) (hrest : rest.length < 8) :
    ofDigits w digits = bytes := by
  have hlen := congrArg List.length h
  simp only [length_bitsOf, List.length_append, length_byteBits] at hlen
  have hcount : digits.length * w / 8 = (bytes.map UInt8.toNat).length := by
    rw [List.length_map]
    omega
  have hlt : ∀ d ∈ bytes.map UInt8.toNat, d < 2 ^ 8 := by
    intro d hd
    obtain ⟨b, -, rfl⟩ := List.mem_map.mp hd
    exact UInt8.toNat_lt b
  have hbytes : UInt8.ofNat ∘ UInt8.toNat = id := funext fun _ => UInt8.ofNat_toNat
  rw [ofDigits, h, hcount, byteBits, groups_bitsOf 8 _ hlt, List.map_map, hbytes, List.map_id]

/-- Digits whose bits are those of the bytes, filled with less than a group of zeros, are
their code. -/
theorem toDigits_eq {w : ℕ} {digits : List ℕ} {bytes : List UInt8} {fill : ℕ}
    (hlt : ∀ d ∈ digits, d < 2 ^ w)
    (h : bitsOf w digits = byteBits bytes ++ List.replicate fill false) (hfill : fill < w) :
    toDigits w bytes = digits := by
  have hlen := congrArg List.length h
  simp only [length_bitsOf, List.length_append, length_byteBits, List.length_replicate] at hlen
  have hcount : (bytes.length * 8 + (w - 1)) / w = digits.length := by
    have hle : digits.length * w ≤ bytes.length * 8 + (w - 1) := by omega
    have hlt : bytes.length * 8 + (w - 1) < (digits.length + 1) * w := by
      rw [Nat.add_mul]
      omega
    exact Nat.div_eq_of_lt_le hle hlt
  have hbits : byteBits bytes ++ List.replicate w false =
      bitsOf w digits ++ List.replicate (w - fill) false := by
    rw [h, List.append_assoc, List.replicate_append_replicate,
      Nat.add_sub_cancel' (Nat.le_of_lt hfill)]
  rw [toDigits, hcount, hbits, groups_bitsOf w digits hlt]

/-- The digits of bytes have the bits of the bytes, filled with zeros. -/
theorem bitsOf_toDigits {w : ℕ} (hw : 0 < w) (bytes : List UInt8) :
    ∃ fill < w, bitsOf w (toDigits w bytes) = byteBits bytes ++ List.replicate fill false := by
  let count := (bytes.length * 8 + (w - 1)) / w
  have hle : count * w ≤ bytes.length * 8 + (w - 1) := Nat.div_mul_le_self _ _
  have hlt : bytes.length * 8 + (w - 1) < (count + 1) * w :=
    Nat.lt_mul_of_div_lt (Nat.lt_succ_self _) hw
  have hcover : bytes.length * 8 ≤ count * w := by
    rw [Nat.add_mul] at hlt
    omega
  refine ⟨count * w - bytes.length * 8, by omega, ?_⟩
  have htake : bitsOf w (toDigits w bytes) =
      (byteBits bytes ++ List.replicate w false).take (count * w) := by
    refine bitsOf_groups w count _ ?_
    rw [List.length_append, length_byteBits, List.length_replicate]
    omega
  rw [htake, List.take_append, length_byteBits, List.take_of_length_le (by simpa using hcover),
    List.take_replicate, Nat.min_eq_left (by omega)]

theorem toDigits_lt (w : ℕ) (bytes : List UInt8) : ∀ d ∈ toDigits w bytes, d < 2 ^ w :=
  groups_lt w _ _

theorem ofDigits_toDigits {w : ℕ} (hw : 0 < w) (hle : w ≤ 8) (bytes : List UInt8) :
    ofDigits w (toDigits w bytes) = bytes := by
  obtain ⟨fill, hfill, hbits⟩ := bitsOf_toDigits hw bytes
  refine ofDigits_eq hbits ?_
  rw [List.length_replicate]
  omega

/-! ## Text codes -/

/-- A code of RFC 4648: the letter of each group of `width` bits. -/
structure TextCode where
  alphabet : List Char
  width : ℕ
  width_pos : 0 < width
  width_le : width ≤ 8
  length_alphabet : alphabet.length = 2 ^ width
  nodup : alphabet.Nodup
  pad_notMem : '=' ∉ alphabet

namespace TextCode

variable (code : TextCode)

def letter (d : ℕ) : Char := code.alphabet.getD d '='

/-- The letters of the bytes, without padding. -/
def letters (bytes : List UInt8) : List Char := (toDigits code.width bytes).map code.letter

/-- The letters of the fewest groups that are whole bytes. -/
def quantum : ℕ := 8 / Nat.gcd code.width 8

/-- The padding that brings `n` letters to whole quanta. -/
def padding (n : ℕ) : List Char :=
  List.replicate ((code.quantum - n % code.quantum) % code.quantum) '='

def encode (bytes : List UInt8) : List Char :=
  code.letters bytes ++ code.padding (code.letters bytes).length

/-- Accepts exactly what the code writes for some bytes: the letters, then their padding, the
bits that fill the last letter being zero. -/
def decode (text : List Char) : Option (List UInt8) :=
  let letters := text.takeWhile (· ≠ '=')
  let digits := letters.map code.alphabet.idxOf
  let bytes := ofDigits code.width digits
  if (∀ c ∈ letters, c ∈ code.alphabet) ∧ toDigits code.width bytes = digits ∧
      text.dropWhile (· ≠ '=') = code.padding letters.length then some bytes
  else none

theorem letter_mem {d : ℕ} (hd : d < 2 ^ code.width) : code.letter d ∈ code.alphabet := by
  rw [← code.length_alphabet] at hd
  rw [letter, List.getD_eq_getElem _ _ hd]
  exact List.getElem_mem hd

theorem idxOf_letter {d : ℕ} (hd : d < 2 ^ code.width) :
    code.alphabet.idxOf (code.letter d) = d := by
  rw [← code.length_alphabet] at hd
  rw [letter, List.getD_eq_getElem _ _ hd]
  exact code.nodup.idxOf_getElem d hd

theorem letter_idxOf {c : Char} (hc : c ∈ code.alphabet) :
    code.letter (code.alphabet.idxOf c) = c := by
  rw [letter, List.getD_eq_getElem _ _ (List.idxOf_lt_length_of_mem hc)]
  exact List.getElem_idxOf _

theorem ne_pad_of_mem {c : Char} (hc : c ∈ code.alphabet) : c ≠ '=' := by
  rintro rfl
  exact code.pad_notMem hc

theorem mem_alphabet_of_mem_letters {bytes : List UInt8} {c : Char}
    (hc : c ∈ code.letters bytes) : c ∈ code.alphabet := by
  obtain ⟨d, hd, rfl⟩ := List.mem_map.mp hc
  exact code.letter_mem (toDigits_lt code.width bytes d hd)

theorem idxOf_letters (bytes : List UInt8) :
    (code.letters bytes).map code.alphabet.idxOf = toDigits code.width bytes := by
  rw [letters, List.map_map]
  refine (List.map_congr_left fun d hd => ?_).trans (List.map_id _)
  exact code.idxOf_letter (toDigits_lt code.width bytes d hd)

/-- Decoding is the inverse of encoding. -/
theorem decode_encode (bytes : List UInt8) : code.decode (code.encode bytes) = some bytes := by
  have hmem : ∀ c ∈ code.letters bytes, c ≠ '=' := fun c hc =>
    code.ne_pad_of_mem (code.mem_alphabet_of_mem_letters hc)
  have hpad : ∀ n, (code.padding n).takeWhile (· ≠ '=') = [] := by
    intro n
    rw [padding, List.takeWhile_replicate]
    simp
  have hdrop : ∀ n, (code.padding n).dropWhile (· ≠ '=') = code.padding n := by
    intro n
    rw [padding, List.dropWhile_replicate]
    simp
  have hletters : (code.encode bytes).takeWhile (· ≠ '=') = code.letters bytes := by
    rw [encode, List.takeWhile_append_of_pos (by simpa using hmem), hpad, List.append_nil]
  have hrest : (code.encode bytes).dropWhile (· ≠ '=') =
      code.padding (code.letters bytes).length := by
    rw [encode, List.dropWhile_append_of_pos (by simpa using hmem), hdrop]
  have hbytes := ofDigits_toDigits code.width_pos code.width_le bytes
  rw [decode, hletters, hrest, idxOf_letters, hbytes]
  exact if_pos ⟨fun c => code.mem_alphabet_of_mem_letters, rfl, rfl⟩

/-- Only an encoding is decoded. -/
theorem decode_eq_some_iff {text : List Char} {bytes : List UInt8} :
    code.decode text = some bytes ↔ text = code.encode bytes := by
  constructor
  · intro h
    simp only [decode] at h
    split at h
    · rename_i hvalid
      obtain ⟨hmem, hdigits, hrest⟩ := hvalid
      rw [Option.some.inj h] at hdigits
      have hletters : code.letters bytes = text.takeWhile (· ≠ '=') := by
        rw [letters, hdigits, List.map_map]
        refine (List.map_congr_left fun c hc => ?_).trans (List.map_id _)
        exact code.letter_idxOf (hmem c hc)
      rw [encode, hletters, ← hrest, List.takeWhile_append_dropWhile]
    · cases h
  · rintro rfl
    exact code.decode_encode bytes

end TextCode

end VpnHub.BitGroups
