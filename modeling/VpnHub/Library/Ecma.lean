import Mathlib.Data.Int.Log
import Mathlib.Data.Rat.Floor
import Mathlib.Tactic.Linarith
import VpnHub.Library.Text

/-! # Values of ECMAScript

Texts as sequences of code points, and numbers by their value. -/

namespace VpnHub.Ecma

/-! ## Text -/

/-- `\s` of a regular expression, also what `trim` removes. -/
def isSpace (c : Char) : Bool :=
  c == Char.ofNat 0xFEFF || (Text.isWhitespace c && c != Char.ofNat 0x85)

/-- The upper-case mapping of Unicode, one character to a text. -/
structure CaseMapping where
  upper : Char → List Char
  upper_ascii : ∀ c, c.toNat < 128 → upper c = [c.toUpper]
  upper_blank : ∀ c, Text.isWhitespace c = true ∨ isSpace c = true → upper c = [c]

def CaseMapping.toUpperCase (cases : CaseMapping) (s : List Char) : List Char :=
  s.flatMap cases.upper

/-- The mapping of the letters of ASCII. -/
def CaseMapping.ascii : CaseMapping where
  upper c := if c.toNat < 128 then [c.toUpper] else [c]
  upper_ascii := fun _ h => if_pos h
  upper_blank c hc := by
    have hlower : ¬ ('a'.val ≤ c.val ∧ c.val ≤ 'z'.val) := fun h => by
      have hlow : 97 ≤ c.toNat := h.1
      have hhigh : c.toNat ≤ 122 := h.2
      simp [isSpace, Text.isWhitespace, ← Char.toNat_inj] at hc
      omega
    have hupper : c.toUpper = c := dif_neg hlower
    rw [hupper, ite_self]

def trim (s : List Char) : List Char := Text.trimMatches isSpace s

def padStart (s : List Char) (n : ℕ) (fill : Char) : List Char :=
  List.replicate (n - s.length) fill ++ s

/-- The text if it counts as true: it is neither missing nor empty. -/
def truthy (s : Option (List Char)) : Option (List Char) := s.filter (· ≠ [])

theorem truthy_eq_some {s : Option (List Char)} {t : List Char} :
    truthy s = some t ↔ s = some t ∧ t ≠ [] := by
  simp [truthy, Option.filter_eq_some_iff]

/-- When `s || d` is a text other than `d`. -/
theorem getD_truthy_eq_iff {s : Option (List Char)} {d t : List Char} (hd : d ≠ t) (ht : t ≠ []) :
    (truthy s).getD d = t ↔ s = some t := by
  cases hs : truthy s with
  | some u =>
      obtain ⟨rfl, -⟩ := truthy_eq_some.mp hs
      exact Option.some_inj.symm
  | none =>
      refine iff_of_false hd fun heq => ?_
      exact Option.some_ne_none t ((truthy_eq_some.mpr ⟨heq, ht⟩).symm.trans hs)

/-- What `a || b || ""` gives is empty when both are missing or empty. -/
theorem getD_truthy_or_ne_nil {a b : Option (List Char)} :
    ((truthy a).or b).getD [] ≠ [] ↔ (∃ t ∈ a, t ≠ []) ∨ ∃ t ∈ b, t ≠ [] := by
  cases ha : truthy a with
  | some t =>
      obtain ⟨rfl, hne⟩ := truthy_eq_some.mp ha
      exact iff_of_true hne (.inl ⟨t, rfl, hne⟩)
  | none =>
      have hnone : ¬ ∃ t ∈ a, t ≠ [] := fun ⟨t, ht, hne⟩ =>
        Option.some_ne_none t ((truthy_eq_some.mpr ⟨ht, hne⟩).symm.trans ha)
      rw [or_iff_right hnone]
      cases b <;> simp

/-! ## Numbers -/

/-- A number; `none` is one that is not finite. -/
abbrev Number := Option ℚ

def floor (x : Number) : Number := x.map fun q => (⌊q⌋ : ℚ)

/-- `ToUint32`: without the fraction, modulo `2 ^ 32`; zero if not finite. -/
def toUint32 : Number → UInt32
  | some q => UInt32.ofNat ((q.num.tdiv q.den) % 2 ^ 32).toNat
  | none => 0

/-- `toString` of an integer below `10 ^ 21`. -/
def ofInt (n : ℤ) : List Char := if n < 0 then '-' :: Text.ofNat n.natAbs else Text.ofNat n.natAbs

/-- An integer in a JSON text that is read as an unsigned number below the bound. -/
def toUnsigned (bound : ℕ) (x : Number) : Option ℕ :=
  x.bind fun q => if q.den = 1 ∧ 0 ≤ q.num ∧ q.num < bound then some q.num.toNat else none

theorem ofInt_natCast (n : ℕ) : ofInt (n : ℤ) = Text.ofNat n :=
  if_neg (Int.not_lt.mpr (Int.natCast_nonneg n))

theorem toUint32_natCast {n : ℕ} (h : n < 2 ^ 32) : toUint32 (some (n : ℚ)) = UInt32.ofNat n := by
  have hmod : ((n : ℤ) % 2 ^ 32).toNat = n := by omega
  simp only [toUint32, Rat.num_natCast, Rat.den_natCast, Nat.cast_one, Int.tdiv_one, hmod]

theorem toUnsigned_eq_some {bound n : ℕ} {x : Number} :
    toUnsigned bound x = some n ↔ x = some (n : ℚ) ∧ n < bound := by
  constructor
  · intro h
    obtain ⟨q, rfl, hq⟩ := Option.bind_eq_some_iff.mp h
    split at hq
    · rename_i hrange
      obtain ⟨hden, hnonneg, hlt⟩ := hrange
      obtain rfl := Option.some.inj hq
      have hcast : (q.num.toNat : ℤ) = q.num := Int.toNat_of_nonneg hnonneg
      refine ⟨congrArg some ?_, by omega⟩
      calc q = (q.num : ℚ) := ((Rat.den_eq_one_iff q).mp hden).symm
        _ = ((q.num.toNat : ℤ) : ℚ) := by rw [hcast]
        _ = (q.num.toNat : ℚ) := Int.cast_natCast _
    · cases hq
  · rintro ⟨rfl, hlt⟩
    simp [toUnsigned, hlt]

/-! ## Division -/

/-- The nearest integer, the even one of two. -/
def roundEven (q : ℚ) : ℤ :=
  if q - ⌊q⌋ < 1 / 2 then ⌊q⌋
  else if 1 / 2 < q - ⌊q⌋ then ⌊q⌋ + 1
  else if ⌊q⌋ % 2 = 0 then ⌊q⌋ else ⌊q⌋ + 1

/-- What the last of the 53 bits of a number stands for; below the normal numbers it is the same
for all. -/
def lastBit (q : ℚ) : ℚ := 2 ^ max (Int.log 2 |q| - 52) (-1074)

/-- The number of double precision that is nearest to a value. -/
def toDouble (q : ℚ) : Number :=
  let rounded := roundEven (q / lastBit q) * lastBit q
  if |rounded| < 2 ^ 1024 then some rounded else none

/-- The quotient. By an infinite number it would be zero, which `toUint32` takes the numbers that
are not finite to as well. -/
def div (x y : Number) : Number :=
  x.bind fun a => y.bind fun b => if b = 0 then none else toDouble (a / b)

theorem le_roundEven {q : ℚ} {n : ℤ} (h : (n : ℚ) ≤ q) : n ≤ roundEven q := by
  have hfloor : n ≤ ⌊q⌋ := Int.le_floor.mpr h
  unfold roundEven
  split_ifs <;> omega

theorem roundEven_lt {q : ℚ} {n : ℤ} (h : q < n - 1 / 2) : roundEven q < n := by
  have hfloor : ⌊q⌋ < n := Int.floor_lt.mpr (by linarith)
  have hup (hhalf : ¬ q - ⌊q⌋ < 1 / 2) : ⌊q⌋ + 1 < n := by
    have hcast : ((⌊q⌋ + 1 : ℤ) : ℚ) < n := by
      push_cast
      linarith
    exact_mod_cast hcast
  unfold roundEven
  split_ifs with hless
  · exact hfloor
  · exact hup hless
  · exact hfloor
  · exact hup hless

theorem lastBit_pos (q : ℚ) : 0 < lastBit q := zpow_pos (by norm_num) _

theorem lastBit_le {q : ℚ} (h : 1 / 2 ^ 53 < q) : lastBit q ≤ q / 2 ^ 52 := by
  have hq : 0 < q := lt_trans (by norm_num) h
  have hlog : -53 ≤ Int.log 2 q := by
    refine (Int.zpow_le_iff_le_log (by decide) hq).mp ?_
    rw [Nat.cast_ofNat, zpow_neg, ← one_div]
    exact_mod_cast h.le
  have hself := Int.zpow_log_le_self (b := 2) (by decide) hq
  rw [lastBit, abs_of_pos hq, max_eq_left (by omega), zpow_sub₀ (by norm_num)]
  exact div_le_div_of_nonneg_right (by exact_mod_cast hself) (by norm_num)

/-- The last bit of a number of at most 53 bits before the point is a fraction of one. -/
theorem exists_lastBit {q : ℚ} (hq : 0 ≤ q) (hbound : q < 2 ^ 53) :
    ∃ n : ℕ, lastBit q = 1 / 2 ^ n := by
  have hlog : Int.log 2 |q| ≤ 52 := by
    rcases hq.eq_or_lt with rfl | hpos
    · simp
    · have hlt := (Int.lt_zpow_iff_log_lt (b := 2) (x := 53) (by decide) hpos).mp
        (by exact_mod_cast hbound)
      rw [abs_of_pos hpos]
      omega
  refine ⟨(-max (Int.log 2 |q| - 52) (-1074)).toNat, ?_⟩
  rw [lastBit, one_div, ← zpow_natCast, ← zpow_neg, Int.toNat_of_nonneg (by omega), neg_neg]

/-- A value that is further from the next integer than half of its last bit is not rounded up to
it. -/
theorem floor_toDouble {q : ℚ} {k : ℕ} (hk : k < 2 ^ 53) (hlower : (k : ℚ) ≤ q)
    (hupper : lastBit q / 2 < k + 1 - q) : floor (toDouble q) = some (k : ℚ) := by
  have hpos := lastBit_pos q
  have hbound : (k : ℚ) + 1 ≤ 2 ^ 53 := by exact_mod_cast hk
  obtain ⟨n, hn⟩ := exists_lastBit ((Nat.cast_nonneg k).trans hlower) (by linarith)
  -- both integers are multiples of the last bit
  have hscale (j : ℕ) : ((j * 2 ^ n : ℤ) : ℚ) * lastBit q = j := by
    rw [hn]
    push_cast
    field_simp
  have hle : (k : ℤ) * 2 ^ n ≤ roundEven (q / lastBit q) := by
    refine le_roundEven ?_
    rw [le_div_iff₀ hpos, hscale]
    exact hlower
  have hlt : roundEven (q / lastBit q) < ((k + 1 : ℕ) : ℤ) * 2 ^ n := by
    refine roundEven_lt ?_
    rw [div_lt_iff₀ hpos, sub_mul, hscale]
    push_cast
    linarith
  have hfirst : (k : ℚ) ≤ roundEven (q / lastBit q) * lastBit q := by
    rw [← hscale k]
    exact mul_le_mul_of_nonneg_right (by exact_mod_cast hle) hpos.le
  have hlast : roundEven (q / lastBit q) * lastBit q < k + 1 := by
    have h := mul_lt_mul_of_pos_right (Int.cast_lt (R := ℚ).mpr hlt) hpos
    rw [hscale] at h
    exact_mod_cast h
  have hfinite : |roundEven (q / lastBit q) * lastBit q| < 2 ^ 1024 := by
    rw [abs_of_nonneg ((Nat.cast_nonneg k).trans hfirst)]
    calc roundEven (q / lastBit q) * lastBit q < k + 1 := hlast
      _ ≤ 2 ^ 53 := hbound
      _ < 2 ^ 1024 := pow_lt_pow_right₀ (by norm_num) (by norm_num)
  have hfloor : ⌊roundEven (q / lastBit q) * lastBit q⌋ = (k : ℤ) :=
    Int.floor_eq_iff.mpr ⟨by exact_mod_cast hfirst, by exact_mod_cast hlast⟩
  simp only [toDouble, if_pos hfinite, floor, Option.map_some, hfloor, Int.cast_natCast]

/-- The rounding is too small to take a quotient of safe integers to the next integer. -/
theorem half_lastBit_lt {n m : ℕ} (hn : n < 2 ^ 53) (hm : 0 < m) (hm' : m < 2 ^ 53) :
    lastBit (n / m) / 2 < 1 / m := by
  have hmpos : (0 : ℚ) < m := Nat.cast_pos.mpr hm
  rw [lt_div_iff₀ hmpos]
  rcases Nat.eq_zero_or_pos n with rfl | hnpos
  · have hm' : (m : ℚ) < 2 ^ 53 := by exact_mod_cast hm'
    have hbit : lastBit ((0 : ℕ) / m) = 1 / 2 ^ 52 := by simp [lastBit, zpow_neg]
    rw [hbit]
    linarith
  · have hn : (n : ℚ) < 2 ^ 53 := by exact_mod_cast hn
    have hbit := lastBit_le (q := (n : ℚ) / m) (by
      rw [div_lt_div_iff₀ (by norm_num) hmpos]
      exact_mod_cast (by omega : 1 * m < n * 2 ^ 53))
    calc lastBit (n / m) / 2 * m ≤ n / m / 2 ^ 52 / 2 * m := by gcongr
      _ = n / 2 ^ 53 := by field_simp
      _ < 1 := by rw [div_lt_one (by norm_num)]; exact hn

/-- On safe integers the division and the floor are the division of integers. -/
theorem floor_div {n m : ℕ} (hn : n < 2 ^ 53) (hm : 0 < m) (hm' : m < 2 ^ 53) :
    floor (div (some n) (some m)) = some ((n / m : ℕ) : ℚ) := by
  have hmpos : (0 : ℚ) < m := Nat.cast_pos.mpr hm
  have hdiv : div (some (n : ℚ)) (some (m : ℚ)) = toDouble (n / m) := by simp [div, hm.ne']
  have hsplit : (n : ℚ) = m * (n / m : ℕ) + (n % m : ℕ) := by
    exact_mod_cast (Nat.div_add_mod n m).symm
  have hrem : ((n % m : ℕ) : ℚ) + 1 ≤ m := by exact_mod_cast Nat.mod_lt n hm
  have hnonneg : (0 : ℚ) ≤ (n % m : ℕ) := Nat.cast_nonneg _
  have hgap : 1 / (m : ℚ) ≤ (n / m : ℕ) + 1 - n / m := by
    rw [div_le_iff₀ hmpos, sub_mul, div_mul_cancel₀ _ hmpos.ne']
    linarith
  rw [hdiv]
  refine floor_toDouble ((Nat.div_le_self n m).trans_lt hn) ?_
    ((half_lastBit_lt hn hm hm').trans_le hgap)
  rw [le_div_iff₀ hmpos]
  linarith

end VpnHub.Ecma
