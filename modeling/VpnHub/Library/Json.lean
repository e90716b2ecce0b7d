import VpnHub.Library.Text

/-! # JSON

Values of RFC 8259 and a reader for their texts. -/

namespace VpnHub

/-- A number is `mantissa * 10 ^ exponent`. -/
inductive Json where
  | null
  | bool (value : Bool)
  | num (mantissa exponent : ℤ)
  | str (value : List Char)
  | arr (items : List Json)
  | obj (members : List (List Char × Json))

namespace Json

/-- The member of a name; the last one counts. -/
def field : Json → List Char → Option Json
  | .obj members, name => (members.reverse.find? fun member => member.1 = name).map Prod.snd
  | _, _ => none

/-! ## The reader

Each part takes its text off the front and returns what is left. `fuel` bounds the nesting and
the number of elements; the length of the text is enough. -/

def skipSpace (s : List Char) : List Char :=
  s.dropWhile fun c => c == ' ' || c == '\t' || c == '\n' || c == '\r'

/-- What stands behind a character, white space before it passed over. -/
def expect (c : Char) (s : List Char) : Option (List Char) :=
  match skipSpace s with
  | d :: rest => if d = c then some rest else none
  | [] => none

def hexDigit? (c : Char) : Option ℕ :=
  if '0' ≤ c ∧ c ≤ '9' then some (c.toNat - '0'.toNat)
  else if 'a' ≤ c ∧ c ≤ 'f' then some (c.toNat - 'a'.toNat + 10)
  else if 'A' ≤ c ∧ c ≤ 'F' then some (c.toNat - 'A'.toNat + 10)
  else none

/-- Four hexadecimal digits. -/
def readUnit : List Char → Option (ℕ × List Char)
  | a :: b :: c :: d :: rest => do
    let a ← hexDigit? a
    let b ← hexDigit? b
    let c ← hexDigit? c
    let d ← hexDigit? d
    return (((a * 16 + b) * 16 + c) * 16 + d, rest)
  | _ => none

/-- The second half of a surrogate pair. -/
def readLow : List Char → Option (ℕ × List Char)
  | '\\' :: 'u' :: rest => (readUnit rest).filter fun low => 0xDC00 ≤ low.1 ∧ low.1 ≤ 0xDFFF
  | _ => none

/-- What follows `\u`. A half of a pair that stands alone is a replacement character. -/
def readUnicode (s : List Char) : Option (Char × List Char) :=
  (readUnit s).map fun high =>
    if 0xD800 ≤ high.1 ∧ high.1 ≤ 0xDBFF then
      match readLow high.2 with
      | some low => (Char.ofNat (0x10000 + (high.1 - 0xD800) * 0x400 + (low.1 - 0xDC00)), low.2)
      | none => (Text.replacement, high.2)
    else if 0xDC00 ≤ high.1 ∧ high.1 ≤ 0xDFFF then (Text.replacement, high.2)
    else (Char.ofNat high.1, high.2)

/-- What follows a backslash. -/
def readEscape : List Char → Option (Char × List Char)
  | '"' :: rest => some ('"', rest)
  | '\\' :: rest => some ('\\', rest)
  | '/' :: rest => some ('/', rest)
  | 'b' :: rest => some (Char.ofNat 8, rest)
  | 'f' :: rest => some (Char.ofNat 12, rest)
  | 'n' :: rest => some ('\n', rest)
  | 'r' :: rest => some ('\r', rest)
  | 't' :: rest => some ('\t', rest)
  | 'u' :: rest => readUnicode rest
  | _ => none

/-- A character that stands for itself in a string. -/
def isPlain (c : Char) : Bool := c != '"' && c != '\\' && 0x20 ≤ c.toNat

/-- The rest of a string, behind its opening quotation mark. -/
def readChars : ℕ → List Char → Option (List Char × List Char)
  | 0, _ => none
  | _, [] => none
  | fuel + 1, c :: rest =>
    if c = '"' then some ([], rest)
    else if c = '\\' then
      (readEscape rest).bind fun escaped =>
        (readChars fuel escaped.2).map fun tail => (escaped.1 :: tail.1, tail.2)
    else if isPlain c then (readChars fuel rest).map fun tail => (c :: tail.1, tail.2)
    else none

def readString (s : List Char) : Option (List Char × List Char) := readChars (s.length + 1) s

/-- One or more decimal digits: their value, their number and what is left. -/
def readDigits (s : List Char) : Option (ℕ × ℕ × List Char) :=
  let digits := s.takeWhile Char.isDigit
  if digits = [] then none
  else (Text.decimalAux 0 digits).map fun n => (n, digits.length, s.dropWhile Char.isDigit)

def readFraction : List Char → Option (ℕ × ℕ × List Char)
  | '.' :: rest => readDigits rest
  | s => some (0, 0, s)

def readExponent : List Char → Option (ℤ × List Char)
  | c :: rest =>
    if c = 'e' ∨ c = 'E' then
      match rest with
      | '-' :: rest => (readDigits rest).map fun digits => (-(digits.1 : ℤ), digits.2.2)
      | '+' :: rest => (readDigits rest).map fun digits => ((digits.1 : ℤ), digits.2.2)
      | rest => (readDigits rest).map fun digits => ((digits.1 : ℤ), digits.2.2)
    else some (0, c :: rest)
  | [] => some (0, [])

/-- A number without its sign. No zeros stand in front. -/
def readUnsigned (s : List Char) : Option (ℕ × ℤ × List Char) := do
  let int ← readDigits s
  if s.head? = some '0' ∧ int.2.1 ≠ 1 then none
  else
    let fraction ← readFraction int.2.2
    let exponent ← readExponent fraction.2.2
    return (int.1 * 10 ^ fraction.2.1 + fraction.1, exponent.1 - fraction.2.1, exponent.2)

def readNumber : List Char → Option (Json × List Char)
  | '-' :: rest => (readUnsigned rest).map fun n => (.num (-(n.1 : ℤ)) n.2.1, n.2.2)
  | s => (readUnsigned s).map fun n => (.num n.1 n.2.1, n.2.2)

/-- A value that is neither string, array nor object. -/
def readScalar (s : List Char) : Option (Json × List Char) :=
  match Text.stripPrefix s "null".toList with
  | some rest => some (.null, rest)
  | none =>
    match Text.stripPrefix s "true".toList with
    | some rest => some (.bool true, rest)
    | none =>
      match Text.stripPrefix s "false".toList with
      | some rest => some (.bool false, rest)
      | none => readNumber s

mutual

def readValue : ℕ → List Char → Option (Json × List Char)
  | 0, _ => none
  | fuel + 1, s =>
    match expect '{' s with
    | some rest =>
      match expect '}' rest with
      | some rest => some (.obj [], rest)
      | none => (readMembers fuel rest).map fun members => (.obj members.1, members.2)
    | none =>
      match expect '[' s with
      | some rest =>
        match expect ']' rest with
        | some rest => some (.arr [], rest)
        | none => (readItems fuel rest).map fun items => (.arr items.1, items.2)
      | none =>
        match expect '"' s with
        | some rest => (readString rest).map fun value => (.str value.1, value.2)
        | none => readScalar (skipSpace s)

/-- The members of an object up to the closing brace. -/
def readMembers : ℕ → List Char → Option (List (List Char × Json) × List Char)
  | 0, _ => none
  | fuel + 1, s =>
    (expect '"' s).bind fun rest =>
    (readString rest).bind fun name =>
    (expect ':' name.2).bind fun rest =>
    (readValue fuel rest).bind fun value =>
      match expect '}' value.2 with
      | some rest => some ([(name.1, value.1)], rest)
      | none =>
        (expect ',' value.2).bind fun rest =>
        (readMembers fuel rest).map fun members => ((name.1, value.1) :: members.1, members.2)

/-- The elements of an array up to the closing bracket. -/
def readItems : ℕ → List Char → Option (List Json × List Char)
  | 0, _ => none
  | fuel + 1, s =>
    (readValue fuel s).bind fun value =>
      match expect ']' value.2 with
      | some rest => some ([value.1], rest)
      | none =>
        (expect ',' value.2).bind fun rest =>
        (readItems fuel rest).map fun items => (value.1 :: items.1, items.2)

end

/-- The value of a text that is one JSON value between white space. -/
def parse (s : List Char) : Option Json :=
  (readValue (s.length + 1) s).bind fun value =>
    if skipSpace value.2 = [] then some value.1 else none

/-! ## Lengths

What a reader takes off the front is at least as long as what it stands for. A character that
does not stand for itself costs two characters or more. -/

def cost (t : List Char) : ℕ := (t.map fun c => if isPlain c then 1 else 2).sum

variable {c : Char} {s t rest name : List Char} {fuel : ℕ}

@[simp] theorem cost_nil : cost [] = 0 := rfl

theorem cost_cons (c : Char) (t : List Char) :
    cost (c :: t) = (if isPlain c then 1 else 2) + cost t := rfl

theorem cost_cons_le (c : Char) (t : List Char) : cost (c :: t) ≤ 2 + cost t := by
  rw [cost_cons]
  split <;> omega

theorem length_le_cost (t : List Char) : t.length ≤ cost t := by
  induction t with
  | nil => simp
  | cons c t ih =>
      rw [cost_cons, List.length_cons]
      split <;> omega

theorem isPlain_of_cost_le (h : cost t ≤ t.length) : ∀ c ∈ t, isPlain c = true := by
  induction t with
  | nil => nofun
  | cons c t ih =>
      have hle := length_le_cost t
      rw [cost_cons, List.length_cons] at h
      by_cases hc : isPlain c = true
      · rw [if_pos hc] at h
        intro d hd
        rcases List.mem_cons.mp hd with rfl | hd
        · exact hc
        · exact ih (by omega) d hd
      · rw [if_neg hc] at h
        omega

theorem length_skipSpace_le (s : List Char) : (skipSpace s).length ≤ s.length :=
  (List.dropWhile_suffix _).length_le

theorem length_of_expect (h : expect c s = some rest) : rest.length + 1 ≤ s.length := by
  have hle := length_skipSpace_le s
  rw [expect] at h
  split at h
  · rename_i d tail hskip
    split at h
    · cases h
      rw [hskip, List.length_cons] at hle
      exact hle
    · cases h
  · cases h

theorem length_of_readUnit {n : ℕ} (h : readUnit s = some (n, rest)) :
    rest.length + 4 = s.length := by
  rw [readUnit.eq_def] at h
  split at h
  · simp only [Option.bind_eq_bind, Option.bind_eq_some_iff] at h
    obtain ⟨_, -, _, -, _, -, _, -, h⟩ := h
    cases h
    rfl
  · cases h

theorem length_of_readLow {n : ℕ} (h : readLow s = some (n, rest)) :
    rest.length ≤ s.length := by
  rw [readLow.eq_def] at h
  split at h
  · have hunit := length_of_readUnit (Option.filter_eq_some_iff.mp h).1
    simp only [List.length_cons]
    omega
  · cases h

theorem length_of_readUnicode (h : readUnicode s = some (c, rest)) : rest.length ≤ s.length := by
  obtain ⟨high, hhigh, h⟩ := Option.map_eq_some_iff.mp h
  have hunit : high.2.length + 4 = s.length := length_of_readUnit hhigh
  suffices hle : rest.length ≤ high.2.length by omega
  split_ifs at h with hpair halone
  · cases hlow : readLow high.2 with
    | none =>
      rw [hlow] at h
      exact Nat.le_of_eq (congrArg (fun r => r.2.length) h.symm)
    | some low =>
      rw [hlow] at h
      have hle : low.2.length ≤ high.2.length := length_of_readLow hlow
      exact (Nat.le_of_eq (congrArg (fun r => r.2.length) h.symm)).trans hle
  · exact Nat.le_of_eq (congrArg (fun r => r.2.length) h.symm)
  · exact Nat.le_of_eq (congrArg (fun r => r.2.length) h.symm)

theorem length_of_readEscape (h : readEscape s = some (c, rest)) :
    rest.length + 1 ≤ s.length := by
  rw [readEscape.eq_def] at h
  split at h
  case h_9 =>
    have hle := length_of_readUnicode h
    simp only [List.length_cons]
    omega
  case h_10 => cases h
  all_goals
    cases h
    simp

theorem cost_of_readChars (h : readChars fuel s = some (t, rest)) :
    cost t + 1 + rest.length ≤ s.length := by
  induction fuel generalizing s t rest with
  | zero => cases h
  | succ fuel ih =>
      cases s with
      | nil => cases h
      | cons c s =>
          rw [readChars] at h
          split at h
          · cases h
            simp
            omega
          · split at h
            · obtain ⟨escaped, hescape, h⟩ := Option.bind_eq_some_iff.mp h
              obtain ⟨tail, htail, h⟩ := Option.map_eq_some_iff.mp h
              cases h
              have hescaped := length_of_readEscape hescape
              have hcost := ih htail
              have hle := cost_cons_le escaped.1 tail.1
              rw [List.length_cons]
              omega
            · split at h
              · rename_i hplain
                obtain ⟨tail, htail, h⟩ := Option.map_eq_some_iff.mp h
                cases h
                have hcost := ih htail
                rw [cost_cons, if_pos hplain, List.length_cons]
                omega
              · cases h

theorem cost_of_readString (h : readString s = some (t, rest)) :
    cost t + 1 + rest.length ≤ s.length := cost_of_readChars h

def isScalar : Json → Bool
  | .null | .bool _ | .num _ _ => true
  | .str _ | .arr _ | .obj _ => false

theorem length_of_readDigits {n k : ℕ} (h : readDigits s = some (n, k, rest)) :
    rest.length ≤ s.length := by
  rw [readDigits] at h
  split at h
  · cases h
  · obtain ⟨m, -, h⟩ := Option.map_eq_some_iff.mp h
    cases h
    exact (List.dropWhile_suffix _).length_le

theorem length_of_readFraction {n k : ℕ} (h : readFraction s = some (n, k, rest)) :
    rest.length ≤ s.length := by
  rw [readFraction.eq_def] at h
  split at h
  · have hle := length_of_readDigits h
    rw [List.length_cons]
    omega
  · cases h
    exact Nat.le_refl _

theorem length_of_readExponent {e : ℤ} (h : readExponent s = some (e, rest)) :
    rest.length ≤ s.length := by
  rw [readExponent.eq_def] at h
  split at h
  · split at h
    · split at h
      all_goals
        simp only [Option.map_eq_some_iff, Prod.mk.injEq] at h
        obtain ⟨⟨n, k, tail⟩, hdigits, -, rfl⟩ := h
        have hle := length_of_readDigits hdigits
        simp only [List.length_cons]
        omega
    · cases h
      exact Nat.le_refl _
  · cases h
    exact Nat.le_refl _

theorem length_of_readUnsigned {n : ℕ} {e : ℤ} (h : readUnsigned s = some (n, e, rest)) :
    rest.length ≤ s.length := by
  simp only [readUnsigned, Option.bind_eq_bind, Option.bind_eq_some_iff] at h
  obtain ⟨int, hint, h⟩ := h
  split at h
  · cases h
  · obtain ⟨fraction, hfraction, h⟩ := Option.bind_eq_some_iff.mp h
    obtain ⟨exponent, hexponent, h⟩ := Option.bind_eq_some_iff.mp h
    have h1 : int.2.2.length ≤ s.length := length_of_readDigits hint
    have h2 : fraction.2.2.length ≤ int.2.2.length := length_of_readFraction hfraction
    have h3 : exponent.2.length ≤ fraction.2.2.length := length_of_readExponent hexponent
    cases h
    exact (h3.trans h2).trans h1

theorem length_of_readNumber {v : Json} (h : readNumber s = some (v, rest)) :
    rest.length ≤ s.length ∧ v.isScalar = true := by
  rw [readNumber.eq_def] at h
  split at h
  · obtain ⟨n, hn, h⟩ := Option.map_eq_some_iff.mp h
    have hle := length_of_readUnsigned hn
    cases h
    exact ⟨hle.trans (Nat.le_succ _), rfl⟩
  · obtain ⟨n, hn, h⟩ := Option.map_eq_some_iff.mp h
    cases h
    exact ⟨length_of_readUnsigned hn, rfl⟩

theorem length_of_stripPrefix {front : List Char} (h : Text.stripPrefix s front = some rest) :
    rest.length ≤ s.length := by
  rw [Text.stripPrefix] at h
  split at h
  · cases h
    rw [List.length_drop]
    omega
  · cases h

theorem length_of_readScalar {v : Json} (h : readScalar s = some (v, rest)) :
    rest.length ≤ s.length ∧ v.isScalar = true := by
  rw [readScalar] at h
  split at h
  · rename_i hnull
    cases h
    exact ⟨length_of_stripPrefix hnull, rfl⟩
  · split at h
    · rename_i htrue
      cases h
      exact ⟨length_of_stripPrefix htrue, rfl⟩
    · split at h
      · rename_i hfalse
        cases h
        exact ⟨length_of_stripPrefix hfalse, rfl⟩
      · exact length_of_readNumber h

/-- What one unit of fuel more reads. -/
structure Costs (fuel : ℕ) : Prop where
  value : ∀ {s v rest}, readValue fuel s = some (v, rest) →
    rest.length ≤ s.length ∧ ∀ t, v = .str t → cost t + 2 + rest.length ≤ s.length
  members : ∀ {s members rest}, readMembers fuel s = some (members, rest) →
    rest.length ≤ s.length ∧ ∀ name t, (name, Json.str t) ∈ members →
      name.length + cost t + 6 + rest.length ≤ s.length
  items : ∀ {s items rest}, readItems fuel s = some (items, rest) → rest.length ≤ s.length

theorem Costs.value_succ (h : Costs fuel) {v : Json}
    (hread : readValue (fuel + 1) s = some (v, rest)) :
    rest.length ≤ s.length ∧ ∀ t, v = .str t → cost t + 2 + rest.length ≤ s.length := by
  rw [readValue] at hread
  split at hread
  · rename_i hopen
    have hopen := length_of_expect hopen
    split at hread
    · rename_i hclose
      have hclose := length_of_expect hclose
      cases hread
      exact ⟨by omega, nofun⟩
    · obtain ⟨members, hmembers, hread⟩ := Option.map_eq_some_iff.mp hread
      cases hread
      have hle := (h.members hmembers).1
      exact ⟨by omega, nofun⟩
  · split at hread
    · rename_i hopen
      have hopen := length_of_expect hopen
      split at hread
      · rename_i hclose
        have hclose := length_of_expect hclose
        cases hread
        exact ⟨by omega, nofun⟩
      · obtain ⟨items, hitems, hread⟩ := Option.map_eq_some_iff.mp hread
        cases hread
        have hle := h.items hitems
        exact ⟨by omega, nofun⟩
    · split at hread
      · rename_i hopen
        have hopen := length_of_expect hopen
        obtain ⟨value, hvalue, hread⟩ := Option.map_eq_some_iff.mp hread
        cases hread
        have hcost := cost_of_readString hvalue
        refine ⟨by omega, ?_⟩
        intro t ht
        cases ht
        omega
      · have hscalar := length_of_readScalar hread
        have hskip := length_skipSpace_le s
        refine ⟨hscalar.1.trans hskip, ?_⟩
        rintro t rfl
        cases hscalar.2

theorem Costs.members_succ (h : Costs fuel) {members : List (List Char × Json)}
    (hread : readMembers (fuel + 1) s = some (members, rest)) :
    rest.length ≤ s.length ∧ ∀ name t, (name, Json.str t) ∈ members →
      name.length + cost t + 6 + rest.length ≤ s.length := by
  rw [readMembers] at hread
  obtain ⟨s1, hquote, hread⟩ := Option.bind_eq_some_iff.mp hread
  obtain ⟨name, hname, hread⟩ := Option.bind_eq_some_iff.mp hread
  obtain ⟨s2, hcolon, hread⟩ := Option.bind_eq_some_iff.mp hread
  obtain ⟨value, hvalue, hread⟩ := Option.bind_eq_some_iff.mp hread
  have hquote := length_of_expect hquote
  have hname := cost_of_readString hname
  have hlong := length_le_cost name.1
  have hcolon := length_of_expect hcolon
  have hvalue := h.value hvalue
  split at hread
  · rename_i hclose
    have hclose := length_of_expect hclose
    cases hread
    refine ⟨by omega, ?_⟩
    intro name' t hmem
    obtain ⟨rfl, ht⟩ := Prod.mk.inj (List.mem_singleton.mp hmem)
    have hcost := hvalue.2 t ht.symm
    omega
  · obtain ⟨s3, hcomma, hread⟩ := Option.bind_eq_some_iff.mp hread
    obtain ⟨members', hmembers, hread⟩ := Option.map_eq_some_iff.mp hread
    have hcomma := length_of_expect hcomma
    have hmembers := h.members hmembers
    cases hread
    refine ⟨by omega, ?_⟩
    intro name' t hmem
    rcases List.mem_cons.mp hmem with hmem | hmem
    · obtain ⟨rfl, ht⟩ := Prod.mk.inj hmem
      have hcost := hvalue.2 t ht.symm
      omega
    · have hcost := hmembers.2 name' t hmem
      omega

theorem Costs.items_succ (h : Costs fuel) {items : List Json}
    (hread : readItems (fuel + 1) s = some (items, rest)) : rest.length ≤ s.length := by
  rw [readItems] at hread
  obtain ⟨value, hvalue, hread⟩ := Option.bind_eq_some_iff.mp hread
  have hvalue := (h.value hvalue).1
  split at hread
  · rename_i hclose
    have hclose := length_of_expect hclose
    cases hread
    omega
  · obtain ⟨s1, hcomma, hread⟩ := Option.bind_eq_some_iff.mp hread
    obtain ⟨items', hitems, hread⟩ := Option.map_eq_some_iff.mp hread
    have hcomma := length_of_expect hcomma
    have hitems := h.items hitems
    cases hread
    omega

theorem costs (fuel : ℕ) : Costs fuel := by
  induction fuel with
  | zero => exact ⟨nofun, nofun, nofun⟩
  | succ fuel ih => exact ⟨ih.value_succ, ih.members_succ, ih.items_succ⟩

theorem cost_of_readObject {members : List (List Char × Json)}
    (h : readValue fuel s = some (.obj members, rest)) (hmem : (name, Json.str t) ∈ members) :
    name.length + cost t + 7 + rest.length ≤ s.length := by
  cases fuel with
  | zero => cases h
  | succ fuel =>
      rw [readValue] at h
      split at h
      · rename_i hopen
        have hopen := length_of_expect hopen
        split at h
        · cases h
          cases hmem
        · obtain ⟨read, hread, h⟩ := Option.map_eq_some_iff.mp h
          cases h
          have hcost := ((costs fuel).members hread).2 name t hmem
          omega
      · split at h
        · split at h
          · cases h
          · obtain ⟨items, -, h⟩ := Option.map_eq_some_iff.mp h
            cases h
        · split at h
          · obtain ⟨value, -, h⟩ := Option.map_eq_some_iff.mp h
            cases h
          · cases (length_of_readScalar h).2

theorem mem_of_field {v x : Json} (h : v.field name = some x) :
    ∃ members, v = .obj members ∧ (name, x) ∈ members := by
  cases v with
  | obj members =>
    obtain ⟨member, hfind, rfl⟩ := Option.map_eq_some_iff.mp h
    have hmem := List.mem_reverse.mp (List.mem_of_find?_eq_some hfind)
    have hname : member.1 = name := by simpa using List.find?_some hfind
    exact ⟨members, rfl, hname ▸ hmem⟩
  | null => cases h
  | bool value => cases h
  | num mantissa exponent => cases h
  | str value => cases h
  | arr items => cases h

/-- A text is longer than the string of any of its members by the name, the quotation marks, the
colon and the braces at least. -/
theorem length_of_field {v : Json} (h : parse s = some v) (hfield : v.field name = some (.str t)) :
    name.length + cost t + 7 ≤ s.length := by
  obtain ⟨value, hvalue, h⟩ := Option.bind_eq_some_iff.mp h
  split at h
  · cases h
    obtain ⟨members, hobj, hmem⟩ := mem_of_field hfield
    obtain ⟨value, rest⟩ := value
    obtain rfl : value = .obj members := hobj
    have hcost := cost_of_readObject hvalue hmem
    omega
  · cases h

/-! ## Reading what stands in front -/

theorem expect_cons (hc : skipSpace (c :: rest) = c :: rest) (d : Char) :
    expect d (c :: rest) = if c = d then some rest else none := by
  rw [expect, hc]

theorem skipSpace_cons (h : (c == ' ' || c == '\t' || c == '\n' || c == '\r') = false)
    (rest : List Char) : skipSpace (c :: rest) = c :: rest :=
  List.dropWhile_cons_of_neg (by simp [h])

theorem readChars_of_isPlain (h : ∀ c ∈ t, isPlain c = true) (hfuel : t.length < fuel) :
    readChars fuel (t ++ '"' :: rest) = some (t, rest) := by
  induction t generalizing fuel with
  | nil =>
      cases fuel with
      | zero => cases hfuel
      | succ fuel => simp [readChars]
  | cons c t ih =>
      cases fuel with
      | zero => cases hfuel
      | succ fuel =>
          have hc := h c List.mem_cons_self
          have htail := ih (fun d hd => h d (List.mem_cons_of_mem c hd))
            (Nat.lt_of_succ_lt_succ hfuel)
          have hquote : c ≠ '"' := by
            rintro rfl
            cases hc
          have hbackslash : c ≠ '\\' := by
            rintro rfl
            cases hc
          rw [List.cons_append, readChars, if_neg hquote, if_neg hbackslash, if_pos hc, htail]
          rfl

theorem readString_of_isPlain (h : ∀ c ∈ t, isPlain c = true) (rest : List Char) :
    readString (t ++ '"' :: rest) = some (t, rest) := by
  refine readChars_of_isPlain h ?_
  simp only [List.length_append, List.length_cons]
  omega

/-- The text is read as the value in front of what may follow a member. -/
def Reads (text : List Char) (v : Json) : Prop :=
  ∀ fuel rest, (rest.head? = some ',' ∨ rest.head? = some '}') →
    readValue (fuel + 1) (text ++ rest) = some (v, rest)

theorem reads_str (h : ∀ c ∈ t, isPlain c = true) : Reads ('"' :: t ++ ['"']) (.str t) := by
  intro fuel rest _
  have hread := readString_of_isPlain h rest
  have hskip : ∀ rest, skipSpace ('"' :: rest) = '"' :: rest := skipSpace_cons (by decide)
  rw [List.append_assoc, List.cons_append, List.singleton_append, readValue]
  simp only [expect_cons (hskip _), Char.reduceEq, if_false, if_true, hread, Option.map_some]

theorem decimalAux_append (n : ℕ) (s t : List Char) :
    Text.decimalAux n (s ++ t) = (Text.decimalAux n s).bind fun m => Text.decimalAux m t := by
  induction s generalizing n with
  | nil => rfl
  | cons c s ih =>
      rw [List.cons_append, Text.decimalAux, Text.decimalAux]
      cases Text.digit? c with
      | none => rfl
      | some d => exact ih _

theorem decimalAux_ofNat (n : ℕ) : Text.decimalAux 0 (Text.ofNat n) = some n := by
  have hdigit : ∀ d < 10, Text.digit? (Nat.digitChar d) = some d := by decide
  induction n using Nat.strongRecOn with
  | ind n ih =>
      by_cases hsmall : n < 10
      · have htext : Text.ofNat n = [Nat.digitChar n] := Nat.toDigits_of_lt_base hsmall
        simp [htext, Text.decimalAux, hdigit n hsmall]
      · have htext : Text.ofNat n = Text.ofNat (n / 10) ++ [Nat.digitChar (n % 10)] :=
          Nat.toDigits_of_base_le (by decide) (by omega)
        rw [htext, decimalAux_append, ih (n / 10) (by omega), Option.bind_some]
        simp only [Text.decimalAux, hdigit (n % 10) (by omega), Option.bind_some]
        congr 1
        omega

/-- A number has no zero in front but the number zero. -/
theorem eq_zero_of_head?_ofNat {n : ℕ} (h : (Text.ofNat n).head? = some '0') : n = 0 := by
  have hdigit : ∀ d < 10, Nat.digitChar d = '0' → d = 0 := by decide
  induction n using Nat.strongRecOn with
  | ind n ih =>
      by_cases hsmall : n < 10
      · have htext : Text.ofNat n = [Nat.digitChar n] := Nat.toDigits_of_lt_base hsmall
        rw [htext] at h
        exact hdigit n hsmall (Option.some.inj h)
      · have htext : Text.ofNat n = Text.ofNat (n / 10) ++ [Nat.digitChar (n % 10)] :=
          Nat.toDigits_of_base_le (by decide) (by omega)
        have hne : Text.ofNat (n / 10) ≠ [] := Nat.toDigits_ne_nil
        rw [htext, List.head?_append_of_ne_nil _ hne] at h
        have hzero := ih (n / 10) (by omega) h
        omega

theorem readDigits_ofNat (n : ℕ) (hrest : ∀ c ∈ rest.head?, c.isDigit = false) :
    readDigits (Text.ofNat n ++ rest) = some (n, (Text.ofNat n).length, rest) := by
  have hdigits : ∀ c ∈ Text.ofNat n, c.isDigit = true := fun c hc =>
    Nat.isDigit_of_mem_toDigits (by decide) (by decide) hc
  have hne : Text.ofNat n ≠ [] := Nat.toDigits_ne_nil
  have htake : (Text.ofNat n ++ rest).takeWhile Char.isDigit = Text.ofNat n := by
    rw [List.takeWhile_append_of_pos hdigits]
    cases rest with
    | nil => simp
    | cons c rest => simp [hrest c rfl]
  have hdrop : (Text.ofNat n ++ rest).dropWhile Char.isDigit = rest := by
    rw [List.dropWhile_append_of_pos hdigits]
    cases rest with
    | nil => rfl
    | cons c rest => exact List.dropWhile_cons_of_neg (by simp [hrest c rfl])
  simp only [readDigits, htake, hdrop, if_neg hne, decimalAux_ofNat, Option.map_some]

theorem readUnsigned_ofNat (n : ℕ) (hrest : rest.head? = some ',' ∨ rest.head? = some '}') :
    readUnsigned (Text.ofNat n ++ rest) = some (n, 0, rest) := by
  have hne : Text.ofNat n ≠ [] := Nat.toDigits_ne_nil
  have hdigits : readDigits (Text.ofNat n ++ rest) = some (n, (Text.ofNat n).length, rest) := by
    apply readDigits_ofNat
    rcases hrest with hrest | hrest <;> rw [hrest] <;> simp
  have hzero : ¬ ((Text.ofNat n ++ rest).head? = some '0' ∧ (Text.ofNat n).length ≠ 1) := by
    rw [List.head?_append_of_ne_nil _ hne]
    rintro ⟨hhead, hlong⟩
    obtain rfl := eq_zero_of_head?_ofNat hhead
    exact hlong rfl
  have hfraction : readFraction rest = some (0, 0, rest) := by
    cases rest with
    | nil => rfl
    | cons c rest => rcases hrest with hrest | hrest <;> cases hrest <;> rfl
  have hexponent : readExponent rest = some (0, rest) := by
    cases rest with
    | nil => rfl
    | cons c rest => rcases hrest with hrest | hrest <;> cases hrest <;> rfl
  simp only [readUnsigned, hdigits, Option.bind_eq_bind, Option.bind_some, if_neg hzero, hfraction,
    hexponent]
  simp

theorem readScalar_of_ne (hn : c ≠ 'n') (ht : c ≠ 't') (hf : c ≠ 'f') (s : List Char) :
    readScalar (c :: s) = readNumber (c :: s) := by
  simp [readScalar, Text.stripPrefix, List.isPrefixOf, hn.symm, ht.symm, hf.symm]

theorem reads_num (n : ℕ) : Reads (Text.ofNat n) (.num n 0) := by
  intro fuel rest hrest
  have hread := readUnsigned_ofNat n hrest
  cases htext : Text.ofNat n with
  | nil => exact absurd htext Nat.toDigits_ne_nil
  | cons c s =>
      have hc : c.isDigit = true :=
        Nat.isDigit_of_mem_toDigits (by decide) (by decide) (htext ▸ List.mem_cons_self)
      have hne : ∀ d : Char, d.isDigit = false → c ≠ d := by
        rintro d hd rfl
        rw [hd] at hc
        cases hc
      have hskip : skipSpace (c :: (s ++ rest)) = c :: (s ++ rest) := by
        refine skipSpace_cons ?_ _
        simp [hne ' ' (by decide), hne '\t' (by decide), hne '\n' (by decide),
          hne '\r' (by decide)]
      have hexpect : ∀ d : Char, d.isDigit = false → expect d (c :: (s ++ rest)) = none :=
        fun d hd => (expect_cons hskip d).trans (if_neg (hne d hd))
      have hnumber : readNumber (c :: (s ++ rest)) = some (.num n 0, rest) := by
        rw [htext, List.cons_append] at hread
        rw [readNumber.eq_def]
        split
        · rename_i hminus
          exact absurd (List.cons.inj hminus).1 (hne '-' (by decide))
        · rw [hread]
          rfl
      rw [List.cons_append, readValue, hexpect '{' (by decide), hexpect '[' (by decide),
        hexpect '"' (by decide), hskip, ← hnumber]
      exact readScalar_of_ne (hne 'n' (by decide)) (hne 't' (by decide)) (hne 'f' (by decide)) _

/-! ## Objects -/

theorem expect_self (h : (c == ' ' || c == '\t' || c == '\n' || c == '\r') = false)
    (rest : List Char) : expect c (c :: rest) = some rest :=
  (expect_cons (skipSpace_cons h rest) c).trans (if_pos rfl)

theorem readValue_object (fuel : ℕ) (s : List Char) :
    readValue (fuel + 1) ('{' :: '"' :: s) =
      (readMembers fuel ('"' :: s)).map fun members => (.obj members.1, members.2) := by
  have hclose : expect '}' ('"' :: s) = none :=
    expect_cons (skipSpace_cons (by decide) s) '}'
  simp only [readValue, expect_self (c := '{') (by decide), hclose]

variable {text : List Char} {v : Json}

theorem readMembers_last (hname : ∀ c ∈ name, isPlain c = true) (hvalue : Reads text v)
    (fuel : ℕ) (rest : List Char) :
    readMembers (fuel + 2) ('"' :: name ++ '"' :: ':' :: text ++ '}' :: rest) =
      some ([(name, v)], rest) := by
  have hread := readString_of_isPlain hname (':' :: (text ++ '}' :: rest))
  have hvalue := hvalue fuel ('}' :: rest) (.inr rfl)
  simp only [List.cons_append, List.append_assoc, readMembers, expect_self (c := '"') (by decide),
    Option.bind_some, hread, expect_self (c := ':') (by decide), hvalue,
    expect_self (c := '}') (by decide)]

theorem readMembers_more (hname : ∀ c ∈ name, isPlain c = true) (hvalue : Reads text v)
    (fuel : ℕ) (more : List Char) :
    readMembers (fuel + 2) ('"' :: name ++ '"' :: ':' :: text ++ ',' :: more) =
      (readMembers (fuel + 1) more).map fun members => ((name, v) :: members.1, members.2) := by
  have hread := readString_of_isPlain hname (':' :: (text ++ ',' :: more))
  have hvalue := hvalue fuel (',' :: more) (.inl rfl)
  have hclose : expect '}' (',' :: more) = none :=
    expect_cons (skipSpace_cons (by decide) more) '}'
  simp only [List.cons_append, List.append_assoc, readMembers, expect_self (c := '"') (by decide),
    Option.bind_some, hread, expect_self (c := ':') (by decide), hvalue, hclose,
    expect_self (c := ',') (by decide)]

theorem parse_object {s : List Char} {members : List (List Char × Json)} (hs : s ≠ [])
    (h : ∀ fuel, readMembers (fuel + 3) ('"' :: s) = some (members, [])) :
    parse ('{' :: '"' :: s) = some (.obj members) := by
  cases s with
  | nil => exact absurd rfl hs
  | cons c s =>
      rw [parse, List.length_cons, List.length_cons, List.length_cons, readValue_object, h]
      rfl

/-- An object of one member. -/
theorem parse_member (hname : ∀ c ∈ name, isPlain c = true) (hvalue : Reads text v) :
    parse ('{' :: '"' :: (name ++ '"' :: ':' :: text ++ ['}'])) = some (.obj [(name, v)]) :=
  parse_object (by simp) fun fuel => readMembers_last hname hvalue (fuel + 1) []

theorem field_pair_second (name name' : List Char) (v v' : Json) :
    (Json.obj [(name, v), (name', v')]).field name' = some v' := by
  simp [field]

theorem field_pair_first {name name' : List Char} (hne : name' ≠ name) (v v' : Json) :
    (Json.obj [(name, v), (name', v')]).field name = some v := by
  simp [field, hne]

theorem parse_two_members {name' text' : List Char} {v' : Json}
    (hname : ∀ c ∈ name, isPlain c = true) (hvalue : Reads text v)
    (hname' : ∀ c ∈ name', isPlain c = true) (hvalue' : Reads text' v') :
    parse ('{' :: '"' :: (name ++ '"' :: ':' :: text ++
        ',' :: ('"' :: name' ++ '"' :: ':' :: text' ++ ['}']))) =
      some (.obj [(name, v), (name', v')]) := by
  refine parse_object (by simp) fun fuel => ?_
  exact (readMembers_more hname hvalue (fuel + 1) _).trans
    (congrArg (Option.map _) (readMembers_last hname' hvalue' fuel []))

/-! ## What is no value -/

theorem readValue_of_isUpper (hc : c.isUpper = true) (fuel : ℕ) (s : List Char) :
    readValue fuel (c :: s) = none := by
  cases fuel with
  | zero => rfl
  | succ fuel =>
      have hne : ∀ d : Char, d.isUpper = false → c ≠ d := by
        rintro d hd rfl
        rw [hd] at hc
        cases hc
      have hdigit : c.isDigit = false := by
        have hlow : 65 ≤ c.toNat := (of_decide_eq_true hc).1
        refine Bool.eq_false_iff.mpr fun h => ?_
        rw [Char.isDigit, Bool.and_eq_true, decide_eq_true_iff, decide_eq_true_iff] at h
        have hhigh : c.toNat ≤ 57 := h.2
        omega
      have hskip : skipSpace (c :: s) = c :: s := by
        refine skipSpace_cons ?_ _
        simp [hne ' ' (by decide), hne '\t' (by decide), hne '\n' (by decide),
          hne '\r' (by decide)]
      have hexpect : ∀ d : Char, d.isUpper = false → expect d (c :: s) = none :=
        fun d hd => (expect_cons hskip d).trans (if_neg (hne d hd))
      have hnumber : readNumber (c :: s) = none := by
        rw [readNumber.eq_def]
        split
        · rename_i hminus
          exact absurd (List.cons.inj hminus).1 (hne '-' (by decide))
        · simp [readUnsigned, readDigits, hdigit]
      rw [readValue, hexpect '{' (by decide), hexpect '[' (by decide), hexpect '"' (by decide),
        hskip, ← hnumber]
      exact readScalar_of_ne (hne 'n' (by decide)) (hne 't' (by decide)) (hne 'f' (by decide)) _

/-- An object whose first value is none. -/
theorem parse_of_isUpper (hname : ∀ c ∈ name, isPlain c = true) (hc : c.isUpper = true)
    (s : List Char) : parse ('{' :: '"' :: (name ++ '"' :: ':' :: c :: s)) = none := by
  have hread := readString_of_isPlain hname (':' :: c :: s)
  have hmembers : ∀ fuel, readMembers fuel ('"' :: (name ++ '"' :: ':' :: c :: s)) = none := by
    intro fuel
    cases fuel with
    | zero => rfl
    | succ fuel =>
        simp only [readMembers, expect_self (c := '"') (by decide), Option.bind_some, hread,
          expect_self (c := ':') (by decide), readValue_of_isUpper hc, Option.bind_none]
  rw [parse, List.length_cons, readValue_object, hmembers]
  rfl

end Json

end VpnHub
