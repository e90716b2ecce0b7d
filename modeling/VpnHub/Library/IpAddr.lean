import VpnHub.Library.Text

/-! # IP addresses

Addresses and their textual form, as `std::net` reads it. -/

namespace VpnHub

structure Ipv4Addr where
  a : UInt8
  b : UInt8
  c : UInt8
  d : UInt8
  deriving DecidableEq, Repr

structure Ipv6Addr where
  segments : List UInt16
  length_eq : segments.length = 8

instance : DecidableEq Ipv6Addr := fun x y =>
  decidable_of_iff (x.segments = y.segments) (by cases x; cases y; simp)

inductive IpAddr where
  | v4 (addr : Ipv4Addr)
  | v6 (addr : Ipv6Addr)
  deriving DecidableEq

namespace IpAddr

open Text (Reader)

def hexDigit? (c : Char) : Option ℕ :=
  if '0' ≤ c ∧ c ≤ '9' then some (c.toNat - '0'.toNat)
  else if 'a' ≤ c ∧ c ≤ 'f' then some (c.toNat - 'a'.toNat + 10)
  else if 'A' ≤ c ∧ c ≤ 'F' then some (c.toNat - 'A'.toNat + 10)
  else none

def radixDigit? (radix : ℕ) (c : Char) : Option ℕ := (hexDigit? c).filter (· < radix)

/-- The value and number of the leading digits. -/
def leadingDigits (radix : ℕ) : ℕ → ℕ → List Char → ℕ × ℕ × List Char
  | value, count, [] => (value, count, [])
  | value, count, c :: rest =>
    match radixDigit? radix c with
    | some d => leadingDigits radix (value * radix + d) (count + 1) rest
    | none => (value, count, c :: rest)

/-- `read_number`: all leading digits, at least one and at most `maxDigits` of them, the value
at most `max`, and no leading zero unless allowed. -/
def readNumber (radix maxDigits max : ℕ) (allowZeroPrefix : Bool) : Reader ℕ := fun s =>
  let (value, count, rest) := leadingDigits radix 0 0 s
  if count = 0 ∨ count > maxDigits ∨ value > max then none
  else if !allowZeroPrefix && s.head? == some '0' && count > 1 then none
  else some (value, rest)

def readGivenChar (c : Char) : Reader Unit
  | d :: rest => if d = c then some ((), rest) else none
  | [] => none

/-- `read_separator`: from the second item on, the separator comes first. -/
def readSeparated {α : Type} (sep : Char) (index : ℕ) (inner : Reader α) : Reader α := fun s =>
  if index > 0 then (readGivenChar sep s).bind fun (_, s) => inner s else inner s

def readIpv4 : Reader Ipv4Addr := fun s => do
  let octet (i : ℕ) := readSeparated '.' i (readNumber 10 3 255 false)
  let (a, s) ← octet 0 s
  let (b, s) ← octet 1 s
  let (c, s) ← octet 2 s
  let (d, s) ← octet 3 s
  return (⟨.ofNat a, .ofNat b, .ofNat c, .ofNat d⟩, s)

/-- Colon-separated groups, at most `limit` from index `i` on, with an optional trailing
IPv4 address; tells whether one was read. -/
def readGroups : ℕ → ℕ → List Char → List UInt16 × Bool × List Char
  | 0, _, s => ([], false, s)
  | limit + 1, i, s =>
    match (if limit > 0 then readSeparated ':' i readIpv4 s else none) with
    | some (addr, s) =>
      ([addr.a.toUInt16 * 256 + addr.b.toUInt16, addr.c.toUInt16 * 256 + addr.d.toUInt16], true, s)
    | none =>
      match readSeparated ':' i (readNumber 16 4 0xFFFF true) s with
      | some (group, s) =>
        let (groups, trailing, s) := readGroups limit (i + 1) s
        (.ofNat group :: groups, trailing, s)
      | none => ([], false, s)

def readIpv6 : Reader Ipv6Addr := fun s =>
  let (head, headV4, s) := readGroups 8 0 s
  if h : head.length = 8 then some (⟨head, h⟩, s)
  else if headV4 then none
  else do
    let (_, s) ← readGivenChar ':' s
    let (_, s) ← readGivenChar ':' s
    let (tail, _, s) := readGroups (8 - (head.length + 1)) 0 s
    -- the gap marked by the double colon is filled with zeros
    let segments := head ++ List.replicate (8 - head.length - tail.length) 0 ++ tail
    if h : segments.length = 8 then some (⟨segments, h⟩, s) else none

/-- A reader has to take the whole text. -/
def parseWith {α : Type} (reader : Reader α) (s : List Char) : Option α :=
  match reader s with
  | some (x, []) => some x
  | _ => none

def parseIpv4 (s : List Char) : Option Ipv4Addr :=
  if s.length > 15 then none else parseWith readIpv4 s

def parseIpv6 (s : List Char) : Option Ipv6Addr := parseWith readIpv6 s

def parse (s : List Char) : Option IpAddr :=
  parseWith (fun s =>
    match readIpv4 s with
    | some (addr, s) => some (.v4 addr, s)
    | none => (readIpv6 s).map fun (addr, s) => (.v6 addr, s)) s

/-! ## Printing -/

/-- The run of zeros to leave out: its start and length, the first of the longest ones. -/
def longestZeros : ℕ → ℕ × ℕ → ℕ × ℕ → List UInt16 → ℕ × ℕ
  | _, longest, _, [] => longest
  | i, longest, (start, len), segment :: rest =>
    if segment = 0 then
      let current := if len = 0 then (i, 1) else (start, len + 1)
      longestZeros (i + 1) (if current.2 > longest.2 then current else longest) current rest
    else longestZeros (i + 1) longest (0, 0) rest

def groupsText (segments : List UInt16) : List Char :=
  Text.join (segments.map fun s => Nat.toDigits 16 s.toNat) [':']

end IpAddr

namespace Ipv4Addr

/-- `u32::from`. -/
def toNat (addr : Ipv4Addr) : ℕ :=
  ((addr.a.toNat * 256 + addr.b.toNat) * 256 + addr.c.toNat) * 256 + addr.d.toNat

/-- `Ipv4Addr::from` for a number below `2 ^ 32`. -/
def ofNat (n : ℕ) : Ipv4Addr :=
  ⟨.ofNat (n / 256 ^ 3), .ofNat (n / 256 ^ 2), .ofNat (n / 256), .ofNat n⟩

def toText (addr : Ipv4Addr) : List Char :=
  Text.join ([addr.a, addr.b, addr.c, addr.d].map fun x => Text.ofNat x.toNat) ['.']

/-- `u32::from(mask).count_ones()`. -/
def countOnes (addr : Ipv4Addr) : ℕ := (List.range 32).countP addr.toNat.testBit

end Ipv4Addr

/-- The text of an address; an IPv4-mapped one ends in the IPv4 address. -/
def Ipv6Addr.toText (addr : Ipv6Addr) : List Char :=
  match addr.segments with
  | [0, 0, 0, 0, 0, 0xFFFF, ab, cd] =>
    "::ffff:".toList ++
      (Ipv4Addr.mk (.ofNat (ab.toNat / 256)) (.ofNat ab.toNat) (.ofNat (cd.toNat / 256))
        (.ofNat cd.toNat)).toText
  | segments =>
    let (start, len) := IpAddr.longestZeros 0 (0, 0) (0, 0) segments
    if len > 1 then
      IpAddr.groupsText (segments.take start) ++ "::".toList ++
        IpAddr.groupsText (segments.drop (start + len))
    else IpAddr.groupsText segments

def IpAddr.toText : IpAddr → List Char
  | .v4 addr => addr.toText
  | .v6 addr => addr.toText

namespace IpAddr

example : parseIpv4 "10.8.0.255".toList = some ⟨10, 8, 0, 255⟩ := by decide

example : parseIpv4 "10.08.0.1".toList = none := by decide

example : (parseIpv6 "fe80::1:1.2.3.4".toList).map (·.segments) =
    some [0xfe80, 0, 0, 0, 0, 1, 0x102, 0x304] := by decide

example : (parse "2001:db8:0:0:1::1".toList).map toText = some "2001:db8::1:0:0:1".toList := by
  decide +kernel

end IpAddr

end VpnHub
