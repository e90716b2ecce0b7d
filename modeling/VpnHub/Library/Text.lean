import Mathlib.Data.List.Basic
import Mathlib.Data.UInt

/-! # Operations on text

The operations of Rust's `str` on sequences of characters, each structurally recursive. -/

namespace VpnHub.Text

/-! ## White space -/

/-- `char::is_whitespace`: the Unicode property White_Space. -/
def isWhitespace (c : Char) : Bool :=
  let n := c.toNat
  (9 ≤ n && n ≤ 13) || n == 0x20 || n == 0x85 || n == 0xA0 || n == 0x1680 ||
    (0x2000 ≤ n && n ≤ 0x200A) || n == 0x2028 || n == 0x2029 || n == 0x202F || n == 0x205F ||
    n == 0x3000

def trimStartMatches (p : Char → Bool) (s : List Char) : List Char := s.dropWhile p

def trimEndMatches (p : Char → Bool) (s : List Char) : List Char :=
  (s.reverse.dropWhile p).reverse

def trimMatches (p : Char → Bool) (s : List Char) : List Char :=
  trimEndMatches p (trimStartMatches p s)

def trimStart (s : List Char) : List Char := trimStartMatches isWhitespace s
def trim (s : List Char) : List Char := trimMatches isWhitespace s

/-! ## Searching and splitting -/

def startsWith (s front : List Char) : Bool := front.isPrefixOf s
def endsWith (s back : List Char) : Bool := back.isSuffixOf s

def stripPrefix (s front : List Char) : Option (List Char) :=
  if front.isPrefixOf s then some (s.drop front.length) else none

/-- Whether `pattern` occurs somewhere in `s`. -/
def contains (s pattern : List Char) : Bool := s.tails.any (pattern.isPrefixOf ·)

/-- `s.split(pattern)`. `skip` counts the characters of an occurrence still to be passed
over, and `acc` holds the current part in reverse. -/
def splitAux (pattern : List Char) : ℕ → List Char → List Char → List (List Char)
  | _, acc, [] => [acc.reverse]
  | skip + 1, acc, _ :: rest => splitAux pattern skip acc rest
  | 0, acc, c :: rest =>
    if pattern.isPrefixOf (c :: rest) then
      acc.reverse :: splitAux pattern (pattern.length - 1) [] rest
    else splitAux pattern 0 (c :: acc) rest

def split (s pattern : List Char) : List (List Char) := splitAux pattern 0 [] s

def splitCharAux (sep : Char) : List Char → List Char → List (List Char)
  | acc, [] => [acc.reverse]
  | acc, c :: rest =>
    if c = sep then acc.reverse :: splitCharAux sep [] rest else splitCharAux sep (c :: acc) rest

def splitChar (s : List Char) (sep : Char) : List (List Char) := splitCharAux sep [] s

/-- `s.splitn(n, sep)`: the last of at most `n` parts is the rest of the text. -/
def splitNAux (sep : Char) : ℕ → List Char → List Char → List (List Char)
  | 0, _, _ => []
  | 1, acc, rest => [acc.reverse ++ rest]
  | _ + 2, acc, [] => [acc.reverse]
  | n + 2, acc, c :: rest =>
    if c = sep then acc.reverse :: splitNAux sep (n + 1) [] rest
    else splitNAux sep (n + 2) (c :: acc) rest

def splitN (s : List Char) (n : ℕ) (sep : Char) : List (List Char) := splitNAux sep n [] s

/-- `s.split_once(sep)`. -/
def splitOnce (s : List Char) (sep : Char) : Option (List Char × List Char) :=
  match splitN s 2 sep with
  | [front, back] => some (front, back)
  | _ => none

def splitWhitespaceAux : List Char → List Char → List (List Char)
  | acc, [] => [acc.reverse]
  | acc, c :: rest =>
    if isWhitespace c then acc.reverse :: splitWhitespaceAux [] rest
    else splitWhitespaceAux (c :: acc) rest

def splitWhitespace (s : List Char) : List (List Char) :=
  (splitWhitespaceAux [] s).filter (· ≠ [])

/-- `str::lines`: a line ends at a line feed, which takes a carriage return right before it
along; text after the last line feed is a line of its own. -/
def linesAux : List Char → List Char → List (List Char)
  | [], [] => []
  | acc, [] => [acc.reverse]
  | acc, c :: rest =>
    if c = '\n' then
      (match acc with
        | '\r' :: acc => acc.reverse
        | acc => acc.reverse) :: linesAux [] rest
    else linesAux (c :: acc) rest

def lines (s : List Char) : List (List Char) := linesAux [] s

def join (parts : List (List Char)) (sep : List Char) : List Char := sep.intercalate parts

/-- A reader takes a value off the front of a text. -/
abbrev Reader (α : Type) := List Char → Option (α × List Char)

/-! ## ASCII case -/

def toAsciiLowercase (s : List Char) : List Char := s.map Char.toLower
def toAsciiUppercase (s : List Char) : List Char := s.map Char.toUpper

def eqIgnoreAsciiCase (s t : List Char) : Bool := toAsciiLowercase s == toAsciiLowercase t

/-! ## Numbers -/

def digit? (c : Char) : Option ℕ :=
  if '0' ≤ c ∧ c ≤ '9' then some (c.toNat - '0'.toNat) else none

def decimalAux : ℕ → List Char → Option ℕ
  | n, [] => some n
  | n, c :: rest => (digit? c).bind fun d => decimalAux (n * 10 + d) rest

/-- `str::parse` for an unsigned type with maximum `max`: an optional plus sign and one or
more decimal digits. -/
def parseUnsigned (max : ℕ) (s : List Char) : Option ℕ :=
  let digits := (stripPrefix s ['+']).getD s
  if digits = [] then none
  else (decimalAux 0 digits).filter (· ≤ max)

def parseU8 (s : List Char) : Option UInt8 := (parseUnsigned (2 ^ 8 - 1) s).map UInt8.ofNat
def parseU16 (s : List Char) : Option UInt16 := (parseUnsigned (2 ^ 16 - 1) s).map UInt16.ofNat
def parseU32 (s : List Char) : Option UInt32 := (parseUnsigned (2 ^ 32 - 1) s).map UInt32.ofNat
def parseU64 (s : List Char) : Option UInt64 := (parseUnsigned (2 ^ 64 - 1) s).map UInt64.ofNat

/-- The decimal text of a number. -/
def ofNat (n : ℕ) : List Char := Nat.toDigits 10 n

/-! ## UTF-8 -/

def utf8Encode (s : List Char) : List UInt8 := s.flatMap String.utf8EncodeChar

def replacement : Char := Char.ofNat 0xFFFD

/-- The bytes allowed as second byte after a given lead byte of a longer sequence. -/
def secondRange (b0 : ℕ) : ℕ × ℕ :=
  if b0 = 0xE0 then (0xA0, 0xBF)
  else if b0 = 0xED then (0x80, 0x9F)
  else if b0 = 0xF0 then (0x90, 0xBF)
  else if b0 = 0xF4 then (0x80, 0x8F)
  else (0x80, 0xBF)

def continues (lo hi : ℕ) : List UInt8 → Option ℕ
  | [] => none
  | b :: _ => if lo ≤ b.toNat ∧ b.toNat ≤ hi then some (b.toNat % 64) else none

/-- The next character of a byte sequence and the number of bytes it takes. An invalid
sequence becomes one replacement character for its longest valid beginning. -/
def decodeChar (b0 : UInt8) (rest : List UInt8) : Char × ℕ :=
  let n0 := b0.toNat
  let (lo, hi) := secondRange n0
  if n0 < 0x80 then (Char.ofNat n0, 1)
  else if 0xC2 ≤ n0 ∧ n0 ≤ 0xDF then
    match continues lo hi rest with
    | none => (replacement, 1)
    | some d1 => (Char.ofNat (n0 % 32 * 64 + d1), 2)
  else if 0xE0 ≤ n0 ∧ n0 ≤ 0xEF then
    match continues lo hi rest with
    | none => (replacement, 1)
    | some d1 =>
      match continues 0x80 0xBF (rest.drop 1) with
      | none => (replacement, 2)
      | some d2 => (Char.ofNat ((n0 % 16 * 64 + d1) * 64 + d2), 3)
  else if 0xF0 ≤ n0 ∧ n0 ≤ 0xF4 then
    match continues lo hi rest with
    | none => (replacement, 1)
    | some d1 =>
      match continues 0x80 0xBF (rest.drop 1) with
      | none => (replacement, 2)
      | some d2 =>
        match continues 0x80 0xBF (rest.drop 2) with
        | none => (replacement, 3)
        | some d3 => (Char.ofNat (((n0 % 8 * 64 + d1) * 64 + d2) * 64 + d3), 4)
  else (replacement, 1)

/-- `String::from_utf8_lossy`; `skip` counts bytes that belong to the last character. -/
def fromUtf8LossyAux : ℕ → List UInt8 → List Char
  | _, [] => []
  | skip + 1, _ :: rest => fromUtf8LossyAux skip rest
  | 0, b :: rest => (decodeChar b rest).1 :: fromUtf8LossyAux ((decodeChar b rest).2 - 1) rest

def fromUtf8Lossy (bytes : List UInt8) : List Char := fromUtf8LossyAux 0 bytes

example : fromUtf8Lossy (utf8Encode "PUSH é漢😀".toList) = "PUSH é漢😀".toList := by decide

example : lines "a\r\nb\n\nc\r".toList = ["a".toList, "b".toList, [], "c\r".toList] := by decide

example : split ",a,PUSHb".toList "PUSH".toList = [",a,".toList, "b".toList] := by decide

end VpnHub.Text
