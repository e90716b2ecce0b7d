import VpnHub.Library.BigEndian
import VpnHub.Library.Ecma
import VpnHub.Program.Errors

/-! The one-time passwords of `packages/app/src/utils/totp.ts`. -/

namespace VpnHub.App

/-- What the generator takes from the runtime: the case mapping, and HMAC-SHA-1 by key and
message, which Web Crypto may refuse. -/
structure TotpRuntime where
  cases : Ecma.CaseMapping
  sign : Bytes → Bytes → Option Bytes

namespace TotpGenerator

/-! ## Base32 -/

def alphabet : Text := "ABCDEFGHIJKLMNOPQRSTUVWXYZ234567".toList

/-- The variables of the loop. `value` is a 32-bit integer that is never masked. -/
structure DecodeState where
  bits : ℕ := 0
  value : BitVec 32 := 0
  output : Bytes := []
  deriving DecidableEq, Repr

def DecodeState.push (s : DecodeState) (idx : ℕ) : DecodeState :=
  let value := (s.value <<< 5) ||| BitVec.ofNat 32 idx
  let bits := s.bits + 5
  if 8 ≤ bits then
    { bits := bits - 8
      value := value
      output := s.output ++ [UInt8.ofNat ((value >>> (bits - 8)) &&& 255).toNat] }
  else { s with bits := bits, value := value }

/-- A character outside the alphabet is passed over. -/
def DecodeState.next (s : DecodeState) (c : Char) : DecodeState :=
  if c ∈ alphabet then s.push (alphabet.idxOf c) else s

def cleanBase32 (cases : Ecma.CaseMapping) (base32 : Text) : Text :=
  Text.trimEndMatches (· == '=')
    ((cases.toUpperCase base32).filter fun c => !(Ecma.isSpace c || c == '-'))

def base32ToBytes (cases : Ecma.CaseMapping) (base32 : Text) : Bytes :=
  ((cleanBase32 cases base32).foldl DecodeState.next {}).output

example : base32ToBytes .ascii "mzxw-6y q=".toList = [0x66, 0x6F, 0x6F, 0x62] := by decide

/-! ## Codes -/

def defaultDigits : ℕ := 6
def defaultPeriodSeconds : Ecma.Number := some 30

/-- The counter of a time, in milliseconds, for a period in seconds. -/
def counterOf (timestampMs periodSeconds : Ecma.Number) : Ecma.Number :=
  Ecma.floor (Ecma.div (Ecma.floor (Ecma.div timestampMs (some 1000))) periodSeconds)

/-- `setUint32(4, counter, false)` in eight bytes of zeros. -/
def counterBuffer (counter : Ecma.Number) : Bytes :=
  List.replicate 4 0 ++ BigEndian.toBE 4 (Ecma.toUint32 counter).toNat

/-- A byte of the signature, masked and shifted as a 32-bit integer. -/
def shifted (hmacResult : Bytes) (i : ℕ) (mask : UInt8) (shift : ℕ) : BitVec 32 :=
  BitVec.ofNat 32 (hmacResult.getD i 0 &&& mask).toNat <<< shift

/-- The dynamic truncation of RFC 4226. -/
def binaryCode (hmacResult : Bytes) : ℤ :=
  let offset := (hmacResult.getLastD 0 &&& 0x0f).toNat
  (shifted hmacResult offset 0x7f 24 ||| shifted hmacResult (offset + 1) 0xff 16 |||
    shifted hmacResult (offset + 2) 0xff 8 ||| shifted hmacResult (offset + 3) 0xff 0).toInt

def generateCode (rt : TotpRuntime) (secret : Text) (timestampMs : Ecma.Number) (digits : ℕ)
    (periodSeconds : Ecma.Number) : Text :=
  if Ecma.trim secret = [] then []
  else
    let keyBytes := base32ToBytes rt.cases secret
    if keyBytes = [] then []
    else
      let counter := counterOf timestampMs periodSeconds
      match rt.sign keyBytes (counterBuffer counter) with
      | some hmacResult =>
        Ecma.padStart (Ecma.ofInt ((binaryCode hmacResult).tmod (10 ^ digits))) digits '0'
      | none => []

end TotpGenerator

end VpnHub.App
