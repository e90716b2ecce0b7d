import VpnHub.Model.TextCodes
import VpnHub.Library.BigEndian
import VpnHub.Library.Text

/-! # One-time passwords of RFC 4226 and RFC 6238 -/

namespace VpnHub.Rfc6238

open BigEndian

/-- Section 5.3 of RFC 4226: 31 bits of the 20 bytes, from the offset that the last four
name. -/
def dynamicTruncation (hs : List UInt8) : ℕ :=
  ofBE ((hs.drop ((hs.getLastD 0).toNat % 16)).take 4) % 2 ^ 31

/-- The value of the code of a key for a counter. -/
def hotp (hmacSha1 : List UInt8 → List UInt8 → List UInt8) (key : List UInt8)
    (counter digits : ℕ) : ℕ :=
  dynamicTruncation (hmacSha1 key (toBE 8 counter)) % 10 ^ digits

/-- The `digits` low decimal digits of a number, the highest first. -/
def decimal : ℕ → ℕ → List Char
  | 0, _ => []
  | digits + 1, n => decimal digits (n / 10) ++ [Nat.digitChar (n % 10)]

/-- The code of a time step. -/
def totp (hmacSha1 : List UInt8 → List UInt8 → List UInt8) (key : List UInt8)
    (timeStep digits : ℕ) : List Char :=
  decimal digits (hotp hmacSha1 key timeStep digits)

end VpnHub.Rfc6238
