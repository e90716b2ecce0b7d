import VpnHub.Library.BitGroups

/-! # The text codes of RFC 4648 that the sources write and read -/

namespace VpnHub

open BitGroups

/-- Section 4. -/
def base64 : TextCode where
  alphabet := "ABCDEFGHIJKLMNOPQRSTUVWXYZabcdefghijklmnopqrstuvwxyz0123456789+/".toList
  width := 6
  width_pos := by decide
  width_le := by decide
  length_alphabet := by decide
  nodup := by decide
  pad_notMem := by decide

/-- Section 6. -/
def base32 : TextCode where
  alphabet := "ABCDEFGHIJKLMNOPQRSTUVWXYZ234567".toList
  width := 5
  width_pos := by decide
  width_le := by decide
  length_alphabet := by decide
  nodup := by decide
  pad_notMem := by decide

/-- Section 8. -/
def base16 : TextCode where
  alphabet := "0123456789ABCDEF".toList
  width := 4
  width_pos := by decide
  width_le := by decide
  length_alphabet := by decide
  nodup := by decide
  pad_notMem := by decide

-- The examples of section 10.
example : base64.encode [0x66, 0x6F, 0x6F, 0x62] = "Zm9vYg==".toList := by decide
example : base32.encode [0x66, 0x6F, 0x6F, 0x62] = "MZXW6YQ=".toList := by decide
example : base16.encode [0x66, 0x6F, 0x6F, 0x62] = "666F6F62".toList := by decide

end VpnHub
